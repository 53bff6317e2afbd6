import Csqtt.EngineState
import Mathlib.Data.List.MinMax

/-!
# The protocol engine of one shard

Datagrams, commands and clock ticks, each as a function on the work of a call. A
datagram from an unknown endpoint may open a session; the session stays if its device
belongs to this shard and is handed to the router otherwise. The router delivers it
as a command to the shard that adopts it.

A call that indexes the slab outside of its occupied slots would abort the thread; it
leaves the work unchanged here. Left out: the duplicate of an urgent packet, the
stream repair of a tick, and the queues in which packets from the tunnel wait. None of
them adds, removes or moves a session or touches an index or a route.
-/

namespace Csqtt.Engine

open ControlText Routes RtpWire ServerObfs ServerReplay

namespace Work

/-- Put a message into its queue, or drop it. -/
def send (work : Work) (outside : Outside) (effect : Effect) : Work :=
  if outside.accepts effect then { work with effects := work.effects ++ [effect] } else work

def bindEndpoint (work : Work) (outside : Outside) (endpoint : EndpointKey) : Work :=
  work.send outside (.router (.bindEndpoint endpoint work.engine.shardIndex))

def bindTunnel (work : Work) (outside : Outside) (ip : Ipv4) : Work :=
  work.send outside (.router (.bindTunnel ip work.engine.shardIndex))

def publishCreatedSession (work : Work) (outside : Outside) (session : HotSession)
    (payload : List UInt8) : Work :=
  (work.send outside (.control (.sessionCreated session.id))).send outside
    (.control (.payload session.peer session.id payload))

/-- Write to the public record of a session. -/
def note (work : Work) (sessionId : Nat) (write : RecordWrite) : Work :=
  { work with effects := work.effects ++ [.record sessionId write] }

/-- Report the bytes of a session. -/
def publishCounters (work : Work) (session : HotSession) : Work :=
  work.note session.id (.counters session.unreported.1 session.unreported.2)

/-- Replace the three tables. -/
def withTables (work : Work) (tables : SessionTables) : Work :=
  { work with engine := { work.engine with tables := tables } }

def withRoutes (work : Work) (routes : RouteTable) : Work :=
  { work with engine := { work.engine with routes := routes } }

/-- Write a session back to its slot. -/
def store (work : Work) (slot : Nat) (session : HotSession) : Work :=
  work.withTables (work.engine.tables.store slot session)

/-- The slot the next session gets. -/
def freeSlot (work : Work) (outside : Outside) : Nat :=
  outside.slots.choose work.engine.tables.sessions

/-- Insert a session into the slab and into both indexes. -/
def enterSession (work : Work) (outside : Outside) (session : HotSession) : Work :=
  work.withTables (work.engine.tables.enter (work.freeSlot outside) session)

/-- Set the number of paths of an address's downlink queue. -/
def syncDownlinkProfile (work : Work) (ip : Ipv4) : Work :=
  match routeIndex ip with
  | none => work
  | some index =>
    { work with
      effects := work.effects ++ [.downlink index (work.engine.routes.activePathCount index)] }

/-- The youngest other session of the same stream. -/
def fallback (work : Work) (outside : Outside) (session : HotSession) (ip : Ipv4) :
    Option (Sigma fun _ : Nat => HotSession) :=
  let sameStream := work.engine.tables.sessions.entries.filter fun entry =>
    entry.2.tunnelIp == some ip && entry.2.registrationId.isSome &&
      decide (entry.2.epoch = session.epoch) &&
      outside.workerId entry.2.id == outside.workerId session.id
  sameStream.argmax fun entry => entry.2.id

/-- Drop the route of a removed session. If it was in use, a session of the same
stream takes it over. -/
def dropRoute (work : Work) (outside : Outside) (session : HotSession) : Work :=
  match session.route with
  | none => work
  | some (ip, registrationId) =>
    let (routes, removed) := work.engine.routes.unregister ip registrationId
    let workerId := outside.workerId session.id
    let work :=
      match work.fallback outside session ip with
      | none => work.withRoutes routes
      | some entry =>
        if removed && workerId < 65536 then
          (work.withRoutes (routes.register ip ⟨entry.2.id, entry.2.registrationId.getD 0,
            workerId.toUInt16, entry.1⟩).1).note entry.2.id (.tunnel true)
        else work.withRoutes routes
    work.syncDownlinkProfile ip

/-- Remove the session in a slot, if there is one. -/
def removeSlotWithReason (work : Work) (outside : Outside) (slot : Nat) (reason : String) : Work :=
  match work.engine.tables.sessions.lookup slot with
  | none => work
  | some session =>
    let work := work.withTables (work.engine.tables.leave slot session)
    let work := { work with engine := { work.engine with memoryCompactPending := true } }
    (((work.publishCounters session).dropRoute outside session).note session.id
      (.tunnel false)).send outside (.control (.sessionClosed session.peer session.id reason))

/-- Remove the session that has a key already. -/
def replacePeer (work : Work) (outside : Outside) (endpointKey : EndpointKey) : Work :=
  match work.engine.tables.byPeer.lookup endpointKey with
  | none => work
  | some oldSlot => work.removeSlotWithReason outside oldSlot "peer-replaced"

/-- Create a session in the place of one with the same key. The slot is the new
session's. -/
def createLegacySession (work : Work) (outside : Outside) (opening : Opening) : Work × Nat :=
  let work := work.replacePeer outside ⟨opening.peer, opening.localIp⟩
  let session :=
    HotSession.legacy work.nextId opening outside.counters work.engine.monotonicMs
  (({ work.enterSession outside session with nextId := work.nextId + 1 } : Work).note session.id
    (.opened session.password session.epoch), work.freeSlot outside)

/-- Insert a session that exists already, and announce it. -/
def settle (work : Work) (outside : Outside) (session : HotSession) (payload : List UInt8) : Work :=
  ((work.enterSession outside session).bindEndpoint outside session.key).publishCreatedSession
    outside session payload

/-- Note since when an endpoint is on its way to another shard, or forget it. -/
def markMigrating (work : Work) (endpointKey : EndpointKey) : Work :=
  { work with
    engine := { work.engine with
      migratingEndpoints :=
        work.engine.migratingEndpoints.insert endpointKey work.engine.monotonicMs } }

def unmarkMigrating (work : Work) (endpointKey : EndpointKey) : Work :=
  { work with
    engine := { work.engine with
      migratingEndpoints := work.engine.migratingEndpoints.erase endpointKey } }

/-- Keep a new session if its device belongs to this shard, or hand it over. A
session the router has no room for comes back. -/
def placeNewSession (work : Work) (outside : Outside) (slot : Nat) (payload : List UInt8) : Work :=
  match work.engine.tables.sessions.lookup slot with
  | none => work
  | some session =>
    let target := shardForDevice session.epoch.deviceId work.engine.shardCount
    if target = work.engine.shardIndex then
      (work.bindEndpoint outside session.key).publishCreatedSession outside session payload
    else
      let left := (work.withTables (work.engine.tables.leave slot session)).markMigrating session.key
      let handover := Effect.router (.migrate session.key target session payload)
      if outside.accepts handover then { left with effects := left.effects ++ [handover] }
      else (left.unmarkMigrating session.key).settle outside session payload

/-- Take over a session from another shard. -/
def adoptSession (work : Work) (outside : Outside) (session : HotSession)
    (initialPayload : List UInt8) : Work :=
  work.settle outside session initialPayload

/-- Whether datagrams of an endpoint wait for its session to arrive elsewhere. -/
def endpointIsMigrating (work : Work) (peer : SocketAddr) (localIp : Option IpAddr) : Bool :=
  (work.engine.migratingEndpoints.lookup ⟨peer, localIp⟩).isSome ||
    (localIp.isSome && (work.engine.migratingEndpoints.lookup ⟨peer, none⟩).isSome)

/-- The first credential under which a datagram is an opening payload. -/
def findSetup (peer : SocketAddr) (localIp : Option IpAddr) (wire : List UInt8) :
    List Credential → Option (Opening × List UInt8)
  | [] => none
  | credential :: rest =>
    match unwrapLegacyInPlace credential.ciphers wire none with
    | .error _ => findSetup peer localIp wire rest
    | .ok (decoded, opened) =>
      match parseGetconfEpoch (decoded.plain opened) with
      | none => findSetup peer localIp wire rest
      | some epoch =>
        some (⟨peer, localIp, credential.password, credential.ciphers, decoded.payloadType,
          decoded.isSrtp, epoch, decoded.seq⟩, decoded.plain opened)

/-- Create a session and place it. -/
def openSession (work : Work) (outside : Outside) (opening : Opening) (payload : List UInt8) : Work :=
  let (work, slot) := work.createLegacySession outside opening
  work.placeNewSession outside slot payload

/-- A datagram from an endpoint without a session. -/
def handleUnknownLegacy (work : Work) (outside : Outside) (peer : SocketAddr)
    (localIp : Option IpAddr) (wire : List UInt8) : Work :=
  if work.engine.tables.sessions.size ≥ maxActiveSessions ∨ wire.length > packetCapacity ∨
      work.engine.setupBudget = 0 then work
  else
    let work :=
      { work with engine := { work.engine with setupBudget := work.engine.setupBudget - 1 } }
    match findSetup peer localIp wire work.engine.credentials with
    | none => work
    | some (opening, plain) => work.openSession outside opening plain

/-- Wrap a payload for a session's client. The counters advance if there is a buffer,
whatever becomes of the packet. -/
def sendPlain (work : Work) (outside : Outside) (slot : Nat) (session : HotSession)
    (payload : List UInt8) : Work :=
  if outside.hasBuffer session.id then
    let (output, wrapped) := wrapLegacyInto session.ciphers session.isSrtp session.output payload
      PacketBuf.zeroed (outside.elapsed session.id) (outside.draws session.id)
    let work := work.store slot { session with output := output }
    match wrapped with
    | .error _ => work
    | .ok packet => work.send outside (.udp session.peer session.localIp packet.asSlice)
  else work

/-- Whether a payload for a session's client is wrapped and finds room. -/
def takesPlain (outside : Outside) (session : HotSession) (payload : List UInt8) : Bool :=
  outside.hasBuffer session.id &&
    match (wrapLegacyInto session.ciphers session.isSrtp session.output payload PacketBuf.zeroed
        (outside.elapsed session.id) (outside.draws session.id)).2 with
    | .error _ => false
    | .ok packet => outside.accepts (.udp session.peer session.localIp packet.asSlice)

/-- Credit bytes from the tunnel to the session in a slot. -/
def creditDown (work : Work) (slot bytes : Nat) : Work :=
  match work.engine.tables.sessions.lookup slot with
  | none => work
  | some session =>
    work.store slot { session with downTotal := min (session.downTotal + bytes) (2 ^ 64 - 1) }

/-- Send a packet from the tunnel to the session of an endpoint, if the session in its
slot is still that one. -/
def sendDownEndpoint (work : Work) (outside : Outside) (endpoint : RouteEndpoint)
    (packet : List UInt8) : Work × DownlinkSend :=
  match work.engine.tables.sessions.lookup endpoint.slot with
  | none => (work, .stale)
  | some session =>
    if session.id ≠ endpoint.sessionId ∨
        session.registrationId ≠ some endpoint.registrationId then (work, .stale)
    else
      let payload := FlowFrame.payload packet
      let outgoing := if session.dataFrames then packet else payload
      let sent := work.sendPlain outside endpoint.slot session outgoing
      if takesPlain outside session outgoing then
        (sent.creditDown endpoint.slot payload.length, .sent)
      else (sent, .backpressured)

/-- Offer a packet to one endpoint after the other, until one is not stale. -/
def sendDownWindow (work : Work) (outside : Outside) (packet : List UInt8) :
    List RouteEndpoint → Work × DownlinkSend
  | [] => (work, .stale)
  | endpoint :: rest =>
    match work.sendDownEndpoint outside endpoint packet with
    | (work, .stale) => work.sendDownWindow outside packet rest
    | result => result

/-- Send a packet from the tunnel to an endpoint of its address. -/
def sendDownKey (work : Work) (outside : Outside) (key : UInt8) (start : Nat)
    (packet : List UInt8) : Work × DownlinkSend :=
  match work.engine.routes.lookup key with
  | none => (work, .stale)
  | some group => work.sendDownWindow outside packet (group.window start)

/-- Write a packet to the tunnel and credit it to the session in a slot. -/
def writeIngressPacket (work : Work) (outside : Outside) (slot : Nat) (packet : List UInt8) : Work :=
  if packet.length ≤ packetCapacity && outside.accepts (.tun packet) then
    let work := { work with effects := work.effects ++ [Effect.tun packet] }
    match work.engine.tables.sessions.lookup slot with
    | none => work
    | some session =>
      work.store slot { session with
        upTotal := min (session.upTotal + packet.length) (2 ^ 64 - 1) }
  else work

/-- A packet for the tunnel. Framed packets wait for their turn in their flow. -/
def ingress (work : Work) (outside : Outside) (slot : Nat) (plain : List UInt8) : Work :=
  match FlowFrame.FrameHeader.decode plain with
  | none => work.writeIngressPacket outside slot (FlowFrame.payload plain)
  | some (header, payload) =>
    if payload.length > packetCapacity then work
    else
      let (reassembler, ready) := Reassembler.pushAt work.engine.ingressReassembler
        ⟨header, ⟨slot, payload⟩, outside.nowMs⟩
      ready.foldl (fun work held => work.writeIngressPacket outside held.slot held.packet)
        { work with engine := { work.engine with ingressReassembler := reassembler } }

/-- What an accepted payload asks for. -/
def dispatchPlain (work : Work) (outside : Outside) (slot : Nat) (session : HotSession)
    (plain : List UInt8) : Work :=
  if plain = sessionLease then work
  else if plain = ready then work.sendPlain outside slot session readyOk
  else if isIdleKeepalive plain then work
  else if isControlPayload plain then
    work.send outside (.control (.payload session.peer session.id plain))
  else if session.tunnelIp.isSome && session.registrationId.isSome then
    work.ingress outside slot plain
  else if session.pendingTunnel then work
  else
    let event := Effect.control
      (.ingressBeforeTunnel session.peer session.id (FlowFrame.payload plain))
    (work.store slot { session with pendingTunnel := outside.accepts event }).send outside event

/-- Receive a payload on a session, unless it is a replay. A session that learns its
local address moves to the key with that address. -/
def acceptInbound (work : Work) (outside : Outside) (slot : Nat) (session : HotSession)
    (localIp : Option IpAddr) (seq : UInt16) (plain : List UInt8) : Work :=
  let (replay, accepted) := session.replay.accept seq
  let heard := { session with replay := replay }
  if !accepted then work.store slot heard
  else
    let heard := { heard with lastInboundMs := work.engine.monotonicMs }
    if localIp.isSome ∧ session.localIp ≠ localIp then
      let moved := { heard with localIp := localIp }
      ((work.withTables (work.engine.tables.rebind slot session moved)).bindEndpoint outside
        moved.key).dispatchPlain outside slot moved plain
    else (work.store slot heard).dispatchPlain outside slot heard plain

/-- Note that a device was heard, if it has an epoch. -/
def refreshEpoch (work : Work) (deviceId : Text) : Work :=
  match work.engine.epochs.lookup deviceId with
  | none => work
  | some _ =>
    { work with
      engine := { work.engine with
        epochs := work.engine.epochs.insert deviceId work.engine.monotonicMs } }

/-- A datagram from the endpoint of a session. An opening payload for another epoch
replaces the session. -/
def handleExisting (work : Work) (outside : Outside) (slot : Nat) (localIp : Option IpAddr)
    (packet : List UInt8) : Work :=
  match work.engine.tables.sessions.lookup slot with
  | none => work
  | some session =>
    match unwrapLegacyInPlace session.ciphers packet (some session.isSrtp) with
    | .error _ => work
    | .ok (decoded, opened) =>
      let plain := decoded.plain opened
      if getconfPrefix.isPrefixOf plain then
        match parseGetconfEpoch plain with
        | none => work
        | some incoming =>
          let work := work.refreshEpoch incoming.deviceId
          if session.epoch = incoming then
            work.acceptInbound outside slot session localIp decoded.seq plain
          else
            (work.removeSlotWithReason outside slot "epoch-replaced").openSession outside
              ⟨session.peer, localIp.or session.localIp, session.password, session.ciphers,
                decoded.payloadType, decoded.isSrtp, incoming, decoded.seq⟩ plain
      else work.acceptInbound outside slot session localIp decoded.seq plain

/-- A datagram. An endpoint that is not found with its local address is looked up
without it. -/
def onUdp (work : Work) (outside : Outside) (peer : SocketAddr) (localIp : Option IpAddr)
    (packet : List UInt8) : Work :=
  match work.engine.tables.byPeer.lookup ⟨peer, localIp⟩ with
  | some slot => work.handleExisting outside slot localIp packet
  | none =>
    match if localIp.isSome then work.engine.tables.byPeer.lookup ⟨peer, none⟩ else none with
    | some slot => work.handleExisting outside slot localIp packet
    | none =>
      if work.endpointIsMigrating peer localIp then work
      else work.handleUnknownLegacy outside peer localIp packet

/-- Apply a change to the session with an id, if there is one. -/
def onSession (work : Work) (sessionId : Nat) (change : Nat → HotSession → Work) : Work :=
  match work.engine.tables.byId.lookup sessionId with
  | none => work
  | some slot =>
    match work.engine.tables.sessions.lookup slot with
    | none => work
    | some session => change slot session

/-- Set the number of paths of the address a session had. -/
def syncFormerRoute (work : Work) (session : HotSession) : Work :=
  match session.route with
  | none => work
  | some (formerIp, _) => work.syncDownlinkProfile formerIp

/-- Route a tunnel address to a session. The session's former route is dropped first,
also if the new address turns out to be foreign and the answer is negative. -/
def activateSlot (work : Work) (outside : Outside) (sessionId slot : Nat) (session : HotSession)
    (ip : Ipv4) (registrationId : UInt64) (workerId desiredCount : UInt16) : Work × Bool :=
  let routes := session.route.elim work.engine.routes fun former =>
    (work.engine.routes.unregister former.1 former.2).1
  match routes.register ip ⟨sessionId, registrationId, workerId, slot⟩ with
  | (routes, false) => ((work.withRoutes routes).syncFormerRoute session, false)
  | (routes, true) =>
    let work := (work.withRoutes routes).store slot { session with
      tunnelIp := some ip
      registrationId := some registrationId
      desiredStreamCount := desiredCount
      pendingTunnel := false }
    ((((work.note session.id (.activated ip desiredCount)).syncFormerRoute
      session).syncDownlinkProfile ip).bindTunnel outside ip, true)

def activateTunnel (work : Work) (outside : Outside) (sessionId : Nat) (ip : Ipv4)
    (registrationId : UInt64) (workerId desiredCount : UInt16) : Work × Bool :=
  match work.engine.tables.byId.lookup sessionId with
  | none => (work, false)
  | some slot =>
    match work.engine.tables.sessions.lookup slot with
    | none => (work, false)
    | some session =>
      work.activateSlot outside sessionId slot session ip registrationId workerId desiredCount

/-- Give a session another epoch. Packets queued for the former one are dropped. -/
def updateEpoch (work : Work) (sessionId : Nat) (epoch : Epoch) : Work :=
  work.onSession sessionId fun slot session =>
    let work := (work.store slot { session with epoch := epoch }).note session.id (.epoch epoch)
    match session.tunnelIp.bind routeIndex with
    | none => work
    | some index =>
      if session.epoch ≠ epoch then
        { work with effects := work.effects ++ [.clearDownlink index] }
      else work

/-- The slots of all sessions with a property, in their order. -/
def slotsWhere (work : Work) (stale : HotSession → Bool) : List Nat :=
  (work.engine.tables.sessions.keys.insertionSort (· ≤ ·)).filter fun slot =>
    (work.engine.tables.sessions.lookup slot).any stale

/-- Remove the sessions of all these slots, the last slot first. -/
def removeSlots (work : Work) (outside : Outside) (slots : List Nat)
    (reason : Option HotSession → String) : Work :=
  slots.foldr (fun slot work => work.removeSlotWithReason outside slot
    (reason (work.engine.tables.sessions.lookup slot))) work

/-- Remove all sessions with a property. -/
def removeWhere (work : Work) (outside : Outside) (stale : HotSession → Bool)
    (reason : Option HotSession → String) : Work :=
  work.removeSlots outside (work.slotsWhere stale) reason

/-- Move a session to a vacant slot; its route follows. -/
def moveSlot (work : Work) (slot target : Nat) : Work :=
  match work.engine.tables.sessions.lookup slot, work.engine.tables.sessions.lookup target with
  | some session, none =>
    (work.withTables (work.engine.tables.move slot target session)).withRoutes
      (session.route.elim work.engine.routes fun route =>
        work.engine.routes.updateSlot route.1 session.id route.2 target)
  | _, _ => work

/-- Close the gaps in the slab. -/
def compactMemory (work : Work) (outside : Outside) (force : Bool) : Work :=
  if !force && (outside.capacity ≤ hotTableReserve ||
      work.engine.tables.sessions.size * 2 > outside.capacity) then
    { work with engine := { work.engine with memoryCompactPending := false } }
  else
    let work := outside.compaction.foldl (fun work move => work.moveSlot move.1 move.2) work
    { work with
      engine := { work.engine with
        memoryCompactPending := false
        lastMemoryCompactMs := work.engine.monotonicMs } }

/-- Send a payload to all sessions, in the order of their slots. -/
def broadcastPlain (work : Work) (outside : Outside) (payload : List UInt8) : Work :=
  (work.slotsWhere fun _ => true).foldl (fun work slot =>
    (work.engine.tables.sessions.lookup slot).elim work fun session =>
      work.sendPlain outside slot session payload) work

def sessionIsRetiredByEpoch (epoch : Epoch) (session : HotSession) : Bool :=
  session.epoch.deviceId == epoch.deviceId && decide (session.epoch ≠ epoch)

def sessionIsDisconnectedDevice (requesterSessionId : Nat) (deviceId : Text)
    (session : HotSession) : Bool :=
  session.id == requesterSessionId || session.epoch.deviceId == deviceId

/-- A command. -/
def onCommand (work : Work) (outside : Outside) : ProtocolCommand → Work
  | .adoptSession session initialPayload => work.adoptSession outside session initialPayload
  | .sendPlain sessionId payload =>
    work.onSession sessionId fun slot session => work.sendPlain outside slot session payload
  | .broadcastPlain payload => work.broadcastPlain outside payload
  | .activateTunnel sessionId ip registrationId workerId desiredCount =>
    (work.activateTunnel outside sessionId ip registrationId workerId desiredCount).1
  | .injectTun sessionId payload =>
    work.onSession sessionId fun slot _ => work.writeIngressPacket outside slot payload
  | .updateEpoch sessionId epoch => work.updateEpoch sessionId epoch
  | .setDataFrames sessionId enabled =>
    work.onSession sessionId fun slot session =>
      work.store slot { session with dataFrames := enabled }
  | .setAuthoritativeEpoch epoch =>
    let work := work.removeWhere outside (sessionIsRetiredByEpoch epoch) fun _ =>
      "authoritative-epoch-replaced"
    { work with
      engine := { work.engine with
        epochs := work.engine.epochs.insert epoch.deviceId work.engine.monotonicMs } }
  | .disconnectDevice deviceId requesterSessionId =>
    let work := work.onSession requesterSessionId fun slot session =>
      work.sendPlain outside slot session disconnected
    work.removeWhere outside (sessionIsDisconnectedDevice requesterSessionId deviceId) fun _ =>
      "device-disconnect"
  | .replaceCredentials credentials =>
    let work := work.removeWhere outside
      (fun session => !credentials.any fun credential => credential.password == session.password)
      fun _ => "credential-removed"
    { work with engine := { work.engine with credentials := credentials } }
  | .dropSession sessionId =>
    work.onSession sessionId fun slot _ =>
      work.removeSlotWithReason outside slot "requested-session-drop"
  | .dropPassword password =>
    work.removeWhere outside (fun session => session.password == password) fun _ =>
      "credential-removed"
  | .compactMemory => work.compactMemory outside true

/-- Forget endpoints that have been on their way for too long. -/
def sweepMigratingEndpoints (work : Work) : Work :=
  let now := work.engine.monotonicMs
  if now - work.engine.lastMigratingEndpointSweepMs ≥ migratingEndpointSweepIntervalMs then
    { work with
      engine := { work.engine with
        lastMigratingEndpointSweepMs := now
        migratingEndpoints := work.engine.migratingEndpoints.retain fun _ startedMs =>
          now - startedMs < migratingEndpointTtlMs } }
  else work

/-- Whether a session was silent for too long at a time. -/
def isIdle (now : Nat) (session : HotSession) : Bool :=
  let idleMs := now - session.lastInboundMs
  (session.registrationId.isNone && idleMs ≥ sessionSetupIdleMs) ||
    (session.registrationId.isSome && idleMs ≥ sessionAuthIdleMs)

def hotSessionIdleReason (isAuthenticated : Bool) : String :=
  if isAuthenticated then "authenticated-idle-10h" else "setup-idle-15s"

/-- Report the bytes of all sessions. -/
def publishAllCounters (work : Work) : Work :=
  (work.slotsWhere fun _ => true).foldl (fun work slot =>
    (work.engine.tables.sessions.lookup slot).elim work fun session =>
      (work.store slot session.reported).publishCounters session) work

/-- Report the bytes of all sessions and remove idle ones. -/
def maintainSessions (work : Work) (outside : Outside) : Work :=
  let now := work.engine.monotonicMs
  if now - work.engine.lastSessionMaintenanceMs ≥ sessionMaintenanceIntervalMs then
    let work := { work with engine := { work.engine with lastSessionMaintenanceMs := now } }
    work.publishAllCounters.removeWhere outside (isIdle now) fun session =>
      hotSessionIdleReason (session.any fun session => session.registrationId.isSome)
  else work

/-- Forget epochs of devices without a session. -/
def sweepIdleEpochs (work : Work) : Work :=
  let now := work.engine.monotonicMs
  if now - work.engine.lastEpochSweepMs < epochSweepIntervalMs then work
  else
    let active := (Table.image HotSession.epoch work.engine.tables.sessions).map Epoch.deviceId
    { work with
      engine := { work.engine with
        lastEpochSweepMs := now
        epochs := work.engine.epochs.retain fun deviceId lastSeenMs =>
          (!deviceId.isEmpty && active.contains deviceId) || now - lastSeenMs < epochIdleTtlMs } }

/-- Close the gaps in the slab if sessions left it and the last time is long ago. -/
def compactWhenDue (work : Work) (outside : Outside) : Work :=
  if work.engine.memoryCompactPending &&
      work.engine.monotonicMs - work.engine.lastMemoryCompactMs ≥ memoryCompactIntervalMs then
    work.compactMemory outside false
  else work

/-- A tick of the clock. -/
def onTick (work : Work) (outside : Outside) : Work :=
  let work :=
    { work with
      engine := { work.engine with
        monotonicMs := min outside.nowMs (2 ^ 64 - 1) + 1
        setupBudget := setupBudgetPerTick } }
  (work.sweepMigratingEndpoints.maintainSessions outside).sweepIdleEpochs.compactWhenDue outside

end Work

end Csqtt.Engine
