import Csqtt.ControlText
import Csqtt.Reassembler
import Csqtt.RouteTable
import Csqtt.ServerObfs
import Csqtt.ServerReplay
import Csqtt.TableIndex

/-!
# The state of a shard's protocol engine

An engine owns the sessions of its shard. They stand in a slab under slot numbers,
and two tables find a slot: by the endpoint a datagram came from and by the id of the
session. `SessionTables` has the five ways in which the three are changed together.

A call of the engine works on `Work`: the engine, the process-wide counter of session
ids, and what the call has sent so far. Everything a call reads elsewhere is in
`Outside`: which vacant slot the slab hands out, which moves its compaction makes,
whether a queue has room, clock readings and random draws. The counter starts at one
and is a natural number here; sixty-four bits do not run out.

The control task keeps a public record of every session, which the engine shares and
writes to: the epoch, the state of the tunnel and the bytes that were counted since the
last time.

Left out of a session: the diagnostics and the budget for duplicates. Left out of the
engine: the inventory of streams and the queues from the tunnel to the clients.
-/

namespace Csqtt.Engine

open ControlText Routes RtpWire ServerObfs ServerReplay

/-- An address of either family. -/
inductive IpAddr
  | v4 (address : Ipv4)
  | v6 (bits : BitVec 128)
deriving DecidableEq, Repr

/-- An address and a port. -/
structure SocketAddr where
  ip : IpAddr
  port : UInt16
deriving DecidableEq, Repr

/-- Where datagrams come from and, if known, at which local address they arrive. -/
structure EndpointKey where
  peer : SocketAddr
  localIp : Option IpAddr
deriving DecidableEq, Repr

/-- A password and the ciphers keyed by it. -/
structure Credential where
  password : Text
  ciphers : Ciphers

/-- A session as the shard that owns it keeps it. -/
structure HotSession where
  id : Nat
  peer : SocketAddr
  localIp : Option IpAddr
  password : Text
  epoch : Epoch
  ciphers : Ciphers
  output : OutState
  replay : ReplayState
  tunnelIp : Option Ipv4
  registrationId : Option UInt64
  desiredStreamCount : UInt16
  lastInboundMs : Nat
  upTotal : Nat
  downTotal : Nat
  reportedUp : Nat
  reportedDown : Nat
  isSrtp : Bool
  pendingTunnel : Bool
  dataFrames : Bool

/-- The key a session is found under. -/
def HotSession.key (session : HotSession) : EndpointKey := ⟨session.peer, session.localIp⟩

/-- The bytes from and to the client that were not reported yet. -/
def HotSession.unreported (session : HotSession) : Nat × Nat :=
  (session.upTotal - session.reportedUp, session.downTotal - session.reportedDown)

/-- A session after a report. -/
def HotSession.reported (session : HotSession) : HotSession :=
  { session with reportedUp := session.upTotal, reportedDown := session.downTotal }

/-- The slab and its two indexes. -/
structure SessionTables where
  sessions : Table Nat HotSession
  byPeer : Table EndpointKey Nat
  byId : Table Nat Nat

/-- What the engine tells the control task. -/
inductive ControlEvent
  | sessionCreated (sessionId : Nat)
  | sessionClosed (address : SocketAddr) (sessionId : Nat) (reason : String)
  | payload (address : SocketAddr) (sessionId : Nat) (payload : List UInt8)
  | ingressBeforeTunnel (address : SocketAddr) (sessionId : Nat) (payload : List UInt8)

/-- What the engine asks of the router. -/
inductive RouterCommand
  | bindEndpoint (endpoint : EndpointKey) (shard : Nat)
  | bindTunnel (ip : Ipv4) (shard : Nat)
  | migrate (endpoint : EndpointKey) (shard : Nat) (session : HotSession)
      (initialPayload : List UInt8)

/-- What the engine writes to the public record of a session: the record itself when the
session is created, its epoch, the address it is activated for and the number of its
streams, whether its tunnel is open, and the bytes counted since the last report. -/
inductive RecordWrite
  | opened (password : Text) (epoch : Epoch)
  | epoch (epoch : Epoch)
  | activated (ip : Ipv4) (desiredCount : UInt16)
  | tunnel (isOpen : Bool)
  | counters (up down : Nat)

/-- Messages of an engine: to the control task, to the router, to a client, to the
tunnel, what it writes to the record of a session, and the number of paths it sets for
a downlink queue. -/
inductive Effect
  | control (event : ControlEvent)
  | router (command : RouterCommand)
  | record (sessionId : Nat) (write : RecordWrite)
  | udp (peer : SocketAddr) (sourceIp : Option IpAddr) (packet : List UInt8)
  | tun (packet : List UInt8)
  | downlink (index : UInt8) (paths : Nat)
  | clearDownlink (index : UInt8)

/-- The commands of the control task and the router. -/
inductive ProtocolCommand
  | adoptSession (session : HotSession) (initialPayload : List UInt8)
  | sendPlain (sessionId : Nat) (payload : List UInt8)
  | broadcastPlain (payload : List UInt8)
  | activateTunnel (sessionId : Nat) (ip : Ipv4) (registrationId : UInt64) (workerId : UInt16)
      (desiredCount : UInt16)
  | injectTun (sessionId : Nat) (payload : List UInt8)
  | updateEpoch (sessionId : Nat) (epoch : Epoch)
  | setDataFrames (sessionId : Nat) (enabled : Bool)
  | setAuthoritativeEpoch (epoch : Epoch)
  | disconnectDevice (deviceId : Text) (requesterSessionId : Nat)
  | replaceCredentials (credentials : List Credential)
  | dropSession (sessionId : Nat)
  | dropPassword (password : Text)
  | compactMemory

/-- The session a command to the router hands over. -/
def RouterCommand.handover : RouterCommand → Option HotSession
  | .migrate _ _ session _ => some session
  | _ => none

/-- The command a message has for the router. -/
def Effect.routed : Effect → Option RouterCommand
  | .router command => some command
  | _ => none

/-- The session a command brings. -/
def ProtocolCommand.adopted : ProtocolCommand → Option HotSession
  | .adoptSession session _ => some session
  | _ => none

/-- A packet from a client and the slot of the session that received it. -/
structure IngressPacket where
  slot : Nat
  packet : List UInt8

/-- One shard's engine. -/
structure ProtocolEngine where
  shardIndex : Nat
  shardCount : Nat
  credentials : List Credential
  epochs : Table Text Nat
  tables : SessionTables
  migratingEndpoints : Table EndpointKey Nat
  routes : RouteTable
  ingressReassembler : Reassembler.FlowReassembler IngressPacket
  monotonicMs : Nat
  setupBudget : Nat
  memoryCompactPending : Bool
  lastMemoryCompactMs : Nat
  lastSessionMaintenanceMs : Nat
  lastMigratingEndpointSweepMs : Nat
  lastEpochSweepMs : Nat

def maxActiveSessions : Nat := 3072
def sessionSetupIdleMs : Nat := 15000
def sessionAuthIdleMs : Nat := 36000000
def epochSweepIntervalMs : Nat := 300000
def epochIdleTtlMs : Nat := 3600000
def hotTableReserve : Nat := 128
def memoryCompactIntervalMs : Nat := 5000
def sessionMaintenanceIntervalMs : Nat := 1000
def setupBudgetPerTick : Nat := 1024
def migratingEndpointTtlMs : Nat := 2000
def migratingEndpointSweepIntervalMs : Nat := 1000

/-- An engine without sessions. -/
def ProtocolEngine.new (shardIndex shardCount : Nat) (credentials : List Credential)
    (epochs : Table Text Nat) : ProtocolEngine where
  shardIndex := shardIndex
  shardCount := shardCount
  credentials := credentials
  epochs := epochs
  tables := ⟨∅, ∅, ∅⟩
  migratingEndpoints := ∅
  routes := ∅
  ingressReassembler := Reassembler.new
  monotonicMs := 1
  setupBudget := setupBudgetPerTick * 2
  memoryCompactPending := false
  lastMemoryCompactMs := 0
  lastSessionMaintenanceMs := 0
  lastMigratingEndpointSweepMs := 0
  lastEpochSweepMs := 0

/-- A slab hands out a vacant slot; which one is its own business. -/
structure SlotPolicy where
  choose : Table Nat HotSession → Nat
  vacant : ∀ sessions : Table Nat HotSession, sessions.lookup (choose sessions) = none

/-- What a call reads outside of the engine. `accepts` answers whether the queue a
message goes to has room for it, and `hasBuffer` whether the pool has a packet buffer
for a session. `nowMs` is the time since the process started. -/
structure Outside where
  slots : SlotPolicy
  capacity : Nat
  compaction : List (Nat × Nat)
  accepts : Effect → Bool
  hasBuffer : Nat → Bool
  workerId : Nat → UInt64
  counters : OutState
  elapsed : Nat → Duration
  draws : Nat → Draws
  nowMs : Nat

/-- The state of a call. -/
structure Work where
  engine : ProtocolEngine
  nextId : Nat
  effects : List Effect

/-- What became of a packet from the tunnel: it was queued for the client, the queue
had no room, or no session stood where the route points to. -/
inductive DownlinkSend
  | sent
  | backpressured
  | stale
deriving DecidableEq, Repr

namespace SessionTables

/-- Put a session into a slot and enter it in both indexes. -/
def enter (tables : SessionTables) (slot : Nat) (session : HotSession) : SessionTables :=
  ⟨tables.sessions.insert slot session, tables.byPeer.insert session.key slot,
    tables.byId.insert session.id slot⟩

/-- Take a session out of its slot and out of both indexes. -/
def leave (tables : SessionTables) (slot : Nat) (session : HotSession) : SessionTables :=
  ⟨tables.sessions.erase slot, tables.byPeer.erase session.key, tables.byId.erase session.id⟩

/-- Write a session back to its slot. -/
def store (tables : SessionTables) (slot : Nat) (session : HotSession) : SessionTables :=
  { tables with sessions := tables.sessions.insert slot session }

/-- Write a session back whose local address, and with it its key, has changed. -/
def rebind (tables : SessionTables) (slot : Nat) (session new : HotSession) : SessionTables :=
  { tables.store slot new with byPeer := (tables.byPeer.erase session.key).insert new.key slot }

/-- Move a session to another slot. -/
def move (tables : SessionTables) (slot target : Nat) (session : HotSession) : SessionTables :=
  ⟨(tables.sessions.erase slot).insert target session, tables.byPeer.insert session.key target,
    tables.byId.insert session.id target⟩

end SessionTables

/-- The tunnel address and the registration of an activated session. -/
def HotSession.route (session : HotSession) : Option (Ipv4 × UInt64) := do
  return (← session.tunnelIp, ← session.registrationId)

/-- What an opening datagram says. -/
structure Opening where
  peer : SocketAddr
  localIp : Option IpAddr
  password : Text
  ciphers : Ciphers
  payloadType : UInt8
  isSrtp : Bool
  epoch : Epoch
  replaySeq : UInt16

/-- A new session, which has seen the datagram that opened it. -/
def HotSession.legacy (id : Nat) (opening : Opening) (counters : OutState) (monotonicMs : Nat) :
    HotSession where
  id := id
  peer := opening.peer
  localIp := opening.localIp
  password := opening.password
  epoch := opening.epoch
  ciphers := opening.ciphers
  output := { counters with count := 0, payloadType := opening.payloadType }
  replay := (ReplayState.new.accept opening.replaySeq).1
  tunnelIp := none
  registrationId := none
  desiredStreamCount := 0
  lastInboundMs := monotonicMs
  upTotal := 0
  downTotal := 0
  reportedUp := 0
  reportedDown := 0
  isSrtp := opening.isSrtp
  pendingTunnel := false
  dataFrames := false

end Csqtt.Engine
