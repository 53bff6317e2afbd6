import Csqtt.TurnMessages

/-!
# The TURN core of the client

The core keeps an allocation on a TURN server. It does no input or output itself: calls hand it
packets and the time, and fetch the packets and events that it has queued. Requests stay pending until
a response is taken for theirs, or until they have been sent too often. Timers start the requests
that keep the allocation, the permission and the channel.

A request that is refused for its nonce is made again with the new one. A request of a ready core that
fails is tried again later, as long as the allocation lasts; any other failure destroys the
allocation.

`Ambient` is what a call meets: the time when it begins, and for each operation the random transaction
of a request that is built, and the time when it is built. No call builds two requests for one
operation. Functions that can fail return what they have changed until then.
-/

namespace Csqtt.Turn

open Bytes Stun Engine

/-! ## State -/

inductive State
  | null
  | allocating
  | ready
  | deallocating
  | deallocated
  | destroying
deriving DecidableEq, Repr

/-- How a response was received, or a request ended. -/
inductive Status
  | success
  | bufferTooSmall
  | invalidArgument
  | notControl
  | timeout
  | authentication
  | protocol
deriving DecidableEq, Repr

inductive EventKind
  | state
  | requestComplete
  | channelBound
  | relayAddress
  | controlOverflow
  | forcedDestroy
  | eventOverflow
  | stunResponseError
  | channelRebindExhausted
deriving DecidableEq, Repr

/-- An event. The address is empty if there is none. -/
structure NativeEvent where
  kind : EventKind
  method : UInt16 := 0
  status : Status := .success
  stunCode : Nat := 0
  state : State := .null
  previousState : State := .null
  dropped : Nat := 0
  channel : UInt16 := 0
  address : Option SocketAddr := none
deriving DecidableEq, Repr

/-- Over datagrams a request is sent again if there is no response, over a stream it is not. -/
inductive TurnControlTransport
  | datagram
  | stream
deriving DecidableEq, Repr

structure CsqttTurnProfile where
  allocationRefresh : Nat
  maintenanceRefresh : Nat
  keepaliveInterval : Nat
  maxNonceRetries : Nat
deriving DecidableEq, Repr

def CsqttTurnProfile.pjnathCompat : CsqttTurnProfile :=
  ⟨seconds 300, seconds 175, seconds 10, 3⟩

/-- A request without a response. -/
structure Pending where
  operation : Operation
  transaction : Transaction
  packet : List UInt8
  nextAttempt : Nat
  rto : Nat
  transmissions : Nat
  nonceRetries : Nat
  authenticated : Bool
deriving DecidableEq, Repr

/-- A packet to be sent. -/
structure Control where
  packet : List UInt8
  destination : SocketAddr
deriving DecidableEq, Repr

structure Core where
  server : SocketAddr
  peer : SocketAddr
  username : List UInt8
  password : List UInt8
  realm : Option (List UInt8)
  nonce : Option (List UInt8)
  key : Option (List UInt8)
  state : State
  relay : Option SocketAddr
  channel : Option UInt16
  controls : List Control
  events : List NativeEvent
  pending : List Pending
  allocationRefresh : Option Nat
  allocationExpiresAt : Option Nat
  maintenanceRefresh : Option Nat
  permissionRetry : Option Nat
  channelRetry : Option Nat
  refreshFailures : Nat
  permissionFailures : Nat
  channelFailures : Nat
  keepalive : Option Nat
  shuttingDown : Bool
  destroyed : Bool
  profile : CsqttTurnProfile
  transport : TurnControlTransport
deriving DecidableEq, Repr

/-- The time when a call begins, and what a request for an operation would get. -/
structure Ambient where
  now : Nat
  clock : Operation → Nat
  transaction : Operation → Transaction

def controlCapacity : Nat := 16
def eventCapacity : Nat := 64
def initialRto : Nat := milliseconds 200
def maxRto : Nat := milliseconds 1600
def maxTransmissions : Nat := 7
def streamTransactionTimeout : Nat := seconds 12
def maintenanceRetryBase : Nat := seconds 1
def maintenanceRetryMax : Nat := seconds 30
def maxChannelMaintenanceFailures : Nat := 4
def channelNumber : UInt16 := 0x4000

/-- The operations that are made again and again. -/
def Operation.repeats : Operation → Bool
  | .refresh | .permission | .channel => true
  | .allocate | .deallocate => false

/-- Whether a timer is armed and its time has come. -/
def due (deadline : Option Nat) (now : Nat) : Bool := deadline.any (· ≤ now)

namespace Core

/-- A core that has done nothing yet. -/
def fresh (server : SocketAddr) (username password : List UInt8) (peer : SocketAddr)
    (profile : CsqttTurnProfile) (transport : TurnControlTransport) : Core where
  server := server
  peer := peer
  username := username
  password := password
  realm := none
  nonce := none
  key := none
  state := .null
  relay := none
  channel := none
  controls := []
  events := []
  pending := []
  allocationRefresh := none
  allocationExpiresAt := none
  maintenanceRefresh := none
  permissionRetry := none
  channelRetry := none
  refreshFailures := 0
  permissionFailures := 0
  channelFailures := 0
  keepalive := none
  shuttingDown := false
  destroyed := false
  profile := profile
  transport := transport

/-- A new core, if ports and credentials can be used. -/
def create (server : SocketAddr) (username password : List UInt8) (peer : SocketAddr)
    (profile : CsqttTurnProfile) (transport : TurnControlTransport) : Except CoreError Core :=
  if server.port = 0 ∨ peer.port = 0 then .error .invalidArgument
  else if username.isEmpty ∨ username.length > 512 ∨ password.isEmpty ∨ password.length > 512 then
    .error .invalidArgument
  else .ok (fresh server username password peer profile transport)

/-! ## Queues and events -/

/-- Queue an event. If the queue is full, the oldest one is dropped, and the new one is replaced by a
note that something was lost. -/
def pushEvent (core : Core) (event : NativeEvent) : Core :=
  if core.events.length = eventCapacity then
    { core with events := core.events.tail ++
        [{ kind := .eventOverflow, status := .bufferTooSmall, dropped := 1 }] }
  else { core with events := core.events ++ [event] }

def setState (core : Core) (state : State) : Core :=
  if core.state = state then core
  else { core with state := state }.pushEvent
    { kind := .state, state := state, previousState := core.state }

/-- Queue a packet. If the queue is full, the oldest one is dropped. -/
def queuePacket (core : Core) (packet : List UInt8) : Core :=
  let core :=
    if core.controls.length = controlCapacity then
      { core with controls := core.controls.tail }.pushEvent
        { kind := .controlOverflow, status := .bufferTooSmall, dropped := 1 }
    else core
  { core with controls := core.controls ++ [⟨packet, core.server⟩] }

/-- Do not send the request of a transaction again. -/
def removeQueuedTransaction (core : Core) (transaction : Transaction) : Core :=
  { core with controls := core.controls.filter fun control =>
      !(decide (20 ≤ control.packet.length) && slice control.packet 8 20 == transaction.bytes) }

/-- Tell that a request has ended. -/
def complete (core : Core) (operation : Operation) (status : Status) (stunCode : Nat) : Core :=
  core.pushEvent
    { kind := .requestComplete, method := operation.method, status := status, stunCode := stunCode
      state := core.state, channel := core.channel.getD 0, address := core.relay }

def queueKeepalive (core : Core) : Core :=
  match core.channel with
  | none => core
  | some channel => core.queuePacket (toBe 2 channel.toNat ++ toBe 2 1 ++ [0xff, 0, 0, 0])

/-! ## Requests -/

/-- A new realm and nonce, and the key that belongs to them. -/
def setAuth (digests : Digests) (core : Core) (realm nonce : List UInt8) : Core :=
  { core with
    key := some (digests.md5 (core.username ++ [0x3a] ++ realm ++ [0x3a] ++ core.password))
    realm := some realm
    nonce := some nonce }

def hasOperation (core : Core) (operation : Operation) : Bool :=
  core.pending.any fun pending => pending.operation == operation

def transactionTimeout (core : Core) : Nat :=
  match core.transport with
  | .datagram => initialRto
  | .stream => streamTransactionTimeout

/-- The attributes that an operation asks with. -/
def requestAttributes (core : Core) (operation : Operation) (builder : MessageBuilder) :
    MessageBuilder :=
  match operation with
  | .allocate =>
    ((builder.withAttribute attrRequestedTransport [17, 0, 0, 0]).withAttribute
      attrRequestedAddressFamily [if isIpv4 core.peer then 1 else 2, 0, 0, 0]).withAttribute
      attrLifetime (toBe 4 requestedAllocationLifetimeSecs)
  | .refresh => builder.withAttribute attrLifetime (toBe 4 requestedAllocationLifetimeSecs)
  | .deallocate => builder.withAttribute attrLifetime (toBe 4 0)
  | .permission => builder.xorAddress attrXorPeerAddress core.peer
  | .channel =>
    (builder.withAttribute attrChannelNumber [0x40, 0, 0, 0]).xorAddress attrXorPeerAddress core.peer

def buildRequest (digests : Digests) (core : Core) (operation : Operation)
    (transaction : Transaction) (authenticated : Bool) : Except CoreError (List UInt8) :=
  let builder := core.requestAttributes operation
    (MessageBuilder.withTransaction operation.method transaction)
  if authenticated then
    match core.key with
    | none => .error .incompleteAuthentication
    | some key =>
      (((builder.withAttribute attrUsername core.username).withAttribute attrRealm
        (core.realm.getD [])).withAttribute attrNonce (core.nonce.getD [])).finishAuthenticated
        digests key
  else builder.finish digests

/-- Make a request, unless there is one for the operation. The one for a channel is then sent again. -/
def startOperation (digests : Digests) (core : Core) (ambient : Ambient) (operation : Operation)
    (authenticated : Bool) (nonceRetries : Nat) : Core × Option CoreError :=
  match core.pending.find? fun pending => pending.operation == operation with
  | some pending =>
    if operation = .channel then (core.queuePacket pending.packet, none) else (core, none)
  | none =>
    if authenticated && (core.realm.isNone || core.nonce.isNone || core.key.isNone) then
      (core, some .incompleteAuthentication)
    else
      match core.buildRequest digests operation (ambient.transaction operation) authenticated with
      | .error error => (core, some error)
      | .ok packet =>
        let core := core.queuePacket packet
        ({ core with pending := core.pending ++
            [{ operation := operation
               transaction := ambient.transaction operation
               packet := packet
               nextAttempt := ambient.clock operation + core.transactionTimeout
               rto := initialRto
               transmissions := 1
               nonceRetries := nonceRetries
               authenticated := authenticated }] }, none)

/-! ## Ends of requests -/

/-- Give the allocation up. -/
def destroyAllocation (core : Core) (operation : Operation) (status : Status) (stunCode : Nat) : Core :=
  let core := { core.complete operation status stunCode with
    controls := []
    pending := []
    channel := none
    allocationRefresh := none
    allocationExpiresAt := none
    maintenanceRefresh := none
    permissionRetry := none
    channelRetry := none
    keepalive := none
    relay := none }
  core.setState (if operation = .deallocate then .deallocated else .destroying)

/-- Give the channel up. The allocation may still be given back to the server. -/
def destroyAfterChannelRebindExhausted (core : Core) : Core :=
  ({ core with
    controls := []
    pending := []
    channel := none
    maintenanceRefresh := none
    permissionRetry := none
    channelRetry := none
    keepalive := none }.pushEvent
    { kind := .channelRebindExhausted, status := .timeout, state := .destroying }).setState .destroying

/-- How long to wait after a number of failures. -/
def retryDelay (failures : Nat) : Nat :=
  min (maintenanceRetryBase * 2 ^ min (failures - 1) 5) maintenanceRetryMax

/-- Try again later, unless a channel has failed too often. -/
def scheduleMaintenanceRetry (core : Core) (operation : Operation) (now : Nat) : Core × Bool :=
  match operation with
  | .refresh =>
    let failures := min (core.refreshFailures + 1) 255
    ({ core with
      refreshFailures := failures
      allocationRefresh := some (now + retryDelay failures) }, true)
  | .permission =>
    let failures := min (core.permissionFailures + 1) 255
    ({ core with
      permissionFailures := failures
      permissionRetry := some (now + retryDelay failures) }, true)
  | .channel =>
    let failures := min (core.channelFailures + 1) 255
    if failures ≥ maxChannelMaintenanceFailures then ({ core with channelFailures := failures }, false)
    else
      ({ core with
        channelFailures := failures
        channelRetry := some (now + retryDelay failures) }, true)
  | .allocate | .deallocate => (core, true)

/-- A request has failed. -/
def completeFailure (core : Core) (operation : Operation) (status : Status) (stunCode : Nat)
    (now : Nat) : Core :=
  if operation.repeats ∧ core.state = .ready ∧ core.allocationExpiresAt.any (now < ·) then
    match (core.complete operation status stunCode).scheduleMaintenanceRetry operation now with
    | (core, true) => core
    | (core, false) => core.destroyAfterChannelRebindExhausted
  else core.destroyAllocation operation status stunCode

/-- The address that an allocation has got. It must be of the family of the peer. -/
def readRelay (core : Core) (message : Message) : Except CoreError SocketAddr :=
  match message.findAttribute attrXorRelayedAddress with
  | none => .error .noRelayedAddress
  | some found =>
    match decodeXorAddress found.value message.transaction with
    | .error error => .error error
    | .ok relay =>
      if isIpv4 relay ≠ isIpv4 core.peer ∨ relay.port = 0 then .error .invalidRelayedAddress
      else .ok relay

/-- A lifetime for an allocation, in seconds. -/
def setLifetime (core : Core) (returned : Option Nat) (now : Nat) : Core :=
  { core with
    allocationRefresh := some (allocationRefreshDeadline now returned core.profile.allocationRefresh)
    allocationExpiresAt := some (now + seconds (returned.getD requestedAllocationLifetimeSecs))
    refreshFailures := 0 }

/-- An allocation with its address and lifetime. -/
def allocated (core : Core) (relay : SocketAddr) (returned : Option Nat) (now : Nat) : Core :=
  { { core with relay := some relay }.setLifetime returned now with
    maintenanceRefresh := some (now + core.profile.maintenanceRefresh)
    keepalive := some (now + core.profile.keepaliveInterval) }.pushEvent
    { kind := .relayAddress, address := some relay }

/-- A request has succeeded. -/
def completeSuccess (digests : Digests) (core : Core) (ambient : Ambient) (operation : Operation)
    (message : Message) : Core × Option CoreError :=
  let now := ambient.now
  match operation with
  | .allocate =>
    match core.readRelay message with
    | .error error => (core, some error)
    | .ok relay =>
      let returned := attributeU32 message attrLifetime
      if returned.getD requestedAllocationLifetimeSecs = 0 then (core, some .zeroLifetime)
      else
        let core := core.allocated relay returned now
        if core.shuttingDown then
          (core.setState .deallocating).startOperation digests ambient .deallocate true 0
        else ((core.setState .ready).complete operation .success 0, none)
  | .refresh =>
    let returned := attributeU32 message attrLifetime
    if returned.getD requestedAllocationLifetimeSecs = 0 then (core, some .zeroLifetime)
    else ((core.setLifetime returned now).complete operation .success 0, none)
  | .deallocate =>
    if (attributeU32 message attrLifetime).getD 0 ≠ 0 then (core, some .deallocationLifetime)
    else
      (({ core with
        relay := none
        allocationRefresh := none
        allocationExpiresAt := none }.complete operation .success 0).setState .deallocated, none)
  | .permission =>
    ({ core with permissionFailures := 0 }.complete operation .success 0, none)
  | .channel =>
    (({ core with channel := some channelNumber, channelFailures := 0 }.pushEvent
      { kind := .channelBound, channel := channelNumber, address := some core.peer }).complete
      operation .success 0, none)

/-! ## Responses -/

/-- A response with the transaction and the method of a request. -/
def answeredBy (message : Message) (pending : Pending) : Bool :=
  pending.transaction == message.transaction && pending.operation.method == message.method

/-- An error response. A request that was refused for its nonce is made again. -/
def rejected (digests : Digests) (core : Core) (ambient : Ambient) (pending : Pending)
    (message : Message) : Core :=
  let operation := pending.operation
  let code := (errorCode message).getD 0
  let event : NativeEvent :=
    { kind := .stunResponseError, method := message.method, stunCode := code, state := core.state }
  let refused (core : Core) : Core :=
    (core.pushEvent event).completeFailure operation .protocol code ambient.now
  if code = 0 then
    (core.pushEvent { event with status := .protocol }).completeFailure operation .protocol 0 ambient.now
  else if requiresAllocationRecreate operation code then
    (core.pushEvent event).destroyAllocation operation .protocol code
  else
    let realm := ((message.findAttribute attrRealm).map Attribute.value).or
      (if code = 438 then core.realm else none)
    let nonce := (message.findAttribute attrNonce).map Attribute.value
    match realm, nonce with
    | some realm, some nonce =>
      if code ∈ [401, 438] ∧ pending.nonceRetries < core.profile.maxNonceRetries then
        match (core.setAuth digests realm nonce).startOperation digests ambient operation true
          (pending.nonceRetries + 1) with
        | (core, none) => core
        | (core, some _) => refused core
      else refused core
    | _, _ => refused core

/-- A response to a request that was pending until now. -/
def answered (digests : Digests) (core : Core) (ambient : Ambient) (pending : Pending)
    (message : Message) : Core × Status :=
  if message.type = .success ∧ !pending.authenticated then
    (core.completeFailure pending.operation .authentication 0 ambient.now, .authentication)
  else if message.type = .error then (core.rejected digests ambient pending message, .success)
  else
    match core.completeSuccess digests ambient pending.operation message with
    | (core, none) => (core, .success)
    | (core, some _) => (core.completeFailure pending.operation .protocol 0 ambient.now, .protocol)

/-- A response to an authenticated request that is not what it should be. -/
def unverified (digests : Digests) (core : Core) (packet : List UInt8) (message : Message)
    (pending : Pending) : Bool :=
  pending.authenticated && responseRequiresIntegrity message &&
    !verifyIntegrity digests packet message core.key && !isFingerprintedAllocationMismatch digests message

/-- A packet from the server. -/
def inputStun (digests : Digests) (core : Core) (ambient : Ambient) (packet : List UInt8) :
    Core × Status :=
  match Message.decode packet with
  | .error _ => (core, .invalidArgument)
  | .ok message =>
    if message.type ≠ .success ∧ message.type ≠ .error then (core, .notControl)
    else if message.fingerprintValid digests = some false then (core, .invalidArgument)
    else
      match core.pending.find? (answeredBy message) with
      | none => (core, .notControl)
      | some pending =>
        if core.unverified digests packet message pending then
          match if message.type = .error then errorCode message else none with
          | some code =>
            (core.pushEvent
              { kind := .stunResponseError, method := message.method, status := .authentication
                stunCode := code, state := core.state }, .authentication)
          | none => (core, .authentication)
        else
          ({ core with pending := core.pending.eraseP (answeredBy message) }.removeQueuedTransaction
            message.transaction).answered digests ambient pending message

/-! ## Timers -/

/-- Send requests again that had no response in time, or let them fail. The list of requests may
become shorter on the way. -/
def expireFrom (now : Nat) : Nat → Nat → Core → Core
  | 0, _, core => core
  | rounds + 1, index, core =>
    match core.pending[index]? with
    | none => core
    | some pending =>
      if now < pending.nextAttempt then expireFrom now rounds (index + 1) core
      else if pending.transmissions ≥ maxTransmissions ∨ core.transport = .stream then
        expireFrom now rounds index
          (({ core with pending := core.pending.eraseIdx index }.removeQueuedTransaction
            pending.transaction).completeFailure pending.operation .timeout 0 now)
      else
        let core := core.queuePacket pending.packet
        let rto := min (pending.rto * 2) maxRto
        let again := { pending with
          transmissions := pending.transmissions + 1
          rto := rto
          nextAttempt := now + rto }
        expireFrom now rounds (index + 1) { core with pending := core.pending.set index again }

def expireTransactions (core : Core) (now : Nat) : Core := expireFrom now core.pending.length 0 core

/-- An allocation whose lifetime is over is given up. -/
def expireAllocation (core : Core) (now : Nat) : Core :=
  if !core.shuttingDown ∧ core.state = .ready ∧ due core.allocationExpiresAt now then
    core.destroyAllocation .refresh .timeout 0
  else core

/-- Stop the timer that starts an operation. -/
def disarm (core : Core) : Operation → Core
  | .refresh => { core with allocationRefresh := none }
  | .permission => { core with permissionRetry := none }
  | .channel => { core with channelRetry := none }
  | .allocate | .deallocate => core

/-- Start an operation if its time has come and it is not pending, and tell if so. -/
def startDue (digests : Digests) (core : Core) (ambient : Ambient) (operation : Operation)
    (isDue : Bool) : Core × Except CoreError Bool :=
  if isDue && !core.hasOperation operation then
    match (core.disarm operation).startOperation digests ambient operation true 0 with
    | (core, none) => (core, .ok true)
    | (core, some error) => (core, .error error)
  else (core, .ok false)

/-- Arm the timer for the next round of maintenance. -/
def renewMaintenance (core : Core) (isDue : Bool) (now : Nat) : Core :=
  if isDue then { core with maintenanceRefresh := some (now + core.profile.maintenanceRefresh) } else core

/-- Send a keepalive if it is time, unless a request does its work. -/
def keepAlive (core : Core) (now : Nat) (controlStarted : Bool) : Core :=
  if due core.keepalive now then
    let core := { core with keepalive := some (now + core.profile.keepaliveInterval) }
    if controlStarted then core else core.queueKeepalive
  else core

/-- What is due of a ready core. -/
def maintain (digests : Digests) (core : Core) (ambient : Ambient) : Core × Option CoreError :=
  let now := ambient.now
  let maintenanceDue := due core.maintenanceRefresh now
  let permissionRetryDue := due core.permissionRetry now
  let channelRetryDue := due core.channelRetry now
  match core.startDue digests ambient .refresh (due core.allocationRefresh now) with
  | (core, .error error) => (core, some error)
  | (core, .ok refreshStarted) =>
    match (core.renewMaintenance maintenanceDue now).startDue digests ambient .permission
      (maintenanceDue || permissionRetryDue) with
    | (core, .error error) => (core, some error)
    | (core, .ok permissionStarted) =>
      match core.startDue digests ambient .channel (maintenanceDue || channelRetryDue) with
      | (core, .error error) => (core, some error)
      | (core, .ok channelStarted) =>
        (core.keepAlive now (refreshStarted || permissionStarted || channelStarted), none)

/-- When the next timer ends. -/
def nextDeadline (core : Core) : Option Nat :=
  (core.pending.map Pending.nextAttempt ++ core.allocationRefresh.toList ++
    core.maintenanceRefresh.toList ++ core.permissionRetry.toList ++ core.channelRetry.toList ++
    core.keepalive.toList).min?

/-- Do what is due, and tell how long nothing will be. -/
def poll (digests : Digests) (core : Core) (ambient : Ambient) :
    Core × Except CoreError (Option Nat) :=
  let now := ambient.now
  if core.destroyed then (core, .ok none)
  else
    let core := (core.expireTransactions now).expireAllocation now
    match if !core.shuttingDown ∧ core.state = .ready then core.maintain digests ambient
      else (core, none) with
    | (core, some error) => (core, .error error)
    | (core, none) =>
      (core, .ok (core.nextDeadline.map fun deadline => max (deadline - now) (milliseconds 1)))

/-! ## Calls -/

def requireOpen (core : Core) : Option CoreError :=
  if core.destroyed ∨ core.shuttingDown then some .closed else none

def requireReady (core : Core) : Option CoreError :=
  core.requireOpen.or (if core.state ≠ .ready then some .invalidArgument else none)

def startAllocation (digests : Digests) (core : Core) (ambient : Ambient) : Core × Option CoreError :=
  match core.requireOpen with
  | some error => (core, some error)
  | none =>
    if core.state ≠ .null then (core, some .invalidArgument)
    else (core.setState .allocating).startOperation digests ambient .allocate false 0

/-- Start an operation of a ready core. -/
def startReady (digests : Digests) (core : Core) (ambient : Ambient) (operation : Operation) :
    Core × Option CoreError :=
  match core.requireReady with
  | some error => (core, some error)
  | none => core.startOperation digests ambient operation true 0

def startChannel (digests : Digests) (core : Core) (ambient : Ambient) : Core × Option CoreError :=
  core.startReady digests ambient .channel

def startPermission (digests : Digests) (core : Core) (ambient : Ambient) : Core × Option CoreError :=
  core.startReady digests ambient .permission

/-- Take the next packet. One that is too long for the caller's buffer is lost. -/
def pullControl (core : Core) : Core × Except CoreError (Option Control) :=
  match core.controls with
  | [] => (core, .ok none)
  | control :: rest =>
    let core := { core with controls := rest }
    if control.packet.length > 1024 then (core, .error .bufferTooSmall) else (core, .ok (some control))

def pullEvent (core : Core) : Core × Option NativeEvent :=
  ({ core with events := core.events.tail }, core.events.head?)

/-- Shut down. An allocation is given back, and a request for one that is still pending goes on. -/
def gracefulShutdown (digests : Digests) (core : Core) (ambient : Ambient) : Core × Option CoreError :=
  if core.destroyed ∨ core.shuttingDown then (core, none)
  else
    let core := { core with
      shuttingDown := true
      channel := none
      maintenanceRefresh := none
      permissionRetry := none
      channelRetry := none
      keepalive := none
      controls := [] }
    if core.state = .ready ∨ (core.state = .destroying ∧ core.allocationExpiresAt.isSome) then
      ({ core with pending := [] }.setState .deallocating).startOperation digests ambient .deallocate true 0
    else if core.state ≠ .allocating then ({ core with pending := [] }, none)
    else (core, none)

/-- Stop at once. -/
def forceDestroy (core : Core) (status : Status) : Core :=
  if core.destroyed then core
  else
    ({ core with destroyed := true, controls := [], pending := [] }.setState .destroying).pushEvent
      { kind := .forcedDestroy, status := status, state := .destroying }

end Core

/-- A call of the core. -/
inductive Call
  | startAllocation
  | startChannel
  | startPermission
  | inputStun (packet : List UInt8)
  | poll
  | pullControl
  | pullEvent
  | gracefulShutdown
  | forceDestroy (status : Status)
deriving DecidableEq, Repr

/-- What a call returns. -/
inductive Answer
  | result (error : Option CoreError)
  | status (status : Status)
  | deadline (result : Except CoreError (Option Nat))
  | control (result : Except CoreError (Option Control))
  | event (event : Option NativeEvent)

/-- A call of the core and what it meets. -/
def Core.step (digests : Digests) (core : Core) : Call × Ambient → Core × Answer
  | (.startAllocation, ambient) => (core.startAllocation digests ambient).map id .result
  | (.startChannel, ambient) => (core.startChannel digests ambient).map id .result
  | (.startPermission, ambient) => (core.startPermission digests ambient).map id .result
  | (.inputStun packet, ambient) => (core.inputStun digests ambient packet).map id .status
  | (.poll, ambient) => (core.poll digests ambient).map id .deadline
  | (.pullControl, _) => core.pullControl.map id .control
  | (.pullEvent, _) => core.pullEvent.map id .event
  | (.gracefulShutdown, ambient) => (core.gracefulShutdown digests ambient).map id .result
  | (.forceDestroy status, _) => (core.forceDestroy status, .result none)

end Csqtt.Turn
