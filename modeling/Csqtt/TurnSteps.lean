import Csqtt.Runs
import Csqtt.TurnCore
import Mathlib.Logic.Relation

/-!
# What the functions of the TURN core do

Most of what the core does is to queue packets and events. The queues decide nothing, so what a
function does is said here up to its queues: `Requeued` relates two cores that differ in their
queues only.

There is one relation for each way in which a request can go on. `Started` lists what becomes of
starting one, `Failed` what becomes of a core after a failure, `Succeeded` after a success, and
`Received` what a packet does to a core. `Change` lists the changes that calls consist of: each call
is a chain of them, and a packet is one of them. What holds of every run is derived from these
relations alone.
-/

namespace Csqtt.Turn

open Bytes Stun Engine List Turn.Core Option Attribute

/-- What a core is created from. -/
structure Created (core : Core) : Prop where
  fresh : ∃ server username password peer profile transport,
    core = fresh server username password peer profile transport
  short : core.username.length ≤ 512

variable {core after other : Core} {ambient : Ambient} {digests : Digests} {operation : Operation}

theorem Created.of_create {server peer : SocketAddr} {username password : List UInt8}
    {profile : CsqttTurnProfile} {transport : TurnControlTransport}
    (created : create server username password peer profile transport = .ok core) :
    Created core := by
  unfold create at created
  split at created
  · cases created
  split at created
  · cases created
  rename_i usable
  cases created
  rw [not_or, not_or, Nat.not_lt] at usable
  exact ⟨⟨_, _, _, _, _, _, rfl⟩, usable.2.1⟩

/-! ## Queues -/

/-- Only the queues differ. -/
def Requeued (before after : Core) : Prop :=
  ∃ controls events, after = { before with controls := controls, events := events }

namespace Requeued

theorem refl (core : Core) : Requeued core core := ⟨core.controls, core.events, rfl⟩

theorem trans {first second third : Core} (before : Requeued first second)
    (after : Requeued second third) : Requeued first third := by
  obtain ⟨_, _, rfl⟩ := before
  obtain ⟨controls, events, rfl⟩ := after
  exact ⟨controls, events, rfl⟩

variable (core : Core)

theorem pushEvent (event : NativeEvent) : Requeued core (core.pushEvent event) := by
  unfold Core.pushEvent
  split
  · exact ⟨_, _, rfl⟩
  · exact ⟨_, _, rfl⟩

theorem setState (state : State) : Requeued { core with state := state } (core.setState state) := by
  unfold Core.setState
  split
  · rename_i same
    subst same
    exact refl core
  · exact pushEvent { core with state := state } _

theorem queuePacket (packet : List UInt8) : Requeued core (core.queuePacket packet) := by
  unfold Core.queuePacket
  split
  · obtain ⟨controls, events, same⟩ := pushEvent { core with controls := core.controls.tail }
      { kind := .controlOverflow, status := .bufferTooSmall, dropped := 1 }
    rw [same]
    exact ⟨_, _, rfl⟩
  · exact ⟨_, _, rfl⟩

theorem removeQueuedTransaction (transaction : Transaction) :
    Requeued core (core.removeQueuedTransaction transaction) :=
  ⟨_, _, rfl⟩

theorem complete (operation : Operation) (status : Status) (stunCode : Nat) :
    Requeued core (core.complete operation status stunCode) :=
  pushEvent core _

theorem queueKeepalive : Requeued core core.queueKeepalive := by
  unfold Core.queueKeepalive
  split
  · exact refl core
  · exact queuePacket core _

end Requeued

/-! ## Starting requests -/

/-- Realm, nonce and key are known. -/
structure Core.Authorized (core : Core) : Prop where
  realm : core.realm.isSome
  nonce : core.nonce.isSome
  key : core.key.isSome

/-- A request that was just made. -/
def Core.request (core : Core) (ambient : Ambient) (operation : Operation) (packet : List UInt8)
    (authenticated : Bool) (nonceRetries : Nat) : Pending where
  operation := operation
  transaction := ambient.transaction operation
  packet := packet
  nextAttempt := ambient.clock operation + core.transactionTimeout
  rto := initialRto
  transmissions := 1
  nonceRetries := nonceRetries
  authenticated := authenticated

/-- What becomes of starting an operation: there is a request already, none can be made, or there is
a new one. -/
inductive Started (digests : Digests) (ambient : Ambient) (operation : Operation)
    (authenticated : Bool) (nonceRetries : Nat) (core : Core) : Core → Option CoreError → Prop
  | already {after : Core} (pending : core.hasOperation operation = true)
      (same : Requeued core after) :
      Started digests ambient operation authenticated nonceRetries core after none
  | failed {after : Core} {error : CoreError} (missing : core.hasOperation operation = false)
      (blocked : (authenticated = true ∧ ¬core.Authorized) ∨
        core.buildRequest digests operation (ambient.transaction operation) authenticated = .error error)
      (same : Requeued core after) :
      Started digests ambient operation authenticated nonceRetries core after (some error)
  | started {after : Core} {packet : List UInt8} (missing : core.hasOperation operation = false)
      (authorized : authenticated = true → core.Authorized)
      (same : Requeued { core with pending := core.pending ++
        [core.request ambient operation packet authenticated nonceRetries] } after) :
      Started digests ambient operation authenticated nonceRetries core after none

section Starting

variable {authenticated : Bool} {nonceRetries : Nat} {result : Option CoreError}

theorem Core.startOperation_started (digests : Digests) (core : Core) (ambient : Ambient)
    (operation : Operation) (authenticated : Bool) (nonceRetries : Nat) :
    Started digests ambient operation authenticated nonceRetries core
      (core.startOperation digests ambient operation authenticated nonceRetries).1
      (core.startOperation digests ambient operation authenticated nonceRetries).2 := by
  unfold startOperation
  cases found : core.pending.find? fun pending => pending.operation == operation with
  | some pending =>
    have here : core.hasOperation operation = true := by
      rw [hasOperation, List.any_eq_true]
      refine ⟨pending, mem_of_find?_eq_some found, ?_⟩
      have isHere := find?_some found
      exact isHere
    dsimp only
    split
    · exact .already here (Requeued.queuePacket core _)
    · exact .already here (Requeued.refl core)
  | none =>
    have missing : core.hasOperation operation = false := by
      rw [hasOperation, List.any_eq_false]
      exact find?_eq_none.mp found
    dsimp only
    split
    · rename_i incomplete
      rw [Bool.and_eq_true, Bool.or_eq_true, Bool.or_eq_true] at incomplete
      refine .failed missing (.inl ⟨incomplete.1, fun authorized => ?_⟩) (Requeued.refl core)
      simp [isNone_iff_eq_none, isSome_iff_ne_none.mp authorized.realm,
        isSome_iff_ne_none.mp authorized.nonce, isSome_iff_ne_none.mp authorized.key]
        at incomplete
    · rename_i authorized
      split
      · rename_i error failed
        exact .failed missing (.inr failed) (Requeued.refl core)
      rename_i packet built
      have allowed : authenticated = true → core.Authorized := by
        rintro rfl
        simp only [Bool.true_and, Bool.or_eq_true, not_or, Bool.not_eq_true,
          isNone_eq_false_iff] at authorized
        exact ⟨authorized.1.1, authorized.1.2, authorized.2⟩
      obtain ⟨controls, events, same⟩ := Requeued.queuePacket core packet
      rw [same]
      exact .started missing allowed ⟨controls, events, rfl⟩

theorem Started.kept
    (started : Started digests ambient operation authenticated nonceRetries core after result) :
    ∃ pending, Requeued { core with pending := pending } after := by
  cases started with
  | already _ same | failed _ _ same => exact ⟨core.pending, same⟩
  | started _ _ same => exact ⟨_, same⟩

/-- The queues do not matter for starting. -/
theorem Started.of_requeued (same : Requeued core other)
    (started : Started digests ambient operation authenticated nonceRetries other after result) :
    Started digests ambient operation authenticated nonceRetries core after result := by
  obtain ⟨controls, events, rfl⟩ := same
  cases started with
  | already pending same => exact .already pending (.trans ⟨controls, events, rfl⟩ same)
  | failed missing blocked same =>
    refine .failed missing ?_ (.trans ⟨controls, events, rfl⟩ same)
    rcases blocked with ⟨isAuthenticated, unauthorized⟩ | failed
    · exact .inl ⟨isAuthenticated, fun authorized => unauthorized ⟨authorized.1, authorized.2, authorized.3⟩⟩
    · exact .inr failed
  | started missing authorized same =>
    refine .started missing (fun isAuthenticated => ?_) (.trans ⟨controls, events, rfl⟩ same)
    exact ⟨(authorized isAuthenticated).1, (authorized isAuthenticated).2, (authorized isAuthenticated).3⟩

end Starting

/-! ## Failures -/

/-- The allocation is given up. -/
def Core.gone (core : Core) (operation : Operation) : Core where
  __ := core
  pending := []
  channel := none
  allocationRefresh := none
  allocationExpiresAt := none
  maintenanceRefresh := none
  permissionRetry := none
  channelRetry := none
  keepalive := none
  relay := none
  state := if operation = .deallocate then .deallocated else .destroying

/-- The channel is given up. -/
def Core.channelGone (core : Core) (failures : Nat) : Core where
  __ := core
  pending := []
  channel := none
  maintenanceRefresh := none
  permissionRetry := none
  channelRetry := none
  keepalive := none
  channelFailures := failures
  state := .destroying

/-- The operation is tried again later. -/
def Core.retryAt (core : Core) (failures deadline : Nat) : Operation → Core
  | .refresh => { core with refreshFailures := failures, allocationRefresh := some deadline }
  | .permission => { core with permissionFailures := failures, permissionRetry := some deadline }
  | .channel => { core with channelFailures := failures, channelRetry := some deadline }
  | .allocate | .deallocate => core

/-- The allocation of a ready core lasts. -/
structure Core.Lasting (core : Core) (now : Nat) : Prop where
  ready : core.state = .ready
  lasts : core.allocationExpiresAt.any (now < ·) = true

/-- What becomes of a core after a failure. -/
inductive Failed (operation : Operation) (now : Nat) (core : Core) : Core → Prop
  | retried {after : Core} (failures : Nat) (repeats : operation.repeats = true)
      (lasting : core.Lasting now)
      (same : Requeued (core.retryAt failures (now + retryDelay failures) operation) after) :
      Failed operation now core after
  | exhausted {after : Core} (failures : Nat) (isChannel : operation = .channel)
      (lasting : core.Lasting now) (same : Requeued (core.channelGone failures) after) :
      Failed operation now core after
  | destroyed {after : Core} (final : ¬(operation.repeats = true ∧ core.Lasting now))
      (same : Requeued (core.gone operation) after) :
      Failed operation now core after

section Failing

variable {now : Nat}

theorem Core.destroyAllocation_gone (core : Core) (operation : Operation) (status : Status)
    (stunCode : Nat) :
    Requeued (core.gone operation) (core.destroyAllocation operation status stunCode) := by
  obtain ⟨controls, events, same⟩ := Requeued.complete core operation status stunCode
  unfold destroyAllocation
  rw [same]
  obtain ⟨controls, events, final⟩ := Requeued.setState _ _
  rw [final]
  exact ⟨controls, events, rfl⟩

theorem Core.destroyAfterChannelRebindExhausted_gone (core : Core) :
    Requeued (core.channelGone core.channelFailures) core.destroyAfterChannelRebindExhausted := by
  unfold destroyAfterChannelRebindExhausted
  obtain ⟨controls, events, final⟩ := Requeued.setState _ _
  rw [final]
  obtain ⟨controls, events, pushed⟩ := Requeued.pushEvent _ _
  rw [pushed]
  exact ⟨_, _, rfl⟩

theorem Core.scheduleMaintenanceRetry_cases (core : Core) (now : Nat)
    (repeats : operation.repeats = true) :
    (∃ failures, core.scheduleMaintenanceRetry operation now =
      (core.retryAt failures (now + retryDelay failures) operation, true)) ∨
    (operation = .channel ∧ ∃ failures, core.scheduleMaintenanceRetry operation now =
      ({ core with channelFailures := failures }, false)) := by
  cases operation with
  | refresh | permission => exact .inl ⟨_, rfl⟩
  | channel =>
    unfold scheduleMaintenanceRetry
    dsimp only
    split
    · exact .inr ⟨rfl, _, rfl⟩
    · exact .inl ⟨_, rfl⟩
  | allocate | deallocate => cases repeats

theorem Core.completeFailure_failed (core : Core) (operation : Operation) (status : Status)
    (stunCode now : Nat) :
    Failed operation now core (core.completeFailure operation status stunCode now) := by
  unfold completeFailure
  split
  · rename_i lasting
    obtain ⟨controls, events, same⟩ := Requeued.complete core operation status stunCode
    rw [same]
    rcases scheduleMaintenanceRetry_cases { core with controls := controls, events := events } now
      lasting.1 with ⟨failures, scheduled⟩ | ⟨isChannel, failures, scheduled⟩
    · rw [scheduled]
      refine .retried failures lasting.1 ⟨lasting.2.1, lasting.2.2⟩ ?_
      cases operation <;> exact ⟨controls, events, rfl⟩
    rw [scheduled]
    obtain ⟨controls, events, gone⟩ := destroyAfterChannelRebindExhausted_gone
      { core with controls := controls, events := events, channelFailures := failures }
    exact .exhausted failures isChannel ⟨lasting.2.1, lasting.2.2⟩ ⟨controls, events, gone⟩
  · rename_i final
    exact .destroyed (fun lasting => final ⟨lasting.1, lasting.2.1, lasting.2.2⟩)
      (core.destroyAllocation_gone operation status stunCode)

theorem Failed.gone (failed : Failed operation now core after) (final : operation.repeats = false) :
    Requeued (core.gone operation) after := by
  cases failed with
  | retried _ repeats _ _ => cases final.symm.trans repeats
  | exhausted _ isChannel _ _ =>
    subst isChannel
    cases final
  | destroyed _ same => exact same

theorem Failed.of_requeued (same : Requeued core other) (failed : Failed operation now other after) :
    Failed operation now core after := by
  obtain ⟨controls, events, rfl⟩ := same
  cases failed with
  | retried failures repeats lasting same =>
    refine .retried failures repeats ⟨lasting.1, lasting.2⟩ (.trans ?_ same)
    cases operation <;> exact ⟨controls, events, rfl⟩
  | exhausted failures isChannel lasting same =>
    exact .exhausted failures isChannel ⟨lasting.1, lasting.2⟩ (.trans ⟨controls, events, rfl⟩ same)
  | destroyed final same =>
    exact .destroyed (fun lasting => final ⟨lasting.1, lasting.2.1, lasting.2.2⟩)
      (.trans ⟨controls, events, rfl⟩ same)

end Failing

/-! ## Successes -/

/-- An allocation has its address, its lifetime and its timers. -/
def Core.granted (core : Core) (relay : SocketAddr) (returned : Option Nat) (now : Nat) : Core where
  __ := core.setLifetime returned now
  relay := some relay
  maintenanceRefresh := some (now + core.profile.maintenanceRefresh)
  keepalive := some (now + core.profile.keepaliveInterval)

/-- What becomes of a core after a success: nothing, if the response lacks something, and what the
operation was for otherwise. An allocation that comes too late is given back. -/
inductive Succeeded (digests : Digests) (ambient : Ambient) (message : Message) (core : Core) :
    Operation → Core → Option CoreError → Prop
  | malformed {operation : Operation} {after : Core} (error : CoreError) (same : Requeued core after) :
      Succeeded digests ambient message core operation after (some error)
  | allocated {after : Core} {relay : SocketAddr} (running : core.shuttingDown = false)
      (read : core.readRelay message = .ok relay)
      (same : Requeued { core.granted relay (attributeU32 message attrLifetime) ambient.now with
        state := .ready } after) :
      Succeeded digests ambient message core .allocate after none
  | late {after : Core} {result : Option CoreError} {relay : SocketAddr}
      (shuttingDown : core.shuttingDown = true) (read : core.readRelay message = .ok relay)
      (started : Started digests ambient .deallocate true 0
        { core.granted relay (attributeU32 message attrLifetime) ambient.now with
          state := .deallocating } after result) :
      Succeeded digests ambient message core .allocate after result
  | refreshed {after : Core}
      (same : Requeued (core.setLifetime (attributeU32 message attrLifetime) ambient.now) after) :
      Succeeded digests ambient message core .refresh after none
  | deallocated {after : Core}
      (same : Requeued { core with
        relay := none
        allocationRefresh := none
        allocationExpiresAt := none
        state := .deallocated } after) :
      Succeeded digests ambient message core .deallocate after none
  | permitted {after : Core} (same : Requeued { core with permissionFailures := 0 } after) :
      Succeeded digests ambient message core .permission after none
  | bound {after : Core}
      (same : Requeued { core with channel := some channelNumber, channelFailures := 0 } after) :
      Succeeded digests ambient message core .channel after none

theorem Core.allocated_granted (core : Core) (relay : SocketAddr) (returned : Option Nat) (now : Nat) :
    Requeued (core.granted relay returned now) (core.allocated relay returned now) := by
  unfold allocated
  obtain ⟨controls, events, same⟩ := Requeued.pushEvent _ _
  rw [same]
  exact ⟨controls, events, rfl⟩

theorem Core.completeSuccess_succeeded (digests : Digests) (core : Core) (ambient : Ambient)
    (operation : Operation) (message : Message) : Succeeded digests ambient message core operation
      (core.completeSuccess digests ambient operation message).1
      (core.completeSuccess digests ambient operation message).2 := by
  unfold completeSuccess
  cases operation with
  | allocate =>
    dsimp only
    split
    · exact .malformed _ (Requeued.refl core)
    rename_i relay read
    split
    · exact .malformed _ (Requeued.refl core)
    obtain ⟨controls, events, granted⟩ := core.allocated_granted relay
      (attributeU32 message attrLifetime) ambient.now
    rw [granted]
    split
    · rename_i shuttingDown
      refine .late shuttingDown read (Started.of_requeued (Requeued.trans ?_ (Requeued.setState _ _))
        (startOperation_started ..))
      exact ⟨controls, events, rfl⟩
    · rename_i running
      refine .allocated (Bool.not_eq_true _ ▸ running) read (Requeued.trans ?_ (Requeued.complete ..))
      obtain ⟨controls, events, same⟩ := Requeued.setState _ _
      exact ⟨controls, events, same⟩
  | refresh =>
    dsimp only
    split
    · exact .malformed _ (Requeued.refl core)
    · exact .refreshed (Requeued.complete ..)
  | deallocate =>
    dsimp only
    split
    · exact .malformed _ (Requeued.refl core)
    obtain ⟨controls, events, completed⟩ := Requeued.complete _ _ _ _
    rw [completed]
    obtain ⟨controls, events, same⟩ := Requeued.setState _ _
    exact .deallocated ⟨controls, events, same⟩
  | permission => exact .permitted (Requeued.complete ..)
  | channel =>
    refine .bound (Requeued.trans (Requeued.pushEvent _ _) (Requeued.complete ..))

/-! ## Packets from the server -/

/-- The request that a response belongs to is not pending any more. -/
def Core.without (core : Core) (message : Message) : Core :=
  { core with pending := core.pending.eraseP (answeredBy message) }

/-- A packet is a response to a pending request. -/
structure Answers (core : Core) (packet : List UInt8) (message : Message) (pending : Pending) :
    Prop where
  decoded : Message.decode packet = .ok message
  found : core.pending.find? (answeredBy message) = some pending

/-- A packet is a successful response to an authenticated request, and its integrity is that of the
core's key. -/
structure Authentic (digests : Digests) (core : Core) (packet : List UInt8) (message : Message)
    (pending : Pending) : Prop extends Answers core packet message pending where
  success : message.type = .success
  authenticated : pending.authenticated = true
  verified : verifyIntegrity digests packet message core.key = true

/-- What a packet does to a core, and what the core returns. -/
inductive Received (digests : Digests) (ambient : Ambient) (packet : List UInt8) (core : Core) :
    Core → Status → Prop
  | ignored {after : Core} {status : Status} (refused : status ≠ .success)
      (same : Requeued core after) :
      Received digests ambient packet core after status
  | unexpected {after : Core} {message : Message} {pending : Pending}
      (answers : Answers core packet message pending) (unauthenticated : pending.authenticated = false)
      (failed : Failed pending.operation ambient.now (core.without message) after) :
      Received digests ambient packet core after .authentication
  | refused {after : Core} {message : Message} {pending : Pending}
      (answers : Answers core packet message pending) (isError : message.type = .error)
      (failed : Failed pending.operation ambient.now (core.without message) after) :
      Received digests ambient packet core after .success
  | recreated {after : Core} {message : Message} {pending : Pending} {code : Nat}
      (answers : Answers core packet message pending) (isError : message.type = .error)
      (coded : errorCode message = some code)
      (recreates : requiresAllocationRecreate pending.operation code = true)
      (same : Requeued ((core.without message).gone pending.operation) after) :
      Received digests ambient packet core after .success
  | challenged {after : Core} {message : Message} {pending : Pending} {realm nonce : List UInt8}
      (answers : Answers core packet message pending) (isError : message.type = .error)
      (realmRead : (message.findAttribute attrRealm).map value = some realm ∨
        core.realm = some realm)
      (nonceRead : (message.findAttribute attrNonce).map value = some nonce)
      (started : Started digests ambient pending.operation true (pending.nonceRetries + 1)
        ((core.without message).setAuth digests realm nonce) after none) :
      Received digests ambient packet core after .success
  | stuck {middle after : Core} {message : Message} {pending : Pending} {realm nonce : List UInt8}
      {error : CoreError}
      (answers : Answers core packet message pending) (isError : message.type = .error)
      (realmRead : (message.findAttribute attrRealm).map value = some realm ∨
        core.realm = some realm)
      (nonceRead : (message.findAttribute attrNonce).map value = some nonce)
      (started : Started digests ambient pending.operation true (pending.nonceRetries + 1)
        ((core.without message).setAuth digests realm nonce) middle (some error))
      (failed : Failed pending.operation ambient.now middle after) :
      Received digests ambient packet core after .success
  | succeeded {after : Core} {message : Message} {pending : Pending}
      (authentic : Authentic digests core packet message pending)
      (succeeded : Succeeded digests ambient message (core.without message) pending.operation after none) :
      Received digests ambient packet core after .success
  | spoiled {middle after : Core} {message : Message} {pending : Pending} {error : CoreError}
      (authentic : Authentic digests core packet message pending)
      (succeeded : Succeeded digests ambient message (core.without message) pending.operation middle
        (some error))
      (failed : Failed pending.operation ambient.now middle after) :
      Received digests ambient packet core after .protocol

section Receiving

variable {packet : List UInt8} {message : Message} {pending : Pending}

/-- The queues do not matter for a success. -/
theorem Succeeded.of_requeued {result : Option CoreError} (same : Requeued core other)
    (succeeded : Succeeded digests ambient message other operation after result) :
    Succeeded digests ambient message core operation after result := by
  obtain ⟨controls, events, rfl⟩ := same
  cases succeeded with
  | malformed error same => exact .malformed error (.trans ⟨controls, events, rfl⟩ same)
  | allocated running read same => exact .allocated running read (.trans ⟨controls, events, rfl⟩ same)
  | late shuttingDown read started =>
    exact .late shuttingDown read (started.of_requeued ⟨controls, events, rfl⟩)
  | refreshed same => exact .refreshed (.trans ⟨controls, events, rfl⟩ same)
  | deallocated same => exact .deallocated (.trans ⟨controls, events, rfl⟩ same)
  | permitted same => exact .permitted (.trans ⟨controls, events, rfl⟩ same)
  | bound same => exact .bound (.trans ⟨controls, events, rfl⟩ same)

theorem Core.rejected_received (answers : Answers core packet message pending)
    (isError : message.type = .error) (same : Requeued (core.without message) other) :
    Received digests ambient packet core (other.rejected digests ambient pending message) .success := by
  have fails : ∀ (middle : Core) (event : NativeEvent) (stunCode : Nat),
      Failed pending.operation ambient.now middle
        ((middle.pushEvent event).completeFailure pending.operation .protocol stunCode ambient.now) :=
    fun middle event stunCode => Failed.of_requeued (Requeued.pushEvent middle event)
      (completeFailure_failed ..)
  have refused : ∀ (event : NativeEvent) (stunCode : Nat), Received digests ambient packet core
      ((other.pushEvent event).completeFailure pending.operation .protocol stunCode ambient.now)
      .success :=
    fun event stunCode => .refused answers isError ((fails other event stunCode).of_requeued same)
  unfold rejected
  dsimp only
  split
  · exact refused _ _
  rename_i coded
  split
  · rename_i recreates
    cases code : errorCode message with
    | none =>
      rw [code] at coded
      exact absurd rfl coded
    | some value =>
      rw [code, getD_some] at recreates
      refine .recreated answers isError code recreates (Requeued.trans ?_
        (destroyAllocation_gone ..))
      obtain ⟨_, _, rfl⟩ := same
      obtain ⟨controls, events, pushed⟩ := Requeued.pushEvent _ _
      rw [pushed]
      exact ⟨controls, events, rfl⟩
  · split
    · rename_i realm nonce realmRead nonceRead
      split
      · have known : (message.findAttribute attrRealm).map value = some realm ∨
            core.realm = some realm := by
          rw [or_eq_some_iff] at realmRead
          obtain ⟨_, _, rfl⟩ := same
          rcases realmRead with fromMessage | ⟨-, kept⟩
          · exact .inl fromMessage
          · split at kept
            · exact .inr kept
            · cases kept
        have restarted := startOperation_started digests
          (other.setAuth digests realm nonce) ambient pending.operation true (pending.nonceRetries + 1)
        have sameAuth : Requeued ((core.without message).setAuth digests realm nonce)
            (other.setAuth digests realm nonce) := by
          obtain ⟨controls, events, rfl⟩ := same
          exact ⟨controls, events, rfl⟩
        split
        · rename_i after result
          rw [result] at restarted
          exact .challenged answers isError known nonceRead (restarted.of_requeued sameAuth)
        rename_i middle error result
        rw [result] at restarted
        exact .stuck answers isError known nonceRead (restarted.of_requeued sameAuth)
          (fails middle _ _)
      · exact refused _ _
    · exact refused _ _

/-- A packet has one of these effects. -/
theorem Core.inputStun_received (digests : Digests) (core : Core) (ambient : Ambient)
    (packet : List UInt8) :
    Received digests ambient packet core (core.inputStun digests ambient packet).1
      (core.inputStun digests ambient packet).2 := by
  have ignored : ∀ status after, status ≠ Status.success → Requeued core after →
      Received digests ambient packet core after status :=
    fun _ _ => .ignored
  unfold inputStun
  split
  · exact ignored .invalidArgument core (by decide) (Requeued.refl core)
  rename_i message decoded
  split
  · exact ignored .notControl core (by decide) (Requeued.refl core)
  rename_i response
  split
  · exact ignored .invalidArgument core (by decide) (Requeued.refl core)
  split
  · exact ignored .notControl core (by decide) (Requeued.refl core)
  rename_i pending found
  have answers : Answers core packet message pending := ⟨decoded, found⟩
  split
  · split
    · exact ignored .authentication _ (by decide) (Requeued.pushEvent core _)
    · exact ignored .authentication core (by decide) (Requeued.refl core)
  rename_i verified
  have removed : Requeued (core.without message)
      ((core.without message).removeQueuedTransaction message.transaction) :=
    Requeued.removeQueuedTransaction _ _
  change Received digests ambient packet core
    (((core.without message).removeQueuedTransaction message.transaction).answered digests
      ambient pending message).1
    (((core.without message).removeQueuedTransaction message.transaction).answered digests
      ambient pending message).2
  generalize (core.without message).removeQueuedTransaction message.transaction = other at removed
  unfold answered
  split
  · rename_i unexpected
    have unauthenticated : pending.authenticated = false := by simpa using unexpected.2
    exact .unexpected answers unauthenticated
      (Failed.of_requeued removed (completeFailure_failed ..))
  · rename_i expected
    split
    · rename_i isError
      exact rejected_received answers isError removed
    rename_i notError
    have success : message.type = .success := by
      by_contra other
      exact response ⟨other, notError⟩
    have authenticated : pending.authenticated = true := by
      simpa [success] using expected
    have authentic : Authentic digests core packet message pending := by
      refine ⟨answers, success, authenticated, ?_⟩
      simpa [unverified, authenticated, responseRequiresIntegrity, success,
        isFingerprintedAllocationMismatch] using verified
    have done := completeSuccess_succeeded digests other ambient pending.operation message
    split
    · rename_i after result
      rw [result] at done
      exact .succeeded authentic (done.of_requeued removed)
    · rename_i middle error result
      rw [result] at done
      exact .spoiled authentic (done.of_requeued removed) (completeFailure_failed ..)

end Receiving

/-! ## Calls -/

/-- Neither shut down nor destroyed. -/
structure Core.IsOpen (core : Core) : Prop where
  running : core.shuttingDown = false
  intact : core.destroyed = false

/-- Shutting down stops the timers, except for the one of the allocation. -/
def Core.closing (core : Core) : Core where
  __ := core
  shuttingDown := true
  channel := none
  maintenanceRefresh := none
  permissionRetry := none
  channelRetry := none
  keepalive := none

/-- The core has an allocation that it can give back. -/
def Core.HoldsAllocation (core : Core) : Prop :=
  core.state = .ready ∨ (core.state = .destroying ∧ core.allocationExpiresAt.isSome)

/-- The changes that calls consist of. -/
inductive Change (digests : Digests) : Call × Ambient → Core → Core → Prop
  | requeued {input : Call × Ambient} {core after : Core} (same : Requeued core after) :
      Change digests input core after
  | opened {ambient : Ambient} {core after : Core} {result : Option CoreError}
      (isNull : core.state = .null) (isOpen : core.IsOpen)
      (started : Started digests ambient .allocate false 0 { core with state := .allocating } after
        result) :
      Change digests (.startAllocation, ambient) core after
  | asked {input : Call × Ambient} {core after : Core} {result : Option CoreError}
      {operation : Operation} (isReady : core.state = .ready)
      (optional : operation = .permission ∨ operation = .channel)
      (started : Started digests input.2 operation true 0 core after result) :
      Change digests input core after
  | received {ambient : Ambient} {packet : List UInt8} {core after : Core} {status : Status}
      (received : Received digests ambient packet core after status) :
      Change digests (.inputStun packet, ambient) core after
  | resent {ambient : Ambient} {core after : Core} {index : Nat} {pending : Pending}
      (here : core.pending[index]? = some pending)
      (same : Requeued { core with pending := core.pending.set index { pending with
        transmissions := pending.transmissions + 1
        rto := min (pending.rto * 2) maxRto
        nextAttempt := ambient.now + min (pending.rto * 2) maxRto } } after) :
      Change digests (.poll, ambient) core after
  | timedOut {ambient : Ambient} {core after : Core} {index : Nat} {pending : Pending}
      (here : core.pending[index]? = some pending)
      (failed : Failed pending.operation ambient.now
        { core with pending := core.pending.eraseIdx index } after) :
      Change digests (.poll, ambient) core after
  | expired {ambient : Ambient} {core after : Core} (isReady : core.state = .ready)
      (ended : due core.allocationExpiresAt ambient.now = true) (same : Requeued (core.gone .refresh) after) :
      Change digests (.poll, ambient) core after
  | renewed {ambient : Ambient} {core after : Core} {result : Option CoreError} {operation : Operation}
      (isReady : core.state = .ready) (repeats : operation.repeats = true)
      (started : Started digests ambient operation true 0 (core.disarm operation) after result) :
      Change digests (.poll, ambient) core after
  | rearmed {ambient : Ambient} {core : Core} (isReady : core.state = .ready) :
      Change digests (.poll, ambient) core
        { core with maintenanceRefresh := some (ambient.now + core.profile.maintenanceRefresh) }
  | keptAlive {ambient : Ambient} {core after : Core} (isReady : core.state = .ready)
      (same : Requeued { core with
        keepalive := some (ambient.now + core.profile.keepaliveInterval) } after) :
      Change digests (.poll, ambient) core after
  | released {ambient : Ambient} {core after : Core} {result : Option CoreError} (isOpen : core.IsOpen)
      (started : Started digests ambient .deallocate true 0
        { core.closing with pending := [], state := .deallocating } after result) :
      Change digests (.gracefulShutdown, ambient) core after
  | closed {ambient : Ambient} {core after : Core} (holdsNone : ¬core.HoldsAllocation)
      (same : Requeued { core.closing with
        pending := if core.state = .allocating then core.pending else [] } after) :
      Change digests (.gracefulShutdown, ambient) core after
  | forced {ambient : Ambient} {status : Status} {core after : Core}
      (same : Requeued { core with destroyed := true, pending := [], state := .destroying } after) :
      Change digests (.forceDestroy status, ambient) core after

/-- A chain of changes. -/
abbrev Changes (digests : Digests) (input : Call × Ambient) : Core → Core → Prop :=
  Relation.ReflTransGen (Change digests input)

section Calling

theorem Core.requireOpen_eq_none (isOpen : core.requireOpen = none) : core.IsOpen := by
  unfold requireOpen at isOpen
  split at isOpen
  · cases isOpen
  · rename_i open_
    rw [not_or, Bool.not_eq_true, Bool.not_eq_true] at open_
    exact ⟨open_.2, open_.1⟩

theorem Core.startAllocation_changes (digests : Digests) (core : Core) (ambient : Ambient) :
    Changes digests (.startAllocation, ambient) core (core.startAllocation digests ambient).1 := by
  unfold startAllocation
  split
  · exact .refl
  rename_i isOpen
  split
  · exact .refl
  · rename_i isNull
    refine .single (.opened (not_not.mp isNull) (requireOpen_eq_none isOpen)
      (Started.of_requeued (Requeued.setState core .allocating) (startOperation_started ..)))

theorem Core.startReady_changes (digests : Digests) (core : Core) (input : Call × Ambient)
    (optional : operation = .permission ∨ operation = .channel) :
    Changes digests input core (core.startReady digests input.2 operation).1 := by
  unfold startReady
  split
  · exact .refl
  rename_i allowed
  rw [requireReady, or_eq_none_iff] at allowed
  obtain ⟨_, isReady⟩ := allowed
  split at isReady
  · cases isReady
  · rename_i ready
    exact .single (.asked (not_not.mp ready) optional (startOperation_started ..))

/-- Requests without a response, one after the other. -/
theorem Core.expireFrom_changes (digests : Digests) (ambient : Ambient) (rounds index : Nat)
    (core : Core) :
    Changes digests (.poll, ambient) core (expireFrom ambient.now rounds index core) := by
  induction rounds generalizing index core with
  | zero => exact .refl
  | succ rounds ih =>
    unfold expireFrom
    split
    · exact .refl
    rename_i pending here
    split
    · exact ih (index + 1) core
    split
    · have failed : Failed pending.operation ambient.now
          { core with pending := core.pending.eraseIdx index } _ :=
        Failed.of_requeued (Requeued.removeQueuedTransaction _ pending.transaction)
          (completeFailure_failed _ pending.operation .timeout 0 ambient.now)
      exact .head (.timedOut here failed) (ih index _)
    · obtain ⟨controls, events, queued⟩ := Requeued.queuePacket core pending.packet
      refine .head (.resent here ?_) (ih (index + 1) _)
      rw [queued]
      exact ⟨controls, events, rfl⟩

theorem Core.expireAllocation_changes (digests : Digests) (ambient : Ambient) (core : Core) :
    Changes digests (.poll, ambient) core (core.expireAllocation ambient.now) := by
  unfold expireAllocation
  split
  · rename_i ended
    exact .single (.expired ended.2.1 ended.2.2 (core.destroyAllocation_gone ..))
  · exact .refl

/-- A chain of changes that leaves the state and the lifetime alone. -/
structure Upkept (digests : Digests) (ambient : Ambient) (before after : Core) : Prop where
  changes : Changes digests (.poll, ambient) before after
  state : after.state = before.state
  expiry : after.allocationExpiresAt = before.allocationExpiresAt

theorem Upkept.refl (core : Core) : Upkept digests ambient core core := ⟨.refl, rfl, rfl⟩

theorem Upkept.trans {first second third : Core} (before : Upkept digests ambient first second)
    (after : Upkept digests ambient second third) : Upkept digests ambient first third where
  changes := before.changes.trans after.changes
  state := after.state.trans before.state
  expiry := after.expiry.trans before.expiry

section Upkeep

variable (isReady : core.state = .ready)
include isReady

theorem Core.startDue_upkept (repeats : operation.repeats = true) (isDue : Bool) :
    Upkept digests ambient core (core.startDue digests ambient operation isDue).1 := by
  have done : Upkept digests ambient core
      (startOperation digests (core.disarm operation) ambient operation true 0).1 := by
    have started := startOperation_started digests (core.disarm operation) ambient operation true 0
    have changes := Relation.ReflTransGen.single (Change.renewed isReady repeats started)
    obtain ⟨pending, controls, events, same⟩ := started.kept
    rw [same] at changes ⊢
    cases operation <;> exact ⟨changes, rfl, rfl⟩
  unfold startDue
  split
  · split
    · rename_i after result
      rw [result] at done
      exact done
    · rename_i after error result
      rw [result] at done
      exact done
  · exact .refl core

theorem Core.renewMaintenance_upkept (isDue : Bool) :
    Upkept digests ambient core (core.renewMaintenance isDue ambient.now) := by
  unfold renewMaintenance
  split
  · exact ⟨.single (.rearmed isReady), rfl, rfl⟩
  · exact .refl core

theorem Core.keepAlive_upkept (controlStarted : Bool) :
    Upkept digests ambient core (core.keepAlive ambient.now controlStarted) := by
  have kept : ∀ after, Requeued { core with
      keepalive := some (ambient.now + core.profile.keepaliveInterval) } after →
      Upkept digests ambient core after := by
    intro after same
    have changes : Changes digests (.poll, ambient) core after := .single (.keptAlive isReady same)
    obtain ⟨controls, events, rfl⟩ := same
    exact ⟨changes, rfl, rfl⟩
  unfold keepAlive
  split
  · dsimp only
    split
    · exact kept _ (Requeued.refl _)
    · exact kept _ (Requeued.queueKeepalive _)
  · exact .refl core

/-- The maintenance of a ready core. -/
theorem Core.maintain_upkept : Upkept digests ambient core (core.maintain digests ambient).1 := by
  have refreshed : Upkept digests ambient core
      (core.startDue digests ambient .refresh (due core.allocationRefresh ambient.now)).1 :=
    startDue_upkept isReady rfl _
  unfold maintain
  dsimp only
  split
  · rename_i second error result
    rw [result] at refreshed
    exact refreshed
  rename_i second refreshStarted result
  rw [result] at refreshed
  have ready := refreshed.state.trans isReady
  have renewed : Upkept digests ambient second
      (second.renewMaintenance (due core.maintenanceRefresh ambient.now) ambient.now) :=
    renewMaintenance_upkept ready _
  have permitted : Upkept digests ambient _
      ((second.renewMaintenance (due core.maintenanceRefresh ambient.now) ambient.now).startDue digests
        ambient .permission (due core.maintenanceRefresh ambient.now ||
          due core.permissionRetry ambient.now)).1 :=
    startDue_upkept (renewed.state.trans ready) rfl _
  have soFar := (refreshed.trans renewed).trans permitted
  split
  · rename_i third error result
    rw [result] at soFar
    exact soFar
  rename_i third permissionStarted result
  rw [result] at soFar
  have ready := soFar.state.trans isReady
  have bound : Upkept digests ambient third (third.startDue digests ambient .channel
      (due core.maintenanceRefresh ambient.now || due core.channelRetry ambient.now)).1 :=
    startDue_upkept ready rfl _
  split
  · rename_i fourth error result
    rw [result] at bound
    exact soFar.trans bound
  rename_i fourth channelStarted result
  rw [result] at bound
  exact (soFar.trans bound).trans (keepAlive_upkept (bound.state.trans ready) _)

end Upkeep

theorem Core.expireAllocation_lasts (core : Core) (now : Nat)
    (isReady : (core.expireAllocation now).state = .ready)
    (running : (core.expireAllocation now).shuttingDown = false) :
    due (core.expireAllocation now).allocationExpiresAt now = false := by
  unfold expireAllocation at isReady running ⊢
  split at isReady
  · obtain ⟨controls, events, gone⟩ := core.destroyAllocation_gone .refresh .timeout 0
    rw [gone] at isReady
    cases isReady
  rename_i lasting
  rw [if_neg lasting] at running ⊢
  by_contra ended
  exact lasting ⟨by rw [running]; rfl, isReady, Bool.not_eq_false _ ▸ ended⟩

/-- A poll is a chain of changes. If it leaves a core that is ready and not shutting down, its
allocation lasts longer. -/
theorem Core.poll_changes (digests : Digests) (core : Core) (ambient : Ambient) :
    Changes digests (.poll, ambient) core (core.poll digests ambient).1 ∧
      (core.destroyed = false → (core.poll digests ambient).1.state = .ready →
        (core.poll digests ambient).1.shuttingDown = false →
          due (core.poll digests ambient).1.allocationExpiresAt ambient.now = false) := by
  have settled : Changes digests (.poll, ambient) core
      ((core.expireTransactions ambient.now).expireAllocation ambient.now) :=
    (core.expireFrom_changes digests ambient _ _).trans (expireAllocation_changes digests ambient _)
  have lasts := expireAllocation_lasts (core.expireTransactions ambient.now) ambient.now
  unfold poll
  dsimp only
  split
  · rename_i destroyed
    exact ⟨.refl, fun intact => absurd (destroyed.symm.trans intact) (by decide)⟩
  generalize (core.expireTransactions ambient.now).expireAllocation ambient.now = middle at settled lasts
  by_cases ready : !middle.shuttingDown ∧ middle.state = .ready
  · have running : middle.shuttingDown = false := by simpa using ready.1
    have upkept : Upkept digests ambient middle (middle.maintain digests ambient).1 :=
      maintain_upkept ready.2
    rw [if_pos ready]
    have lasting : due (middle.maintain digests ambient).1.allocationExpiresAt ambient.now = false := by
      rw [upkept.expiry]
      exact lasts ready.2 running
    split
    · rename_i after error result
      rw [result] at upkept lasting
      exact ⟨settled.trans upkept.changes, fun _ _ _ => lasting⟩
    · rename_i after result
      rw [result] at upkept lasting
      exact ⟨settled.trans upkept.changes, fun _ _ _ => lasting⟩
  · rw [if_neg ready]
    exact ⟨settled, fun _ => lasts⟩

theorem Core.gracefulShutdown_changes (digests : Digests) (core : Core) (ambient : Ambient) :
    Changes digests (.gracefulShutdown, ambient) core (core.gracefulShutdown digests ambient).1 := by
  unfold gracefulShutdown
  dsimp only
  split
  · exact .refl
  rename_i isOpen
  rw [not_or, Bool.not_eq_true, Bool.not_eq_true] at isOpen
  split
  · refine .single (.released ⟨isOpen.2, isOpen.1⟩ (Started.of_requeued ?_
      (startOperation_started ..)))
    obtain ⟨controls, events, same⟩ := Requeued.setState _ _
    rw [same]
    exact ⟨controls, events, rfl⟩
  · rename_i holdsNone
    refine .single (.closed holdsNone ?_)
    by_cases allocating : core.state = .allocating
    · rw [if_neg (not_not.mpr allocating), if_pos allocating]
      exact ⟨_, _, rfl⟩
    · rw [if_pos allocating, if_neg allocating]
      exact ⟨_, _, rfl⟩

theorem Core.forceDestroy_changes (digests : Digests) (core : Core) (status : Status)
    (ambient : Ambient) :
    Changes digests (.forceDestroy status, ambient) core (core.forceDestroy status) := by
  unfold forceDestroy
  split
  · exact .refl
  refine .single (.forced (Requeued.trans ?_ (Requeued.pushEvent _ _)))
  obtain ⟨controls, events, same⟩ := Requeued.setState _ _
  rw [same]
  exact ⟨controls, events, rfl⟩

theorem Core.pullControl_requeued (core : Core) : Requeued core core.pullControl.1 := by
  unfold pullControl
  split
  · exact Requeued.refl core
  dsimp only
  split
  · exact ⟨_, _, rfl⟩
  · exact ⟨_, _, rfl⟩

theorem Core.step_changes (digests : Digests) (core : Core) (input : Call × Ambient) :
    Changes digests input core (core.step digests input).1 := by
  obtain ⟨call, ambient⟩ := input
  cases call with
  | startAllocation => exact core.startAllocation_changes digests ambient
  | startChannel => exact core.startReady_changes digests (.startChannel, ambient) (.inr rfl)
  | startPermission => exact core.startReady_changes digests (.startPermission, ambient) (.inl rfl)
  | inputStun packet => exact .single (.received (core.inputStun_received digests ambient packet))
  | poll => exact (core.poll_changes digests ambient).1
  | pullControl => exact .single (.requeued core.pullControl_requeued)
  | pullEvent => exact .single (.requeued ⟨_, _, rfl⟩)
  | gracefulShutdown => exact core.gracefulShutdown_changes digests ambient
  | forceDestroy status => exact core.forceDestroy_changes digests status ambient

/-- What every change keeps, a call keeps. -/
theorem Core.step_of_change {input : Call × Ambient} {holds : Core → Prop}
    (kept : ∀ {core after}, holds core → Change digests input core after → holds after)
    (atFirst : holds core) : holds (core.step digests input).1 := by
  have changes := core.step_changes digests input
  generalize (core.step digests input).1 = after at changes ⊢
  induction changes with
  | refl => exact atFirst
  | tail _ change ih => exact kept ih change

theorem Core.throughout_of_change (digests : Digests) {holds : Core → Prop}
    {allowed : Call × Ambient → Prop}
    (kept : ∀ {input core after}, allowed input → holds core → Change digests input core after →
      holds after) (atFirst : holds core) (inputs : List (Call × Ambient))
    (all : ∀ input ∈ inputs, allowed input) : Runs.Throughout (step digests) holds core inputs := by
  refine Runs.throughout_of_step (step digests) holds allowed ?_ core inputs atFirst all
  exact fun _ _ here isAllowed => step_of_change (kept isAllowed) here

end Calling

end Csqtt.Turn
