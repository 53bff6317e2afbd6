import Csqtt.TurnIntegrity
import Csqtt.TurnMaintenance

/-!
# Giving allocations back

The server keeps an allocation until its lifetime is over, so a core that shuts down earlier should
give it back. What a core knows of its allocation when it shuts down is the end of the lifetime: it is
kept while the core is ready, and also when the core gives its channel up.

It is lost, though, if the server refuses to bind the channel as a bad request. The core then forgets
the whole allocation, as it does if the server has none for it. If that does not happen, if nobody
destroys the core by force, and if packets are short, then every allocation is given back that lasts
when the core shuts down.
-/

namespace Csqtt.Turn

open Bytes Stun Engine List Runs Bool Turn.Core Option

/-! ## Statement -/

/-- The end of the lifetime that a run has recorded last, in the states that follow its calls. -/
def lastLifetime (digests : Digests) : Core → List (Call × Ambient) → Option Nat
  | core, [] => core.allocationExpiresAt
  | core, input :: rest =>
    (lastLifetime digests (core.step digests input).1 rest).or core.allocationExpiresAt

/-- The request that gives the allocation back is queued. -/
def QueuesDeallocation (digests : Digests) (ambient : Ambient) (before after : Core) : Prop :=
  ∃ packet, before.buildRequest digests .deallocate (ambient.transaction .deallocate) true = .ok packet ∧
    ⟨packet, before.server⟩ ∈ after.controls

/-- A call does not make the core forget an allocation that lasts. -/
structure Spares (core : Core) (input : Call × Ambient) : Prop where
  fits : input.1.Fits
  unforced : ∀ status, input.1 ≠ .forceDestroy status
  known : ∀ packet message pending, input.1 = .inputStun packet →
    Answers core packet message pending → message.type = .error → errorCode message ≠ some 437
  bound : ∀ packet message pending, input.1 = .inputStun packet →
    Answers core packet message pending → message.type = .error →
      ¬(pending.operation = .channel ∧ errorCode message = some 400)

/-! ## Shutting down is final -/

section Cores

variable {after core other : Core} {ambient : Ambient} {digests : Digests} {input : Call × Ambient}
  {now : Nat} {operation : Operation} {packet : List UInt8} {result : Option CoreError}
  {status : Status} {calls : List (Call × Ambient)}

section Flags

/-- A failed operation does not begin or end the shutdown. -/
theorem Failed.shuttingDown_eq (failed : Failed operation now core after) :
    after.shuttingDown = core.shuttingDown := by
  cases failed with
  | retried failures repeats lasting same =>
    obtain ⟨_, _, rfl⟩ := same
    cases operation <;> rfl
  | exhausted failures isChannel lasting same | destroyed final same =>
    obtain ⟨_, _, rfl⟩ := same
    rfl

theorem Started.shuttingDown_eq {authenticated : Bool} {nonceRetries : Nat}
    (started : Started digests ambient operation authenticated nonceRetries core after result) :
    after.shuttingDown = core.shuttingDown := by
  obtain ⟨_, _, _, rfl⟩ := started.kept
  rfl

theorem Received.shuttingDown_eq (received : Received digests ambient packet core after status) :
    after.shuttingDown = core.shuttingDown := by
  cases received with
  | ignored _ same | recreated _ _ _ _ same =>
    obtain ⟨_, _, rfl⟩ := same
    rfl
  | unexpected _ _ failed | refused _ _ failed => exact failed.shuttingDown_eq
  | challenged _ _ _ _ started => exact started.shuttingDown_eq
  | stuck _ _ _ _ started failed => exact failed.shuttingDown_eq.trans started.shuttingDown_eq
  | succeeded _ succeeded => exact succeeded.flags_eq.2
  | spoiled _ succeeded failed => exact failed.shuttingDown_eq.trans succeeded.flags_eq.2

theorem Change.shuttingDown (change : Change digests input core after)
    (shuttingDown : core.shuttingDown = true) : after.shuttingDown = true := by
  cases change with
  | requeued same | resent _ same | expired _ _ same | keptAlive _ same | forced same =>
    obtain ⟨_, _, rfl⟩ := same
    exact shuttingDown
  | opened _ _ started | asked _ _ started => exact started.shuttingDown_eq.trans shuttingDown
  | received received => exact received.shuttingDown_eq.trans shuttingDown
  | timedOut _ failed => exact failed.shuttingDown_eq.trans shuttingDown
  | renewed isReady repeats started =>
    rename_i operation
    rw [started.shuttingDown_eq]
    cases operation <;> exact shuttingDown
  | rearmed _ => exact shuttingDown
  | released _ started => exact started.shuttingDown_eq
  | closed _ same =>
    obtain ⟨_, _, rfl⟩ := same
    rfl

theorem Core.run_shuttingDown (digests : Digests) (calls : List (Call × Ambient))
    (shuttingDown : core.shuttingDown = true) :
    (final (Core.step digests) core calls).shuttingDown = true := by
  induction calls generalizing core with
  | nil => exact shuttingDown
  | cons input rest ih =>
    exact ih (step_of_change (fun closing change => change.shuttingDown closing) shuttingDown)

end Flags

/-! ## Who has an allocation -/

/-- A core that knows the end of a lifetime can give the allocation back. -/
structure Leased (core : Core) : Prop where
  intact : core.destroyed = false
  authorized : core.allocationExpiresAt.isSome → core.Authorized
  held : core.allocationExpiresAt.isSome → core.HoldsAllocation ∨ core.shuttingDown = true

namespace Leased

variable {message : Message} {pending : Pending}

theorem free (intact : core.destroyed = false) (none : core.allocationExpiresAt = none) : Leased core := by
  refine ⟨intact, fun isSome => ?_, fun isSome => ?_⟩
  · rw [none] at isSome
    cases isSome
  · rw [none] at isSome
    cases isSome

theorem alike (leased : Leased core)
    (same : (after.destroyed, after.allocationExpiresAt, after.realm, after.nonce, after.key, after.state,
      after.shuttingDown) = (core.destroyed, core.allocationExpiresAt, core.realm, core.nonce, core.key,
        core.state, core.shuttingDown)) : Leased after := by
  simp only [Prod.mk.injEq] at same
  obtain ⟨destroyed, expiry, realm, nonce, key, state, shuttingDown⟩ := same
  refine ⟨destroyed.trans leased.intact, fun isSome => ?_, fun isSome => ?_⟩
  · rw [expiry] at isSome
    have authorized := leased.authorized isSome
    exact ⟨realm ▸ authorized.realm, nonce ▸ authorized.nonce, key ▸ authorized.key⟩
  · rw [expiry] at isSome
    rw [Core.HoldsAllocation, state, expiry, shuttingDown]
    exact leased.held isSome

theorem requeued (same : Requeued core after) (leased : Leased core) : Leased after := by
  obtain ⟨controls, events, rfl⟩ := same
  exact leased.alike rfl

theorem started {authenticated : Bool} {nonceRetries : Nat} (leased : Leased core)
    (started : Started digests ambient operation authenticated nonceRetries core after result) :
    Leased after := by
  obtain ⟨_, _, _, rfl⟩ := started.kept
  exact leased.alike rfl

theorem failed (leased : Leased core) (failed : Failed operation now core after) :
    Leased after := by
  cases failed with
  | retried failures repeats lasting same =>
    refine requeued same ?_
    cases operation <;> exact leased.alike rfl
  | exhausted failures isChannel lasting same =>
    refine requeued same ⟨leased.intact, fun isSome => ?_, fun isSome => .inl (.inr ⟨rfl, isSome⟩)⟩
    have authorized := leased.authorized isSome
    exact ⟨authorized.1, authorized.2, authorized.3⟩
  | destroyed final same => exact requeued same (free leased.intact rfl)

theorem owned (intact : other.destroyed = false) (authorized : other.Authorized)
    (held : other.state = .ready ∨ other.shuttingDown = true) : Leased other :=
  ⟨intact, fun _ => authorized, fun _ => held.imp_left .inl⟩

section

variable (leased : Leased core) (stable : Stable core) (ordered : Ordered core)

include leased stable ordered

theorem succeeded (found : core.pending.find? (answeredBy message) = some pending)
    (authenticated : pending.authenticated = true)
    (succeeded : Succeeded digests ambient message (core.without message) pending.operation after result) :
    Leased after := by
  have member := mem_of_find?_eq_some found
  have authorized := stable.credentials pending member authenticated
  have allowed := ordered.allowed pending member
  have removed : Leased (core.without message) := leased.alike rfl
  generalize isFor : pending.operation = operation at succeeded
  cases succeeded with
  | malformed error same => exact removed.requeued same
  | allocated running read same =>
    exact requeued same
      (owned leased.intact ⟨authorized.realm, authorized.nonce, authorized.key⟩ (.inl rfl))
  | late shuttingDown read started =>
    refine Leased.started ?_ started
    exact owned leased.intact ⟨authorized.realm, authorized.nonce, authorized.key⟩ (.inr shuttingDown)
  | refreshed same =>
    have isReady : core.state = .ready := allowed.ready (by rw [isFor]; rfl)
    exact requeued same
      (owned leased.intact ⟨authorized.realm, authorized.nonce, authorized.key⟩ (.inl isReady))
  | deallocated same => exact requeued same (free leased.intact rfl)
  | permitted same | bound same => exact requeued same (removed.alike rfl)

theorem received (received : Received digests ambient packet core after status) : Leased after := by
  have removed : ∀ message, Leased (core.without message) :=
    fun _ => leased.alike rfl
  have reauthorized : ∀ message realm nonce,
      Leased ((core.without message).setAuth digests realm nonce) :=
    fun _ _ _ => ⟨leased.intact, fun _ => ⟨rfl, rfl, rfl⟩, leased.held⟩
  cases received with
  | ignored refused same => exact leased.requeued same
  | unexpected answers _ failed | refused answers _ failed => exact (removed _).failed failed
  | recreated answers _ _ _ same => exact requeued same (free leased.intact rfl)
  | challenged answers _ _ _ started => exact (reauthorized _ _ _).started started
  | stuck answers _ _ _ started failed => exact ((reauthorized _ _ _).started started).failed failed
  | succeeded authentic succeeded =>
    exact leased.succeeded stable ordered authentic.found authentic.authenticated succeeded
  | spoiled authentic succeeded failed =>
    exact (leased.succeeded stable ordered authentic.found authentic.authenticated succeeded).failed failed

theorem change (unforced : ∀ status, input.1 ≠ .forceDestroy status)
    (change : Change digests input core after) : Leased after := by
  cases change with
  | requeued same => exact leased.requeued same
  | opened isNull isOpen started =>
    refine Leased.started ?_ started
    exact free leased.intact (ordered.bare (.inl isNull)).allocationExpiresAt
  | asked _ _ started => exact leased.started started
  | received received => exact leased.received stable ordered received
  | resent here same | keptAlive isReady same =>
    exact requeued same (leased.alike rfl)
  | timedOut here failed =>
    refine Leased.failed ?_ failed
    exact leased.alike rfl
  | expired isReady ended same => exact requeued same (free leased.intact rfl)
  | renewed isReady repeats started =>
    rename_i operation
    refine Leased.started ?_ started
    cases operation <;> exact leased.alike rfl
  | rearmed isReady => exact leased.alike rfl
  | released isOpen started =>
    refine Leased.started ?_ started
    refine ⟨leased.intact, fun isSome => ?_, fun _ => .inr rfl⟩
    have authorized := leased.authorized isSome
    exact ⟨authorized.1, authorized.2, authorized.3⟩
  | closed holdsNone same =>
    refine requeued same ⟨leased.intact, fun isSome => ?_, fun _ => .inr rfl⟩
    have authorized := leased.authorized isSome
    exact ⟨authorized.1, authorized.2, authorized.3⟩
  | forced same => exact absurd rfl (unforced _)

end

end Leased

/-! ## Allocations that last are not forgotten -/

section Lasting

variable {message : Message} {pending : Pending} {last : Nat}

theorem Leased.kept (leased : Leased core) (tended : Tended core) (spares : Spares other input)
    (change : Change digests input core after) : Leased after ∧ Tended after :=
  ⟨leased.change tended.stable tended.ordered spares.unforced change, tended.change spares.fits change⟩

theorem Leased.served (leased : Leased core) (ordered : Ordered core) (member : pending ∈ core.pending)
    (isSome : core.allocationExpiresAt.isSome) :
    (core.state = .ready ∧ pending.operation.repeats = true) ∨ core.shuttingDown = true := by
  have allowed := ordered.allowed pending member
  rcases leased.held isSome with (isReady | isDestroying) | shuttingDown
  · left
    rw [isReady] at allowed
    exact ⟨isReady, allowed.2⟩
  · rw [isDestroying.1] at allowed
    cases allowed
  · exact .inr shuttingDown

theorem Failed.lasts (failed : Failed operation now core after)
    (expiry : core.allocationExpiresAt = some last) (early : now < last)
    (served : (core.state = .ready ∧ operation.repeats = true) ∨ core.shuttingDown = true) :
    after.allocationExpiresAt = some last ∨ after.shuttingDown = true := by
  rcases served with ⟨isReady, repeats⟩ | shuttingDown
  · left
    cases failed with
    | retried failures _ lasting same =>
      obtain ⟨_, _, rfl⟩ := same
      cases operation <;> exact expiry
    | exhausted failures isChannel lasting same =>
      obtain ⟨_, _, rfl⟩ := same
      exact expiry
    | destroyed final same =>
      refine absurd ⟨repeats, isReady, ?_⟩ final
      rw [expiry]
      exact decide_eq_true early
  · exact .inr (failed.shuttingDown_eq.trans shuttingDown)

/-- What is no packet leaves an allocation alone that lasts. -/
theorem Change.lasts (change : Change digests input core after) (leased : Leased core)
    (ordered : Ordered core) (noPacket : ∀ packet, input.1 ≠ .inputStun packet)
    (expiry : core.allocationExpiresAt = some last) (early : input.2.now < last) :
    after.allocationExpiresAt = some last ∨ after.shuttingDown = true := by
  cases change with
  | requeued same | resent _ same | keptAlive _ same | forced same =>
    obtain ⟨_, _, rfl⟩ := same
    exact .inl expiry
  | opened _ _ started | asked _ _ started =>
    obtain ⟨_, _, _, rfl⟩ := started.kept
    exact .inl expiry
  | received received => exact absurd rfl (noPacket _)
  | timedOut here failed =>
    exact failed.lasts expiry early (leased.served ordered (mem_of_getElem? here) (expiry ▸ rfl))
  | expired isReady ended same =>
    rw [expiry] at ended
    exact absurd (of_decide_eq_true ended) (Nat.not_le_of_lt early)
  | renewed isReady repeats started =>
    rename_i operation
    obtain ⟨_, _, _, rfl⟩ := started.kept
    cases operation <;> exact .inl expiry
  | rearmed _ => exact .inl expiry
  | released _ started => exact .inr started.shuttingDown_eq
  | closed _ same =>
    obtain ⟨_, _, rfl⟩ := same
    exact .inr rfl

theorem Spares.not_recreated {code : Nat} (spares : Spares core (.inputStun packet, ambient))
    (answers : Answers core packet message pending) (isError : message.type = .error)
    (coded : errorCode message = some code) :
    requiresAllocationRecreate pending.operation code = false := by
  have known := spares.known packet message pending rfl answers isError
  have bound := spares.bound packet message pending rfl answers isError
  rw [coded, Option.some.injEq] at bound
  rw [coded, ne_eq, Option.some.injEq] at known
  simp only [requiresAllocationRecreate, or_eq_false_iff, and_eq_false_iff, beq_eq_false_iff_ne]
  exact ⟨known, not_and_or.mp bound⟩

/-- A packet leaves an allocation alone that lasts, or gives it another lifetime. -/
theorem Received.lasts (received : Received digests ambient packet core after status)
    (leased : Leased core) (ordered : Ordered core)
    (spares : Spares core (.inputStun packet, ambient))
    (expiry : core.allocationExpiresAt = some last) (early : ambient.now < last) :
    after.allocationExpiresAt.isSome ∨ after.shuttingDown = true := by
  have served : ∀ {message pending}, Answers core packet message pending →
      (core.state = .ready ∧ pending.operation.repeats = true) ∨ core.shuttingDown = true :=
    fun answers => leased.served ordered (mem_of_find?_eq_some answers.found) (expiry ▸ rfl)
  have some_or : ∀ {other : Core}, other.allocationExpiresAt = some last ∨ other.shuttingDown = true →
      other.allocationExpiresAt.isSome ∨ other.shuttingDown = true :=
    Or.imp_left fun same => isSome_iff_exists.mpr ⟨last, same⟩
  cases received with
  | ignored _ same =>
    obtain ⟨_, _, rfl⟩ := same
    exact .inl (expiry ▸ rfl)
  | unexpected answers _ failed | refused answers _ failed =>
    exact some_or (failed.lasts expiry early (served answers))
  | recreated answers isError coded recreates same =>
    rw [spares.not_recreated answers isError coded] at recreates
    cases recreates
  | challenged answers _ _ _ started =>
    obtain ⟨_, _, _, rfl⟩ := started.kept
    exact .inl (expiry ▸ rfl)
  | stuck answers _ _ _ started failed =>
    obtain ⟨_, _, _, rfl⟩ := started.kept
    exact some_or (failed.lasts expiry early (served answers))
  | succeeded authentic succeeded =>
    have isServed := served authentic.toAnswers
    have flags := succeeded.flags_eq
    rename_i message pending
    generalize pending.operation = operation at succeeded isServed
    cases succeeded with
    | allocated _ _ same | refreshed same =>
      obtain ⟨_, _, rfl⟩ := same
      exact .inl rfl
    | late shuttingDown _ _ => exact .inr (flags.2.trans shuttingDown)
    | deallocated same =>
      rcases isServed with ⟨_, repeats⟩ | shuttingDown
      · cases repeats
      · exact .inr (flags.2.trans shuttingDown)
    | permitted same | bound same =>
      obtain ⟨_, _, rfl⟩ := same
      exact .inl (expiry ▸ rfl)
  | spoiled authentic succeeded failed =>
    have isServed := served authentic.toAnswers
    have flags := succeeded.flags_eq
    rename_i middle message pending error
    generalize pending.operation = operation at succeeded isServed failed
    cases succeeded with
    | malformed _ same =>
      obtain ⟨_, _, rfl⟩ := same
      exact some_or (failed.lasts expiry early isServed)
    | late shuttingDown _ _ => exact .inr (failed.shuttingDown_eq.trans (flags.2.trans shuttingDown))

/-- A call leaves an allocation alone that lasts, gives it another lifetime, or shuts down. -/
theorem Core.step_lasts (digests : Digests) (core : Core) (input : Call × Ambient) (leased : Leased core)
    (tended : Tended core) (spares : Spares core input)
    (expiry : core.allocationExpiresAt = some last) (early : input.2.now < last) :
    (core.step digests input).1.allocationExpiresAt.isSome ∨
      (core.step digests input).1.shuttingDown = true := by
  obtain ⟨call, ambient⟩ := input
  by_cases isPacket : ∃ packet, call = .inputStun packet
  · obtain ⟨packet, rfl⟩ := isPacket
    exact (core.inputStun_received digests ambient packet).lasts leased tended.ordered spares expiry early
  have noPacket : ∀ packet, (call, ambient).1 ≠ .inputStun packet :=
    fun packet same => isPacket ⟨packet, same⟩
  let lasting (core : Core) : Prop := (Leased core ∧ Tended core) ∧
    (core.allocationExpiresAt = some last ∨ core.shuttingDown = true)
  have lasts : lasting (core.step digests (call, ambient)).1 := by
    refine step_of_change ?_ ⟨⟨leased, tended⟩, .inl expiry⟩
    rintro core after ⟨known, lasts⟩ change
    refine ⟨known.1.kept known.2 spares change, ?_⟩
    rcases lasts with expiry | shuttingDown
    · exact change.lasts known.1 known.2.ordered noPacket expiry early
    · exact .inr (change.shuttingDown shuttingDown)
  exact lasts.2.imp_left fun same => isSome_iff_exists.mpr ⟨last, same⟩

end Lasting

/-! ## Giving back -/

section Releasing

theorem Core.mem_queuePacket (core : Core) (packet : List UInt8) :
    ⟨packet, core.server⟩ ∈ (core.queuePacket packet).controls := by
  unfold queuePacket
  split
  · obtain ⟨_, _, pushed⟩ := Requeued.pushEvent { core with controls := core.controls.tail }
      { kind := .controlOverflow, status := .bufferTooSmall, dropped := 1 }
    rw [pushed]
    exact mem_append_right _ (mem_singleton.mpr rfl)
  · exact mem_append_right _ (mem_singleton.mpr rfl)

/-- Two cores make the same request to give an allocation back. -/
structure SameClient (core other : Core) : Prop where
  server : other.server = core.server
  username : other.username = core.username
  realm : other.realm = core.realm
  nonce : other.nonce = core.nonce
  key : other.key = core.key

theorem SameClient.requeued (same : Requeued other after) (client : SameClient core other) :
    SameClient core after := by
  obtain ⟨_, _, rfl⟩ := same
  exact ⟨client.server, client.username, client.realm, client.nonce, client.key⟩

theorem Requeued.pending_eq (same : Requeued core after) : after.pending = core.pending := by
  obtain ⟨_, _, rfl⟩ := same
  rfl

/-- The request to give an allocation back can be made, and is queued. -/
theorem SameClient.queues (client : SameClient core other)
    (brief : Brief core.username core.realm core.nonce) (authorized : core.Authorized)
    (missing : other.hasOperation .deallocate = false) : QueuesDeallocation digests ambient core
        (other.startOperation digests ambient .deallocate true 0).1 ∧
      (other.startOperation digests ambient .deallocate true 0).2 = none := by
  obtain ⟨packet, built⟩ : ∃ packet,
      core.buildRequest digests .deallocate (ambient.transaction .deallocate) true = .ok packet :=
    brief.buildRequest_ok digests .deallocate _ fun _ => authorized.key
  have builtToo : other.buildRequest digests .deallocate (ambient.transaction .deallocate) true =
      .ok packet := by
    rw [← built]
    simp only [buildRequest, requestAttributes, client.username, client.realm, client.nonce,
      client.key]
  have none : other.pending.find? (fun pending => pending.operation == .deallocate) = none := by
    rw [find?_eq_none]
    rw [hasOperation, List.any_eq_false] at missing
    exact missing
  have complete : ¬(true && (other.realm.isNone || other.nonce.isNone || other.key.isNone)) = true := by
    rw [client.realm, client.nonce, client.key]
    simp [isNone_iff_eq_none, isSome_iff_ne_none.mp authorized.realm,
      isSome_iff_ne_none.mp authorized.nonce, isSome_iff_ne_none.mp authorized.key]
  unfold startOperation
  rw [none]
  rw [if_neg complete, builtToo]
  refine ⟨⟨packet, built, ?_⟩, rfl⟩
  rw [← client.server]
  exact other.mem_queuePacket packet

theorem Core.gracefulShutdown_queues (brief : Brief core.username core.realm core.nonce)
    (authorized : core.Authorized) (isOpen : core.IsOpen) (holds : core.HoldsAllocation) :
    QueuesDeallocation digests ambient core (core.gracefulShutdown digests ambient).1 := by
  have notClosed : ¬(core.destroyed = true ∨ core.shuttingDown = true) := by
    simp [isOpen.intact, isOpen.running]
  rw [Core.HoldsAllocation] at holds
  unfold gracefulShutdown
  rw [if_neg notClosed]
  rw [if_pos holds]
  have same := Requeued.setState { core.closing with pending := [], controls := [] } .deallocating
  refine (SameClient.queues (SameClient.requeued same ?_) brief authorized ?_).1
  · exact ⟨rfl, rfl, rfl, rfl, rfl⟩
  · rw [hasOperation, same.pending_eq]
    rfl

/-- An allocation that comes too late is given back. -/
theorem Accepted.late_queues (accepted : Accepted digests core ambient packet)
    (tended : Tended core) (shuttingDown : core.shuttingDown = true)
    (asks : ∀ message pending, Answers core packet message pending → pending.operation = .allocate) :
    QueuesDeallocation digests ambient core (core.inputStun digests ambient packet).1 := by
  obtain ⟨message, pending, after, authentic, printed, outcome, -⟩ := accepted.authentic
  have member := mem_of_find?_eq_some authentic.found
  have isFor := asks message pending authentic.toAnswers
  have authorized := tended.stable.credentials pending member authentic.authenticated
  have allocating := (tended.ordered.allowed pending member).allocate isFor
  have missing : ∀ other ∈ (core.attending message).pending, ¬(other.operation == .deallocate) = true := by
    intro other left isDeallocation
    have allowed := tended.ordered.allowed other (mem_of_mem_eraseP left)
    rw [allocating] at allowed
    rw [show other.operation = .allocate from allowed] at isDeallocation
    cases isDeallocation
  rw [inputStun_authentic authentic printed, isFor] at outcome ⊢
  unfold completeSuccess at outcome ⊢
  cases read : (core.attending message).readRelay message with
  | error error =>
    rw [read] at outcome
    cases outcome
  | ok relay =>
    rw [read] at outcome
    dsimp only at outcome ⊢
    by_cases zero : (attributeU32 message attrLifetime).getD requestedAllocationLifetimeSecs = 0
    · rw [if_pos zero] at outcome
      cases outcome
    have granted := (core.attending message).allocated_granted relay
      (attributeU32 message attrLifetime) ambient.now
    generalize (core.attending message).allocated relay (attributeU32 message attrLifetime)
      ambient.now = other at granted
    have closing : other.shuttingDown = true := by
      obtain ⟨_, _, rfl⟩ := granted
      exact shuttingDown
    have client : SameClient core other := .requeued granted ⟨rfl, rfl, rfl, rfl, rfl⟩
    have same := Requeued.setState other .deallocating
    have clientToo : SameClient core (other.setState .deallocating) :=
      .requeued same ⟨client.1, client.2, client.3, client.4, client.5⟩
    have noneYet : (other.setState .deallocating).hasOperation .deallocate = false := by
      rw [hasOperation, same.pending_eq, List.any_eq_false]
      exact granted.pending_eq ▸ missing
    have queued : QueuesDeallocation digests ambient core _ ∧ _ :=
      clientToo.queues tended.stable.brief authorized noneYet
    rw [if_neg zero, if_pos closing]
    generalize (other.setState .deallocating).startOperation digests ambient .deallocate true 0 = result
      at queued
    obtain ⟨final, error⟩ := result
    obtain ⟨isQueued, rfl⟩ := queued
    exact isQueued

end Releasing

/-! ## Every run -/

section Runs

theorem Leased.step (leased : Leased core) (tended : Tended core) (spares : Spares core input) :
    Leased (core.step digests input).1 ∧ Tended (core.step digests input).1 := by
  let both (core : Core) : Prop := Leased core ∧ Tended core
  have kept : both (core.step digests input).1 :=
    step_of_change (fun known change => known.1.kept known.2 spares change) ⟨leased, tended⟩
  exact kept

theorem Leased.run (leased : Leased core) (tended : Tended core)
    (spared : Along (Core.step digests) Spares core calls) :
    Leased (final (Core.step digests) core calls) ∧
      Tended (final (Core.step digests) core calls) := by
  induction calls generalizing core with
  | nil => exact ⟨leased, tended⟩
  | cons input rest ih =>
    obtain ⟨leasedToo, tendedToo⟩ := leased.step tended spared.1
    exact ih leasedToo tendedToo spared.2

theorem expiry_of_lastLifetime (unrecorded : lastLifetime digests core calls = none) :
    core.allocationExpiresAt = none := by
  cases calls with
  | nil => exact unrecorded
  | cons input rest => exact (or_eq_none_iff.mp unrecorded).2

/-- A lifetime that was recorded in a run and is not over is still known at its end, unless the core
shuts down. -/
theorem Leased.lifetime_known (leased : Leased core) (tended : Tended core)
    (spared : Along (Core.step digests) Spares core calls) {moment last : Nat}
    (past : ∀ input ∈ calls, input.2.now ≤ moment)
    (recorded : lastLifetime digests core calls = some last) (early : moment < last) :
    (final (Core.step digests) core calls).allocationExpiresAt.isSome ∨
      (final (Core.step digests) core calls).shuttingDown = true := by
  induction calls generalizing core with
  | nil => exact .inl (isSome_iff_exists.mpr ⟨last, recorded⟩)
  | cons input rest ih =>
    obtain ⟨leasedToo, tendedToo⟩ := leased.step tended spared.1
    have pastToo : ∀ later ∈ rest, later.2.now ≤ moment :=
      fun later member => past later (mem_cons_of_mem input member)
    cases later : lastLifetime digests (core.step digests input).1 rest with
    | some other =>
      rw [lastLifetime, later, some_or] at recorded
      exact ih leasedToo tendedToo spared.2 pastToo (later.trans recorded)
    | none =>
      rw [lastLifetime, later, none_or] at recorded
      have now := Nat.lt_of_le_of_lt (past input mem_cons_self) early
      rcases core.step_lasts digests input leased tended spared.1 recorded now with known | shuttingDown
      · rw [expiry_of_lastLifetime later] at known
        cases known
      · exact .inr (run_shuttingDown digests rest shuttingDown)

end Runs

/-- In every run that is spared, a core that shuts down before its allocation ends gives it back, and
so does a core that gets an allocation after it has shut down. -/
theorem allocations_are_released (digests : Digests) {server peer : SocketAddr}
    {username password : List UInt8} {profile : CsqttTurnProfile} {transport : TurnControlTransport}
    {core : Core} (created : create server username password peer profile transport = .ok core)
    (calls : List (Call × Ambient)) (spared : Along (Core.step digests) Spares core calls)
    (ambient : Ambient) (past : ∀ input ∈ calls, input.2.now ≤ ambient.now) :
    let reached := final (Core.step digests) core calls
    (∀ last, lastLifetime digests core calls = some last → ambient.now < last →
      reached.shuttingDown = false →
        QueuesDeallocation digests ambient reached (reached.gracefulShutdown digests ambient).1) ∧
    ∀ packet, Accepted digests reached ambient packet → reached.shuttingDown = true →
      (∀ message pending, Answers reached packet message pending → pending.operation = .allocate) →
        QueuesDeallocation digests ambient reached (reached.inputStun digests ambient packet).1 := by
  intro reached
  have isCreated := Created.of_create created
  have atFirst : Leased core := by
    obtain ⟨⟨_, _, _, _, _, _, rfl⟩, -⟩ := isCreated
    exact .free rfl rfl
  have tended := Tended.created isCreated
  obtain ⟨leased, tendedToo⟩ : Leased reached ∧ Tended reached := atFirst.run tended spared
  constructor
  · intro last recorded early running
    rcases atFirst.lifetime_known tended spared past recorded early with known | shuttingDown
    · have holds : reached.HoldsAllocation := (leased.held known).resolve_right (by
        rw [running]
        exact false_ne_true)
      exact gracefulShutdown_queues tendedToo.stable.brief (leased.authorized known)
        ⟨running, leased.intact⟩ holds
    · exact absurd (running.symm.trans shuttingDown) false_ne_true
  · intro packet accepted shuttingDown asks
    exact accepted.late_queues tendedToo shuttingDown asks

end Cores

namespace Sample

/-- The server refuses to bind the channel. -/
def refusal : List UInt8 :=
  ((MessageBuilder.withTransaction 0x0119 (transaction 4)).withAttribute attrErrorCode
    [0, 0, 4, 0]).finishAuthenticated digests key |>.toOption.getD []

/-- Get an allocation and ask for a channel, which is refused as a bad request. -/
def refusing : List (Call × Ambient) :=
  granting ++ [(.startChannel, ambient 3 4), (.inputStun refusal, ambient 4 5)]

end Sample

/-- Packets that refuse nothing in these ways are spared. -/
theorem Spares.of_packet (fits : packet.length ≤ 4096)
    (checked : (Message.decode packet).toOption.any (fun message =>
      errorCode message != some 437 && errorCode message != some 400) = true) :
    Spares core (.inputStun packet, ambient) := by
  obtain ⟨message, decoded, codes⟩ := Sample.of_checked checked
  simp only [and_eq_true, bne_iff_ne] at codes
  have same : ∀ {packet' other pending}, Call.inputStun packet = .inputStun packet' →
      Answers core packet' other pending → other = message := by
    rintro packet' other pending ⟨⟩ answers
    exact (Except.ok.inj (decoded.symm.trans answers.decoded)).symm
  refine ⟨fits, fun _ forced => Call.noConfusion forced, ?_, ?_⟩
  · intro packet' other pending isPacket answers _
    rw [same isPacket answers]
    exact codes.1
  · rintro packet' other pending isPacket answers _ ⟨-, refused⟩
    rw [same isPacket answers] at refused
    exact codes.2 refused

open Sample

/-- A core whose channel was refused as a bad request does not give its allocation back. -/
theorem refused_channel_keeps_relay : lastLifetime digests core refusing = some (seconds 600 + 2) ∧
      (final (Core.step digests) core refusing).shuttingDown = false ∧
      ((final (Core.step digests) core refusing).gracefulShutdown
        digests (ambient 5 6)).1.controls = [] ∧
      ((final (Core.step digests) core refusing).gracefulShutdown
        digests (ambient 5 6)).1.pending = [] := by
  decide +kernel

/-- A core that has just got its allocation gives it back. -/
theorem sample_is_released : lastLifetime digests core granting = some (seconds 600 + 2) ∧
      QueuesDeallocation digests (ambient 3 4) (final (Core.step digests) core granting)
        ((final (Core.step digests) core granting).gracefulShutdown digests (ambient 3 4)).1 := by
  have first : Spares core (.startAllocation, ambient 0 1) := by
    refine ⟨trivial, fun _ forced => Call.noConfusion forced, ?_, ?_⟩
    · exact fun _ _ _ isPacket => Call.noConfusion isPacket
    · exact fun _ _ _ isPacket => Call.noConfusion isPacket
  have challenged : ∀ core, Spares core (.inputStun challenge, ambient 1 2) :=
    fun _ => .of_packet (by decide +kernel) (by decide +kernel)
  have granted : ∀ core, Spares core (.inputStun grant, ambient 2 3) :=
    fun _ => .of_packet (by decide +kernel) (by decide +kernel)
  have spared : Along (Core.step digests) Spares core granting :=
    ⟨first, challenged _, granted _, trivial⟩
  have past : ∀ input ∈ granting, input.2.now ≤ (ambient 3 4).now := by
    intro input member
    rcases mem_append.mp member with opening | granting
    · rcases mem_pair.mp opening with rfl | rfl
      · exact Nat.le_of_ble_eq_true rfl
      · exact Nat.le_of_ble_eq_true rfl
    · obtain rfl := mem_singleton.mp granting
      exact Nat.le_of_ble_eq_true rfl
  have recorded : lastLifetime digests core granting = some (seconds 600 + 2) := by
    decide +kernel
  have running : (final (Core.step digests) core granting).shuttingDown = false := by decide +kernel
  exact ⟨recorded, (allocations_are_released digests created granting spared
    (ambient 3 4) past).1 _ recorded (by decide +kernel) running⟩

end Csqtt.Turn
