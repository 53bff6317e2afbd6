import Csqtt.TurnSteps

/-!
# What the TURN core believes

A core becomes ready, gets the address of its relay, binds its channel and has the lifetime of its
allocation set only by responses whose integrity it has verified with its key. All other packets can
at most take something away from it.

Of responses that report success, those that are not verified take nothing away either. If one comes
for a request that was not authenticated, the core gives the allocation up; but then it has none yet.
This needs to be known of every state that a core can reach: which requests are pending in which state,
and that a core that still waits for its allocation has neither a relay nor a timer.
-/

namespace Csqtt.Turn

open Stun Engine List Runs Turn.Core

/-! ## What is granted -/

/-- The core becomes ready, or a relay, a channel or a lifetime is recorded. -/
def Grants (before after : Core) : Prop :=
  (after.state = .ready ∧ before.state ≠ .ready) ∨
  (after.relay ≠ none ∧ after.relay ≠ before.relay) ∨
  (after.channel ≠ none ∧ after.channel ≠ before.channel) ∨
  (after.allocationExpiresAt ≠ none ∧ after.allocationExpiresAt ≠ before.allocationExpiresAt)

/-- A core may have lost something, but has got nothing. -/
structure Ungranted (before after : Core) : Prop where
  ready : after.state = .ready → before.state = .ready
  relay : after.relay = none ∨ after.relay = before.relay
  channel : after.channel = none ∨ after.channel = before.channel
  expiry : after.allocationExpiresAt = none ∨ after.allocationExpiresAt = before.allocationExpiresAt

theorem not_grants_iff (before after : Core) : ¬Grants before after ↔ Ungranted before after := by
  have taken : ∀ {α : Type} (before after : Option α),
      ¬(after ≠ none ∧ after ≠ before) ↔ after = none ∨ after = before := by
    intro α before after
    rw [not_and_or, not_not, not_not]
  rw [Grants, not_or, not_or, not_or, taken, taken, taken, not_and_not_right]
  constructor
  · rintro ⟨ready, relay, channel, expiry⟩
    exact ⟨ready, relay, channel, expiry⟩
  · rintro ⟨ready, relay, channel, expiry⟩
    exact ⟨ready, relay, channel, expiry⟩

section Core

variable {after core : Core} {ambient : Ambient} {digests : Digests} {operation : Operation}
  {packet : List UInt8} {result : Option CoreError} {status : Status} {pending : Pending}
  {state : State} {requests : List Pending}

namespace Ungranted

variable {middle : Core}

theorem refl (core : Core) : Ungranted core core := ⟨id, .inr rfl, .inr rfl, .inr rfl⟩

theorem trans (first : Ungranted core middle) (second : Ungranted middle after) :
    Ungranted core after where
  ready := first.ready ∘ second.ready
  relay := second.relay.elim .inl fun same => same ▸ first.relay
  channel := second.channel.elim .inl fun same => same ▸ first.channel
  expiry := second.expiry.elim .inl fun same => same ▸ first.expiry

theorem following (second : Ungranted middle after) (first : Ungranted core middle) :
    Ungranted core after :=
  first.trans second

theorem requeued (same : Requeued core after) : Ungranted core after := by
  obtain ⟨controls, events, rfl⟩ := same
  exact ⟨id, .inr rfl, .inr rfl, .inr rfl⟩

theorem started {authenticated : Bool} {nonceRetries : Nat}
    (started : Started digests ambient operation authenticated nonceRetries core after result) :
    Ungranted core after := by
  obtain ⟨pending, controls, events, rfl⟩ := started.kept
  exact ⟨id, .inr rfl, .inr rfl, .inr rfl⟩

theorem failed {now : Nat} (failed : Failed operation now core after) : Ungranted core after := by
  cases failed with
  | retried failures repeats lasting same =>
    refine trans ?_ (requeued same)
    cases operation <;> exact ⟨id, .inr rfl, .inr rfl, .inr rfl⟩
  | exhausted failures isChannel lasting same =>
    refine trans ?_ (requeued same)
    refine ⟨fun isReady => ?_, .inr rfl, .inl rfl, .inr rfl⟩
    cases isReady
  | destroyed final same =>
    refine trans ?_ (requeued same)
    refine ⟨fun isReady => ?_, .inl rfl, .inl rfl, .inl rfl⟩
    dsimp only [Core.gone] at isReady
    split at isReady
    · cases isReady
    · cases isReady

/-- What calls without a packet consist of grants nothing. -/
theorem change {input : Call × Ambient} (change : Change digests input core after)
    (noPacket : ∀ packet, input.1 ≠ .inputStun packet) : Ungranted core after := by
  cases change with
  | requeued same => exact requeued same
  | opened isNull isOpen started =>
    refine (Ungranted.started started).following ⟨fun isReady => ?_, .inr rfl, .inr rfl, .inr rfl⟩
    cases isReady
  | asked isReady optional started => exact Ungranted.started started
  | received received => exact absurd rfl (noPacket _)
  | resent here same | keptAlive isReady same =>
    exact (requeued same).following ⟨id, .inr rfl, .inr rfl, .inr rfl⟩
  | timedOut here failed =>
    exact (Ungranted.failed failed).following ⟨id, .inr rfl, .inr rfl, .inr rfl⟩
  | expired isReady ended same =>
    refine (requeued same).following ⟨fun _ => isReady, .inl rfl, .inl rfl, .inl rfl⟩
  | renewed isReady repeats started =>
    refine trans ?_ (Ungranted.started started)
    rename_i operation
    cases operation <;> exact ⟨id, .inr rfl, .inr rfl, .inr rfl⟩
  | rearmed isReady => exact ⟨id, .inr rfl, .inr rfl, .inr rfl⟩
  | released isOpen started =>
    refine (Ungranted.started started).following ⟨fun isReady => ?_, .inr rfl, .inl rfl, .inr rfl⟩
    cases isReady
  | closed holdsNone same =>
    exact (requeued same).following ⟨id, .inr rfl, .inl rfl, .inr rfl⟩
  | forced same =>
    refine (requeued same).following ⟨fun isReady => ?_, .inr rfl, .inr rfl, .inr rfl⟩
    cases isReady

/-- What a packet grants was verified. -/
theorem received (received : Received digests ambient packet core after status) :
    Ungranted core after ∨ ∃ message pending, Authentic digests core packet message pending := by
  have removed : ∀ message, Ungranted core (core.without message) :=
    fun _ => ⟨id, .inr rfl, .inr rfl, .inr rfl⟩
  have reauthorized : ∀ message realm nonce,
      Ungranted core ((core.without message).setAuth digests realm nonce) :=
    fun _ _ _ => ⟨id, .inr rfl, .inr rfl, .inr rfl⟩
  cases received with
  | ignored refused same => exact .inl (requeued same)
  | unexpected answers unauthenticated failed =>
    exact .inl (trans (removed _) (Ungranted.failed failed))
  | refused answers isError failed => exact .inl (trans (removed _) (Ungranted.failed failed))
  | recreated answers isError coded recreates same =>
    refine .inl (trans ⟨fun isReady => ?_, .inl rfl, .inl rfl, .inl rfl⟩ (requeued same))
    dsimp only [Core.gone] at isReady
    split at isReady
    · cases isReady
    · cases isReady
  | challenged answers isError realmRead nonceRead started =>
    exact .inl (trans (reauthorized _ _ _) (Ungranted.started started))
  | stuck answers isError realmRead nonceRead started failed =>
    exact .inl (trans (trans (reauthorized _ _ _) (Ungranted.started started))
      (Ungranted.failed failed))
  | succeeded authentic _ | spoiled authentic _ _ => exact .inr ⟨_, _, authentic⟩

end Ungranted

/-- A call grants nothing, unless it hands the core a verified response. -/
theorem Core.step_ungranted (digests : Digests) (core : Core) (input : Call × Ambient) :
    Ungranted core (core.step digests input).1 ∨
      ∃ packet message pending, input.1 = .inputStun packet ∧
        Authentic digests core packet message pending := by
  obtain ⟨call, ambient⟩ := input
  by_cases isPacket : ∃ packet, call = .inputStun packet
  · obtain ⟨packet, rfl⟩ := isPacket
    rcases Ungranted.received (core.inputStun_received digests ambient packet) with
      ungranted | ⟨message, pending, authentic⟩
    · exact .inl ungranted
    · exact .inr ⟨packet, message, pending, rfl, authentic⟩
  · left
    have noPacket : ∀ packet, (call, ambient).1 ≠ .inputStun packet :=
      fun packet same => isPacket ⟨packet, same⟩
    exact step_of_change (fun ungranted change => ungranted.trans (.change change noPacket))
      (Ungranted.refl core)

/-! ## Requests and states -/

/-- A core without a relay, a channel or a timer. -/
structure Core.Bare (core : Core) : Prop where
  relay : core.relay = none
  channel : core.channel = none
  allocationRefresh : core.allocationRefresh = none
  allocationExpiresAt : core.allocationExpiresAt = none
  maintenanceRefresh : core.maintenanceRefresh = none
  permissionRetry : core.permissionRetry = none
  channelRetry : core.channelRetry = none
  keepalive : core.keepalive = none

/-- The requests that may be pending in a state. -/
def State.Allows : State → Pending → Prop
  | .allocating, pending => pending.operation = .allocate
  | .ready, pending => pending.authenticated = true ∧ pending.operation.repeats = true
  | .deallocating, pending => pending.authenticated = true ∧ pending.operation = .deallocate
  | .null, _ | .deallocated, _ | .destroying, _ => False

/-- Requests are pending only in states that allow them, no two for one operation, and there is
nothing else before there is an allocation. -/
structure Ordered (core : Core) : Prop where
  allowed : ∀ pending ∈ core.pending, core.state.Allows pending
  distinct : (core.pending.map Pending.operation).Nodup
  bare : core.state = .null ∨ core.state = .allocating → core.Bare

variable {other : Pending}

section

variable (allowed : state.Allows pending)

include allowed

theorem State.Allows.again (same : other.operation = pending.operation)
    (authenticated : other.authenticated = true) : state.Allows other := by
  cases state with
  | allocating => exact same.trans allowed
  | ready => exact ⟨authenticated, same ▸ allowed.2⟩
  | deallocating => exact ⟨authenticated, same.trans allowed.2⟩
  | null | deallocated | destroying => exact allowed

theorem State.Allows.allocate (isFor : pending.operation = .allocate) : state = .allocating := by
  cases state <;> simp_all [State.Allows, Operation.repeats]

theorem State.Allows.ready (repeats : pending.operation.repeats = true) : state = .ready := by
  cases state <;> simp_all [State.Allows, Operation.repeats]

theorem State.Allows.alike (once : pending.operation.repeats = false)
    (allowedToo : state.Allows other) : other.operation = pending.operation := by
  cases state <;> simp_all [State.Allows, Operation.repeats]

end

theorem eraseP_eq_nil {answered : Pending → Bool} (found : requests.find? answered = some pending)
    (distinct : (requests.map Pending.operation).Nodup)
    (alike : ∀ other ∈ requests, other.operation = pending.operation) :
    requests.eraseP answered = [] := by
  match requests with
  | [] => rfl
  | [only] =>
    have isAnswered : answered only = true := by
      obtain rfl : only = pending := by
        have member := mem_of_find?_eq_some found
        exact (mem_singleton.mp member).symm
      exact find?_some found
    rw [eraseP_cons_of_pos isAnswered]
  | first :: second :: rest =>
    have same : first.operation = second.operation :=
      (alike first (by simp)).trans (alike second (by simp)).symm
    simp [same] at distinct

theorem map_operation_set {index : Nat} (here : requests[index]? = some pending)
    (same : other.operation = pending.operation) :
    (requests.set index other).map Pending.operation = requests.map Pending.operation := by
  obtain ⟨inside, isThere⟩ := List.getElem?_eq_some_iff.mp here
  have bound : index < (requests.map Pending.operation).length := by
    rwa [length_map]
  have value : (requests.map Pending.operation)[index] = other.operation := by
    rw [getElem_map, isThere, same]
  rw [map_set, ← value, set_getElem_self]

namespace Ordered

variable {message : Message}

/-- A core that differs in its requests, and in nothing else that matters here. -/
theorem alike (ordered : Ordered core)
    (same : (after.state, after.relay, after.channel, after.allocationRefresh, after.allocationExpiresAt,
      after.maintenanceRefresh, after.permissionRetry, after.channelRetry, after.keepalive) =
      (core.state, core.relay, core.channel, core.allocationRefresh, core.allocationExpiresAt,
        core.maintenanceRefresh, core.permissionRetry, core.channelRetry, core.keepalive))
    (allowed : ∀ pending ∈ after.pending, core.state.Allows pending)
    (distinct : (after.pending.map Pending.operation).Nodup) : Ordered after := by
  simp only [Prod.mk.injEq] at same
  obtain ⟨state, relay, channel, refresh, expiry, maintenance, permission, rebind, keepalive⟩ := same
  refine ⟨state ▸ allowed, distinct, fun early => ?_⟩
  have bare := ordered.bare (state ▸ early)
  exact ⟨relay.trans bare.1, channel.trans bare.2, refresh.trans bare.3, expiry.trans bare.4,
    maintenance.trans bare.5, permission.trans bare.6, rebind.trans bare.7, keepalive.trans bare.8⟩

theorem requeued (same : Requeued core after) (ordered : Ordered core) : Ordered after := by
  obtain ⟨controls, events, rfl⟩ := same
  exact ordered.alike rfl ordered.allowed ordered.distinct

theorem idle (nothing : core.pending = []) (notNull : core.state ≠ .null)
    (late : core.state ≠ .allocating) : Ordered core where
  allowed := by
    rw [nothing]
    exact fun _ member => absurd member not_mem_nil
  distinct := by
    rw [nothing]
    exact nodup_nil
  bare early := early.elim (absurd · notNull) (absurd · late)

theorem of_ready {other : Core} (ordered : Ordered core) (isReady : core.state = .ready)
    (state : other.state = core.state) (requests : other.pending = core.pending) : Ordered other where
  allowed := by
    rw [state, requests]
    exact ordered.allowed
  distinct := requests ▸ ordered.distinct
  bare early := by
    rw [state, isReady] at early
    exact absurd early (by decide)

theorem fewer (ordered : Ordered core) (sublist : requests.Sublist core.pending) :
    Ordered { core with pending := requests } :=
  ordered.alike rfl (fun other member => ordered.allowed other (sublist.subset member))
    (ordered.distinct.sublist (sublist.map Pending.operation))

theorem replaced (ordered : Ordered core) {index : Nat}
    (here : core.pending[index]? = some pending) (same : other.operation = pending.operation)
    (sameToo : other.authenticated = pending.authenticated) :
    Ordered { core with pending := core.pending.set index other } := by
  refine ordered.alike rfl ?_ ?_
  · intro request member
    rcases mem_or_eq_of_mem_set member with old | rfl
    · exact ordered.allowed request old
    · have allowed := ordered.allowed pending (mem_of_getElem? here)
      revert allowed
      cases core.state <;> simp [State.Allows, same, sameToo]
  · rw [map_operation_set here same]
    exact ordered.distinct

/-- A request is started that the state allows. -/
theorem started {authenticated : Bool} {nonceRetries : Nat} (ordered : Ordered core)
    (allows : ∀ other : Pending, other.operation = operation → other.authenticated = authenticated →
      core.state.Allows other)
    (started : Started digests ambient operation authenticated nonceRetries core after result) :
    Ordered after := by
  cases started with
  | already _ same | failed _ _ same => exact ordered.requeued same
  | started missing authorized same =>
    refine requeued same (ordered.alike rfl ?_ ?_)
    · intro other member
      rcases mem_append.mp member with old | new
      · exact ordered.allowed other old
      · rw [mem_singleton] at new
        exact allows other (new ▸ rfl) (new ▸ rfl)
    · rw [hasOperation, any_eq_false] at missing
      rw [map_append, nodup_append]
      refine ⟨ordered.distinct, nodup_singleton _, ?_⟩
      rintro _ member _ new rfl
      obtain ⟨other, here, same⟩ := mem_map.mp member
      rw [map_singleton, mem_singleton] at new
      exact missing other here (beq_iff_eq.mpr (same.trans new))

theorem gone (core : Core) (operation : Operation) : Ordered (core.gone operation) := by
  refine idle rfl ?_ ?_
  · dsimp only [Core.gone]
    split
    · decide
    · decide
  · dsimp only [Core.gone]
    split
    · decide
    · decide

theorem failed {now : Nat} (ordered : Ordered core) (failed : Failed operation now core after) :
    Ordered after := by
  cases failed with
  | retried failures repeats lasting same =>
    refine requeued same (ordered.of_ready lasting.ready ?_ ?_)
    · cases operation <;> rfl
    · cases operation <;> rfl
  | exhausted failures isChannel lasting same =>
    have isDestroying : (core.channelGone failures).state = .destroying := rfl
    refine requeued same (idle rfl ?_ ?_)
    · rw [isDestroying]
      decide
    · rw [isDestroying]
      decide
  | destroyed final same => exact requeued same (gone core operation)

/-- A success takes a core to the state that the operation was for. -/
theorem succeeded (ordered : Ordered core)
    (found : core.pending.find? (answeredBy message) = some pending)
    (succeeded : Succeeded digests ambient message (core.without message) pending.operation after
      result) : Ordered after := by
  have allowed := ordered.allowed pending (mem_of_find?_eq_some found)
  have removed : Ordered (core.without message) := ordered.fewer eraseP_sublist
  have alone : pending.operation.repeats = false → (core.without message).pending = [] :=
    fun once => eraseP_eq_nil found ordered.distinct fun other member =>
      allowed.alike once (ordered.allowed other member)
  have inReady : pending.operation.repeats = true → (core.without message).state = .ready :=
    fun repeats => allowed.ready repeats
  generalize pending.operation = operation at succeeded alone inReady
  cases succeeded with
  | malformed error same => exact removed.requeued same
  | allocated running read same | deallocated same =>
    refine requeued same ?_
    exact idle (alone rfl) State.noConfusion State.noConfusion
  | late shuttingDown read started =>
    refine Ordered.started (idle ?_ ?_ ?_) ?_ started
    · exact alone rfl
    · exact State.noConfusion
    · exact State.noConfusion
    · exact fun other isFor authenticated => ⟨authenticated, isFor⟩
  | refreshed same | permitted same | bound same =>
    exact requeued same (removed.of_ready (inReady rfl) rfl rfl)

/-- What a packet does keeps requests and state together. -/
theorem received (ordered : Ordered core)
    (received : Received digests ambient packet core after status) : Ordered after := by
  have removed : ∀ message, Ordered (core.without message) :=
    fun _ => ordered.fewer eraseP_sublist
  have reauthorized : ∀ message realm nonce,
      Ordered ((core.without message).setAuth digests realm nonce) :=
    fun message _ _ => (removed message).alike rfl (removed message).allowed (removed message).distinct
  have again : ∀ {message pending}, Answers core packet message pending →
      ∀ other : Pending, other.operation = pending.operation → other.authenticated = true →
        core.state.Allows other :=
    fun answers _ => (ordered.allowed _ (mem_of_find?_eq_some answers.found)).again
  cases received with
  | ignored refused same => exact ordered.requeued same
  | unexpected answers unauthenticated failed | refused answers isError failed =>
    exact (removed _).failed failed
  | recreated answers isError coded recreates same => exact (gone _ _).requeued same
  | challenged answers isError realmRead nonceRead started =>
    exact (reauthorized _ _ _).started (again answers) started
  | stuck answers isError realmRead nonceRead started failed =>
    exact ((reauthorized _ _ _).started (again answers) started).failed failed
  | succeeded authentic succeeded => exact ordered.succeeded authentic.found succeeded
  | spoiled authentic succeeded failed => exact (ordered.succeeded authentic.found succeeded).failed failed

/-- Every change keeps requests and state together. -/
theorem change {input : Call × Ambient} (ordered : Ordered core)
    (change : Change digests input core after) : Ordered after := by
  cases change with
  | requeued same => exact ordered.requeued same
  | opened isNull isOpen started =>
    have nothing : core.pending = [] := by
      rw [eq_nil_iff_forall_not_mem]
      intro pending member
      have allowed := ordered.allowed pending member
      rw [isNull] at allowed
      exact allowed
    have bare := ordered.bare (.inl isNull)
    refine Ordered.started ⟨?_, ?_, fun _ => ?_⟩ ?_ started
    · rw [nothing]
      exact fun _ member => absurd member not_mem_nil
    · rw [nothing]
      exact nodup_nil
    · exact ⟨bare.1, bare.2, bare.3, bare.4, bare.5, bare.6, bare.7, bare.8⟩
    · exact fun other isFor _ => isFor
  | asked isReady optional started =>
    refine ordered.started (fun other isFor authenticated => ?_) started
    rw [isReady]
    refine ⟨authenticated, ?_⟩
    rcases optional with rfl | rfl
    · rw [isFor]
      rfl
    · rw [isFor]
      rfl
  | received received => exact ordered.received received
  | resent here same =>
    refine requeued same (ordered.replaced here rfl rfl)
  | timedOut here failed => exact (ordered.fewer (eraseIdx_sublist _ _)).failed failed
  | expired isReady ended same => exact (gone core .refresh).requeued same
  | renewed isReady repeats started =>
    rename_i operation
    refine Ordered.started (ordered.of_ready isReady ?_ ?_) ?_ started
    · cases operation <;> rfl
    · cases operation <;> rfl
    · intro other isFor authenticated
      have ready : (core.disarm operation).state = .ready := by
        cases operation <;> exact isReady
      rw [ready]
      exact ⟨authenticated, isFor ▸ repeats⟩
  | rearmed isReady => exact ordered.of_ready isReady rfl rfl
  | keptAlive isReady same => exact requeued same (ordered.of_ready isReady rfl rfl)
  | released isOpen started =>
    refine Ordered.started (idle rfl ?_ ?_) ?_ started
    · exact State.noConfusion
    · exact State.noConfusion
    · exact fun other isFor authenticated => ⟨authenticated, isFor⟩
  | closed holdsNone same =>
    refine requeued same ⟨?_, ?_, fun early => ?_⟩
    · intro pending member
      split at member
      · exact ordered.allowed pending member
      · exact absurd member not_mem_nil
    · dsimp only
      split
      · exact ordered.distinct
      · exact nodup_nil
    · have bare := ordered.bare early
      exact ⟨bare.1, rfl, bare.3, bare.4, rfl, rfl, rfl, rfl⟩
  | forced same =>
    refine requeued same ?_
    exact idle rfl State.noConfusion State.noConfusion

theorem created (created : Created core) : Ordered core := by
  obtain ⟨⟨_, _, _, _, _, _, rfl⟩, -⟩ := created
  refine ⟨fun _ member => absurd member not_mem_nil, nodup_nil, fun _ => ?_⟩
  exact ⟨rfl, rfl, rfl, rfl, rfl, rfl, rfl, rfl⟩

theorem run (created : Created core) (calls : List (Call × Ambient)) :
    Ordered (final (step digests) core calls) :=
  throughout_final _ _ _ _ (throughout_of_change digests
    (fun _ ordered change => Ordered.change ordered change) (Ordered.created created) calls
    fun _ _ => trivial)

end Ordered

/-! ## Responses that are not believed -/

/-- Relay, channel, deadlines and authenticated requests are as before. -/
structure Untouched (before after : Core) : Prop where
  relay : after.relay = before.relay
  channel : after.channel = before.channel
  allocationRefresh : after.allocationRefresh = before.allocationRefresh
  allocationExpiresAt : after.allocationExpiresAt = before.allocationExpiresAt
  maintenanceRefresh : after.maintenanceRefresh = before.maintenanceRefresh
  permissionRetry : after.permissionRetry = before.permissionRetry
  channelRetry : after.channelRetry = before.channelRetry
  keepalive : after.keepalive = before.keepalive
  requests : after.pending.filter Pending.authenticated = before.pending.filter Pending.authenticated

theorem Untouched.gone (bare : core.Bare)
    (unauthenticated : ∀ pending ∈ core.pending, pending.authenticated = false) :
    Untouched core (core.gone operation) where
  relay := bare.relay.symm
  channel := bare.channel.symm
  allocationRefresh := bare.allocationRefresh.symm
  allocationExpiresAt := bare.allocationExpiresAt.symm
  maintenanceRefresh := bare.maintenanceRefresh.symm
  permissionRetry := bare.permissionRetry.symm
  channelRetry := bare.channelRetry.symm
  keepalive := bare.keepalive.symm
  requests := by
    have none : core.pending.filter Pending.authenticated = [] := by
      rw [filter_eq_nil_iff]
      intro pending member
      rw [unauthenticated pending member]
      exact Bool.false_ne_true
    rw [none]
    rfl

theorem Ordered.unauthenticated (ordered : Ordered core) (member : pending ∈ core.pending)
    (unauthenticated : pending.authenticated = false) : core.state = .allocating ∧ core.Bare ∧
      ∀ other ∈ core.pending, other.authenticated = false := by
  have allowed := ordered.allowed pending member
  have allocating : core.state = .allocating := by
    cases state : core.state <;> rw [state] at allowed <;>
      simp [State.Allows, unauthenticated] at allowed ⊢
  refine ⟨allocating, ordered.bare (.inr allocating), fun other memberToo => ?_⟩
  rw [allocating] at allowed
  have alike : other.operation = pending.operation := by
    have allowedToo := ordered.allowed other memberToo
    rw [allocating] at allowedToo
    exact allowedToo.trans allowed.symm
  have same : other = pending := by
    exact inj_on_of_nodup_map ordered.distinct memberToo member alike
  rw [same, unauthenticated]

theorem Answers.same {message other : Message} (answers : Answers core packet other pending)
    (decoded : Message.decode packet = .ok message) : other = message :=
  Except.ok.inj (answers.decoded.symm.trans decoded)

theorem Answers.no_error {message other : Message} (answers : Answers core packet other pending)
    (decoded : Message.decode packet = .ok message) (success : message.type = .success) :
    other.type ≠ .error := by
  rw [answers.same decoded, success]
  decide

/-- A response that reports success and is not verified leaves everything that was granted alone. -/
theorem Received.untouched {message : Message} (ordered : Ordered core)
    (received : Received digests ambient packet core after status)
    (decoded : Message.decode packet = .ok message) (success : message.type = .success)
    (unverified : ∀ pending, ¬Authentic digests core packet message pending) :
    Untouched core after := by
  cases received with
  | ignored refused same =>
    obtain ⟨controls, events, rfl⟩ := same
    exact ⟨rfl, rfl, rfl, rfl, rfl, rfl, rfl, rfl, rfl⟩
  | unexpected answers unauthenticated failed =>
    rename_i other pending
    have member := mem_of_find?_eq_some answers.found
    obtain ⟨allocating, bare, others⟩ := ordered.unauthenticated member unauthenticated
    have notReady : ∀ now, ¬(core.without other).Lasting now := by
      intro now lasting
      have ready : core.state = .ready := lasting.ready
      rw [allocating] at ready
      cases ready
    cases failed with
    | retried _ _ lasting _ | exhausted _ _ lasting _ => exact absurd lasting (notReady _)
    | destroyed _ same =>
      obtain ⟨controls, events, rfl⟩ := same
      have gone : Untouched core (core.gone pending.operation) := Untouched.gone bare others
      exact ⟨gone.1, gone.2, gone.3, gone.4, gone.5, gone.6, gone.7, gone.8, gone.9⟩
  | refused answers isError failed | recreated answers isError _ _ _
  | challenged answers isError _ _ _ | stuck answers isError _ _ _ _ =>
    exact absurd isError (answers.no_error decoded success)
  | succeeded authentic _ | spoiled authentic _ _ =>
    exact absurd (authentic.same decoded ▸ authentic) (unverified _)

/-- In every run, only verified responses to authenticated requests grant anything, and responses that
report success without being verified leave everything that was granted alone. -/
theorem granted_by_verified_responses (digests : Digests) {server peer : SocketAddr}
    {username password : List UInt8} {profile : CsqttTurnProfile} {transport : TurnControlTransport}
    {core : Core} (created : create server username password peer profile transport = .ok core)
    (calls : List (Call × Ambient)) (input : Call × Ambient) :
    let before := final (step digests) core calls
    let after := (before.step digests input).1
    (Grants before after → ∃ packet message pending, input.1 = .inputStun packet ∧
      Authentic digests before packet message pending) ∧
    ∀ packet message, input.1 = .inputStun packet → Message.decode packet = .ok message →
      message.type = .success → (∀ pending, ¬Authentic digests before packet message pending) →
        Untouched before after := by
  intro before after
  constructor
  · intro grants
    rcases before.step_ungranted digests input with ungranted | verified
    · exact absurd grants ((not_grants_iff before after).mpr ungranted)
    · exact verified
  · intro packet message isPacket decoded success unverified
    obtain ⟨call, ambient⟩ := input
    obtain rfl : call = .inputStun packet := isPacket
    exact (before.inputStun_received digests ambient packet).untouched
      (Ordered.run (Created.of_create created) calls) decoded success unverified

end Core

/-! ## A core that becomes ready -/

namespace Sample

/-- A sum that depends on every byte and on its place. -/
def checksum (data : List UInt8) : Nat := data.foldl (fun sum byte => sum * 257 + byte.toNat) 1

def digests : Digests where
  crc32 data := UInt32.ofNat (checksum data)
  md5 data := Bytes.toBe 16 (checksum data)
  hmacSha1 key data := Bytes.toBe 20 (checksum (key ++ data))
  hmacSha1_length _ _ := Bytes.toBe_length 20 _

def server : SocketAddr := ⟨.v4 ⟨127, 0, 0, 1⟩, 3478⟩

def peer : SocketAddr := ⟨.v4 ⟨127, 0, 0, 1⟩, 9000⟩

def relay : SocketAddr := ⟨.v4 ⟨127, 0, 0, 1⟩, 50000⟩

def core : Core := .fresh server [0x75] [0x70] peer .pjnathCompat .datagram

theorem created : create server [0x75] [0x70] peer .pjnathCompat .datagram = .ok core := rfl

def transaction (number : UInt8) : Transaction := ⟨number :: List.replicate 11 0, rfl⟩

/-- A moment, and the transaction of a request that is made then. -/
def ambient (now : Nat) (number : UInt8) : Ambient := ⟨now, fun _ => now, fun _ => transaction number⟩

/-- The key for the realm `r`. -/
def key : List UInt8 := digests.md5 [0x75, 0x3a, 0x72, 0x3a, 0x70]

/-- The request without authentication is refused, with a realm and a nonce. -/
def challenge : List UInt8 :=
  ((((MessageBuilder.withTransaction 0x0113 (transaction 1)).withAttribute attrErrorCode
    [0, 0, 4, 1]).withAttribute attrRealm [0x72]).withAttribute attrNonce [0x6e]).finish
    digests |>.toOption.getD []

/-- The request with authentication succeeds. -/
def grant : List UInt8 :=
  (((MessageBuilder.withTransaction 0x0103 (transaction 2)).xorAddress attrXorRelayedAddress
    relay).withAttribute attrLifetime (Bytes.toBe 4 600)).finishAuthenticated digests key
    |>.toOption.getD []

/-- Ask for an allocation, and ask again with authentication. -/
def opening : List (Call × Ambient) :=
  [(.startAllocation, ambient 0 1), (.inputStun challenge, ambient 1 2)]

end Sample

open Sample

/-- A core becomes ready by a response to its second request. -/
theorem sample_grant_is_verified :
    let before := final (step digests) core opening
    let after := (before.step digests (.inputStun grant, ambient 2 3)).1
    after.state = .ready ∧ ∃ packet message pending, Call.inputStun grant = .inputStun packet ∧
        Authentic digests before packet message pending := by
  have becomesReady : (step digests
      (final (step digests) core opening)
      (.inputStun grant, ambient 2 3)).1.state = .ready ∧
      (final (step digests) core opening).state ≠ .ready := by
    decide +kernel
  exact ⟨becomesReady.1, (granted_by_verified_responses digests created opening
    (.inputStun grant, ambient 2 3)).1 (.inl becomesReady)⟩

end Csqtt.Turn
