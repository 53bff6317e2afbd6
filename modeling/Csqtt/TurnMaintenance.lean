import Csqtt.TurnAuthentication
import Csqtt.TurnRequests

/-!
# The maintenance of an allocation

A ready core has an allocation, the credentials for its requests and the timers that keep the
allocation: either the timer for the next refresh is armed, or a refresh is pending. What ends a
refresh arms the timer again, and what stops the timer makes a request. The second half needs that a
request can always be made. It can, because the names in it are bounded: those of the server come from
packets, and packets are short.
-/

namespace Csqtt.Turn

open Bytes Stun Engine List Runs Bool Turn.Core

/-! ## Requests can be made -/

variable {digests : Digests} {authenticated : Bool} {core after : Core} {ambient : Ambient}
  {nonceRetries : Nat} {operation : Operation} {result : Option CoreError} {pending : Pending}
  {rest : List Pending} {message : Message} {packet nonce realm : List UInt8}
  {input : Call × Ambient}

/-- The names that requests are made with are not too long. -/
structure Brief (username : List UInt8) (realm nonce : Option (List UInt8)) : Prop where
  username : username.length ≤ 512
  realm : ∀ name, realm = some name → name.length ≤ 4096
  nonce : ∀ name, nonce = some name → name.length ≤ 4096

/-- A request can be made if the names are not too long. -/
theorem Brief.buildRequest_ok (brief : Brief core.username core.realm core.nonce)
    (digests : Digests) (operation : Operation) (transaction : Transaction)
    (keyed : authenticated = true → core.key.isSome) :
    ∃ packet, core.buildRequest digests operation transaction authenticated = .ok packet := by
  have requested := size_requested core operation transaction
  cases authenticated with
  | false =>
    obtain ⟨packet, _, built, -⟩ := core.readBack operation transaction (by omega)
    exact ⟨packet, built⟩
  | true =>
    obtain ⟨key, isKey⟩ := Option.isSome_iff_exists.mp (keyed rfl)
    have credentials : size core.credentials ≤ 8725 := by
      have username := (padded_le core.username.length).trans (Nat.add_le_add_right brief.username 3)
      have realm : padded (core.realm.getD []).length ≤ 4099 := by
        cases isRealm : core.realm with
        | none => decide
        | some realm => exact (padded_le _).trans (Nat.add_le_add_right (brief.realm realm isRealm) 3)
      have nonce : padded (core.nonce.getD []).length ≤ 4099 := by
        cases isNonce : core.nonce with
        | none => decide
        | some nonce => exact (padded_le _).trans (Nat.add_le_add_right (brief.nonce nonce isNonce) 3)
      simp only [size, credentials, map_cons, map_nil, sum_cons, sum_nil]
      omega
    obtain ⟨packet, _, built, -⟩ := core.readBack_authenticated operation transaction isKey
      (by rw [size_append]; omega)
    exact ⟨packet, built⟩

/-- Starting an operation does not fail if the names are not too long. -/
theorem Brief.started (brief : Brief core.username core.realm core.nonce)
    (authorized : authenticated = true → core.Authorized)
    (started : Started digests ambient operation authenticated nonceRetries core after result) :
    result = none ∧ ((core.hasOperation operation = true ∧ Requeued core after) ∨
      (core.hasOperation operation = false ∧ ∃ packet, Requeued { core with pending := core.pending ++
        [core.request ambient operation packet authenticated nonceRetries] } after)) := by
  cases started with
  | already pending same => exact ⟨rfl, .inl ⟨pending, same⟩⟩
  | failed missing blocked same =>
    exfalso
    rcases blocked with ⟨isAuthenticated, unauthorized⟩ | failed
    · exact unauthorized (authorized isAuthenticated)
    obtain ⟨packet, built⟩ := brief.buildRequest_ok digests operation (ambient.transaction operation)
      fun isAuthenticated => (authorized isAuthenticated).key
    rw [built] at failed
    cases failed
  | started missing _ same => exact ⟨rfl, .inr ⟨missing, _, same⟩⟩

/-! ## Requests that end -/

/-- One request is taken out of the list. -/
def Removed (pending : Pending) (requests rest : List Pending) : Prop :=
  ∃ before after, requests = before ++ pending :: after ∧ rest = before ++ after

namespace Removed

variable {requests : List Pending}

theorem eraseP {answered : Pending → Bool} (found : requests.find? answered = some pending) :
    Removed pending requests (requests.eraseP answered) := by
  obtain ⟨isAnswered, before, after, rfl, earlier⟩ := find?_eq_some_iff_append.mp found
  refine ⟨before, after, rfl, ?_⟩
  rw [eraseP_append_right _ (fun other member => by simpa using earlier other member),
    eraseP_cons_of_pos isAnswered]

theorem eraseIdx {index : Nat} (here : requests[index]? = some pending) :
    Removed pending requests (requests.eraseIdx index) := by
  obtain ⟨inside, rfl⟩ := List.getElem?_eq_some_iff.mp here
  refine ⟨requests.take index, requests.drop (index + 1), ?_, eraseIdx_eq_take_drop_succ _ _⟩
  rw [← drop_eq_getElem_cons inside, take_append_drop]

/-- Requests for other operations are still there, and none for the operation of the one that was
taken out. -/
theorem any (removed : Removed pending requests rest)
    (distinct : (requests.map Pending.operation).Nodup) (operation : Operation) :
    (rest.any fun other => other.operation == operation) =
      ((requests.any fun other => other.operation == operation) && !(pending.operation == operation)) := by
  obtain ⟨before, after, rfl, rfl⟩ := removed
  by_cases same : pending.operation = operation
  · subst same
    rw [map_append, map_cons, nodup_middle, nodup_cons, ← map_append] at distinct
    have missing : ((before ++ after).any fun other => other.operation == pending.operation) = false := by
      rw [any_eq_false]
      intro other member isSame
      exact distinct.1 (mem_map.mpr ⟨other, member, beq_iff_eq.mp isSame⟩)
    rw [missing, beq_self_eq_true, Bool.not_true, Bool.and_false]
  · have differs : (pending.operation == operation) = false := by simpa using same
    simp [differs]

end Removed

theorem Core.hasOperation_map (core : Core) (operation : Operation) :
    core.hasOperation operation = (core.pending.map Pending.operation).any (· == operation) := by
  rw [hasOperation, any_map]
  rfl

/-! ## What a ready core has -/

/-- What a ready core has, except for the timer or the request for the next refresh. -/
structure Core.Kept (core : Core) : Prop where
  relay : core.relay.isSome
  expiry : core.allocationExpiresAt.isSome
  authorized : core.Authorized
  maintenance : core.maintenanceRefresh.isSome
  keepalive : core.keepalive.isSome

/-- What is known of every core that is not asked for too much at once. -/
structure Stable (core : Core) : Prop where
  brief : Brief core.username core.realm core.nonce
  credentials : ∀ pending ∈ core.pending, pending.authenticated = true → core.Authorized
  kept : core.state = .ready → core.Kept
  destroyed : core.destroyed = true → core.state = .destroying

/-- A packet of a length that the client receives. -/
def Call.Fits : Call → Prop
  | .inputStun packet => packet.length ≤ 4096
  | _ => True

theorem value_length_le {kind : UInt16} {value : List UInt8}
    (decoded : Message.decode packet = .ok message)
    (read : (message.findAttribute kind).map Attribute.value = some value) :
    value.length ≤ packet.length := by
  obtain ⟨found, isFound, rfl⟩ := Option.map_eq_some_iff.mp read
  obtain ⟨place, -, -, rfl⟩ := message.passes.mem (mem_of_find?_eq_some isFound)
  rw [← (Message.of_decode decoded).2.1]
  simp only [attributeLayout, attributeAt, slice, length_take, length_drop]
  omega

theorem Succeeded.flags_eq
    (succeeded : Succeeded digests ambient message core operation after result) :
    after.destroyed = core.destroyed ∧ after.shuttingDown = core.shuttingDown := by
  cases succeeded with
  | malformed error same | allocated _ _ same | refreshed same | deallocated same
  | permitted same | bound same =>
    obtain ⟨_, _, rfl⟩ := same
    exact ⟨rfl, rfl⟩
  | late _ _ started =>
    obtain ⟨_, _, _, rfl⟩ := started.kept
    exact ⟨rfl, rfl⟩

namespace Stable

/-- A core of the same state, with the same relay and the same names, that has lost no timer. -/
theorem alike (stable : Stable core)
    (same : (after.username, after.realm, after.nonce, after.key, after.relay, after.state,
      after.destroyed) = (core.username, core.realm, core.nonce, core.key, core.relay, core.state,
        core.destroyed))
    (expiry : core.allocationExpiresAt.isSome → after.allocationExpiresAt.isSome)
    (maintenance : core.maintenanceRefresh.isSome → after.maintenanceRefresh.isSome)
    (keepalive : core.keepalive.isSome → after.keepalive.isSome)
    (credentials : ∀ pending ∈ after.pending, pending.authenticated = true → core.Authorized) :
    Stable after := by
  simp only [Prod.mk.injEq] at same
  obtain ⟨username, realm, nonce, key, relay, state, destroyed⟩ := same
  have authorized : core.Authorized → after.Authorized :=
    fun known => ⟨realm ▸ known.1, nonce ▸ known.2, key ▸ known.3⟩
  refine ⟨?_, fun other member isAuthenticated =>
    authorized (credentials other member isAuthenticated), fun isReady => ?_, ?_⟩
  · rw [username, realm, nonce]
    exact stable.brief
  · have kept := stable.kept (state ▸ isReady)
    exact ⟨relay ▸ kept.1, expiry kept.2, authorized kept.3, maintenance kept.4, keepalive kept.5⟩
  · rw [state, destroyed]
    exact stable.destroyed

theorem requeued (same : Requeued core after) (stable : Stable core) : Stable after := by
  obtain ⟨controls, events, rfl⟩ := same
  exact stable.alike rfl id id id stable.credentials

theorem idle (brief : Brief core.username core.realm core.nonce) (nothing : core.pending = [])
    (notReady : core.state ≠ .ready) (destroyed : core.destroyed = true → core.state = .destroying) :
    Stable core := by
  refine ⟨brief, fun other member => ?_, fun isReady => absurd isReady notReady, destroyed⟩
  rw [nothing] at member
  exact absurd member not_mem_nil

section

variable (stable : Stable core)

include stable

theorem fewer {requests : List Pending} (sublist : requests.Sublist core.pending) :
    Stable { core with pending := requests } :=
  stable.alike rfl id id id fun other member => stable.credentials other (sublist.subset member)

theorem intact (ordered : Ordered core) (member : pending ∈ core.pending) :
    core.destroyed = false := by
  by_contra destroyed
  have allowed := ordered.allowed pending member
  rw [stable.destroyed (not_eq_false _ ▸ destroyed)] at allowed
  exact allowed

theorem intact_of_ready (isReady : core.state = .ready) : core.destroyed = false := by
  by_contra destroyed
  have isDestroying := stable.destroyed (not_eq_false _ ▸ destroyed)
  rw [isReady] at isDestroying
  cases isDestroying

theorem gone (intact : core.destroyed = false) (operation : Operation) :
    Stable (core.gone operation) := by
  refine idle stable.brief rfl ?_
    fun destroyed => absurd (intact.symm.trans destroyed) false_ne_true
  dsimp only [Core.gone]
  split
  · exact State.noConfusion
  · exact State.noConfusion

theorem failed {now : Nat} (intact : core.destroyed = false)
    (failed : Failed operation now core after) : Stable after := by
  cases failed with
  | retried failures repeats lasting same =>
    refine requeued same ?_
    cases operation <;> exact stable.alike rfl id id id stable.credentials
  | exhausted failures isChannel lasting same =>
    exact requeued same (idle stable.brief rfl State.noConfusion fun _ => rfl)
  | destroyed final same => exact requeued same (stable.gone intact operation)

theorem started
    (started : Started digests ambient operation authenticated nonceRetries core after result) :
    Stable after := by
  cases started with
  | already _ same | failed _ _ same => exact stable.requeued same
  | started missing authorized same =>
    refine requeued same (stable.alike rfl id id id fun other member isAuthenticated => ?_)
    rcases mem_append.mp member with old | new
    · exact stable.credentials other old isAuthenticated
    · obtain rfl := mem_singleton.mp new
      exact authorized isAuthenticated

end

theorem authorized (realm nonce : List UInt8) : (core.setAuth digests realm nonce).Authorized :=
  ⟨rfl, rfl, rfl⟩

theorem reauthorized (digests : Digests) (stable : Stable core) (realmShort : realm.length ≤ 4096)
    (nonceShort : nonce.length ≤ 4096) : Stable (core.setAuth digests realm nonce) := by
  refine ⟨⟨stable.brief.username, ?_, ?_⟩, fun _ _ _ => authorized realm nonce, fun isReady => ?_,
    stable.destroyed⟩
  · rintro _ ⟨⟩
    exact realmShort
  · rintro _ ⟨⟩
    exact nonceShort
  · have kept := stable.kept isReady
    exact ⟨kept.1, kept.2, authorized realm nonce, kept.4, kept.5⟩

section

variable (stable : Stable core)

include stable

theorem challenge_brief (short : packet.length ≤ 4096)
    (decoded : Message.decode packet = .ok message)
    (realmRead : (message.findAttribute attrRealm).map Attribute.value = some realm ∨ core.realm =
      some realm) (nonceRead : (message.findAttribute attrNonce).map Attribute.value = some nonce) :
    realm.length ≤ 4096 ∧ nonce.length ≤ 4096 := by
  refine ⟨?_, Nat.le_trans (value_length_le decoded nonceRead) short⟩
  rcases realmRead with fromMessage | kept
  · exact Nat.le_trans (value_length_le decoded fromMessage) short
  · exact stable.brief.realm realm kept

theorem granted (intact : core.destroyed = false) (authorized : core.Authorized)
    (relay : SocketAddr) (returned : Option Nat) (now : Nat) (state : State) :
    Stable { core.granted relay returned now with state := state } := by
  have known : Core.Authorized { core.granted relay returned now with state := state } :=
    ⟨authorized.1, authorized.2, authorized.3⟩
  exact ⟨stable.brief, fun _ _ _ => known, fun _ => ⟨rfl, rfl, known, rfl, rfl⟩,
    fun destroyed => absurd (intact.symm.trans destroyed) false_ne_true⟩

theorem succeeded (intact : core.destroyed = false) (authorized : core.Authorized)
    (succeeded : Succeeded digests ambient message core operation after result) : Stable after := by
  cases succeeded with
  | malformed error same => exact stable.requeued same
  | allocated running read same => exact requeued same (stable.granted intact authorized _ _ _ _)
  | late shuttingDown read started =>
    exact Stable.started (stable.granted intact authorized _ _ _ _) started
  | refreshed same => exact requeued same (stable.alike rfl (fun _ => rfl) id id stable.credentials)
  | deallocated same =>
    refine requeued same ⟨stable.brief, fun _ _ _ => ⟨authorized.1, authorized.2, authorized.3⟩,
      fun isReady => ?_, fun destroyed => absurd (intact.symm.trans destroyed) false_ne_true⟩
    cases isReady
  | permitted same | bound same => exact requeued same (stable.alike rfl id id id stable.credentials)

theorem received {status : Status} (ordered : Ordered core) (short : packet.length ≤ 4096)
    (received : Received digests ambient packet core after status) : Stable after := by
  have removed : ∀ message, Stable (core.without message) :=
    fun _ => stable.fewer eraseP_sublist
  have unharmed : ∀ {message pending}, Answers core packet message pending →
      (core.without message).destroyed = false :=
    fun answers => stable.intact ordered (mem_of_find?_eq_some answers.found)
  have known : ∀ {message pending}, Authentic digests core packet message pending →
      (core.without message).Authorized := by
    intro message pending authentic
    have authorized := stable.credentials pending (mem_of_find?_eq_some authentic.found)
      authentic.authenticated
    exact ⟨authorized.1, authorized.2, authorized.3⟩
  cases received with
  | ignored refused same => exact stable.requeued same
  | unexpected answers _ failed | refused answers _ failed =>
    exact (removed _).failed (unharmed answers) failed
  | recreated answers _ _ _ same => exact ((removed _).gone (unharmed answers) _).requeued same
  | challenged answers _ realmRead nonceRead started =>
    obtain ⟨realmShort, nonceShort⟩ := stable.challenge_brief short answers.decoded realmRead nonceRead
    exact ((removed _).reauthorized digests realmShort nonceShort).started started
  | stuck answers _ realmRead nonceRead started failed =>
    obtain ⟨realmShort, nonceShort⟩ := stable.challenge_brief short answers.decoded realmRead nonceRead
    have again := ((removed _).reauthorized digests realmShort nonceShort).started started
    refine again.failed ?_ failed
    obtain ⟨_, _, _, rfl⟩ := started.kept
    exact unharmed answers
  | succeeded authentic succeeded =>
    exact (removed _).succeeded (unharmed authentic.toAnswers) (known authentic) succeeded
  | spoiled authentic succeeded failed =>
    have intact := unharmed authentic.toAnswers
    exact ((removed _).succeeded intact (known authentic) succeeded).failed
      (succeeded.flags_eq.1.trans intact) failed

theorem change (ordered : Ordered core) (fits : input.1.Fits)
    (change : Change digests input core after) : Stable after := by
  cases change with
  | requeued same => exact stable.requeued same
  | opened isNull isOpen started =>
    refine Stable.started ?_ started
    refine ⟨stable.brief, fun other member authenticated => ?_, fun isReady => ?_,
      fun destroyed => absurd (isOpen.intact.symm.trans destroyed) false_ne_true⟩
    · have authorized := stable.credentials other member authenticated
      exact ⟨authorized.1, authorized.2, authorized.3⟩
    · cases isReady
  | asked _ _ started => exact stable.started started
  | received received => exact stable.received ordered fits received
  | resent here same =>
    refine requeued same (stable.alike rfl id id id fun other member isAuthenticated => ?_)
    rcases mem_or_eq_of_mem_set member with old | rfl
    · exact stable.credentials other old isAuthenticated
    · exact stable.credentials _ (mem_of_getElem? here) isAuthenticated
  | timedOut here failed =>
    exact (stable.fewer (eraseIdx_sublist _ _)).failed
      (stable.intact ordered (mem_of_getElem? here)) failed
  | expired isReady ended same =>
    exact (stable.gone (stable.intact_of_ready isReady) .refresh).requeued same
  | renewed isReady repeats started =>
    rename_i operation
    refine Stable.started ?_ started
    cases operation <;> exact stable.alike rfl id id id stable.credentials
  | rearmed isReady => exact stable.alike rfl id (fun _ => rfl) id stable.credentials
  | keptAlive isReady same =>
    exact requeued same (stable.alike rfl id id (fun _ => rfl) stable.credentials)
  | released isOpen started =>
    refine Stable.started ?_ started
    exact idle stable.brief rfl State.noConfusion
      fun destroyed => absurd (isOpen.intact.symm.trans destroyed) false_ne_true
  | closed holdsNone same =>
    refine requeued same ⟨stable.brief, fun other member authenticated => ?_, fun isReady => ?_,
      stable.destroyed⟩
    · have member : other ∈ core.pending := by
        split at member
        · exact member
        · exact absurd member not_mem_nil
      have authorized := stable.credentials other member authenticated
      exact ⟨authorized.1, authorized.2, authorized.3⟩
    · exact absurd (.inl isReady) holdsNone
  | forced same =>
    exact requeued same (idle stable.brief rfl State.noConfusion fun _ => rfl)

end

theorem created (created : Created core) : Stable core := by
  obtain ⟨⟨_, _, _, _, _, _, rfl⟩, short⟩ := created
  refine idle ⟨short, ?_, ?_⟩ rfl State.noConfusion Bool.noConfusion
  · rintro _ ⟨⟩
  · rintro _ ⟨⟩

end Stable

/-! ## The next refresh -/

/-- The timer for the next refresh of a ready core is armed exactly if no refresh is pending. -/
def Scheduled (core : Core) : Prop :=
  core.state = .ready → core.hasOperation .refresh = !core.allocationRefresh.isSome

namespace Scheduled

theorem of_not_ready (notReady : core.state ≠ .ready) : Scheduled core :=
  fun isReady => absurd isReady notReady

theorem requeued (same : Requeued core after) (scheduled : Scheduled core) : Scheduled after := by
  obtain ⟨controls, events, rfl⟩ := same
  exact scheduled

theorem gone (core : Core) (operation : Operation) : Scheduled (core.gone operation) := by
  refine of_not_ready ?_
  dsimp only [Core.gone]
  split
  · exact State.noConfusion
  · exact State.noConfusion

/-- A refresh that fails arms the timer. -/
theorem failed {now : Nat} (scheduled : Scheduled core) (ordered : Ordered core)
    (removed : Removed pending core.pending rest)
    (failed : Failed pending.operation now { core with pending := rest } after) :
    Scheduled after := by
  have left := removed.any ordered.distinct .refresh
  cases failed with
  | retried failures repeats lasting same =>
    refine requeued same fun _ => ?_
    have before := scheduled lasting.ready
    rw [hasOperation] at before
    cases isFor : pending.operation with
    | refresh =>
      rw [isFor, beq_self_eq_true, Bool.not_true, Bool.and_false] at left
      exact left
    | permission | channel =>
      rw [isFor, before] at left
      exact left.trans (Bool.and_true _)
    | allocate | deallocate =>
      rw [isFor] at repeats
      cases repeats
  | exhausted failures isChannel lasting same => exact requeued same (of_not_ready State.noConfusion)
  | destroyed final same => exact requeued same (gone _ _)

theorem started (scheduled : Scheduled core) (other : operation ≠ .refresh)
    (started : Started digests ambient operation authenticated nonceRetries core after result) :
    Scheduled after := by
  cases started with
  | already _ same | failed _ _ same => exact scheduled.requeued same
  | started missing authorized same =>
    refine requeued same fun isReady => ?_
    have differs : (operation == .refresh) = false := by simpa using other
    have before := scheduled isReady
    simp only [hasOperation, any_append, any_cons, any_nil, request, differs,
      Bool.or_false] at before ⊢
    exact before

theorem renewed (brief : Brief core.username core.realm core.nonce) (authorized : core.Authorized)
    (unarmed : core.allocationRefresh = none)
    (started : Started digests ambient .refresh true nonceRetries core after result) :
    Scheduled after := by
  obtain ⟨-, ⟨pending, same⟩ | ⟨missing, packet, same⟩⟩ := brief.started (fun _ => authorized) started
  · refine requeued same fun _ => ?_
    rw [pending, unarmed]
    rfl
  · refine requeued same fun _ => ?_
    rw [hasOperation, any_append, unarmed]
    exact or_true _

/-- A request that was refused for its nonce is made again. -/
theorem challenged (scheduled : Scheduled core) (ordered : Ordered core)
    (removed : Removed pending core.pending rest)
    (brief : Brief core.username (some realm) (some nonce))
    (started : Started digests ambient pending.operation true nonceRetries
      (setAuth digests { core with pending := rest } realm nonce) after result) :
    result = none ∧ Scheduled after := by
  have left : ∀ operation, (setAuth digests { core with pending := rest } realm nonce).hasOperation
      operation = (core.hasOperation operation && !(pending.operation == operation)) :=
    removed.any ordered.distinct
  have here : core.hasOperation pending.operation = true := by
    obtain ⟨before, later, requests, -⟩ := removed
    rw [hasOperation, requests]
    simp
  have none := left pending.operation
  rw [beq_self_eq_true, Bool.not_true, Bool.and_false] at none
  obtain ⟨done, outcome⟩ := Brief.started brief (fun _ => Stable.authorized realm nonce) started
  refine ⟨done, ?_⟩
  rcases outcome with ⟨again, -⟩ | ⟨-, packet, same⟩
  · rw [none] at again
    cases again
  refine requeued same fun isReady => ?_
  have before := scheduled isReady
  have now : ((setAuth digests { core with pending := rest } realm nonce).hasOperation .refresh ||
      (pending.operation == .refresh)) = core.hasOperation .refresh := by
    rw [left]
    cases isFor : pending.operation == .refresh with
    | false => simp
    | true =>
      rw [beq_iff_eq.mp isFor] at here
      simp [here]
  rw [hasOperation, any_append, any_cons, any_nil, Bool.or_false]
  exact now.trans before

theorem no_refresh (ordered : Ordered core) (notReady : core.state ≠ .ready) :
    core.hasOperation .refresh = false := by
  rw [hasOperation, any_eq_false]
  intro other member isRefresh
  refine notReady ((ordered.allowed other member).ready ?_)
  rw [beq_iff_eq.mp isRefresh]
  rfl

/-- A refresh that succeeds arms the timer. -/
theorem succeeded (scheduled : Scheduled core) (ordered : Ordered core)
    (removed : Removed pending core.pending rest)
    (succeeded : Succeeded digests ambient message { core with pending := rest } pending.operation after
      none) : Scheduled after := by
  have left := removed.any ordered.distinct .refresh
  have allowed : core.state.Allows pending := by
    obtain ⟨before, later, requests, -⟩ := removed
    exact ordered.allowed pending (by simp [requests])
  generalize isFor : pending.operation = operation at succeeded left
  cases succeeded with
  | allocated running read same =>
    refine requeued same fun _ => ?_
    have missing := no_refresh ordered (by rw [allowed.allocate isFor]; exact State.noConfusion)
    rw [hasOperation] at missing
    rw [missing, Bool.false_and] at left
    exact left
  | late shuttingDown read started =>
    refine Scheduled.started ?_ Operation.noConfusion started
    exact of_not_ready State.noConfusion
  | refreshed same =>
    refine requeued same fun _ => ?_
    rw [beq_self_eq_true, Bool.not_true, Bool.and_false] at left
    exact left
  | deallocated same => exact requeued same (of_not_ready State.noConfusion)
  | permitted same | bound same =>
    exact requeued same fun isReady => left.trans ((Bool.and_true _).trans (scheduled isReady))

theorem received {status : Status} (scheduled : Scheduled core) (stable : Stable core)
    (ordered : Ordered core) (short : packet.length ≤ 4096)
    (received : Received digests ambient packet core after status) : Scheduled after := by
  have removed : ∀ {message pending}, Answers core packet message pending →
      Removed pending core.pending (core.pending.eraseP (answeredBy message)) :=
    fun answers => .eraseP answers.found
  cases received with
  | ignored refused same => exact scheduled.requeued same
  | unexpected answers _ failed | refused answers _ failed =>
    exact scheduled.failed ordered (removed answers) failed
  | recreated answers _ _ _ same => exact (gone _ _).requeued same
  | challenged answers _ realmRead nonceRead started =>
    obtain ⟨realmShort, nonceShort⟩ := stable.challenge_brief short answers.decoded realmRead nonceRead
    have brief := (stable.reauthorized digests realmShort nonceShort).brief
    exact (scheduled.challenged ordered (removed answers) brief started).2
  | stuck answers _ realmRead nonceRead started failed =>
    obtain ⟨realmShort, nonceShort⟩ := stable.challenge_brief short answers.decoded realmRead nonceRead
    have brief := (stable.reauthorized digests realmShort nonceShort).brief
    cases (scheduled.challenged ordered (removed answers) brief started).1
  | succeeded authentic succeeded =>
    exact scheduled.succeeded ordered (removed authentic.toAnswers) succeeded
  | spoiled authentic succeeded failed =>
    rename_i middle message pending error
    generalize isFor : pending.operation = operation at succeeded
    cases succeeded with
    | malformed _ same =>
      exact scheduled.failed ordered (removed authentic.toAnswers) (failed.of_requeued same)
    | late _ _ started =>
      rw [isFor] at failed
      exact requeued (failed.gone rfl) (gone _ _)

theorem change (scheduled : Scheduled core) (stable : Stable core) (ordered : Ordered core)
    (fits : input.1.Fits) (change : Change digests input core after) : Scheduled after := by
  cases change with
  | requeued same => exact scheduled.requeued same
  | opened isNull isOpen started | released isOpen started =>
    refine Scheduled.started ?_ Operation.noConfusion started
    exact of_not_ready State.noConfusion
  | asked _ optional started =>
    refine scheduled.started ?_ started
    rcases optional with rfl | rfl
    · exact Operation.noConfusion
    · exact Operation.noConfusion
  | received received => exact scheduled.received stable ordered fits received
  | resent here same =>
    refine requeued same fun isReady => ?_
    have before := scheduled isReady
    rw [hasOperation_map] at before ⊢
    refine (congrArg (fun operations => operations.any (· == .refresh)) (map_operation_set here ?_)).trans
      before
    rfl
  | timedOut here failed => exact scheduled.failed ordered (.eraseIdx here) failed
  | expired isReady ended same => exact (gone _ _).requeued same
  | renewed isReady repeats started =>
    rename_i operation
    have kept := stable.kept isReady
    cases operation with
    | refresh =>
      refine renewed ?_ ?_ ?_ started
      · exact stable.brief
      · exact ⟨kept.3.1, kept.3.2, kept.3.3⟩
      · rfl
    | permission | channel =>
      refine Scheduled.started ?_ Operation.noConfusion started
      exact scheduled
    | allocate | deallocate => cases repeats
  | rearmed isReady => exact scheduled
  | keptAlive isReady same => exact requeued same scheduled
  | closed holdsNone same =>
    exact requeued same (of_not_ready fun isReady => holdsNone (.inl isReady))
  | forced same => exact requeued same (of_not_ready State.noConfusion)

end Scheduled

/-! ## Every run -/

/-- The allocation of a ready core is kept: everything for its requests is known, its timers are armed,
and either the timer for the next refresh is armed or a refresh is pending. -/
structure Core.Maintained (core : Core) : Prop extends core.Kept where
  refresh : core.hasOperation .refresh = !core.allocationRefresh.isSome

/-- What is known of every state of a run. -/
structure Tended (core : Core) : Prop where
  ordered : Ordered core
  stable : Stable core
  scheduled : Scheduled core

theorem Tended.change (tended : Tended core) (fits : input.1.Fits)
    (change : Change digests input core after) : Tended after where
  ordered := tended.ordered.change change
  stable := tended.stable.change tended.ordered fits change
  scheduled := tended.scheduled.change tended.stable tended.ordered fits change

theorem Tended.created (created : Created core) : Tended core := by
  refine ⟨.created created, .created created, ?_⟩
  obtain ⟨⟨_, _, _, _, _, _, rfl⟩, -⟩ := created
  exact Scheduled.of_not_ready State.noConfusion

theorem Tended.run (digests : Digests) (created : Created core) (calls : List (Call × Ambient))
    (fits : ∀ input ∈ calls, input.1.Fits) : Tended (final (step digests) core calls) :=
  throughout_final _ _ _ _ (throughout_of_change digests
    (fun fits tended change => tended.change fits change) (.created created) calls fits)

/-- In every run, the maintenance of an allocation is not forgotten, and what is ready after a poll
lasts longer than until then. -/
theorem maintenance_is_never_forgotten (digests : Digests) {server peer : SocketAddr}
    {username password : List UInt8} {profile : CsqttTurnProfile} {transport : TurnControlTransport}
    {core : Core} (created : create server username password peer profile transport = .ok core)
    (calls : List (Call × Ambient)) (fits : ∀ input ∈ calls, input.1.Fits) :
    let reached := final (step digests) core calls
    (reached.state = .ready → reached.shuttingDown = false → reached.Maintained) ∧
    ∀ ambient, (reached.poll digests ambient).1.state = .ready →
      (reached.poll digests ambient).1.shuttingDown = false →
        ∃ expiry, (reached.poll digests ambient).1.allocationExpiresAt = some expiry ∧
          ambient.now < expiry := by
  intro reached
  have tended : Tended reached := Tended.run digests (Created.of_create created) calls fits
  refine ⟨fun isReady _ => ⟨tended.stable.kept isReady, tended.scheduled isReady⟩, ?_⟩
  intro ambient isReady running
  have polled : Tended (reached.poll digests ambient).1 := by
    have later := Tended.run digests (Created.of_create created)
      (calls ++ [(.poll, ambient)]) ?_
    · rw [final_append] at later
      exact later
    · intro input member
      rcases mem_append.mp member with old | new
      · exact fits input old
      · rw [mem_singleton.mp new]
        trivial
  have intact : reached.destroyed = false := by
    by_contra destroyed
    have isDestroyed : reached.destroyed = true := not_eq_false _ ▸ destroyed
    have unchanged : (reached.poll digests ambient).1 = reached := by
      rw [poll, if_pos isDestroyed]
    rw [unchanged, tended.stable.destroyed isDestroyed] at isReady
    cases isReady
  have lasts := (reached.poll_changes digests ambient).2 intact isReady running
  obtain ⟨expiry, isExpiry⟩ := Option.isSome_iff_exists.mp (polled.stable.kept isReady).expiry
  refine ⟨expiry, isExpiry, ?_⟩
  rw [isExpiry] at lasts
  exact Nat.lt_of_not_le (of_decide_eq_false lasts)

/-- Ask for an allocation, ask again with authentication, and get it. -/
def Sample.granting : List (Call × Ambient) :=
  Sample.opening ++ [(.inputStun Sample.grant, Sample.ambient 2 3)]

/-- A core that became ready a moment ago. -/
theorem sample_is_maintained : (∀ input ∈ Sample.granting, input.1.Fits) ∧
      (final (step Sample.digests) Sample.core Sample.granting).state = .ready ∧
      (final (step Sample.digests) Sample.core Sample.granting).Maintained := by
  have fits : ∀ input ∈ Sample.granting, input.1.Fits := by
    have lengths : Sample.challenge.length ≤ 4096 ∧ Sample.grant.length ≤ 4096 := by decide +kernel
    intro input member
    rcases mem_append.mp member with opening | granting
    · rcases mem_pair.mp opening with rfl | rfl
      · exact True.intro
      · exact lengths.1
    · obtain rfl := mem_singleton.mp granting
      exact lengths.2
  have isReady : (final (step Sample.digests) Sample.core Sample.granting).state = .ready ∧
      (final (step Sample.digests) Sample.core Sample.granting).shuttingDown = false := by
    decide +kernel
  exact ⟨fits, isReady.1, (maintenance_is_never_forgotten Sample.digests Sample.created Sample.granting
    fits).1 isReady.1 isReady.2⟩

end Csqtt.Turn
