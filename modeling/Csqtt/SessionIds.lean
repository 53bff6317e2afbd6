import Csqtt.EngineInvariants

/-!
# Every session in one place

A session is in the slab of a shard, or it is on its way to one: in the output of the
shard that opened it, with the router, or in the input of the shard that will adopt it.
`System.ids` lists the ids of all sessions, wherever they are. In every state of every run
no id stands there twice, all of them were given out already, and the index of the ids is
exact in every shard.
-/

namespace Csqtt.Dataplane

open Engine Routes List RouterCommand

/-- The ids of the sessions that inputs bring. -/
def broughtIds (input : List WorkerInput) : List Nat :=
  (input.filterMap WorkerInput.brought).map HotSession.id

/-- The ids of the sessions that commands hand over. -/
def handedIds (commands : List RouterCommand) : List Nat :=
  (commands.filterMap handover).map HotSession.id

/-- The ids in the slab of a shard and in its queues. -/
def Shard.ids (shard : Shard) : List Nat :=
  Table.image HotSession.id shard.engine.tables.sessions ++ broughtIds shard.input ++
    handedIds shard.output

/-- The sessions in the queues of a shard. -/
def Shard.travelling (shard : Shard) : List HotSession :=
  shard.input.filterMap WorkerInput.brought ++ shard.output.filterMap handover

/-- The sessions between two slabs: in the queues of the shards, or with the router. -/
def System.travelling (system : System) : List HotSession :=
  system.shards.flatMap Shard.travelling ++ system.pendingRouter.filterMap handover

/-- The ids of all sessions, wherever they are. -/
def System.ids (system : System) : List Nat :=
  system.shards.flatMap Shard.ids ++ handedIds system.pendingRouter

/-- Every id is in one place, and the index of the ids is exact. -/
structure System.Tracked (system : System) : Prop where
  all : system.All fun engine =>
    Table.Indexes HotSession.id engine.tables.sessions engine.tables.byId
  fresh : Fresh system.ids system.nextId

variable {payload : List UInt8} {rest : List WorkerInput} {session : HotSession}

namespace System

variable {system : System} {index : Nat} {shard : Shard}

/-- The ids that are neither in a shard nor in its queues. -/
def elsewhere (system : System) (index : Nat) : List Nat :=
  (system.shards.eraseIdx index).flatMap Shard.ids ++ handedIds system.pendingRouter

theorem ids_set (here : system.shards[index]? = some shard) (new : Shard)
    (pending : List RouterCommand) :
    ((system.shards.set index new).flatMap Shard.ids ++ handedIds pending).Perm
      (new.ids ++ ((system.shards.eraseIdx index).flatMap Shard.ids ++ handedIds pending)) := by
  rw [← append_assoc]
  exact ((VecOps.flatMap_set_perm Shard.ids here).2 new).append_right _

theorem ids_split (here : system.shards[index]? = some shard) :
    system.ids.Perm (shard.ids ++ system.elsewhere index) := by
  rw [elsewhere, ← append_assoc]
  exact ((VecOps.flatMap_set_perm Shard.ids here).1).append_right _

/-! ## The queues -/

/-- The ids in all slabs and on their way between them. -/
theorem ids_perm (system : System) : system.ids.Perm ((system.engines.flatMap fun engine =>
    Table.image HotSession.id engine.tables.sessions) ++ system.travelling.map HotSession.id) := by
  have shards : ∀ shards : List Shard, (shards.flatMap Shard.ids).Perm
      (((shards.map Shard.engine).flatMap fun engine =>
        Table.image HotSession.id engine.tables.sessions) ++
      (shards.flatMap Shard.travelling).map HotSession.id) := by
    intro shards
    induction shards with
    | nil => exact .refl _
    | cons shard rest ih =>
      rw [perm_iff_count] at ih ⊢
      intro id
      have counted := ih id
      simp only [flatMap_cons, map_cons, map_append, count_append, Shard.ids,
        Shard.travelling, broughtIds, handedIds] at counted ⊢
      omega
  rw [System.ids, travelling, map_append, ← append_assoc]
  exact (shards system.shards).append_right _

variable {after : System}

theorem travelling_set {new : Shard} (here : system.shards[index]? = some shard)
    (changed : after.shards = system.shards.set index new)
    (same : (new.travelling ++ after.pendingRouter.filterMap handover).Perm
      (shard.travelling ++ system.pendingRouter.filterMap handover)) :
    after.travelling.Perm system.travelling := by
  classical
  obtain ⟨parts, replaced⟩ := VecOps.flatMap_set_perm Shard.travelling here
  have now := replaced new
  rw [perm_iff_count] at parts now same ⊢
  intro session
  have before := parts session
  have later := now session
  have still := same session
  simp only [travelling, changed, count_append] at before later still ⊢
  omega

/-- Nothing between the engines loses a session or doubles one, except that the router drops one
for a shard that does not exist. -/
theorem Passes.travelling (passes : system.Passes after) : after.travelling.Perm system.travelling ∨
      (after.travelling.Sublist system.travelling ∧ ∃ endpoint target session payload rest,
        system.pendingRouter = .migrate endpoint target session payload :: rest ∧
          system.shards[target]? = none) := by
  cases passes with
  | entered here own =>
    refine .inl (travelling_set here rfl (List.Perm.append_right _ ?_))
    simp only [Shard.travelling, filterMap_append, filterMap_cons_none own,
      filterMap_nil, append_nil]
    exact .refl _
  | collected here output =>
    refine .inl (travelling_set here rfl ?_)
    simp only [Shard.travelling, output, filterMap_append, append_assoc]
    refine List.Perm.append_left _ ?_
    rw [← append_assoc]
    refine (perm_append_comm).trans ?_
    rw [← append_assoc, ← filterMap_append]
    rfl
  | routed routes =>
    rw [System.travelling, System.travelling]
    cases routes with
    | idle waits => exact .inl (.refl _)
    | boundEndpoint waits | boundTunnel waits tunnels =>
      rw [waits]
      exact .inl (.refl _)
    | lost waits missing =>
      rw [waits]
      exact .inr ⟨(sublist_cons_self _ _).append_left _, _, _, _, _, _, rfl, missing⟩
    | refused waits =>
      rw [waits, filterMap_append]
      exact .inl (perm_append_comm.append_left _)
    | delivered waits here =>
      refine .inl (travelling_set here rfl ?_)
      simp only [Shard.travelling, waits, filterMap_append, append_assoc,
        filterMap_cons, filterMap_nil, WorkerInput.brought, ProtocolCommand.adopted,
        handover, singleton_append]
      exact perm_middle.symm.append_left _

theorem Passing.fresh (passing : system.Passing after)
    (fresh : Fresh system.ids system.nextId) : Fresh after.ids after.nextId := by
  induction passing with
  | refl => exact fresh
  | tail _ passes ih =>
    rw [passes.nextId]
    have before := ih.perm (ids_perm _)
    refine Fresh.perm ?_ (ids_perm _).symm
    rw [passes.engines]
    obtain same | ⟨part, _⟩ := passes.travelling
    · exact before.perm ((same.symm.map _).append_left _)
    · exact before.sublist ((part.map _).append_left _)

/-! ## Calls -/

theorem call_ids (here : system.shards[index]? = some shard) :
    system.ids.Perm (broughtIds shard.input ++ (handedIds shard.output ++ system.elsewhere index) ++
      Work.ids ⟨shard.engine, system.nextId, []⟩) := by
  refine (ids_split here).trans (perm_iff_count.mpr ?_)
  intro id
  simp only [Shard.ids, Work.ids, Work.departures, filterMap_nil, map_nil, count_append, count_nil]
  omega

theorem commit_ids (here : system.shards[index]? = some shard) (input : List WorkerInput)
    (after : Work) :
    (broughtIds input ++ (handedIds shard.output ++ system.elsewhere index) ++ after.ids).Perm
      (system.commit index shard input after).ids := by
  have handed : handedIds (shard.output ++ after.effects.filterMap Effect.routed) =
      handedIds shard.output ++ after.departures.map HotSession.id := by
    rw [handedIds, handedIds, filterMap_append, map_append, filterMap_filterMap]
    rfl
  refine List.Perm.trans ?_ (ids_set here _ system.pendingRouter).symm
  rw [perm_iff_count]
  intro id
  simp only [Shard.ids, handed, Work.ids, elsewhere, count_append]
  omega

theorem brought_adoption (first : shard.input = .command (.adoptSession session payload) :: rest) :
    broughtIds shard.input = session.id :: broughtIds rest := by
  rw [first]
  rfl

namespace Tracked

section

variable (tracked : system.Tracked) (here : system.shards[index]? = some shard)

include tracked here

theorem indexed :
    Table.Indexes HotSession.id shard.engine.tables.sessions shard.engine.tables.byId :=
  (tracked.all.shard here).2

theorem named : shard.engine.tables.Named :=
  (tracked.all.shard here).1

theorem call :
    Work.Tracked (broughtIds shard.input ++ (handedIds shard.output ++ system.elsewhere index))
      ⟨shard.engine, system.nextId, []⟩ :=
  ⟨tracked.indexed here, tracked.fresh.perm (call_ids here)⟩

theorem commit {rights : Rights} {after : Work}
    (steps : Steps rights ⟨shard.engine, system.nextId, []⟩ after) (input : List WorkerInput)
    (same : broughtIds input = broughtIds shard.input) :
    (system.commit index shard input after).Tracked := by
  have called := steps.tracked (tracked.call here)
  refine ⟨tracked.all.commit index shard input ⟨steps.named (tracked.named here), called.byId⟩, ?_⟩
  rw [← same] at called
  exact called.fresh.perm (commit_ids here input after)

theorem missing (first : shard.input = .command (.adoptSession session payload) :: rest) :
    session.id ∉ Table.image HotSession.id shard.engine.tables.sessions := by
  have fresh := (tracked.call here).fresh
  rw [brought_adoption first] at fresh
  intro member
  have apart := (nodup_cons.mp fresh.distinct).1
  exact apart (mem_append_right _ (mem_append_left _ member))

theorem adopt (outside : Outside)
    (first : shard.input = .command (.adoptSession session payload) :: rest) :
    (system.commit index shard rest
      (Work.adoptSession ⟨shard.engine, system.nextId, []⟩ outside session payload)).Tracked := by
  have called := tracked.call here
  refine ⟨tracked.all.commit index shard rest ?_, ?_⟩
  · rw [Work.adoptSession_engine]
    exact ⟨(tracked.named here).enter (outside.slots.vacant _), called.byId.insert
      (outside.slots.vacant _) (SessionTables.byId_none called.byId (tracked.missing here first))⟩
  · rw [brought_adoption first] at called
    exact (Work.adoptSession_fresh _ outside session payload _ called.fresh).perm
      (commit_ids here rest _)

end

theorem turn (tracked : system.Tracked) {effects : List Effect}
    (turn : system.Turn index after effects) : after.Tracked := by
  cases turn with
  | idle => exact tracked
  | called here call =>
    cases call.steps (tracked.named here) with
    | inl adoption =>
      obtain ⟨outside, session, payload, first, rfl⟩ := adoption
      exact tracked.adopt here outside first
    | inr operations =>
      exact tracked.commit here operations.2 _ (congrArg (List.map HotSession.id) operations.1)

theorem step (tracked : system.Tracked) (event : Event) : (system.step event).1.Tracked := by
  obtain passing | ⟨index, turn⟩ := system.step_cases event
  · exact ⟨tracked.all.of_engines (Passing.engines passing), Passing.fresh passing tracked.fresh⟩
  · exact tracked.turn turn

end Tracked

section

variable (shardCount : Nat) (credentials : List Credential) (epochs : Table ControlText.Text Nat)

include shardCount credentials epochs

theorem new_fresh : Fresh (System.new shardCount credentials epochs).ids
      (System.new shardCount credentials epochs).nextId := by
  have empty : ∀ shard ∈ (System.new shardCount credentials epochs).shards, shard.ids = [] := by
    intro shard member
    obtain ⟨index, _, rfl⟩ := mem_map.mp member
    rfl
  rw [System.ids, flatMap_eq_nil_iff.mpr empty]
  constructor
  · exact nodup_nil
  · intro id member
    cases member

theorem new_tracked : (System.new shardCount credentials epochs).Tracked := by
  refine ⟨?_, new_fresh shardCount credentials epochs⟩
  intro engine member
  rw [System.engines, System.new, map_map] at member
  obtain ⟨index, _, rfl⟩ := mem_map.mp member
  exact ⟨⟨Table.Names.empty, Table.Names.empty⟩, Table.Indexes.empty⟩

end

end System

end Csqtt.Dataplane
