import Csqtt.CommandFanout
import Csqtt.Placement

/-!
# Sessions on their way to another shard

A session whose device belongs to another shard leaves the slab it was opened in. It waits
in the output of its shard, then with the router, then in the input of the other shard,
which adopts it. It is never lost on the way, and it is never in two places: an event passes
it on or leaves it where it is, and only the adoption ends the journey. If its own shard has
no room for it in the output, it never leaves.

The router binds the endpoint to the other shard when it puts the adoption into the queue of
that shard, and not before. A queue is served in order, so the other shard comes to the
adoption before any datagram that was sent to it afterwards.
-/

namespace Csqtt.Dataplane

open Engine Routes ControlText List Runs Option Work

/-- A session is between two slabs: it is brought by an input of a shard, or handed over by
a message of a shard or a pending command. -/
def System.Travels (system : System) (session : HotSession) : Prop :=
  (∃ shard ∈ system.shards, session ∈ shard.input.filterMap WorkerInput.brought ∨
    session ∈ shard.output.filterMap RouterCommand.handover) ∨
  session ∈ system.pendingRouter.filterMap RouterCommand.handover

/-- A session is in the slab of a shard. -/
def System.Houses (system : System) (session : HotSession) : Prop :=
  ∃ shard ∈ system.shards, ∃ slot, shard.engine.tables.sessions.lookup slot = some session

/-- A session is in a slab or between two slabs. -/
def System.Holds (system : System) (session : HotSession) : Prop :=
  system.Travels session ∨ system.Houses session

/-- What waits for a shard. -/
def System.queue (index : Nat) (system : System) : List WorkerInput :=
  system.shards[index]?.elim [] Shard.input

/-- What an event puts into the queue of a shard. -/
def Event.arrived (index : Nat) (system : System) : Event → List WorkerInput
  | .datagram peer localIp packet room =>
    if (index = (system.endpointShards.lookup ⟨peer, localIp⟩).getD 0 ∧
        (packet.length ≤ ServerObfs.packetCapacity && room)) ∧ index < system.shards.length then
      [.udp peer localIp packet]
    else []
  | .tun packet room =>
    if (index = system.tunnelShard packet ∧
        (packet.length ≤ ServerObfs.packetCapacity && room)) ∧ index < system.shards.length then
      [.tun packet]
    else []
  | .ioCounters room => if (index = 0 ∧ room) ∧ index < system.shards.length then [.ioCounters] else []
  | .command logic room =>
    if (index < copies logic.command system.shards.length ∧ room index) ∧
        index < system.shards.length then
      [.command logic.command]
    else []
  | .route room =>
    match system.pendingRouter with
    | .migrate _ target session payload :: _ =>
      if (index = target ∧ room) ∧ index < system.shards.length then
        [.command (.adoptSession session payload)]
      else []
    | _ => []
  | _ => []

/-- What a shard takes from its queue. -/
def Event.taken (index : Nat) (system : System) : Event → List WorkerInput
  | .work worker _ => if index = worker then (system.queue index).take 1 else []
  | _ => []

namespace System

variable {system after : System} {index : Nat} {shard new : Shard} {session : HotSession}

/-! ## Sessions on their way -/

theorem travels_of_shard (here : system.shards[index]? = some shard)
    (member : session ∈ shard.input.filterMap WorkerInput.brought ∨
      session ∈ shard.output.filterMap RouterCommand.handover) : system.Travels session :=
  .inl ⟨shard, mem_of_getElem? here, member⟩

theorem changed_shard (here : system.shards[index]? = some shard)
    (changed : after.shards = system.shards.set index new) : after.shards[index]? = some new := by
  obtain ⟨inside, _⟩ := List.getElem?_eq_some_iff.mp here
  rw [changed, getElem?_set, if_pos rfl, if_pos inside]

/-- Where a session may be when one shard changes. -/
theorem Travels.around (travels : system.Travels session)
    (here : system.shards[index]? = some shard)
    (changed : after.shards = system.shards.set index new) {goal : Prop}
    (elsewhere : after.Travels session → goal)
    (input : session ∈ shard.input.filterMap WorkerInput.brought → goal)
    (output : session ∈ shard.output.filterMap RouterCommand.handover → goal)
    (pending : session ∈ system.pendingRouter.filterMap RouterCommand.handover → goal) : goal := by
  obtain ⟨other, member, queued⟩ | waits := travels
  · obtain ⟨place, there⟩ := getElem?_of_mem member
    by_cases same : index = place
    · rw [← same, here] at there
      cases there
      exact queued.elim input output
    · have still : after.shards[place]? = some other := by
        rw [changed, getElem?_set_ne same, there]
      exact elsewhere (travels_of_shard still queued)
  · exact pending waits

theorem travels_iff : system.Travels session ↔ session ∈ system.travelling := by
  simp [Travels, travelling, Shard.travelling]

end System

/-- A shard of a system with a number of shards: its engine knows its place, and what it asks
of the router is proper. -/
structure Shard.Proper (index count : Nat) (shard : Shard) : Prop where
  shardIndex : shard.engine.shardIndex = index
  shardCount : shard.engine.shardCount = count
  output : ∀ command ∈ shard.output, command.Proper index count

/-- All shards are proper, and so is what waits at the router. -/
structure System.Proper (system : System) : Prop where
  shards : ∀ (index : Nat) (shard : Shard), system.shards[index]? = some shard →
    shard.Proper index system.shards.length
  pending : ∀ command ∈ system.pendingRouter, ∃ index, command.Proper index system.shards.length

variable {effects : List Effect} {endpoint : EndpointKey}

namespace System

variable {system after : System} {index : Nat} {shard new : Shard} {session : HotSession}

namespace Proper

section

variable (proper : system.Proper)

include proper

theorem set (changed : after.shards = system.shards.set index new)
    (still : new.Proper index system.shards.length)
    (pending : ∀ command ∈ after.pendingRouter, ∃ index,
      command.Proper index system.shards.length) : after.Proper := by
  have length : after.shards.length = system.shards.length := by
    rw [changed, length_set]
  rw [← length] at still pending
  refine ⟨?_, pending⟩
  intro other stored there
  rw [changed] at there
  obtain ⟨rfl, rfl⟩ | ⟨_, old⟩ := shard_of_set there
  · exact still
  · rw [length]
    exact proper.shards other stored old

theorem pass (passes : system.Passes after) : after.Proper := by
  have pending := proper.pending
  cases passes with
  | entered here own =>
    obtain ⟨shardIndex, shardCount, output⟩ := proper.shards _ _ here
    exact proper.set rfl ⟨shardIndex, shardCount, output⟩ pending
  | collected here output =>
    have known := proper.shards _ _ here
    have asked := known.output
    rw [output] at asked
    obtain ⟨first, later⟩ := forall_mem_cons.mp asked
    refine proper.set rfl ⟨known.shardIndex, known.shardCount, later⟩ ?_
    exact forall_mem_append.mpr ⟨pending, forall_mem_singleton.mpr ⟨_, first⟩⟩
  | routed routes =>
    cases routes with
    | idle waits => exact proper
    | boundEndpoint waits | boundTunnel waits tunnels | lost waits missing =>
      rw [waits] at pending
      exact ⟨proper.shards, (forall_mem_cons.mp pending).2⟩
    | refused waits =>
      rw [waits] at pending
      obtain ⟨first, later⟩ := forall_mem_cons.mp pending
      exact ⟨proper.shards, forall_mem_append.mpr ⟨later, forall_mem_singleton.mpr first⟩⟩
    | delivered waits here =>
      rw [waits] at pending
      obtain ⟨shardIndex, shardCount, output⟩ := proper.shards _ _ here
      exact proper.set rfl ⟨shardIndex, shardCount, output⟩ (forall_mem_cons.mp pending).2

theorem passing (passing : system.Passing after) : after.Proper := by
  induction passing with
  | refl => exact proper
  | tail _ passes ih => exact ih.pass passes

theorem commit (here : system.shards[index]? = some shard) {after : Work}
    (called : Work.Proper ⟨shard.engine, system.nextId, []⟩ after) (input : List WorkerInput) :
    (system.commit index shard input after).Proper := by
  obtain ⟨shardIndex, shardCount, output⟩ := proper.shards index shard here
  have sends := called.sends
  rw [shardIndex, shardCount] at sends
  obtain ⟨more, effects, allowed⟩ := sends
  refine proper.set rfl ⟨called.shardIndex.trans shardIndex, called.shardCount.trans shardCount,
    ?_⟩ proper.pending
  refine forall_mem_append.mpr ⟨output, ?_⟩
  intro command member
  obtain ⟨effect, sent, asked⟩ := mem_filterMap.mp member
  rw [effects] at sent
  exact allowed effect sent command asked

theorem turn (tracked : system.Tracked) (turn : system.Turn index after effects) :
    after.Proper := by
  cases turn with
  | idle => exact proper
  | @called shard input result here call =>
    have known := proper.shards index shard here
    obtain ⟨inside, _⟩ := List.getElem?_eq_some_iff.mp here
    cases call.steps (tracked.named here) with
    | inl adoption =>
      obtain ⟨outside, session, payload, _, rfl⟩ := adoption
      exact proper.commit here (adoptSession_proper _ outside session payload) input
    | inr operations =>
      refine proper.commit here (operations.2.proper ?_) input
      rw [known.shardCount]
      exact Nat.zero_lt_of_lt inside

theorem step (tracked : system.Tracked) (event : Event) : (system.step event).1.Proper := by
  obtain passing | ⟨index, turn⟩ := system.step_cases event
  · exact proper.passing passing
  · exact proper.turn tracked turn

end

end Proper

theorem new_proper (shardCount : Nat) (credentials : List Credential) (epochs : Table Text Nat) :
    (System.new shardCount credentials epochs).Proper := by
  constructor
  · intro index shard here
    have length : (System.new shardCount credentials epochs).shards.length = shardCount := by
      rw [System.new, length_map, length_range]
    rw [System.new, getElem?_map] at here
    obtain ⟨place, found, rfl⟩ := map_eq_some_iff.mp here
    obtain ⟨_, same⟩ := List.getElem?_eq_some_iff.mp found
    rw [getElem_range] at same
    exact ⟨same.symm, length.symm, forall_mem_nil _⟩
  · exact forall_mem_nil _

theorem proper_reached (shardCount : Nat) (credentials : List Credential)
    (epochs : Table Text Nat) (events : List Event) :
    (final System.step (System.new shardCount credentials epochs) events).Tracked ∧
      (final System.step (System.new shardCount credentials epochs) events).Proper :=
  throughout_final _ (fun system : System => system.Tracked ∧ system.Proper) _ _
    (throughout_of_step System.step _ (fun _ => True)
      (fun _ event held _ => ⟨held.1.step event, held.2.step held.1 event⟩) _ events
      ⟨new_tracked shardCount credentials epochs, new_proper shardCount credentials epochs⟩
      fun _ _ => trivial)

/-! ## No session is lost -/

theorem Proper.target (proper : system.Proper) {target : Nat} {payload : List UInt8}
    {rest : List RouterCommand}
    (waits : system.pendingRouter = .migrate endpoint target session payload :: rest) :
    target < system.shards.length := by
  have known := proper.pending
  rw [waits] at known
  obtain ⟨index, bound⟩ := (forall_mem_cons.mp known).1
  exact bound

theorem Travels.passing (travels : system.Travels session) (proper : system.Proper)
    (passing : system.Passing after) : after.Travels session := by
  induction passing with
  | refl => exact travels
  | tail before passes ih =>
    rw [travels_iff] at ih ⊢
    obtain same | ⟨_, _, _, _, _, _, waits, missing⟩ := passes.travelling
    · exact same.mem_iff.mpr ih
    · rw [getElem?_eq_getElem ((proper.passing before).target waits)] at missing
      cases missing

/-- A shard adopts a session, or does something else. -/
theorem Travels.turn (travels : system.Travels session) (tracked : system.Tracked)
    (turn : system.Turn index after effects) : after.Holds session := by
  cases turn with
  | idle => exact .inl travels
  | @called shard input result here call =>
    have there : (system.commit index shard input result).shards[index]? = some _ :=
      changed_shard here rfl
    refine travels.around here rfl .inl ?_ ?_ fun member => .inl (.inr member)
    · intro member
      cases call.steps (tracked.named here) with
      | inl adoption =>
        obtain ⟨outside, adopted, payload, first, rfl⟩ := adoption
        rw [first] at member
        obtain rfl | later := mem_cons.mp member
        · refine .inr ⟨_, mem_of_getElem? there,
            outside.slots.choose shard.engine.tables.sessions, ?_⟩
          rw [adoptSession_engine]
          exact AList.lookup_insert _
        · exact .inl (travels_of_shard there (.inl later))
      | inr operations =>
        rw [← operations.1] at member
        exact .inl (travels_of_shard there (.inl member))
    · intro member
      refine .inl (travels_of_shard there (.inr ?_))
      rw [filterMap_append]
      exact mem_append_left _ member

theorem Travels.step (travels : system.Travels session) (tracked : system.Tracked)
    (proper : system.Proper) (event : Event) : (system.step event).1.Holds session := by
  obtain passing | ⟨index, turn⟩ := system.step_cases event
  · exact .inl (travels.passing proper passing)
  · exact travels.turn tracked turn

/-! ## New sessions -/

theorem call_placed {nextId : Nat} {input : List WorkerInput} {result : Work}
    (call : shard.Calls nextId input result) (named : shard.engine.tables.Named) :
    Work.Placed ⟨shard.engine, nextId, []⟩ result := by
  cases call with
  | adopted outside first => exact .inl (adoptSession_tables _ outside _ _).nextId
  | @handled outside given rest first own =>
    cases given with
    | udp peer localIp packet =>
      exact (onUdp_datagram _ outside named peer localIp packet).placed
    | tun packet | ioCounters => exact .inl rfl
    | command command => exact .inl ((onCommand_noEntry _ outside named command own).nextId id)
  | ticked outside => exact .inl ((onTick_noEntry _ outside).nextId id)
  | forwarded outside key start packet =>
    exact .inl ((sendDownKey_noEntry _ outside key start packet).nextId id)

theorem turn_placed (tracked : system.Tracked) (turn : system.Turn index after effects) {id : Nat}
    (new : system.nextId ≤ id) (given : id < after.nextId) : id ∈ after.ids := by
  cases turn with
  | idle => omega
  | @called shard input result here call =>
    obtain same | ⟨next, member⟩ := call_placed call (tracked.named here)
    · rw [System.commit, same] at given
      exact absurd given (Nat.not_lt.mpr new)
    rw [System.commit, next] at given
    have isNext : id = system.nextId := Nat.le_antisymm (Nat.le_of_lt_succ given) new
    rw [isNext]
    exact (commit_ids here input result).mem_iff.mp (mem_append_right _ member)

theorem step_placed (tracked : system.Tracked) (event : Event) {id : Nat}
    (new : system.nextId ≤ id) (given : id < (system.step event).1.nextId) :
    id ∈ (system.step event).1.ids := by
  obtain passing | ⟨index, turn⟩ := system.step_cases event
  · exact absurd (given.trans_eq (Passing.nextId passing)) (Nat.not_lt.mpr new)
  · exact turn_placed tracked turn new given

/-! ## The order of a queue -/

theorem queue_of_shard (here : system.shards[index]? = some shard) :
    system.queue index = shard.input := by
  rw [queue, here]
  rfl

theorem queue_map {input : WorkerInput} {arrives : Prop} [Decidable arrives]
    (changed : after.shards[index]? = system.shards[index]?.map fun shard =>
      if arrives then shard.queued input else shard) :
    after.queue index = system.queue index ++
      if arrives ∧ index < system.shards.length then [input] else [] := by
  rw [queue, queue, changed]
  cases here : system.shards[index]? with
  | none =>
    have outside : ¬ index < system.shards.length :=
      Nat.not_lt.mpr (List.getElem?_eq_none_iff.mp here)
    rw [if_neg (fun both => outside both.2)]
    rfl
  | some shard =>
    obtain ⟨inside, _⟩ := List.getElem?_eq_some_iff.mp here
    dsimp only [map_some, elim_some]
    split
    · rename_i comes
      rw [if_pos ⟨comes, inside⟩]
      rfl
    · rename_i stays
      rw [if_neg (fun both => stays both.1), append_nil]

section

variable (here : system.shards[index]? = some shard)
  (changed : after.shards = system.shards.set index new)

include here changed

theorem queue_set (other : Nat) :
    after.queue other = if other = index then new.input else system.queue other := by
  split
  · rename_i same
    rw [same]
    exact queue_of_shard (changed_shard here changed)
  · rename_i different
    rw [queue, changed, getElem?_set_ne (Ne.symm different), queue]

theorem queue_same (input : new.input = shard.input) (other : Nat) :
    after.queue other = system.queue other := by
  rw [queue_set here changed]
  split
  · rename_i same
    rw [same, input, queue_of_shard here]
  · rfl

end

theorem queue_collect (index other : Nat) :
    (system.collect index).queue other = system.queue other := by
  unfold collect
  split
  · rfl
  rename_i shard here
  split
  · rfl
  · exact queue_same here rfl (by rfl) other

theorem Routes.queue {room : Bool} (routes : system.Routes room after) : after.queue index =
    system.queue index ++ (Event.route room).arrived index system := by
  rw [Event.arrived]
  cases routes with
  | idle waits | boundEndpoint waits | boundTunnel waits tunnels =>
    rw [waits]
    exact (append_nil _).symm
  | lost waits missing =>
    have outside := List.getElem?_eq_none_iff.mp missing
    rw [waits]
    dsimp only
    rw [if_neg (by omega)]
    exact (append_nil _).symm
  | refused waits =>
    rw [waits]
    dsimp only
    rw [if_neg (fun both => Bool.false_ne_true both.1.2)]
    exact (append_nil _).symm
  | delivered waits here =>
    obtain ⟨inside, _⟩ := List.getElem?_eq_some_iff.mp here
    rw [waits, queue_set here rfl]
    dsimp only
    split
    · rename_i same
      subst same
      rw [if_pos ⟨⟨rfl, rfl⟩, inside⟩, queue_of_shard here]
    · rename_i different
      rw [if_neg (fun both => different both.1.1)]
      exact (append_nil _).symm

variable (worker : Nat) (outside : Outside)

theorem queue_work :
    (Event.work worker outside).taken index system ++ (system.work worker outside).queue index =
      system.queue index := by
  unfold Event.taken work
  cases here : system.shards[worker]? with
  | none =>
    dsimp only
    split
    · rename_i same
      rw [same, queue, here]
      rfl
    · rfl
  | some shard =>
    cases first : shard.input with
    | nil =>
      simp only [first]
      split
      · rename_i same
        rw [same, queue_of_shard here, first]
        rfl
      · rfl
    | cons input rest =>
      have left : ∀ result, (system.commit worker shard rest result).queue index =
          if index = worker then rest else system.queue index := by
        intro result
        rw [queue_set here rfl]
      simp only [first, left]
      split
      · rename_i same
        rw [same, queue_of_shard here, first]
        rfl
      · rfl

theorem queue_tick : (system.tick worker outside).queue index = system.queue index := by
  unfold tick
  split
  · rfl
  · rename_i shard here
    exact queue_same here rfl (by rfl) index

theorem queue_downlink (key : UInt8) (start : Nat) (packet : List UInt8) :
    (system.downlink worker outside key start packet).queue index = system.queue index := by
  unfold downlink
  split
  · rfl
  · rename_i shard here
    exact queue_same here rfl (by rfl) index

variable (index : Nat)

theorem queue_step (system : System) (event : Event) :
    event.taken index system ++ (system.step event).1.queue index =
      system.queue index ++ event.arrived index system := by
  cases event with
  | datagram _ _ _ room | tun _ room | ioCounters room => exact queue_map (enqueue_shards _ _ _ _)
  | command command room => exact queue_map (fanout_shards _ _ _)
  | collect shard => exact (queue_collect shard index).trans (append_nil _).symm
  | route room => exact (system.route_routes room).queue
  | work worker outside => exact (queue_work worker outside).trans (append_nil _).symm
  | tick worker outside => exact (queue_tick worker outside).trans (append_nil _).symm
  | downlink worker outside key start packet =>
    exact (queue_downlink worker outside key start packet).trans (append_nil _).symm

/-! ## The endpoints -/

theorem enqueue_endpointShards (input : WorkerInput) (room : Bool) :
    (system.enqueue index input room).endpointShards = system.endpointShards := by
  unfold enqueue
  split
  · rfl
  · rfl

theorem fanout_endpointShards (command : ProtocolCommand) (room : Nat → Bool) :
    (system.fanout command room).endpointShards = system.endpointShards :=
  fanout_keeps (fun after => after.endpointShards = system.endpointShards)
    (fun _ _ _ same => (enqueue_endpointShards _ _ _).trans same) rfl room

theorem collect_endpointShards : (system.collect index).endpointShards = system.endpointShards := by
  unfold collect
  split
  · rfl
  · split
    · rfl
    · rfl

theorem Turn.endpointShards (turn : system.Turn index after effects) :
    after.endpointShards = system.endpointShards := by
  cases turn with
  | idle => rfl
  | called here call => rfl

/-- Why an endpoint has a shard after an event: it had that shard before, the shard has
asked for it, or a session for the shard was put behind everything else in its queue. -/
inductive Mapped (system after : System) (endpoint : EndpointKey) (target : Nat) : Prop
  | before (mapped : system.endpointShards.lookup endpoint = some target)
  | asked {rest : List RouterCommand}
      (waits : system.pendingRouter = .bindEndpoint endpoint target :: rest)
  | delivered {session : HotSession} {payload : List UInt8} {rest : List RouterCommand}
      (waits : system.pendingRouter = .migrate endpoint target session payload :: rest)
      (queue : after.queue target =
        system.queue target ++ [.command (.adoptSession session payload)])

theorem Routes.mapped {room : Bool} (routes : system.Routes room after) {target : Nat}
    (mapped : after.endpointShards.lookup endpoint = some target) :
    system.Mapped after endpoint target := by
  cases routes with
  | boundEndpoint waits =>
    rw [Table.lookup_insert_if] at mapped
    split at mapped
    · rename_i same
      cases mapped
      subst same
      exact .asked waits
    · exact .before mapped
  | delivered waits here =>
    dsimp only at mapped
    rw [Table.lookup_insert_if] at mapped
    split at mapped
    · rename_i same
      cases mapped
      subst same
      refine .delivered waits ?_
      rw [queue_set here rfl, if_pos rfl, queue_of_shard here]
    · exact .before mapped
  | _ => exact .before mapped

theorem step_mapped (event : Event) {target : Nat}
    (mapped : (system.step event).1.endpointShards.lookup endpoint = some target) :
    system.Mapped (system.step event).1 endpoint target := by
  cases event with
  | datagram _ _ _ room | tun _ room | ioCounters room =>
    exact .before (by rw [← mapped]; exact congrArg _ (enqueue_endpointShards _ _ _).symm)
  | command command room =>
    exact .before (by rw [← mapped]; exact congrArg _ (fanout_endpointShards _ _).symm)
  | collect index =>
    exact .before (by rw [← mapped]; exact congrArg _ (collect_endpointShards _).symm)
  | route room => exact (system.route_routes room).mapped mapped
  | work index outside =>
    exact .before (by rw [← mapped]; exact congrArg _ (system.work_turn index outside).endpointShards.symm)
  | tick index outside =>
    exact .before (by rw [← mapped]; exact congrArg _ (system.tick_turn index outside).endpointShards.symm)
  | downlink index outside key start packet =>
    exact .before (by
      rw [← mapped]
      exact congrArg _ (system.downlink_turn index outside key start packet).endpointShards.symm)

/-- Nothing is lost or doubled by a migration, and nothing overtakes it. -/
structure Conserved (system : System) : Prop where
  /-- Every session is in one place. -/
  onePlace : system.ids.Nodup
  /-- A session that an event opens is in one of the places after it. -/
  placed : ∀ event id, system.nextId ≤ id → id < (system.step event).1.nextId →
    id ∈ (system.step event).1.ids
  /-- A session between two slabs is passed on or adopted. -/
  kept : ∀ session, system.Travels session → ∀ event, (system.step event).1.Holds session
  /-- An endpoint gets a shard when that shard asks for it or when the session is in its queue. -/
  mapped : ∀ event endpoint target,
    (system.step event).1.endpointShards.lookup endpoint = some target →
      system.Mapped (system.step event).1 endpoint target
  /-- A shard asks for endpoints only for itself. -/
  asked : ∀ (index : Nat) (shard : Shard) endpoint target, system.shards[index]? = some shard →
    .bindEndpoint endpoint target ∈ shard.output → target = index
  /-- A session that is refused leaves its endpoint where it was. After a session was
  delivered, its shard comes to the adoption before everything that arrives later. -/
  ordered : ∀ endpoint target session payload rest,
    system.pendingRouter = .migrate endpoint target session payload :: rest →
      (system.route false).endpointShards = system.endpointShards ∧
      (system.route true).endpointShards.lookup endpoint = some target ∧
      ∀ later, collected System.step (fun system event => Event.taken target system event)
            (system.route true) later ++
          (final System.step (system.route true) later).queue target =
        system.queue target ++ .command (.adoptSession session payload) ::
          collected System.step (fun system event => Event.arrived target system event)
            (system.route true) later

theorem Proper.ordered (proper : system.Proper) {target : Nat} {payload : List UInt8}
    {rest : List RouterCommand}
    (waits : system.pendingRouter = .migrate endpoint target session payload :: rest) :
    (system.route false).endpointShards = system.endpointShards ∧
      (system.route true).endpointShards.lookup endpoint = some target ∧
      (system.route true).queue target =
        system.queue target ++ [.command (.adoptSession session payload)] := by
  have here := getElem?_eq_getElem (proper.target waits)
  simp only [System.route, waits, here]
  refine ⟨trivial, AList.lookup_insert _, ?_⟩
  rw [queue_set here rfl, if_pos rfl, queue_of_shard here]

end System

/-- In every run from the start, every session is in one place in every state, a session that
leaves its shard is passed on until it is adopted, and its endpoint is bound to the shard that
adopts it only when the adoption stands in the queue of that shard, before all later inputs. -/
theorem migration_conserves_sessions (shardCount : Nat) (credentials : List Credential)
    (epochs : Table Text Nat) (events : List Event) :
    (final System.step (System.new shardCount credentials epochs) events).Conserved := by
  obtain ⟨tracked, proper⟩ := System.proper_reached shardCount credentials epochs events
  refine ⟨tracked.fresh.distinct, ?_, ?_, ?_, ?_, ?_⟩
  · intro event id new given
    exact System.step_placed tracked event new given
  · intro session travels event
    exact travels.step tracked proper event
  · intro event endpoint target mapped
    exact System.step_mapped event mapped
  · intro index shard endpoint target here asked
    exact (proper.shards index shard here).output _ asked
  · intro endpoint target session payload rest waits
    obtain ⟨unchanged, mapped, queue⟩ := proper.ordered waits
    refine ⟨unchanged, mapped, ?_⟩
    intro later
    rw [queue_law System.step (System.queue target) _ _ (System.queue_step target), queue,
      append_assoc]
    rfl

end Csqtt.Dataplane
