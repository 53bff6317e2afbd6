import Csqtt.SessionIndexes

/-!
# Commands for all shards

The router takes a command of the control task and puts a copy of it into the queue of
every shard it concerns. A queue takes 1024 inputs. It may be full, because datagrams and
packets from the tunnel share it; the router then goes on to the next shard, and nobody learns
that a copy was lost. A session on its way to a shard is treated better: the router keeps it
until there is room.

`System.boundedStep` answers whether a queue has room by the number of inputs that wait in it.
In its runs, a command reaches all of its shards precisely if fewer than 1024 inputs wait for
each of them when the command is passed on.
-/

namespace Csqtt.Dataplane

open Engine Routes List Runs Option

/-- A shard with one more input. -/
def Shard.queued (shard : Shard) (input : WorkerInput) : Shard :=
  { shard with input := shard.input ++ [input] }

/-- The number of shards a command is for. -/
def copies (command : ProtocolCommand) (shardCount : Nat) : Nat :=
  (fanoutCommand command shardCount).length

variable (command : ProtocolCommand)

theorem fanoutCommand_eq (shardCount : Nat) :
    fanoutCommand command shardCount = List.replicate (copies command shardCount) command :=
  eq_replicate_of_mem fun _ member => fanoutCommand_copy member

theorem copies_le (shardCount : Nat) : copies command shardCount ≤ max shardCount 1 := by
  rw [copies]
  unfold fanoutCommand
  split
  · exact le_max_right _ _
  · exact le_max_right _ _
  · exact le_of_eq length_replicate

namespace System

variable {system : System}

/-- Only the queue of one shard changes, if there is room. -/
theorem enqueue_shards (index : Nat) (input : WorkerInput) (room : Bool) (other : Nat) :
    (system.enqueue index input room).shards[other]? = system.shards[other]?.map fun shard =>
      if other = index ∧ room then shard.queued input else shard := by
  unfold enqueue
  split
  · rename_i shard here
    rw [getElem?_set]
    by_cases same : index = other
    · subst same
      obtain ⟨inside, _⟩ := List.getElem?_eq_some_iff.mp here
      simp only [here, if_true, if_pos inside, map_some, true_and]
      rfl
    · rw [if_neg same]
      cases system.shards[other]? with
      | none => rfl
      | some stored =>
        rw [map_some, if_neg]
        exact fun both => same both.1.symm
  · rename_i closed
    cases here : system.shards[other]? with
    | none => rfl
    | some shard =>
      rw [map_some, if_neg]
      rintro ⟨rfl, hasRoom⟩
      exact closed shard here hasRoom

theorem enqueue_length (index : Nat) (input : WorkerInput) (room : Bool) :
    (system.enqueue index input room).shards.length = system.shards.length := by
  unfold enqueue
  split
  · exact length_set
  · rfl

theorem passOn_length (total : Nat) (room : Nat → Bool) (copies : List (ProtocolCommand × Nat)) :
    (copies.foldl (fun current copy => current.enqueue (copy.2 % total) (.command copy.1)
      (room copy.2)) system).shards.length = system.shards.length := by
  induction copies generalizing system with
  | nil => rfl
  | cons copy rest ih =>
    rw [foldl_cons, ih, enqueue_length]

/-- Copies of a command for neighbouring shards. -/
theorem passOn_shards (room : Nat → Bool) (count first total : Nat) (inside : first + count ≤ total)
    (index : Nat) : (((List.replicate count command).zipIdx first).foldl (fun current copy =>
        current.enqueue (copy.2 % total) (.command copy.1) (room copy.2)) system).shards[index]? =
      system.shards[index]?.map fun shard =>
        if first ≤ index ∧ index < first + count ∧ room index then shard.queued (.command command)
        else shard := by
  induction count generalizing first system with
  | zero =>
    have none : ∀ shard : Shard, (if first ≤ index ∧ index < first + 0 ∧ room index then
        shard.queued (.command command) else shard) = shard := by
      intro shard
      rw [if_neg]
      omega
    simp only [replicate_zero, zipIdx_nil, foldl_nil, none]
    exact (Option.map_id' ..).symm
  | succ count ih =>
    rw [replicate_succ, zipIdx_cons, foldl_cons, ih _ (by omega),
      Nat.mod_eq_of_lt (by omega), enqueue_shards, Option.map_map]
    cases system.shards[index]? with
    | none => rfl
    | some shard =>
      rw [map_some, map_some, Function.comp_apply]
      congr 1
      by_cases same : index = first
      · subst same
        rw [if_neg (show ¬(index + 1 ≤ index ∧ _) from fun absurd => by omega)]
        cases room index with
        | true => rw [if_pos ⟨rfl, rfl⟩, if_pos ⟨le_refl _, by omega, rfl⟩]
        | false => rw [if_neg (by simp), if_neg (by simp)]
      · rw [if_neg (show ¬(index = first ∧ _) from fun both => same both.1)]
        congr 1
        apply propext
        constructor
        · rintro ⟨above, below, hasRoom⟩
          exact ⟨by omega, by omega, hasRoom⟩
        · rintro ⟨above, below, hasRoom⟩
          exact ⟨by omega, by omega, hasRoom⟩

theorem fanout_shards (room : Nat → Bool) (index : Nat) :
    (system.fanout command room).shards[index]? = system.shards[index]?.map fun shard =>
      if index < copies command system.shards.length ∧ room index then
        shard.queued (.command command)
      else shard := by
  rw [fanout, fanoutCommand_eq]
  by_cases empty : system.shards.length = 0
  · have still := @passOn_length system system.shards.length room
      (List.replicate (copies command system.shards.length) command).zipIdx
    rw [getElem?_eq_none (by omega), getElem?_eq_none (by omega), map_none]
  · have bound := copies_le command system.shards.length
    rw [passOn_shards command room _ 0 _ (by omega)]
    simp

end System

/-! ## Bounded queues -/

/-- The number of inputs that the queue of a shard takes. -/
def shardInputCapacity : Nat := 1024

/-- The queue of a shard takes one more input. -/
def System.hasRoom (system : System) (index : Nat) : Bool :=
  system.shards[index]?.any fun shard => decide (shard.input.length < shardInputCapacity)

/-- An event with the answers that the queues give. -/
def Event.answered (system : System) : Event → Event
  | .datagram peer localIp packet _ =>
    .datagram peer localIp packet
      (system.hasRoom ((system.endpointShards.lookup ⟨peer, localIp⟩).getD 0))
  | .tun packet _ => .tun packet (system.hasRoom (system.tunnelShard packet))
  | .ioCounters _ => .ioCounters (system.hasRoom 0)
  | .command command _ => .command command system.hasRoom
  | .route _ =>
    match system.pendingRouter with
    | .migrate _ target _ _ :: _ => .route (system.hasRoom target)
    | _ => .route true
  | event => event

/-- The next state, if every queue takes inputs as long as it is not full. -/
def System.boundedStep (system : System) (event : Event) : System × Unit :=
  system.step (event.answered system)

/-- A command is put into the queue of each of its shards, once. -/
def Delivers (system : System) (event : Event) : Prop :=
  match event with
  | .command command _ => ∀ index shard,
    index < copies command.command system.shards.length → system.shards[index]? = some shard →
      (system.boundedStep event).1.shards[index]?.map Shard.input =
        some (shard.input ++ [.command command.command])
  | _ => True

/-- Fewer inputs than a queue takes wait in the queue of each shard of a command. -/
def HasRoom (system : System) : Event → Prop
  | .command command _ => ∀ index shard,
    index < copies command.command system.shards.length → system.shards[index]? = some shard →
      shard.input.length < shardInputCapacity
  | _ => True

/-- A command reaches all of its shards exactly if none of their queues is full. -/
theorem delivers_iff (system : System) (event : Event) :
    Delivers system event ↔ HasRoom system event := by
  cases event with
  | command command room =>
    refine forall_congr' fun index => forall_congr' fun shard => ?_
    refine imp_congr_right fun concerned => imp_congr_right fun here => ?_
    have answer : system.hasRoom index = decide (shard.input.length < shardInputCapacity) := by
      rw [System.hasRoom, here, any_some]
    have delivered : (system.boundedStep (.command command room)).1.shards[index]? =
        some (if shard.input.length < shardInputCapacity then
          shard.queued (.command command.command) else shard) := by
      rw [System.boundedStep, Event.answered, System.step, System.fanout_shards, here, map_some]
      simp only [answer, concerned, true_and, decide_eq_true_eq]
    rw [delivered, map_some, some_inj]
    split
    · rename_i room
      exact iff_of_true rfl room
    · rename_i full
      exact iff_of_false (fun same => by simpa using congrArg List.length same) full
  | _ => exact Iff.rfl

/-- In every run with bounded queues, each command that the router takes is put exactly once into the
queue of every shard it is for, precisely if none of these queues is full each time. -/
theorem commands_reach_all_shards_iff_room (shardCount : Nat) (credentials : List Credential)
    (epochs : Table ControlText.Text Nat) (events : List Event) :
    Along System.boundedStep Delivers (System.new shardCount credentials epochs) events ↔
      Along System.boundedStep HasRoom (System.new shardCount credentials epochs) events :=
  along_congr System.boundedStep delivers_iff _ events

/-! ## A full queue -/

/-- Datagrams of a client fill the queue of the second shard, if the client's endpoint is bound to it. -/
theorem System.fill {system : System} (first second : Shard)
    (bound : (system.endpointShards.lookup ⟨client, none⟩).getD 0 = 1) (count : Nat)
    (room : count ≤ shardInputCapacity) :
    final boundedStep { system with shards := [first, { second with input := [] }] }
        (List.replicate count (.datagram client none [] true)) =
      { system with
        shards := [first, { second with input := List.replicate count (.udp client none []) }] } := by
  induction count with
  | zero => rfl
  | succ count ih =>
    have free : System.hasRoom { system with
        shards := [first, { second with input := List.replicate count (.udp client none []) }] } 1 =
        true := by
      refine decide_eq_true ?_
      rw [length_replicate]
      exact room
    rw [replicate_succ', final_append, ih (Nat.le_of_succ_le room), final, final, boundedStep,
      Event.answered, bound, free, step, bound, replicate_succ']
    rfl

/-- A full queue does not get a command that the first shard takes. -/
theorem System.skip {system : System} {first second : Shard}
    (free : first.input.length < shardInputCapacity)
    (full : second.input.length = shardInputCapacity) (password : ControlText.Text)
    (room : Nat → Bool) :
    ¬ Delivers { system with shards := [first, second] } (.command ⟨.dropPassword password, rfl⟩ room) ∧
      (boundedStep { system with shards := [first, second] }
        (.command ⟨.dropPassword password, rfl⟩ room)).1 =
        { system with shards := [first.queued (.command (.dropPassword password)), second] } := by
  constructor
  · rw [delivers_iff]
    intro hasRoom
    exact absurd (hasRoom 1 second Nat.one_lt_two rfl) (by rw [full]; exact Nat.lt_irrefl _)
  · show (enqueue (enqueue { system with shards := [first, second] } 0 _ (decide _)) 1 _ (decide _)) = _
    rw [decide_eq_true free, decide_eq_false (by rw [full]; exact Nat.lt_irrefl _)]
    rfl

/-- A session is opened on the second shard, and its client fills the queue of the shard with
datagrams. Then its password is dropped. -/
def droppedCredential : List Event :=
  (.datagram client none opening true :: handover 0) ++
    (List.replicate shardInputCapacity (.datagram client none [] true) ++
      [.command ⟨.dropPassword [0x70], rfl⟩ fun _ => true])

/-- The command is put into the queue of the first shard, which is empty. The second shard is skipped:
nothing but the datagrams waits for it, and the session stays. -/
theorem full_shard_is_skipped : ¬ Along System.boundedStep Delivers pair droppedCredential ∧
      (final System.boundedStep pair droppedCredential).shards.map (fun shard =>
        (shard.input, Table.image HotSession.password shard.engine.tables.sessions)) =
        [([.command (.dropPassword [0x70])], []),
          (List.replicate shardInputCapacity (.udp client none []), [[0x70]])] := by
  rw [droppedCredential, along_append, along_append, final_append, final_append]
  have bound : ((final System.boundedStep pair
      (.datagram client none opening true :: handover 0)).endpointShards.lookup
        ⟨client, none⟩).getD 0 = 1 := by decide +kernel
  have shown : (final System.boundedStep pair
      (.datagram client none opening true :: handover 0)).shards.map (fun shard =>
        (shard.input.length, Table.image HotSession.password shard.engine.tables.sessions)) =
      [(0, []), (0, [[0x70]])] := by decide +kernel
  generalize final System.boundedStep pair (.datagram client none opening true :: handover 0) =
    opened at bound shown
  obtain ⟨shards, endpoints, tunnels, pending, nextId⟩ := opened
  obtain ⟨first, rest, rfl, one, others⟩ := map_eq_cons_iff.mp shown
  obtain ⟨second, rest, rfl, two, nothing⟩ := map_eq_cons_iff.mp others
  obtain rfl := map_eq_nil_iff.mp nothing
  obtain ⟨engine, input, output⟩ := second
  obtain ⟨empty, passwords⟩ := Prod.mk.inj two
  obtain rfl := length_eq_zero_iff.mp empty
  obtain ⟨idle, nobody⟩ := Prod.mk.inj one
  have filled := System.fill first ⟨engine, [], output⟩ bound shardInputCapacity le_rfl
  dsimp only at filled
  rw [filled]
  obtain ⟨skipped, after⟩ := @System.skip ⟨[], endpoints, tunnels, pending, nextId⟩ first
    ⟨engine, List.replicate shardInputCapacity (.udp client none []), output⟩
    (by rw [idle]; decide) length_replicate [0x70] fun _ => true
  refine ⟨fun along => skipped along.2.2.1, ?_⟩
  rw [final, final, after]
  simp only [map_cons, map_nil, Shard.queued, nobody, passwords, length_eq_zero_iff.mp idle, nil_append]

end Csqtt.Dataplane
