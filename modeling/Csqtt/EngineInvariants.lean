import Csqtt.Reception
import Csqtt.Runs
import Csqtt.SessionSteps
import Csqtt.ShardedDataplane

/-!
# What holds of every engine in every run

The router and the queues never touch an engine: an engine changes only when its shard
handles an input, a tick or a packet from the tunnel. So a property that every basic
operation of a call and every adoption keeps holds of the engines of all shards in
every state of every run, if it holds of an engine without sessions. The calls need
the entries of the indexes to be right, which is such a property itself and is carried
along.
-/

namespace Csqtt.Dataplane

open Engine List Runs

/-- A shard handles an input that brings no session by operations of its engine. -/
theorem System.handle_steps {work : Work} (outside : Outside) (named : work.engine.tables.Named)
    {input : WorkerInput} (own : input.brought = none) :
    Steps .all work (System.handle work outside input) := by
  cases input with
  | udp peer localIp packet =>
    exact work.onUdp_steps outside named peer localIp packet (Rights.admits_all _ _ _ _ _)
  | tun packet | ioCounters => exact .refl
  | command command =>
    exact work.onCommand_steps outside named command own (fun _ => trivial)
      fun _ => Rights.compacts_all outside

/-- A call is an adoption or a sequence of operations. -/
theorem Shard.Calls.steps {shard : Shard} {nextId : Nat} {input : List WorkerInput} {after : Work}
    (call : shard.Calls nextId input after) (named : shard.engine.tables.Named) :
    (∃ outside session payload, shard.input = .command (.adoptSession session payload) :: input ∧
        after = Work.adoptSession ⟨shard.engine, nextId, []⟩ outside session payload) ∨
    (input.filterMap WorkerInput.brought = shard.input.filterMap WorkerInput.brought ∧
      Steps .all ⟨shard.engine, nextId, []⟩ after) := by
  cases call with
  | adopted outside first => exact .inl ⟨outside, _, _, first, rfl⟩
  | handled outside first own =>
    exact .inr ⟨by rw [first, filterMap_cons_none own], System.handle_steps outside named own⟩
  | ticked outside =>
    exact .inr ⟨rfl, Work.onTick_steps _ outside (Rights.compacts_all outside)⟩
  | forwarded outside key start packet =>
    exact .inr ⟨rfl, Work.sendDownKey_steps _ outside key start packet⟩

/-- A property of engines that the operations of a call and adoptions keep. -/
structure EngineInvariant (holds : ProtocolEngine → Prop) : Prop where
  step : ∀ {rights : Rights} {before after : Work}, Step rights before after →
    holds before.engine → holds after.engine
  enter : ∀ (work : Work) (outside : Outside) (session : HotSession),
    holds work.engine → holds (work.enterSession outside session).engine

variable {holds : ProtocolEngine → Prop} {index : Nat}

namespace EngineInvariant

/-- Operations keep an invariant and the entries of the indexes. -/
theorem steps (invariant : EngineInvariant holds) {rights : Rights} {before after : Work}
    (steps : Steps rights before after) (held : before.engine.tables.Named ∧ holds before.engine) :
    after.engine.tables.Named ∧ holds after.engine := by
  refine ⟨steps.named held.1, ?_⟩
  induction steps with
  | refl => exact held.2
  | tail _ step ih => exact invariant.step step ih

/-- So does a call, be it an adoption or not. -/
theorem call (invariant : EngineInvariant holds) {shard : Shard} {nextId : Nat}
    {input : List WorkerInput} {after : Work} (call : shard.Calls nextId input after)
    (held : shard.engine.tables.Named ∧ holds shard.engine) :
    after.engine.tables.Named ∧ holds after.engine := by
  cases call.steps held.1 with
  | inl adoption =>
    obtain ⟨outside, session, payload, _, rfl⟩ := adoption
    rw [Work.adoptSession_engine]
    exact ⟨held.1.enter (outside.slots.vacant _), invariant.enter _ outside session held.2⟩
  | inr operations => exact invariant.steps operations.2 held

end EngineInvariant

namespace System

variable {system : System}

/-- The engines of all shards. -/
def engines (system : System) : List ProtocolEngine := system.shards.map Shard.engine

/-- A shard that keeps its engine changes no engine. -/
theorem engines_set {shard new : Shard} (here : system.shards[index]? = some shard)
    (same : new.engine = shard.engine) :
    (system.shards.set index new).map Shard.engine = system.engines := by
  rw [map_set, same, engines]
  obtain ⟨inside, stored⟩ := List.getElem?_eq_some_iff.mp here
  apply ext_getElem?
  intro other
  rw [getElem?_set]
  split
  · rename_i at_index
    subst at_index
    rw [length_map, if_pos inside, getElem?_map, here]
    rfl
  · rfl

variable {after : System}

/-- Passing something on changes no engine. -/
theorem Passes.engines (passes : system.Passes after) : after.engines = system.engines := by
  cases passes with
  | entered here own | collected here output => exact engines_set here rfl
  | routed routes =>
    cases routes with
    | delivered waits here => exact engines_set here rfl
    | _ => rfl

/-- Nor does passing on many things. -/
theorem Passing.engines (passing : system.Passing after) : after.engines = system.engines := by
  induction passing with
  | refl => rfl
  | tail _ passes ih => exact passes.engines.trans ih

/-- The engines of all shards have a property, and the entries of their indexes are
right. -/
def All (holds : ProtocolEngine → Prop) (system : System) : Prop :=
  ∀ engine ∈ system.engines, engine.tables.Named ∧ holds engine

/-- A property of all engines is about the engines only. -/
theorem All.of_engines (all : system.All holds)
    (same : after.engines = system.engines) : after.All holds := by
  rw [All, same]
  exact all

/-- A property of all engines at one shard. -/
theorem All.shard (all : system.All holds) {shard : Shard}
    (here : system.shards[index]? = some shard) : shard.engine.tables.Named ∧ holds shard.engine :=
  all shard.engine (mem_map_of_mem (mem_of_getElem? here))

/-- A shard whose engine has the property is put back. -/
theorem All.commit (all : system.All holds) (index : Nat) (shard : Shard)
    (input : List WorkerInput) {after : Work}
    (held : after.engine.tables.Named ∧ holds after.engine) :
    (system.commit index shard input after).All holds := by
  intro engine member
  rw [engines, System.commit, map_set] at member
  cases mem_or_eq_of_mem_set member with
  | inl old => exact all engine old
  | inr same =>
    rw [same]
    exact held

/-- A turn of a shard keeps an invariant. -/
theorem All.turn (invariant : EngineInvariant holds) (all : system.All holds)
    {effects : List Effect} (turn : system.Turn index after effects) : after.All holds := by
  cases turn with
  | idle => exact all
  | called here call => exact all.commit index _ _ (invariant.call call (all.shard here))

/-- Every event keeps an invariant. -/
theorem All.step (invariant : EngineInvariant holds) (all : system.All holds) (event : Event) :
    (system.step event).1.All holds := by
  obtain passing | ⟨index, turn⟩ := system.step_cases event
  · exact all.of_engines (Passing.engines passing)
  · exact all.turn invariant turn

end System

/-- An invariant that new engines have holds in every state of every run. -/
theorem EngineInvariant.reached (invariant : EngineInvariant holds) (shardCount : Nat)
    (credentials : List Credential) (epochs : Table ControlText.Text Nat)
    (start : ∀ index, holds (ProtocolEngine.new index shardCount credentials epochs))
    (events : List Event) :
    (final System.step (System.new shardCount credentials epochs) events).All holds := by
  have throughout := throughout_of_step System.step (System.All holds) (fun _ => True)
    (fun system event all _ => all.step invariant event)
    (System.new shardCount credentials epochs) events
  refine throughout_final _ _ _ _ (throughout ?_ fun _ _ => trivial)
  intro engine member
  rw [System.engines, System.new, map_map] at member
  obtain ⟨index, _, rfl⟩ := mem_map.mp member
  exact ⟨⟨Table.Names.empty, Table.Names.empty⟩, start index⟩

end Csqtt.Dataplane
