import Csqtt.DownlinkDrain
import Csqtt.RouteOwners

/-!
# Activations that are refused

An activation is refused if its session is unknown or its address is foreign. In the second
case the session's former route is dropped before the address is looked at, and it is not
restored: packets for the former address do not reach the session any more, although the
session still has that address and its registration.

`formerRoute` is the route a session has before the command. A refused activation changes
nothing precisely if that route was lost already, and the queue of its address knew.
-/

namespace Csqtt.Downlink

open Engine Routes Option RouteTable

/-- What a message of the engine does to the queue. -/
def DownlinkQueue.perform (queue : DownlinkQueue) : Effect → DownlinkQueue
  | .downlink index paths => queue.configure index paths
  | .clearDownlink index => queue.clear index
  | _ => queue

/-- The queue after all messages of a call. -/
def DownlinkQueue.performAll (queue : DownlinkQueue) (effects : List Effect) : DownlinkQueue :=
  effects.foldl DownlinkQueue.perform queue

theorem DownlinkQueue.configure_activePaths (queue : DownlinkQueue) (key other : UInt8)
    (activePaths : Nat) : ((queue.configure key activePaths).lanes other).activePaths =
      if other = key then min activePaths maxActivePaths else (queue.lanes other).activePaths := by
  rw [configure]
  split
  · rename_i same
    split
    · rename_i here
      rw [here, same]
    · rfl
  · show ((queue.setLane key _).lanes other).activePaths = _
    rw [lanes_setLane]
    split
    · rfl
    · rfl

/-- The session with an id. -/
def sessionWith (engine : ProtocolEngine) (sessionId : Nat) : Option HotSession :=
  (engine.tables.byId.lookup sessionId).bind fun slot => engine.tables.sessions.lookup slot

/-- The route of the session with an id. -/
def formerRoute (engine : ProtocolEngine) (sessionId : Nat) : Option (Ipv4 × UInt64) :=
  (sessionWith engine sessionId).bind HotSession.route

/-- The session's route is not in the table any more, and the queue of its address has the
number of paths that the table has. -/
def RouteLost (engine : ProtocolEngine) (queue : DownlinkQueue) (sessionId : Nat) : Prop :=
  ∀ former ∈ formerRoute engine sessionId, ∀ index ∈ routeIndex former.1,
    (∀ endpoint ∈ engine.routes.stored index, endpoint.registrationId ≠ former.2) ∧
      (queue.lanes index).activePaths = min (engine.routes.activePathCount index) maxActivePaths

/-- Routes, the paths of the queues and sessions are as they were. -/
structure Unchanged (engine : ProtocolEngine) (queue : DownlinkQueue) (after : Work) : Prop where
  routes : ∀ index, after.engine.routes.stored index = engine.routes.stored index
  paths : ∀ key, ((queue.performAll after.effects).lanes key).activePaths =
    (queue.lanes key).activePaths
  sessions : after.engine.tables = engine.tables

section Activation

variable (engine : ProtocolEngine) (nextId : Nat) (outside : Outside) (sessionId : Nat) (ip : Ipv4)
  (registrationId : UInt64) (workerId desiredCount : UInt16)

/-- An activation for a foreign address drops the former route. -/
theorem activateTunnel_foreign (foreign : routeIndex ip = none) :
    (⟨engine, nextId, []⟩ : Work).activateTunnel outside sessionId ip registrationId workerId
        desiredCount = ((formerRoute engine sessionId).elim ⟨engine, nextId, []⟩ fun former =>
        ((⟨engine, nextId, []⟩ : Work).withRoutes
          (engine.routes.unregister former.1 former.2).1).syncDownlinkProfile former.1, false) := by
  rw [Work.activateTunnel, formerRoute, sessionWith]
  cases engine.tables.byId.lookup sessionId with
  | none => rfl
  | some slot =>
    rw [bind_some]
    dsimp only
    cases engine.tables.sessions.lookup slot with
    | none => rfl
    | some session =>
      have refused : ∀ routes : RouteTable, ∀ endpoint, routes.register ip endpoint = (routes, false) := by
        intro routes endpoint
        rw [register, foreign]
      rw [bind_some]
      dsimp only
      rw [Work.activateSlot]
      simp only [refused, Work.syncFormerRoute]
      cases session.route with
      | none => rfl
      | some former => rfl

/-- An activation for an address of the tunnel is refused for an unknown session only. -/
theorem activateTunnel_inside {index : UInt8} (inside : routeIndex ip = some index)
    (refused : ((⟨engine, nextId, []⟩ : Work).activateTunnel outside sessionId ip registrationId
      workerId desiredCount).2 = false) :
    ((⟨engine, nextId, []⟩ : Work).activateTunnel outside sessionId ip registrationId workerId
      desiredCount).1 = ⟨engine, nextId, []⟩ := by
  rw [Work.activateTunnel] at refused ⊢
  cases slotFound : engine.tables.byId.lookup sessionId with
  | none => rfl
  | some slot =>
    cases sessionFound : engine.tables.sessions.lookup slot with
    | none => simp only [sessionFound]
    | some session =>
      have done : ∀ routes : RouteTable, ∀ endpoint, (routes.register ip endpoint).2 = true := by
        intro routes endpoint
        rw [register, inside]
      simp only [slotFound, sessionFound, Work.activateSlot] at refused
      split at refused
      · rename_i routes failed
        have registered := congrArg Prod.snd failed
        rw [done] at registered
        cases registered
      · cases refused

end Activation

theorem unregister_eq_iff (group : RouteGroup) (registrationId : UInt64) :
    (group.unregister registrationId).1.endpoints = group.endpoints ↔
      ∀ endpoint ∈ group.endpoints, endpoint.registrationId ≠ registrationId := by
  rw [RouteGroup.unregister, List.filter_eq_self]
  simp

theorem activePathCount_eq (routes : RouteTable) (index : UInt8) :
    routes.activePathCount index = (routes.stored index).length := by
  rw [activePathCount, stored]
  cases routes.lookup index with
  | none => rfl
  | some group => rfl

/-- Dropping a route changes nothing precisely if it was lost already. -/
theorem dropped_unchanged_iff (engine : ProtocolEngine) (nextId : Nat) (queue : DownlinkQueue)
    (former : Ipv4 × UInt64) : Unchanged engine queue (((⟨engine, nextId, []⟩ : Work).withRoutes
        (engine.routes.unregister former.1 former.2).1).syncDownlinkProfile former.1) ↔
      ∀ index ∈ routeIndex former.1,
        (∀ endpoint ∈ engine.routes.stored index, endpoint.registrationId ≠ former.2) ∧
          (queue.lanes index).activePaths =
            min (engine.routes.activePathCount index) maxActivePaths := by
  rw [Work.syncDownlinkProfile]
  cases inside : routeIndex former.1 with
  | none =>
    refine ⟨fun _ _ absent => (by cases absent), fun _ => ⟨?_, fun _ => rfl, rfl⟩⟩
    intro index
    dsimp only [Work.withRoutes]
    rw [unregister, inside]
  | some index =>
    have stored : ∀ other, (engine.routes.unregister former.1 former.2).1.stored other =
        if index = other then (RouteGroup.unregister ⟨engine.routes.stored other⟩ former.2).1.endpoints
        else engine.routes.stored other := by
      intro other
      rw [stored_unregister, inside]
      simp only [Option.some.injEq]
    constructor
    · intro unchanged other isOther
      cases isOther
      have routes := unchanged.routes index
      have paths := unchanged.paths index
      dsimp only [Work.withRoutes] at routes
      have lost : ∀ endpoint ∈ engine.routes.stored index, endpoint.registrationId ≠ former.2 := by
        rw [stored, if_pos rfl] at routes
        exact (unregister_eq_iff ⟨engine.routes.stored index⟩ former.2).mp routes
      refine ⟨lost, ?_⟩
      have configured : ((queue.configure index ((engine.routes.unregister former.1
          former.2).1.activePathCount index)).lanes index).activePaths =
            (queue.lanes index).activePaths := paths
      rw [DownlinkQueue.configure_activePaths, if_pos rfl, activePathCount_eq, routes,
        ← activePathCount_eq] at configured
      exact configured.symm
    · intro lost
      obtain ⟨absent, synced⟩ := lost index rfl
      have routes : ∀ other, (engine.routes.unregister former.1 former.2).1.stored other =
          engine.routes.stored other := by
        intro other
        rw [stored]
        split
        · rename_i same
          exact (unregister_eq_iff ⟨engine.routes.stored other⟩ former.2).mpr (same ▸ absent)
        · rfl
      refine ⟨routes, ?_, rfl⟩
      intro key
      show ((queue.configure index ((engine.routes.unregister former.1
        former.2).1.activePathCount index)).lanes key).activePaths = _
      rw [DownlinkQueue.configure_activePaths]
      split
      · rename_i same
        rw [activePathCount_eq, routes, ← activePathCount_eq, same, synced]
      · rfl

/-- In every state of the engine, an activation that is refused changes nothing precisely if
its address belongs to the tunnel or the session's former route was lost already. -/
theorem refused_activation_unchanged_iff (engine : ProtocolEngine) (nextId : Nat)
    (queue : DownlinkQueue) (outside : Outside) (sessionId : Nat) (ip : Ipv4)
    (registrationId : UInt64) (workerId desiredCount : UInt16) :
    let result := (⟨engine, nextId, []⟩ : Work).activateTunnel outside sessionId ip registrationId
      workerId desiredCount
    (result.2 = false → Unchanged engine queue result.1) ↔
      (routeIndex ip).isSome ∨ RouteLost engine queue sessionId := by
  intro result
  cases address : routeIndex ip with
  | some index =>
    refine iff_of_true ?_ (Or.inl rfl)
    intro refused
    have same := activateTunnel_inside engine nextId outside sessionId ip registrationId workerId
      desiredCount address refused
    rw [same]
    exact ⟨fun _ => rfl, fun _ => rfl, rfl⟩
  | none =>
    have dropped := activateTunnel_foreign engine nextId outside sessionId ip registrationId workerId
      desiredCount address
    have refused : result.2 = false := congrArg Prod.snd dropped
    have first : result.1 = _ := congrArg Prod.fst dropped
    rw [forall_prop_of_true refused, first, isSome_none, RouteLost]
    simp only [Bool.false_eq_true, false_or]
    cases formerRoute engine sessionId with
    | none =>
      refine iff_of_true ⟨fun _ => rfl, fun _ => rfl, rfl⟩ ?_
      intro former absent
      cases absent
    | some former =>
      rw [elim_some, dropped_unchanged_iff]
      simp [Option.some.injEq, forall_eq']

namespace Sample

/-- The engine with the session of the second client, and its route. -/
def routedWork : Work :=
  tunnelWork.withRoutes (register ∅ ⟨10, 66, 67, 2⟩ ⟨1, 7, 1, 0⟩).1

/-- The session is to be activated for an address outside of the tunnel. -/
def foreignActivation : Work × Bool :=
  routedWork.activateTunnel (Dataplane.calm 0) 1 ⟨192, 168, 0, 1⟩ 8 1 1

end Sample

open Sample

/-- The activation is refused. The session keeps its address, but the route is gone, the queue
of its address loses its buffers, and packets for it find no session. -/
theorem refused_activation_loses_the_route : foreignActivation.2 = false ∧
      (foreignActivation.1.engine.tables.sessions.lookup 0).map HotSession.tunnelIp =
        some (some ⟨10, 66, 67, 2⟩) ∧ routedWork.engine.routes.stored 2 = [⟨1, 7, 1, 0⟩] ∧
      foreignActivation.1.engine.routes.stored 2 = [] ∧
      ((({} : DownlinkQueue).configure 2 1).lanes 2).activePaths = 1 ∧
      (((({} : DownlinkQueue).configure 2 1).performAll foreignActivation.1.effects).lanes
        2).activePaths = 0 ∧ (routedWork.sendDownKey (Dataplane.calm 0) 2 0 [1, 2, 3]).2 = .sent ∧
      (foreignActivation.1.sendDownKey (Dataplane.calm 0) 2 0 [1, 2, 3]).2 = .stale := by
  refine ⟨by decide +kernel, by decide +kernel, by decide +kernel, by decide +kernel,
    by decide +kernel, by decide +kernel, by decide +kernel, by decide +kernel⟩

end Csqtt.Downlink
