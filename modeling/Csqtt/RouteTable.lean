import Csqtt.TableIndex
import Csqtt.VecOps
import Mathlib.Data.List.Sort

/-!
# Tunnel routes of one shard

Packets for a tunnel address are spread over the sessions registered for it. A route
table keeps one group for each host number of the tunnel's subnet; a group lists its
endpoints by worker. Registering an endpoint displaces those with its registration
and those with its worker. The cursors that choose the first endpoint for a packet are
left out; the position they stand at is a parameter.

The second half says what a table stores under each host number after each operation.
-/

namespace Csqtt.Routes

open List Table

/-- An IPv4 address: the three bytes of its network and its host number. -/
structure Ipv4 where
  a : UInt8
  b : UInt8
  c : UInt8
  host : UInt8
deriving DecidableEq, Repr

/-- One stream of a device: the session that carries it and where that session is. -/
structure RouteEndpoint where
  sessionId : Nat
  registrationId : UInt64
  workerId : UInt16
  slot : Nat
deriving DecidableEq, Repr

/-- The endpoints of one tunnel address. -/
structure RouteGroup where
  endpoints : List RouteEndpoint
deriving DecidableEq, Repr

namespace RouteGroup

/-- Enter an endpoint in the place of those with its registration or its worker. -/
def register (group : RouteGroup) (endpoint : RouteEndpoint) : RouteGroup :=
  let kept := group.endpoints.filter fun current =>
    current.registrationId != endpoint.registrationId && current.workerId != endpoint.workerId
  ⟨(kept ++ [endpoint]).insertionSort fun first second => first.workerId ≤ second.workerId⟩

/-- Remove a registration; the answer says whether there was one. -/
def unregister (group : RouteGroup) (registrationId : UInt64) : RouteGroup × Bool :=
  let kept := group.endpoints.filter fun endpoint => endpoint.registrationId != registrationId
  (⟨kept⟩, kept.length != group.endpoints.length)

/-- Point the first endpoint of a session's registration to another slot. -/
def updateSlot (group : RouteGroup) (sessionId : Nat) (registrationId : UInt64) (slot : Nat) :
    RouteGroup :=
  let moves (endpoint : RouteEndpoint) : Bool :=
    endpoint.sessionId == sessionId && endpoint.registrationId == registrationId
  match group.endpoints.findIdx? moves with
  | none => group
  | some position =>
    ⟨group.endpoints.modify position fun endpoint => { endpoint with slot := slot }⟩

/-- The endpoints in the order in which a packet is offered to them, which begins at
the scheduler's position. -/
def window (group : RouteGroup) (start : Nat) : List RouteEndpoint :=
  group.endpoints.drop start ++ group.endpoints.take start

end RouteGroup

/-- One group for each host number in use. -/
abbrev RouteTable := Table UInt8 RouteGroup

/-- The host number of an address in the tunnel's subnet. -/
def routeIndex (ip : Ipv4) : Option UInt8 :=
  if ip.a = 10 ∧ ip.b = 66 ∧ ip.c = 67 then some ip.host else none

namespace RouteTable

/-- Register an endpoint, unless the address is foreign. -/
def register (routes : RouteTable) (ip : Ipv4) (endpoint : RouteEndpoint) : RouteTable × Bool :=
  match routeIndex ip with
  | none => (routes, false)
  | some index =>
    (routes.insert index (((routes.lookup index).getD ⟨[]⟩).register endpoint), true)

/-- Follow a session to another slot. -/
def updateSlot (routes : RouteTable) (ip : Ipv4) (sessionId : Nat) (registrationId : UInt64)
    (slot : Nat) : RouteTable :=
  match routeIndex ip with
  | none => routes
  | some index =>
    match routes.lookup index with
    | none => routes
    | some group => routes.insert index (group.updateSlot sessionId registrationId slot)

/-- Remove a registration, and its group if it was the last one. -/
def unregister (routes : RouteTable) (ip : Ipv4) (registrationId : UInt64) : RouteTable × Bool :=
  match routeIndex ip with
  | none => (routes, false)
  | some index =>
    match routes.lookup index with
    | none => (routes, false)
    | some group =>
      let (group, removed) := group.unregister registrationId
      (if group.endpoints.isEmpty then routes.erase index else routes.insert index group, removed)

/-- The number of endpoints of a group. -/
def activePathCount (routes : RouteTable) (index : UInt8) : Nat :=
  (routes.lookup index).elim 0 fun group => group.endpoints.length

/-- The endpoints stored under a host number. -/
def stored (routes : RouteTable) (index : UInt8) : List RouteEndpoint :=
  (routes.lookup index).elim [] RouteGroup.endpoints

end RouteTable

/-! ## What is stored -/

theorem routeIndex_injective {ip other : Ipv4} {index : UInt8} (first : routeIndex ip = some index)
    (second : routeIndex other = some index) : ip = other := by
  rw [routeIndex] at first second
  split at first
  · rename_i inside
    split at second
    · rename_i alsoInside
      cases ip
      cases other
      obtain ⟨rfl, rfl, rfl⟩ := inside
      obtain ⟨rfl, rfl, rfl⟩ := alsoInside
      cases first
      cases second
      rfl
    · cases second
  · cases first

namespace RouteGroup

variable (group : RouteGroup)

theorem mem_register (endpoint current : RouteEndpoint) :
    current ∈ (group.register endpoint).endpoints ↔
      current = endpoint ∨ (current ∈ group.endpoints ∧
        current.registrationId ≠ endpoint.registrationId ∧ current.workerId ≠ endpoint.workerId) := by
  rw [register, (perm_insertionSort _ _).mem_iff, mem_append, mem_singleton, or_comm]
  simp

theorem mem_unregister (registrationId : UInt64) (current : RouteEndpoint) :
    current ∈ (group.unregister registrationId).1.endpoints ↔
      current ∈ group.endpoints ∧ current.registrationId ≠ registrationId := by
  simp [unregister]

/-- With distinct registrations, only one endpoint is pointed to another slot. -/
theorem updateSlot_endpoints (distinct : (group.endpoints.map RouteEndpoint.registrationId).Nodup)
    (sessionId : Nat) (registrationId : UInt64) (slot : Nat) :
    (group.updateSlot sessionId registrationId slot).endpoints = group.endpoints.map fun endpoint =>
        if endpoint.sessionId == sessionId && endpoint.registrationId == registrationId then
          { endpoint with slot := slot }
        else endpoint := by
  have alone : group.endpoints.Pairwise fun first second =>
      (first.sessionId == sessionId && first.registrationId == registrationId) = true →
      (second.sessionId == sessionId && second.registrationId == registrationId) = false := by
    refine (pairwise_map.mp distinct).imp ?_
    intro first second apart mine
    rw [Bool.and_eq_true, beq_iff_eq, beq_iff_eq] at mine
    rw [mine.2] at apart
    rw [Bool.and_eq_false_iff, beq_eq_false_iff_ne, beq_eq_false_iff_ne]
    exact Or.inr (Ne.symm apart)
  rw [← VecOps.modify_findIdx _ _ alone, updateSlot]
  cases group.endpoints.findIdx? fun endpoint =>
      endpoint.sessionId == sessionId && endpoint.registrationId == registrationId with
  | none => rfl
  | some position => rfl

theorem updateSlot_map {α : Type} (field : RouteEndpoint → α)
    (kept : ∀ endpoint slot, field { endpoint with slot := slot } = field endpoint)
    (sessionId : Nat) (registrationId : UInt64) (slot : Nat) :
    (group.updateSlot sessionId registrationId slot).endpoints.map field =
      group.endpoints.map field := by
  rw [updateSlot]
  split
  · rfl
  apply ext_getElem?
  intro position
  rw [getElem?_map, getElem?_map, getElem?_modify]
  cases group.endpoints[position]? with
  | none => rfl
  | some endpoint =>
    refine congrArg some ?_
    split
    · exact kept endpoint slot
    · rfl

theorem updateSlot_distinct (distinct : (group.endpoints.map RouteEndpoint.registrationId).Nodup)
    (sessionId : Nat) (registrationId : UInt64) (slot : Nat) :
    ((group.updateSlot sessionId registrationId slot).endpoints.map
      RouteEndpoint.registrationId).Nodup := by
  rw [group.updateSlot_map _ fun _ _ => rfl]
  exact distinct

/-- A field in which the new endpoint differs from all that are kept stays distinct. -/
theorem register_nodup {α : Type} (field : RouteEndpoint → α)
    (distinct : (group.endpoints.map field).Nodup) (endpoint : RouteEndpoint)
    (differs : ∀ current : RouteEndpoint, current.registrationId ≠ endpoint.registrationId →
      current.workerId ≠ endpoint.workerId → field current ≠ field endpoint) :
    ((group.register endpoint).endpoints.map field).Nodup := by
  have sorted := (perm_insertionSort (fun first second : RouteEndpoint =>
    first.workerId ≤ second.workerId) (group.endpoints.filter (fun current =>
      current.registrationId != endpoint.registrationId && current.workerId != endpoint.workerId) ++
      [endpoint])).map field
  rw [register, sorted.nodup_iff, map_append, nodup_append]
  refine ⟨distinct.sublist (filter_sublist.map _), nodup_singleton _, ?_⟩
  intro kept member new isNew
  obtain ⟨current, inside, rfl⟩ := mem_map.mp member
  rw [mem_filter, Bool.and_eq_true, bne_iff_ne, bne_iff_ne] at inside
  rw [map_singleton, mem_singleton] at isNew
  rw [isNew]
  exact differs current inside.2.1 inside.2.2

theorem register_distinct (distinct : (group.endpoints.map RouteEndpoint.registrationId).Nodup)
    (endpoint : RouteEndpoint) :
    ((group.register endpoint).endpoints.map RouteEndpoint.registrationId).Nodup :=
  group.register_nodup _ distinct endpoint fun _ registration _ => registration

end RouteGroup

namespace RouteTable

variable (routes : RouteTable) (ip : Ipv4) (other : UInt8)

theorem stored_register (endpoint : RouteEndpoint) : (routes.register ip endpoint).1.stored other =
      if routeIndex ip = some other then
        (RouteGroup.register ⟨routes.stored other⟩ endpoint).endpoints
      else routes.stored other := by
  rw [register]
  cases routeIndex ip with
  | none => rw [if_neg nofun]
  | some index =>
    simp only [stored, lookup_insert_if, Option.some.injEq, eq_comm (a := index)]
    split
    · rename_i same
      rw [same]
      cases routes.lookup index with
      | none => rfl
      | some group => rfl
    · rfl

theorem stored_unregister (registrationId : UInt64) :
    (routes.unregister ip registrationId).1.stored other =
      if routeIndex ip = some other then
        (RouteGroup.unregister ⟨routes.stored other⟩ registrationId).1.endpoints
      else routes.stored other := by
  rw [unregister]
  cases routeIndex ip with
  | none => rw [if_neg nofun]
  | some index =>
    simp only [Option.some.injEq, eq_comm (a := index)]
    split
    · rename_i missing
      split
      · rename_i same
        rw [same, stored, missing]
        rfl
      · rfl
    · rename_i group here
      split
      · rename_i emptied
        rw [stored, lookup_erase_if]
        split
        · rename_i same
          rw [same, stored, here]
          exact (List.isEmpty_iff.mp emptied).symm
        · rfl
      · rw [stored, lookup_insert_if]
        split
        · rename_i same
          rw [same, stored, here]
          rfl
        · rfl

theorem stored_updateSlot (sessionId : Nat) (registrationId : UInt64) (slot : Nat) :
    (routes.updateSlot ip sessionId registrationId slot).stored other =
      if routeIndex ip = some other then
        (RouteGroup.updateSlot ⟨routes.stored other⟩ sessionId registrationId slot).endpoints
      else routes.stored other := by
  rw [updateSlot]
  cases routeIndex ip with
  | none => rw [if_neg nofun]
  | some index =>
    simp only [Option.some.injEq, eq_comm (a := index)]
    split
    · rename_i missing
      split
      · rename_i same
        rw [same, stored, missing]
        rfl
      · rfl
    · rename_i group here
      rw [stored, lookup_insert_if]
      split
      · rename_i same
        rw [same, stored, here]
        rfl
      · rfl

end RouteTable

end Csqtt.Routes
