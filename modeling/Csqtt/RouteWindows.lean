import Csqtt.RouteTable
import Csqtt.Runs
import Mathlib.Data.List.Rotate

/-!
# Striping over the endpoints of a group

A packet for a tunnel address is offered to the endpoints of its group, one after the
other. Which of them is first is the business of a scheduler with one cursor for each
class of packets: a cursor stays at an endpoint for a chunk of packets and then advances
by one. The cursor remembers how many endpoints there were, and begins anew when their
number has changed.

`StripedTable` is the route table with its schedulers, as an array of 256 groups. Leaving
the schedulers out gives the route table that the engine is modeled with, and every
operation agrees on both. `Tidy` is what all operations keep in a group; a cursor that is
left behind by a change of the group may point outside of it, but never outside of the
number it remembers.
-/

namespace Csqtt.Routes

open List Runs Option RouteEndpoint

/-- Packets are classified by their content and their length. -/
inductive PacketClass
  | small
  | medium
  | bulk
deriving DecidableEq, Repr

/-- The number of packets of a class that go to one endpoint before the next one. -/
def PacketClass.streamChunk : PacketClass → Nat
  | .small => 4
  | .medium => 16
  | .bulk => 32

/-- The endpoint a class is at, how many packets it still takes, and the number of
endpoints at that time. -/
structure StripeCursor where
  next : Nat := 0
  remaining : Nat := 0
  count : Nat := 0
deriving DecidableEq, Repr

namespace StripeCursor

/-- Begin anew if the number of endpoints has changed, and with a whole chunk if the last
one is used up. -/
def refresh (cursor : StripeCursor) (count chunk : Nat) : StripeCursor :=
  let current := if cursor.count ≠ count then ⟨0, 0, count⟩ else cursor
  if current.remaining = 0 then { current with remaining := chunk } else current

/-- Count one packet, and go on to the next endpoint after the last of a chunk. -/
def advance (cursor : StripeCursor) (count : Nat) : StripeCursor :=
  let counted := { cursor with remaining := cursor.remaining - 1 }
  if counted.remaining = 0 then
    { counted with next := if counted.next + 1 = count then 0 else counted.next + 1 }
  else counted

end StripeCursor

/-- One cursor for each class. -/
structure StripedScheduler where
  cursors : PacketClass → StripeCursor := fun _ => {}

/-- The position of the endpoint for the next packet of a class. -/
def StripedScheduler.select (scheduler : StripedScheduler) (count : Nat) (kind : PacketClass) :
    StripedScheduler × Option Nat :=
  if count = 0 then (scheduler, none)
  else
    let cursor := (scheduler.cursors kind).refresh count kind.streamChunk
    (⟨Function.update scheduler.cursors kind (cursor.advance count)⟩, some cursor.next)

/-- The order in which a packet is offered to the endpoints: the first of them, and how
many there are. -/
structure RouteSelection where
  start : Nat
  len : Nat
deriving DecidableEq, Repr

/-- The endpoints of one tunnel address with their scheduler. -/
structure StripedGroup extends RouteGroup where
  scheduler : StripedScheduler := {}

namespace StripedGroup

/-- A group without endpoints. -/
def fresh : StripedGroup := { endpoints := [] }

def register (group : StripedGroup) (endpoint : RouteEndpoint) : StripedGroup :=
  { group with toRouteGroup := group.toRouteGroup.register endpoint }

def unregister (group : StripedGroup) (registrationId : UInt64) : StripedGroup × Bool :=
  let (kept, removed) := group.toRouteGroup.unregister registrationId
  ({ group with toRouteGroup := kept }, removed)

def updateSlot (group : StripedGroup) (sessionId : Nat) (registrationId : UInt64) (slot : Nat) :
    StripedGroup :=
  { group with toRouteGroup := group.toRouteGroup.updateSlot sessionId registrationId slot }

/-- Select the endpoint a packet is offered to first. -/
def selectWindow (group : StripedGroup) (kind : PacketClass) : StripedGroup × Option RouteSelection :=
  let (scheduler, start) := group.scheduler.select group.endpoints.length kind
  ({ group with scheduler := scheduler }, start.map fun start => ⟨start, group.endpoints.length⟩)

/-- The endpoint at an offset of a selection, which goes on at the first endpoint after the
last one. -/
def endpointAt (group : StripedGroup) (selection : RouteSelection) (offset : Nat) :
    Option RouteEndpoint :=
  if offset ≥ selection.len ∨ selection.len = 0 then none
  else
    let index := selection.start + offset
    group.endpoints[if index ≥ selection.len then index - selection.len else index]?

end StripedGroup

/-- One group for each host number in use. -/
structure StripedTable where
  groups : UInt8 → Option StripedGroup := fun _ => none

namespace StripedTable

/-- Replace the group of a host number. -/
def setGroup (table : StripedTable) (index : UInt8) (group : Option StripedGroup) : StripedTable :=
  ⟨Function.update table.groups index group⟩

/-- Register an endpoint, unless the address is foreign. -/
def register (table : StripedTable) (ip : Ipv4) (endpoint : RouteEndpoint) : StripedTable × Bool :=
  match routeIndex ip with
  | none => (table, false)
  | some index =>
    (table.setGroup index (some (((table.groups index).getD .fresh).register endpoint)), true)

/-- Follow a session to another slot. -/
def updateSlot (table : StripedTable) (ip : Ipv4) (sessionId : Nat) (registrationId : UInt64)
    (slot : Nat) : StripedTable :=
  match routeIndex ip with
  | none => table
  | some index =>
    match table.groups index with
    | none => table
    | some group => table.setGroup index (some (group.updateSlot sessionId registrationId slot))

/-- Remove a registration, and its group if it was the last one. -/
def unregister (table : StripedTable) (ip : Ipv4) (registrationId : UInt64) : StripedTable × Bool :=
  match routeIndex ip with
  | none => (table, false)
  | some index =>
    match table.groups index with
    | none => (table, false)
    | some group =>
      let (group, removed) := group.unregister registrationId
      (table.setGroup index (if group.endpoints.isEmpty then none else some group), removed)

/-- Select a window of the group of a host number. -/
def selectKeyWindow (table : StripedTable) (key : UInt8) (kind : PacketClass) :
    StripedTable × Option RouteSelection :=
  match table.groups key with
  | none => (table, none)
  | some group =>
    let (group, selection) := group.selectWindow kind
    (table.setGroup key (some group), selection)

/-- The endpoint at an offset of a selection of the group of a host number. -/
def endpointAt (table : StripedTable) (key : UInt8) (selection : RouteSelection) (offset : Nat) :
    Option RouteEndpoint :=
  (table.groups key).bind fun group => group.endpointAt selection offset

end StripedTable

/-- The calls that change a route table. -/
inductive RouteCall
  | register (ip : Ipv4) (endpoint : RouteEndpoint)
  | unregister (ip : Ipv4) (registrationId : UInt64)
  | updateSlot (ip : Ipv4) (sessionId : Nat) (registrationId : UInt64) (slot : Nat)
  | select (key : UInt8) (kind : PacketClass)

/-- One call. -/
def StripedTable.step (table : StripedTable) : RouteCall → StripedTable × Option RouteSelection
  | .register ip endpoint => ((table.register ip endpoint).1, none)
  | .unregister ip registrationId => ((table.unregister ip registrationId).1, none)
  | .updateSlot ip sessionId registrationId slot =>
    (table.updateSlot ip sessionId registrationId slot, none)
  | .select key kind => table.selectKeyWindow key kind

/-! ## The table without its schedulers -/

/-- The same groups are stored, up to their schedulers. -/
def StripedTable.Agrees (table : StripedTable) (routes : RouteTable) : Prop :=
  ∀ index, (table.groups index).map StripedGroup.toRouteGroup = routes.lookup index

/-- What a call does to the table without schedulers. -/
def RouteTable.after (routes : RouteTable) : RouteCall → RouteTable
  | .register ip endpoint => (routes.register ip endpoint).1
  | .unregister ip registrationId => (routes.unregister ip registrationId).1
  | .updateSlot ip sessionId registrationId slot => routes.updateSlot ip sessionId registrationId slot
  | .select _ _ => routes

namespace StripedTable

variable {table : StripedTable} {routes : RouteTable}

@[simp] theorem groups_setGroup (index other : UInt8) (group : Option StripedGroup) :
    (table.setGroup index group).groups other =
      if other = index then group else table.groups other :=
  Function.update_apply table.groups index group other

theorem Agrees.insert (agrees : table.Agrees routes) (index : UInt8) (group : StripedGroup) :
    (table.setGroup index (some group)).Agrees (routes.insert index group.toRouteGroup) := by
  intro other
  rw [groups_setGroup, Table.lookup_insert_if]
  split
  · rfl
  · exact agrees other

theorem Agrees.erase (agrees : table.Agrees routes) (index : UInt8) :
    (table.setGroup index none).Agrees (routes.erase index) := by
  intro other
  rw [groups_setGroup, Table.lookup_erase_if]
  split
  · rfl
  · exact agrees other

/-- Every call does the same to both tables. -/
theorem Agrees.step (agrees : table.Agrees routes) (call : RouteCall) :
    (table.step call).1.Agrees (routes.after call) := by
  cases call with
  | register ip endpoint =>
    rw [StripedTable.step, RouteTable.after, StripedTable.register, RouteTable.register]
    cases routeIndex ip with
    | none => exact agrees
    | some index =>
      dsimp only
      rw [← agrees index]
      cases table.groups index with
      | none => exact agrees.insert index (StripedGroup.fresh.register endpoint)
      | some group => exact agrees.insert index (group.register endpoint)
  | unregister ip registrationId =>
    rw [StripedTable.step, RouteTable.after, StripedTable.unregister, RouteTable.unregister]
    cases routeIndex ip with
    | none => exact agrees
    | some index =>
      dsimp only
      rw [← agrees index]
      cases table.groups index with
      | none => exact agrees
      | some group =>
        by_cases emptied : (group.toRouteGroup.unregister registrationId).1.endpoints.isEmpty
        · have first := agrees.erase index
          simpa only [StripedGroup.unregister, map_some, emptied, if_true] using first
        · have first := agrees.insert index (group.unregister registrationId).1
          simpa only [StripedGroup.unregister, map_some, emptied, if_false,
            Bool.false_eq_true] using first
  | updateSlot ip sessionId registrationId slot =>
    rw [StripedTable.step, RouteTable.after, StripedTable.updateSlot, RouteTable.updateSlot]
    cases routeIndex ip with
    | none => exact agrees
    | some index =>
      dsimp only
      rw [← agrees index]
      cases table.groups index with
      | none => exact agrees
      | some group => exact agrees.insert index (group.updateSlot sessionId registrationId slot)
  | select key kind =>
    intro other
    rw [StripedTable.step, RouteTable.after, selectKeyWindow, ← agrees other]
    cases here : table.groups key with
    | none => rfl
    | some group =>
      rw [groups_setGroup]
      split
      · rename_i same
        rw [same, here]
        rfl
      · rfl

theorem Agrees.run (agrees : table.Agrees routes) (calls : List RouteCall) :
    (final StripedTable.step table calls).Agrees (calls.foldl RouteTable.after routes) := by
  induction calls generalizing table routes with
  | nil => exact agrees
  | cons call rest ih => exact ih (agrees.step call)

end StripedTable

/-! ## What the calls keep -/

/-- The cursor is inside of the number of endpoints it remembers. -/
def StripeCursor.Inside (cursor : StripeCursor) : Prop :=
  cursor.count ≠ 0 → cursor.next < cursor.count

variable {count : Nat}

namespace StripeCursor

variable {cursor : StripeCursor}

theorem refresh_count (count chunk : Nat) : (cursor.refresh count chunk).count = count := by
  rw [refresh]
  split
  · rename_i changed
    split
    · rfl
    · rfl
  · rename_i same
    split
    · exact not_not.mp same
    · exact not_not.mp same

theorem Inside.refresh (inside : cursor.Inside) (nonempty : count ≠ 0) (chunk : Nat) :
    (cursor.refresh count chunk).next < count := by
  rw [StripeCursor.refresh]
  split
  · split
    · exact Nat.pos_of_ne_zero nonempty
    · exact Nat.pos_of_ne_zero nonempty
  rename_i same
  have known : cursor.count = count := not_not.mp same
  have next : cursor.next < count := by
    rw [← known] at nonempty ⊢
    exact inside nonempty
  split
  · exact next
  · exact next

theorem advance_count (count : Nat) : (cursor.advance count).count = cursor.count := by
  rw [advance]
  split
  · rfl
  · rfl

theorem advance_inside (next : cursor.next < count) : (cursor.advance count).next < count := by
  rw [advance]
  split
  · dsimp only
    split
    · omega
    · omega
  · exact next

end StripeCursor

/-- All cursors are inside of the numbers they remember. -/
def StripedScheduler.Inside (scheduler : StripedScheduler) : Prop :=
  ∀ kind, (scheduler.cursors kind).Inside

theorem StripedScheduler.Inside.select {scheduler : StripedScheduler} (inside : scheduler.Inside)
    (nonempty : count ≠ 0) (kind : PacketClass) : (scheduler.select count kind).1.Inside ∧
      ∃ start, (scheduler.select count kind).2 = some start ∧ start < count := by
  have next := (inside kind).refresh nonempty kind.streamChunk
  rw [StripedScheduler.select, if_neg nonempty]
  refine ⟨?_, _, rfl, next⟩
  intro other
  dsimp only
  rw [Function.update_apply]
  split
  · intro _
    rw [StripeCursor.advance_count, StripeCursor.refresh_count]
    exact StripeCursor.advance_inside next
  · exact inside other

/-- The endpoints of a group are in the strict order of their workers, have distinct
registrations, and are not empty; its cursors are inside of what they remember. -/
structure StripedGroup.Tidy (group : StripedGroup) : Prop where
  sorted : (group.endpoints.map workerId).Pairwise (· < ·)
  distinct : (group.endpoints.map registrationId).Nodup
  nonempty : group.endpoints ≠ []
  inside : group.scheduler.Inside

/-- The endpoints of a registration are in the order of their workers. -/
theorem RouteGroup.register_sorted (group : RouteGroup) (endpoint : RouteEndpoint)
    (distinct : (group.endpoints.map workerId).Nodup) :
    ((group.register endpoint).endpoints.map workerId).Pairwise (· < ·) := by
  have apart := group.register_nodup _ distinct endpoint fun _ _ worker => worker
  have ordered : ((group.register endpoint).endpoints.map workerId).Pairwise
      (· ≤ ·) := by
    have : Std.Total fun first second : RouteEndpoint => first.workerId ≤ second.workerId :=
      ⟨fun _ _ => UInt16.le_total _ _⟩
    have : IsTrans RouteEndpoint fun first second => first.workerId ≤ second.workerId :=
      ⟨fun _ _ _ => UInt16.le_trans⟩
    exact pairwise_map.mpr (pairwise_insertionSort
      (fun first second : RouteEndpoint => first.workerId ≤ second.workerId) _)
  exact ordered.imp₂ (fun _ _ before differs => UInt16.lt_of_le_of_ne before differs) apart

namespace StripedGroup.Tidy

variable {group : StripedGroup}

theorem workers (tidy : group.Tidy) : (group.endpoints.map workerId).Nodup :=
  tidy.sorted.imp fun before => UInt16.ne_of_lt before

theorem register (sorted : (group.endpoints.map workerId).Nodup)
    (distinct : (group.endpoints.map registrationId).Nodup)
    (inside : group.scheduler.Inside) (endpoint : RouteEndpoint) : (group.register endpoint).Tidy where
  sorted := group.toRouteGroup.register_sorted endpoint sorted
  distinct := group.toRouteGroup.register_distinct distinct endpoint
  nonempty := ne_nil_of_mem ((group.toRouteGroup.mem_register endpoint endpoint).mpr (Or.inl rfl))
  inside := inside

theorem unregister (tidy : group.Tidy) (registrationId : UInt64)
    (left : (group.unregister registrationId).1.endpoints ≠ []) :
    (group.unregister registrationId).1.Tidy where
  sorted := tidy.sorted.sublist (filter_sublist.map _)
  distinct := tidy.distinct.sublist (filter_sublist.map _)
  nonempty := left
  inside := tidy.inside

theorem updateSlot (tidy : group.Tidy) (sessionId : Nat) (registrationId : UInt64) (slot : Nat) :
    (group.updateSlot sessionId registrationId slot).Tidy := by
  have same := group.toRouteGroup.updateSlot_map workerId (fun _ _ => rfl) sessionId
    registrationId slot
  refine ⟨?_, group.toRouteGroup.updateSlot_distinct tidy.distinct _ _ _, ?_, tidy.inside⟩
  · rw [StripedGroup.updateSlot, same]
    exact tidy.sorted
  · intro emptied
    rw [StripedGroup.updateSlot] at emptied
    rw [emptied] at same
    exact tidy.nonempty (map_eq_nil_iff.mp same.symm)

theorem selectWindow (tidy : group.Tidy) (kind : PacketClass) :
    (group.selectWindow kind).1.Tidy ∧ ∃ start < group.endpoints.length,
      (group.selectWindow kind).2 = some ⟨start, group.endpoints.length⟩ := by
  have nonempty : group.endpoints.length ≠ 0 := length_eq_zero_iff.not.mpr tidy.nonempty
  obtain ⟨inside, start, selected, bound⟩ := tidy.inside.select nonempty kind
  refine ⟨⟨tidy.sorted, tidy.distinct, tidy.nonempty, inside⟩, start, bound, ?_⟩
  rw [StripedGroup.selectWindow]
  dsimp only
  rw [selected]
  rfl

end StripedGroup.Tidy

/-- All groups are tidy. -/
def StripedTable.Tidy (table : StripedTable) : Prop :=
  ∀ index group, table.groups index = some group → group.Tidy

namespace StripedTable.Tidy

variable {table : StripedTable}

theorem setGroup (tidy : table.Tidy) {index : UInt8} {group : Option StripedGroup}
    (new : ∀ found ∈ group, found.Tidy) : (table.setGroup index group).Tidy := by
  intro other found here
  rw [groups_setGroup] at here
  split at here
  · exact new found here
  · exact tidy other found here

/-- Every call keeps the groups tidy. -/
theorem step (tidy : table.Tidy) (call : RouteCall) : (table.step call).1.Tidy := by
  cases call with
  | register ip endpoint =>
    rw [StripedTable.step, StripedTable.register]
    cases routeIndex ip with
    | none => exact tidy
    | some index =>
      refine tidy.setGroup ?_
      intro found isFound
      cases isFound
      cases here : table.groups index with
      | none =>
        have empty : StripedGroup.fresh.endpoints = [] := rfl
        refine StripedGroup.Tidy.register ?_ ?_ (fun _ counted => (counted rfl).elim) endpoint
        · rw [getD_none, empty]
          exact nodup_nil
        · rw [getD_none, empty]
          exact nodup_nil
      | some group =>
        have before := tidy index group here
        exact StripedGroup.Tidy.register before.workers before.distinct before.inside endpoint
  | unregister ip registrationId =>
    rw [StripedTable.step, StripedTable.unregister]
    cases routeIndex ip with
    | none => exact tidy
    | some index =>
      dsimp only
      cases here : table.groups index with
      | none => exact tidy
      | some group =>
        refine tidy.setGroup ?_
        intro found isFound
        split at isFound
        · cases isFound
        rename_i left
        cases isFound
        exact (tidy index group here).unregister registrationId
          fun emptied => left (List.isEmpty_iff.mpr emptied)
  | updateSlot ip sessionId registrationId slot =>
    rw [StripedTable.step, StripedTable.updateSlot]
    cases routeIndex ip with
    | none => exact tidy
    | some index =>
      dsimp only
      cases here : table.groups index with
      | none => exact tidy
      | some group =>
        refine tidy.setGroup ?_
        intro found isFound
        cases isFound
        exact (tidy index group here).updateSlot sessionId registrationId slot
  | select key kind =>
    rw [StripedTable.step, StripedTable.selectKeyWindow]
    cases here : table.groups key with
    | none => exact tidy
    | some group =>
      refine tidy.setGroup ?_
      intro found isFound
      cases isFound
      exact ((tidy key group here).selectWindow kind).1

theorem run (calls : List RouteCall) : (final StripedTable.step {} calls).Tidy :=
  throughout_final _ _ _ _ (throughout_of_step _ StripedTable.Tidy (fun _ => True)
    (fun _ call tidy _ => step tidy call) _ calls (fun _ _ absent => by cases absent)
    fun _ _ => trivial)

end StripedTable.Tidy

/-! ## Windows -/

namespace StripedGroup

variable {group : StripedGroup} {start : Nat}

theorem endpointAt_eq (bound : start < group.endpoints.length) {offset : Nat}
    (inside : offset < group.endpoints.length) :
    group.endpointAt ⟨start, group.endpoints.length⟩ offset =
      (group.endpoints.rotate start)[offset]? := by
  have selected : ¬ (offset ≥ group.endpoints.length ∨ group.endpoints.length = 0) := by omega
  rw [endpointAt, if_neg selected, getElem?_rotate inside]
  dsimp only
  split
  · rename_i beyond
    rw [Nat.add_comm offset start, Nat.mod_eq_sub_mod beyond, Nat.mod_eq_of_lt (by omega)]
  · rename_i before
    rw [Nat.add_comm offset start, Nat.mod_eq_of_lt (Nat.lt_of_not_ge before)]

theorem map_endpointAt (bound : start < group.endpoints.length) :
    (List.range group.endpoints.length).map (group.endpointAt ⟨start, group.endpoints.length⟩) =
      (group.window start).map some := by
  rw [RouteGroup.window, ← rotate_eq_drop_append_take (Nat.le_of_lt bound)]
  apply ext_getElem?
  intro offset
  rw [getElem?_map, getElem?_map]
  by_cases inside : offset < group.endpoints.length
  · rw [getElem?_range inside, map_some, endpointAt_eq bound inside,
      getElem?_eq_getElem (by rw [length_rotate]; exact inside)]
    rfl
  · rw [getElem?_eq_none (by rw [length_range]; omega),
      getElem?_eq_none (by rw [length_rotate]; omega)]
    rfl

/-- With distinct registrations, each endpoint is at one offset. -/
theorem endpointAt_unique (distinct : (group.endpoints.map registrationId).Nodup)
    (bound : start < group.endpoints.length) {endpoint : RouteEndpoint}
    (member : endpoint ∈ group.endpoints) : ∃! offset, offset < group.endpoints.length ∧
      group.endpointAt ⟨start, group.endpoints.length⟩ offset = some endpoint := by
  obtain ⟨offset, here⟩ := getElem?_of_mem (mem_rotate.mpr member : _ ∈
    group.endpoints.rotate start)
  have inside : offset < group.endpoints.length := by
    have := (List.getElem?_eq_some_iff.mp here).1
    rwa [length_rotate] at this
  refine ⟨offset, ⟨inside, (endpointAt_eq bound inside).trans here⟩, ?_⟩
  rintro other ⟨otherInside, there⟩
  rw [endpointAt_eq bound otherInside] at there
  have once : (group.endpoints.rotate start).Nodup :=
    nodup_rotate.mpr distinct.of_map
  exact (getElem?_inj (by rw [length_rotate]; exact otherInside) once).mp
    (there.trans here.symm)

end StripedGroup

/-- After any calls, the endpoints of every group are in the strict order of their workers,
with distinct registrations, and there is at least one. For every class a window of the
group begins at one of them, and its offsets visit each of them exactly once. -/
theorem windows_visit_every_endpoint_once (calls : List RouteCall) (key : UInt8)
    (group : StripedGroup) (stored : (final StripedTable.step {} calls).groups key = some group) :
    (group.endpoints.map workerId).Pairwise (· < ·) ∧
      (group.endpoints.map registrationId).Nodup ∧ group.endpoints ≠ [] ∧ ∀ kind, ∃ table selection,
        (final StripedTable.step {} calls).selectKeyWindow key kind = (table, some selection) ∧
          selection.start < group.endpoints.length ∧ selection.len = group.endpoints.length ∧
          (∀ offset < selection.len, ∃ endpoint ∈ group.endpoints,
            table.endpointAt key selection offset = some endpoint) ∧
          ∀ endpoint ∈ group.endpoints, ∃! offset, offset < selection.len ∧
            table.endpointAt key selection offset = some endpoint := by
  have tidy := StripedTable.Tidy.run calls key group stored
  refine ⟨tidy.sorted, tidy.distinct, tidy.nonempty, ?_⟩
  intro kind
  obtain ⟨_, start, bound, selected⟩ := tidy.selectWindow kind
  have same : ∀ offset, ((final StripedTable.step {} calls).selectKeyWindow key kind).1.endpointAt
      key ⟨start, group.endpoints.length⟩ offset =
        group.endpointAt ⟨start, group.endpoints.length⟩ offset := by
    intro offset
    rw [StripedTable.selectKeyWindow, stored]
    rw [StripedTable.endpointAt, StripedTable.groups_setGroup, if_pos rfl]
    rfl
  refine ⟨((final StripedTable.step {} calls).selectKeyWindow key kind).1,
    ⟨start, group.endpoints.length⟩, ?_, bound, rfl, ?_, ?_⟩
  · rw [StripedTable.selectKeyWindow, stored]
    dsimp only
    rw [selected]
  · intro offset inside
    have turned : offset < (group.endpoints.rotate start).length := by
      rw [length_rotate]
      exact inside
    refine ⟨(group.endpoints.rotate start)[offset], mem_rotate.mp (getElem_mem turned), ?_⟩
    rw [same, StripedGroup.endpointAt_eq bound inside, getElem?_eq_getElem turned]
  · intro endpoint member
    simp only [same]
    exact StripedGroup.endpointAt_unique tidy.distinct bound member

namespace Sample

/-- The second client of the tunnel. -/
def tunnelIp : Ipv4 := ⟨10, 66, 67, 2⟩

/-- Three workers register, the group is used, one worker registers again and another one
leaves. -/
def stripedCalls : List RouteCall :=
  [.register tunnelIp ⟨3, 30, 3, 0⟩, .register tunnelIp ⟨1, 10, 1, 1⟩,
    .register tunnelIp ⟨2, 20, 2, 2⟩, .select 2 .small, .register tunnelIp ⟨4, 40, 1, 3⟩,
    .updateSlot tunnelIp 2 20 5, .select 2 .small, .unregister tunnelIp 30]

/-- The group that is left. -/
def stripedGroup : StripedGroup :=
  ((final StripedTable.step {} stripedCalls).groups 2).getD .fresh

end Sample

/-- The two endpoints that are left are in the order of their workers, and a window visits
each of them once. -/
theorem remaining_endpoints_visited_once :
    Sample.stripedGroup.endpoints = [⟨4, 40, 1, 3⟩, ⟨2, 20, 2, 5⟩] ∧ ∀ kind, ∃ table selection,
        (final StripedTable.step {} Sample.stripedCalls).selectKeyWindow 2 kind =
            (table, some selection) ∧
          ∀ endpoint ∈ Sample.stripedGroup.endpoints, ∃! offset, offset < selection.len ∧
            table.endpointAt 2 selection offset = some endpoint := by
  refine ⟨by decide +kernel, ?_⟩
  intro kind
  obtain ⟨_, _, _, windows⟩ :=
    windows_visit_every_endpoint_once Sample.stripedCalls 2 Sample.stripedGroup rfl
  obtain ⟨table, selection, selected, _, _, _, visited⟩ := windows kind
  exact ⟨table, selection, selected, visited⟩

end Csqtt.Routes
