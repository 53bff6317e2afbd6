import Csqtt.Departure

/-!
# Reassembly does not look at the values

What a reassembler holds and releases depends on headers and times only. If every value is
replaced by its image under a function, everything else stays the same: a push holds the
images of what it held, and it releases the images of what it released.

So values may carry a mark for the sake of a proof. A reassembler of marked values follows
the reassembler of the values step by step, and the marks of what is released say where it
came from. The last section says that nothing is released that was not pushed.
-/

namespace Csqtt

open List AList VecOps

universe u v w

namespace VecOps

variable {α : Type u} {β : Type v} {κ : Type w} (image : α → β)

/-- What is removed at an index is the image of what was there. -/
theorem swapRemove_map (items : List α) (index : Nat) : swapRemove (items.map image) index =
      (swapRemove items index).map (Prod.map image (List.map image)) := by
  rw [swapRemove, swapRemove, getElem?_map, getLast?_map]
  cases items[index]? with
  | none => rfl
  | some removed =>
    cases items.getLast? with
    | none => rfl
    | some last =>
      simp

/-- The first image that passes a test belongs to the first value whose image does. -/
theorem removeFirst_map (test : β → Bool) (items : List α) : removeFirst test (items.map image) =
      (removeFirst (test ∘ image) items).map (Prod.map image (List.map image)) := by
  rw [removeFirst, removeFirst, findIdx?_map]
  cases items.findIdx? (test ∘ image) with
  | none => rfl
  | some index => exact swapRemove_map image items index

/-- The images have the keys of their values. -/
theorem candidates_map (key : β → Option κ) (items : List α) :
    candidates key (items.map image) = candidates (key ∘ image) items := by
  rw [candidates, candidates, zipIdx_map, filterMap_map]
  rfl

/-- The image with the least key belongs to the value with the least key. -/
theorem removeLeast_map [LE κ] [DecidableLE κ] (key : β → Option κ) (items : List α) :
    removeLeast key (items.map image) =
      (removeLeast (key ∘ image) items).map (Prod.map image (List.map image)) := by
  rw [removeLeast, removeLeast, candidates_map]
  cases (candidates (key ∘ image) items).minOn? Prod.snd with
  | none => rfl
  | some chosen => exact swapRemove_map image items chosen.1

end VecOps

namespace Table

variable {κ : Type u} {ν : Type v} {μ : Type w} (image : ν → μ)

/-- A table with the images of all values. -/
def mapValues (table : Table κ ν) : Table κ μ where
  entries := table.entries.map fun entry => ⟨entry.1, image entry.2⟩
  nodupKeys := by
    have keys : (table.entries.map fun entry => (⟨entry.1, image entry.2⟩ :
        Sigma fun _ : κ => μ)).keys = table.entries.keys := by
      rw [List.keys, List.keys, map_map]
      rfl
    rw [List.NodupKeys, keys]
    exact table.nodupKeys

variable (table : Table κ ν)

/-- The keys stay. -/
theorem keys_mapValues : (mapValues image table).keys = table.keys := by
  rw [AList.keys, AList.keys, mapValues, List.keys, List.keys, map_map]
  rfl

/-- The same keys have entries. -/
theorem mem_mapValues (key : κ) : key ∈ mapValues image table ↔ key ∈ table := by
  rw [AList.mem_keys, AList.mem_keys, keys_mapValues]

/-- There are as many entries. -/
theorem size_mapValues : (mapValues image table).size = table.size := by
  rw [size, size, keys_mapValues]

variable [DecidableEq κ]

/-- A lookup finds the image of what it found. -/
theorem lookup_mapValues (key : κ) :
    (mapValues image table).lookup key = (table.lookup key).map image := by
  cases stored : table.lookup key with
  | none =>
    apply lookup_eq_none.mpr
    rw [mem_mapValues]
    exact lookup_eq_none.mp stored
  | some value =>
    have member : (⟨key, value⟩ : Sigma fun _ : κ => ν) ∈ table.entries :=
      mem_lookup_iff.mp stored
    exact mem_lookup_iff.mpr (mem_map_of_mem member)

/-- Inserting an image, or taking images after inserting. -/
theorem mapValues_insert (key : κ) (value : ν) :
    mapValues image (table.insert key value) = (mapValues image table).insert key (image value) := by
  let mark : (Sigma fun _ : κ => ν) → Sigma fun _ : κ => μ := fun entry => ⟨entry.1, image entry.2⟩
  have erased : ∀ entries : List (Sigma fun _ : κ => ν),
      (entries.kerase key).map mark = (entries.map mark).kerase key := by
    intro entries
    induction entries with
    | nil => rfl
    | cons entry rest ih =>
      by_cases same : key = entry.1
      · have marked : key = (mark entry).1 := same
        rw [kerase_cons_eq same, map_cons, kerase_cons_eq marked]
      · have marked : key ≠ (mark entry).1 := same
        rw [kerase_cons_ne same, map_cons, map_cons, kerase_cons_ne marked, ih]
  apply AList.ext
  rw [entries_insert]
  exact congrArg (List.cons _) (erased table.entries)

end Table

namespace Reassembler

open FlowFrame

variable {α : Type u} {β : Type v} (image : α → β)

/-- A held packet with the image of its value. -/
def Pending.map (held : Pending α) : Pending β := ⟨held.sequence, image held.value⟩

/-- A flow that holds images. -/
def FlowState.map (state : FlowState α) : FlowState β :=
  ⟨state.expected, state.gapStartedMs, state.pending.map (Pending.map image)⟩

/-- A reassembler that holds images. -/
def FlowReassembler.map (reassembler : FlowReassembler α) : FlowReassembler β :=
  ⟨Table.mapValues (FlowState.map image) reassembler.flows, reassembler.pendingTotal⟩

/-- A push of an image. -/
def Push.map (push : Push α) : Push β := ⟨push.header, image push.value, push.nowMs⟩

/-- A push in progress, with images held and released. -/
def Work.map (work : Work α) : Work β :=
  ⟨work.total, work.flow.map image, work.output.map image⟩

/-- A flow and what it has released. -/
def mapReleased (released : FlowState α × List α) : FlowState β × List β :=
  (released.1.map image, released.2.map image)

/-- A packet is found by its number, whatever its value is. -/
theorem removeFirst_pending (sequence : UInt32) (pending : List (Pending α)) :
    removeFirst (fun held => held.sequence == sequence) (pending.map (Pending.map image)) =
      (removeFirst (fun held => held.sequence == sequence) pending).map
        (Prod.map (Pending.map image) (List.map (Pending.map image))) :=
  removeFirst_map (Pending.map image) _ pending

/-- Draining follows the numbers only. -/
theorem drainRounds_map (rounds : Nat) (state : FlowState α) :
    drainRounds rounds (state.map image) = mapReleased image (drainRounds rounds state) := by
  induction rounds generalizing state with
  | zero => rfl
  | succ rounds ih =>
    rw [drainRounds, drainRounds, FlowState.map]
    rw [removeFirst_pending]
    cases removeFirst (fun held => held.sequence == state.expected) state.pending with
    | none => rfl
    | some taken =>
      have later := ih
        { state with pending := taken.2, expected := state.expected + 1 }
      rw [FlowState.map] at later
      dsimp only [Option.map_some, Prod.map] at later ⊢
      rw [later]
      rfl

variable (state : FlowState α)

/-- Images are drained when their values are. -/
theorem drainContiguous_map :
    drainContiguous (state.map image) = mapReleased image (drainContiguous state) := by
  rw [drainContiguous, drainContiguous, ← drainRounds_map, FlowState.map, length_map]

/-- The packet nearest to the expected one is the same. -/
theorem removeLeast_pending : removeLeast (distance (state.map image)) (state.map image).pending =
      (removeLeast (distance state) state.pending).map
        (Prod.map (Pending.map image) (List.map (Pending.map image))) :=
  removeLeast_map (Pending.map image) _ state.pending

variable (nowMs : Nat)

/-- A gap is given up for the same packets. -/
theorem releaseLowest_map :
    releaseLowest (state.map image) nowMs = mapReleased image (releaseLowest state nowMs) := by
  rw [releaseLowest, releaseLowest, removeLeast_pending]
  cases removeLeast (distance state) state.pending with
  | none => rfl
  | some taken =>
    have drained := drainContiguous_map image
      { expected := taken.1.sequence + 1, gapStartedMs := none, pending := taken.2 }
    rw [FlowState.map] at drained
    dsimp only [Option.map_some, Prod.map, Pending.map] at drained ⊢
    rw [drained]
    simp only [mapReleased, FlowState.map, isEmpty_map]
    split
    · rfl
    · rfl

/-- A gap expires by time alone. -/
theorem releaseExpired_map :
    releaseExpired (state.map image) nowMs = mapReleased image (releaseExpired state nowMs) := by
  rw [releaseExpired, releaseExpired, releaseLowest_map]
  have same : gapExpired (state.map image) nowMs = gapExpired state nowMs := rfl
  rw [same]
  split
  · rfl
  · rfl

namespace Work

section

variable (work : Work α)

include work

/-- A release that follows images keeps the totals. -/
theorem release_map {release : FlowState α → FlowState α × List α}
    {other : FlowState β → FlowState β × List β}
    (same : ∀ state, other (state.map image) = mapReleased image (release state)) :
    (work.map image).release other = (work.release release).map image := by
  rw [Work.release, Work.release, Work.map]
  rw [same]
  simp [Work.map, mapReleased, FlowState.map]

/-- The expected packet and what it drains. -/
theorem deliver_map (value : α) :
    (work.map image).deliver (image value) = (work.deliver value).map image := by
  rw [deliver, deliver, ← release_map image _ (drainContiguous_map image)]
  simp [Work.map, FlowState.map]

/-- A flow is relieved of its lowest packets under a condition that images share. -/
theorem relieve_map (full : Prop) [Decidable full] :
    (if full then (work.map image).release fun state => releaseLowest state nowMs else work.map image) =
      (if full then work.release fun state => releaseLowest state nowMs else work).map image := by
  split
  · exact release_map image work fun state => releaseLowest_map image state nowMs
  · rfl

/-- The bound of a flow counts packets. -/
theorem enforceFlowBound_map :
    (work.map image).enforceFlowBound nowMs = (work.enforceFlowBound nowMs).map image := by
  have length : (work.map image).flow.pending.length = work.flow.pending.length := length_map _
  rw [enforceFlowBound, enforceFlowBound, length]
  exact relieve_map image nowMs work _

/-- The bound of all flows is on a total. -/
theorem enforceGlobalBound_map :
    (work.map image).enforceGlobalBound nowMs = (work.enforceGlobalBound nowMs).map image :=
  relieve_map image nowMs work _

/-- So is the correction behind it. -/
theorem correctOverflow_map :
    (work.map image).correctOverflow nowMs = (work.correctOverflow nowMs).map image :=
  relieve_map image nowMs work _

/-- A packet that is passed on without being held. -/
theorem bypass_map (sequence : UInt32) (value : α) :
    (work.map image).bypass sequence (image value) = (work.bypass sequence value).map image := by
  simp [bypass, Work.map, FlowState.map]

/-- A packet that is held. -/
theorem hold_map (sequence : UInt32) (value : α) :
    (work.map image).hold sequence (image value) = (work.hold sequence value).map image := by
  simp [hold, Work.map, FlowState.map, Pending.map]

/-- A gap begins at the same time. -/
theorem armGap_map : (work.map image).armGap nowMs = (work.armGap nowMs).map image := by
  have gap : (work.map image).flow.gapStartedMs = work.flow.gapStartedMs := rfl
  rw [armGap, armGap, gap]
  split
  · rfl
  · rfl

/-- A packet ahead of its turn is held within the same bounds, or passed on. -/
theorem holdAhead_map (sequence : UInt32) (value : α) (nowMs : Nat) :
    (work.map image).holdAhead sequence (image value) nowMs =
      (work.holdAhead sequence value nowMs).map image := by
  rw [holdAhead, holdAhead, enforceFlowBound_map]
  have total : ∀ work : Work α, (work.map image).total = work.total := fun _ => rfl
  have empty : ∀ work : Work α, (work.map image).flow.pending.isEmpty = work.flow.pending.isEmpty :=
    fun _ => isEmpty_map
  simp only [total, empty]
  split
  · exact bypass_map image _ sequence value
  · rw [enforceGlobalBound_map, hold_map, correctOverflow_map, armGap_map]
    exact release_map image _ fun state => releaseExpired_map image state nowMs

/-- A push does the same to the images. -/
theorem push_map (sequence : UInt32) (value : α) (nowMs : Nat) :
    (work.map image).push sequence (image value) nowMs =
      (work.push sequence value nowMs).map image := by
  rw [push, push, release_map image work fun state => releaseExpired_map image state nowMs]
  have expected : ∀ work : Work α, (work.map image).flow.expected = work.flow.expected := fun _ => rfl
  have known : ∀ work : Work α,
      (work.map image).flow.pending.any (fun held => held.sequence == sequence) =
        work.flow.pending.any fun held => held.sequence == sequence := fun _ => any_map
  simp only [expected, known]
  split
  · exact deliver_map image _ value
  split
  · rfl
  · exact holdAhead_map image _ sequence value nowMs

end

end Work

variable (reassembler : FlowReassembler α)

/-- Room is made for a flow by the number of flows. -/
theorem makeRoom_map (flow : ReassemblyKey) :
    makeRoom (reassembler.map image) flow = (makeRoom reassembler flow).map image := by
  have same : clears (reassembler.map image) flow = clears reassembler flow := by
    simp only [clears, FlowReassembler.map, Table.size_mapValues, Table.mem_mapValues]
  rw [makeRoom, makeRoom, same]
  split
  · rfl
  · rfl

/-- A flow begins empty, or it is the image of the flow that is there. -/
theorem flowState_map (flow : ReassemblyKey) :
    flowState (reassembler.map image) flow = (flowState reassembler flow).map image := by
  rw [flowState, flowState, FlowReassembler.map]
  rw [Table.lookup_mapValues]
  cases reassembler.flows.lookup flow with
  | none => rfl
  | some state => rfl

/-- A push holds the images of what it held and releases the images of what it released. -/
theorem pushAt_map (push : Push α) : pushAt (reassembler.map image) (push.map image) =
      ((pushAt reassembler push).1.map image, (pushAt reassembler push).2.map image) := by
  have pushed : pushedWork (reassembler.map image) (push.map image) =
      (pushedWork reassembler push).map image := by
    rw [pushedWork, pushedWork, ← Work.push_map, begin, begin, Push.map]
    rw [makeRoom_map, flowState_map]
    rfl
  rw [pushAt_eq, pushAt_eq, pushed]
  dsimp only [Push.map]
  rw [makeRoom_map]
  dsimp only [FlowReassembler.map, Work.map]
  rw [Table.mapValues_insert]

/-! ## What is held -/

/-- All values that wait in a reassembler. -/
def FlowReassembler.Holds (reassembler : FlowReassembler α) (value : α) : Prop :=
  ∃ flow state, reassembler.flows.lookup flow = some state ∧ value ∈ state.pending.map Pending.value

/-- A new reassembler holds nothing. -/
theorem not_holds_new (value : α) : ¬ (new : FlowReassembler α).Holds value := by
  rintro ⟨flow, state, stored, _⟩
  cases stored

/-- The image of a value that waits is waiting. -/
theorem holds_map (value : α) (holds : reassembler.Holds value) :
    (reassembler.map image).Holds (image value) := by
  obtain ⟨flow, state, stored, member⟩ := holds
  obtain ⟨held, waits, rfl⟩ := mem_map.mp member
  refine ⟨flow, state.map image, ?_, ?_⟩
  · rw [FlowReassembler.map]
    exact (Table.lookup_mapValues _ _ _).trans (congrArg (Option.map _) stored)
  · exact mem_map.mpr ⟨held.map image, mem_map_of_mem waits, rfl⟩

variable {reassembler : FlowReassembler α}

/-- Making room adds nothing. -/
theorem makeRoom_holds {flow : ReassemblyKey} {value : α}
    (holds : (makeRoom reassembler flow).Holds value) : reassembler.Holds value := by
  rw [makeRoom] at holds
  split at holds
  · exact absurd holds (not_holds_new value)
  · exact holds

/-- What waits in a flow waits in the reassembler. -/
theorem flowState_holds {flow : ReassemblyKey} {held : Pending α}
    (member : held ∈ (flowState reassembler flow).pending) : reassembler.Holds held.value := by
  rw [flowState] at member
  cases stored : reassembler.flows.lookup flow with
  | none =>
    rw [stored] at member
    cases member
  | some state =>
    rw [stored] at member
    exact ⟨flow, state, stored, mem_map_of_mem member⟩

/-- What waits after a push or is released by it waited before, or it was pushed. -/
theorem pushAt_source (accounted : Accounted reassembler) (push : Push α) {value : α}
    (found : (pushAt reassembler push).1.Holds value ∨ value ∈ (pushAt reassembler push).2) :
    reassembler.Holds value ∨ value = push.value := by
  obtain ⟨offered, released, emitted, once, _⟩ := accounted.emits push
  have known : ∀ held ∈ released ++ (pushedWork reassembler push).flow.pending,
      reassembler.Holds held.value ∨ held.value = push.value := by
    intro held member
    obtain new | old := mem_append.mp (emitted.conserved.mem_iff.mp member)
    · obtain rfl | rfl := once
      · cases new
      · rw [mem_singleton.mp new]
        exact .inr rfl
    · exact .inl (makeRoom_holds (flowState_holds old))
  rw [pushAt_eq] at found
  obtain ⟨flow, state, stored, member⟩ | comesOut := found
  · dsimp only at stored
    obtain ⟨held, waits, rfl⟩ := mem_map.mp member
    rw [Table.lookup_insert_if] at stored
    split at stored
    · cases stored
      exact known held (mem_append_right _ waits)
    · exact .inl (makeRoom_holds ⟨flow, state, stored, member⟩)
  · have output : (pushedWork reassembler push).output = released.map Pending.value :=
      emitted.output
    rw [output] at comesOut
    obtain ⟨held, out, rfl⟩ := mem_map.mp comesOut
    exact known held (mem_append_left _ out)

end Reassembler

end Csqtt
