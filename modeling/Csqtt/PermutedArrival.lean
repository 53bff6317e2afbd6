import Csqtt.Releasable

/-!
# Arrival in any order

Up to ninety-seven frames of one flow arrive in any order and any number of
times, at clock readings that never make a gap old enough to be given up. The
reassembler then behaves like a set: the expected number is the least frame not
seen yet, the frames seen beyond it are held once each, and the frames before it
have been delivered in order.

The bound is the exact one. While a frame is missing, at most the ninety-six
frames behind it can be held, and the last of them is offered to a flow that
holds ninety-five.
-/

namespace Csqtt.Reassembler

open FlowFrame Runs AList UInt32
open List

universe u
variable {α : Type u}

theorem Contiguous.values {expected after : UInt32} {released : List (Pending α)}
    (contiguous : Contiguous expected released after) (frame : Nat → α)
    (low : ∀ held ∈ released, held.sequence.toNat < sequenceLimit)
    (framed : ∀ held ∈ released, held.value = frame held.sequence.toNat) :
    released.map Pending.value = (List.range' expected.toNat released.length).map frame := by
  induction contiguous with
  | still expected => rfl
  | emit expected after held rest due _ ih =>
    have next := succ_toNat held.sequence (low held mem_cons_self)
    have later := ih
      (fun other member => low other (mem_cons_of_mem held member))
      (fun other member => framed other (mem_cons_of_mem held member))
    have first := framed held mem_cons_self
    rw [due] at next first
    simp [range'_succ, later, next, first]

/-- The flow that has seen the listed frames, without a bound or an expiry: what
it expects, holds and has delivered, and when its gap timer was started. -/
structure Collected (frame : Nat → α) (readings : List Nat) (seen : List Nat)
    (state : FlowState α) (delivered : List α) : Prop where
  sane : Sane state
  ahead : Ahead state
  exact : ∀ index, index ∈ seen ↔ index < state.expected.toNat ∨
    ∃ held ∈ state.pending, held.sequence.toNat = index
  framed : ∀ held ∈ state.pending, held.value = frame held.sequence.toNat
  timer : ∀ started, state.gapStartedMs = some started → started ∈ readings
  delivered : delivered = (List.range state.expected.toNat).map frame

theorem collected_fresh (frame : Nat → α) (readings : List Nat) :
    Collected frame readings [] freshFlow [] := by
  refine ⟨sane_fresh, releasable_fresh.ahead, ?_, ?_, ?_, rfl⟩
  · simp [freshFlow]
  · simp [freshFlow]
  · simp [freshFlow]

variable {readings seen : List Nat} {flow : ReassemblyKey}

namespace Collected

variable {frame : Nat → α} {state : FlowState α} {delivered : List α}

section

variable (collected : Collected frame readings seen state delivered)

include collected

theorem unexpired (nowMs : Nat) (close : ∀ reading ∈ readings,
    nowMs - reading < gapReleaseAfterMs) : gapExpired state nowMs = false := by
  cases timer : state.gapStartedMs with
  | none => simp [gapExpired, timer]
  | some started =>
    have recent := close started (collected.timer started timer)
    simp only [gapExpired, timer, Option.any_some, decide_eq_false_iff_not]
    omega

theorem held_between (held : Pending α) (member : held ∈ state.pending) :
    held.sequence.toNat ∈ seen ∧ state.expected.toNat < held.sequence.toNat :=
  ⟨(collected.exact _).mpr (Or.inr ⟨held, member, rfl⟩),
    lt_iff_toNat_lt.mp (collected.ahead held member)⟩

/-- While a further frame is missing from it, the flow holds fewer frames than
lie beyond the expected one. -/
theorem room (count : Nat) (bounded : ∀ index ∈ seen, index < count) (index : Nat)
    (inside : index < count) (beyond : state.expected.toNat < index)
    (fresh : ∀ held ∈ state.pending, held.sequence.toNat ≠ index) :
    state.pending.length + 1 < count := by
  have distinct : (index :: state.pending.map fun held => held.sequence.toNat).Nodup := by
    refine nodup_cons.mpr ⟨?_, ?_⟩
    · intro member
      obtain ⟨held, inPending, same⟩ := mem_map.mp member
      exact fresh held inPending same
    · have numbers := collected.sane.distinct.map fun first second same =>
        UInt32.toNat_inj.mp same
      rwa [map_map] at numbers
  have inRange : (index :: state.pending.map fun held => held.sequence.toNat) ⊆
      (List.range count).erase 0 := by
    intro number member
    rw [List.Nodup.mem_erase_iff nodup_range, mem_range]
    rcases mem_cons.mp member with rfl | inPending
    · exact ⟨by omega, inside⟩
    · obtain ⟨held, heldMember, rfl⟩ := mem_map.mp inPending
      obtain ⟨wasSeen, above⟩ := collected.held_between held heldMember
      exact ⟨by omega, bounded _ wasSeen⟩
  have counted := (subperm_of_subset distinct inRange).length_le
  rw [length_erase_of_mem (mem_range.mpr (by omega))] at counted
  simp only [length_cons, length_map, length_range] at counted
  omega

variable (index : Nat)

theorem again (known : index ∈ seen) :
    Collected frame readings (index :: seen) state delivered := by
  refine { collected with exact := ?_ }
  intro other
  rw [← collected.exact other, mem_cons]
  exact ⟨fun member => member.elim (fun same => same ▸ known) id, Or.inr⟩

/-- The expected frame is delivered with the held frames that follow it. -/
theorem delivers (low : index < sequenceLimit) (due : state.expected.toNat = index) :
    Collected frame readings (index :: seen)
      (drainContiguous { state with expected := state.expected + 1, gapStartedMs := none }).1
      (delivered ++ [frame index] ++
        (drainContiguous { state with expected := state.expected + 1, gapStartedMs := none }).2) := by
  obtain ⟨released, drained, output, settled⟩ := drainContiguous_drains
    { state with expected := state.expected + 1, gapStartedMs := none }
  generalize (drainContiguous
    { state with expected := state.expected + 1, gapStartedMs := none }).1 = after at *
  have room : state.expected.toNat < sequenceLimit := due ▸ low
  have next := succ_toNat state.expected room
  have mem : ∀ held, held ∈ released ∨ held ∈ after.pending ↔ held ∈ state.pending := by
    intro held
    simpa only [mem_append] using drained.conserved.mem_iff
  have releasedLow : ∀ held ∈ released, held.sequence.toNat < sequenceLimit := fun held member =>
    collected.sane.low.pending held ((mem held).mp (Or.inl member))
  have reached := drained.contiguous.length releasedLow
  have values := drained.contiguous.values frame releasedLow fun held member =>
    collected.framed held ((mem held).mp (Or.inl member))
  have increasing := drained.contiguous.ascends.increasing
    (collected.sane.advance room).low.expected releasedLow
  simp only [next, due] at reached values
  refine ⟨(collected.sane.advance room).departs drained.departs,
    drained_ahead (collected.sane.advance room) drained (collected.ahead.advance room) settled,
    ?_, fun held member => collected.framed held ((mem held).mp (Or.inr member)), ?_, ?_⟩
  · intro other
    rw [mem_cons, collected.exact other, due]
    constructor
    · rintro (same | below | ⟨held, member, same⟩)
      · exact Or.inl (by omega)
      · exact Or.inl (by omega)
      · rcases (mem held).mpr member with early | late
        · have passed := lt_iff_toNat_lt.mp (increasing.below held early)
          exact Or.inl (by omega)
        · exact Or.inr ⟨held, late, same⟩
    · rintro (below | ⟨held, member, same⟩)
      · by_cases later : index < other
        · have small : other < size := by
            have limit := increasing.limited
            simp only [sequenceLimit] at limit
            simp only [size]
            omega
          have number : (UInt32.ofNat other).toNat = other := toNat_ofNat_of_lt' small
          obtain ⟨held, member, same⟩ := drained.contiguous.covers releasedLow (UInt32.ofNat other)
            (le_iff_toNat_le.mpr (by simp only [next, number, due]; omega))
            (lt_iff_toNat_lt.mpr (by omega))
          exact Or.inr (Or.inr ⟨held, (mem held).mp (Or.inl member), by rw [same, number]⟩)
        · omega
      · exact Or.inr (Or.inr ⟨held, (mem held).mp (Or.inr member), same⟩)
  · intro started timer
    rw [drained.gap] at timer
    exact absurd timer (by simp)
  · rw [output, values, collected.delivered, due, reached, range_eq_range',
      range_eq_range', ← range'_append_1, ← range'_append_1]
    simp

/-- A frame beyond the expected one that is not held yet is held. -/
theorem holds (low : index < sequenceLimit) (beyond : state.expected.toNat < index)
    (fresh : ∀ held ∈ state.pending, held.sequence.toNat ≠ index) (gap : Option Nat)
    (timer : ∀ started, gap = some started → started ∈ readings) :
    Collected frame readings (index :: seen)
      ⟨state.expected, gap, state.pending ++ [⟨UInt32.ofNat index, frame index⟩]⟩ delivered := by
  have number : (UInt32.ofNat index).toNat = index :=
    toNat_ofNat_of_lt' (Nat.lt_trans low (by decide))
  have members : ∀ held ∈ state.pending ++ [⟨UInt32.ofNat index, frame index⟩],
      held ∈ state.pending ∨ held = ⟨UInt32.ofNat index, frame index⟩ := by
    intro held member
    simpa using member
  refine ⟨⟨⟨collected.sane.low.expected, ?_⟩, ?_⟩, ?_, ?_, ?_, timer, collected.delivered⟩
  · intro held member
    rcases members held member with old | rfl
    · exact collected.sane.low.pending held old
    · exact number.symm ▸ low
  · refine ((perm_append_singleton _ _).map _).nodup_iff.mpr (collected.sane.distinct.cons ?_)
    intro held member same
    exact fresh held member (by rw [same, number])
  · intro held member
    rcases members held member with old | rfl
    · exact collected.ahead held old
    · exact lt_iff_toNat_lt.mpr (number.symm ▸ beyond)
  · intro other
    rw [mem_cons, collected.exact other]
    constructor
    · rintro (rfl | below | ⟨held, member, same⟩)
      · exact Or.inr ⟨⟨UInt32.ofNat other, frame other⟩, by simp, number⟩
      · exact Or.inl below
      · exact Or.inr ⟨held, mem_append_left _ member, same⟩
    · rintro (below | ⟨held, member, same⟩)
      · exact Or.inr (Or.inl below)
      · rcases members held member with old | rfl
        · exact Or.inr (Or.inr ⟨held, old, same⟩)
        · exact Or.inl (same.symm.trans number)
  · intro held member
    rcases members held member with old | rfl
    · exact collected.framed held old
    · rw [number]

end

/-- One arrival, before any bound or expiry can interfere: a frame seen before is
dropped, the expected one is delivered, and any other is held. -/
theorem push (work : Work α) (collected : Collected frame readings seen work.flow delivered)
    (total : work.total = work.flow.pending.length) (count : Nat) (few : count ≤ 97)
    (bounded : ∀ index ∈ seen, index < count) (index nowMs : Nat) (inside : index < count)
    (reading : nowMs ∈ readings)
    (close : ∀ reading ∈ readings, nowMs - reading < gapReleaseAfterMs) :
    ∃ output, (work.push (UInt32.ofNat index) (frame index) nowMs).output = work.output ++ output ∧
      Collected frame readings (index :: seen)
        (work.push (UInt32.ofNat index) (frame index) nowMs).flow (delivered ++ output) := by
  have low : index < sequenceLimit := by
    simp only [sequenceLimit]
    omega
  have number : (UInt32.ofNat index).toNat = index :=
    toNat_ofNat_of_lt' (Nat.lt_trans low (by decide))
  have unexpired := collected.unexpired nowMs close
  simp only [Work.push, Work.release_unexpired work nowMs unexpired]
  split
  next due =>
    refine ⟨[frame index] ++ (drainContiguous
      { work.flow with expected := work.flow.expected + 1, gapStartedMs := none }).2, ?_, ?_⟩
    · simp [Work.deliver, Work.release]
    · rw [← append_assoc]
      exact collected.delivers index low (by rw [← due, number])
  next notDue =>
    have unequal : work.flow.expected.toNat ≠ index := fun same =>
      notDue (UInt32.toNat_inj.mp (number.trans same.symm))
    have order := isForward_iff (UInt32.ofNat index) work.flow.expected (number.symm ▸ low)
      collected.sane.low.expected
    rw [number] at order
    split
    next dropped =>
      refine ⟨[], (append_nil _).symm, ?_⟩
      rw [append_nil]
      refine collected.again index ((collected.exact index).mpr ?_)
      by_cases beyond : work.flow.expected.toNat < index
      · rw [order.mpr beyond] at dropped
        obtain ⟨held, member, same⟩ :
            ∃ held ∈ work.flow.pending, held.sequence = UInt32.ofNat index := by
          simpa using dropped
        exact Or.inr ⟨held, member, by rw [same, number]⟩
      · exact Or.inl (by omega)
    next kept =>
      obtain ⟨forward, fresh⟩ := (Work.kept_iff _ _).mp kept
      have beyond := order.mp forward
      have freshNumber : ∀ held ∈ work.flow.pending, held.sequence.toNat ≠ index := by
        intro held member same
        exact fresh held member (UInt32.toNat_inj.mp (same.trans number.symm))
      have space := collected.room count bounded index inside beyond freshNumber
      have uncrowded : ¬work.Crowded := by
        rintro (full | ⟨atBound, _⟩)
        · simp only [maxPendingPerFlow] at full
          omega
        · simp only [maxPendingTotal] at atBound
          omega
      have roomy : work.total < maxPendingTotal := by
        simp only [maxPendingTotal]
        omega
      rcases work.holdAhead_uncrowded (UInt32.ofNat index) (frame index) nowMs
        (Nat.le_of_lt roomy) unexpired uncrowded with ⟨gap, origin, held⟩ | ⟨atBound, _⟩
      · rw [held]
        refine ⟨[], (append_nil _).symm, ?_⟩
        rw [append_nil]
        refine collected.holds index low beyond freshNumber gap ?_
        intro started timer
        rcases origin with same | now
        · exact collected.timer started (same ▸ timer)
        · rw [now] at timer
          exact Option.some.inj timer ▸ reading
      · omega

end Collected

/-- The reassembler tracks at most the given flow and has collected its frames. -/
structure Alone (flow : ReassemblyKey) (frame : Nat → α) (readings seen : List Nat)
    (reassembler : FlowReassembler α) (delivered : List α) : Prop where
  only : ∀ other ∈ reassembler.flows, other = flow
  total : reassembler.pendingTotal = (flowState reassembler flow).pending.length
  bounded : reassembler.pendingTotal ≤ maxPendingTotal
  collected : Collected frame readings seen (flowState reassembler flow) delivered

theorem alone_new (flow : ReassemblyKey) (frame : Nat → α) (readings : List Nat) :
    Alone flow frame readings [] new [] :=
  ⟨by simp [new], rfl, Nat.zero_le _, collected_fresh frame readings⟩

theorem Alone.makeRoom {frame : Nat → α} {reassembler : FlowReassembler α} {delivered : List α}
    (alone : Alone flow frame readings seen reassembler delivered) :
    makeRoom reassembler flow = reassembler := by
  have kept : clears reassembler flow = false := by
    rw [clears, decide_eq_false_iff_not]
    rintro ⟨full, absent⟩
    have some : 0 < reassembler.flows.keys.length := by
      rw [Table.size] at full
      simp [full, maxTrackedFlows]
    obtain ⟨other, member⟩ := exists_mem_of_length_pos some
    exact absent (alone.only other (mem_keys.mpr member) ▸ mem_keys.mpr member)
  simp [Reassembler.makeRoom, kept]

/-- The push of one frame of the flow. -/
def framePush (flow : ReassemblyKey) (frame : Nat → α) (arrival : Nat × Nat) : Push α :=
  ⟨⟨flow.senderId, flow.flowId, UInt32.ofNat arrival.1⟩, frame arrival.1, arrival.2⟩

section

variable {frame : Nat → α} {reassembler : FlowReassembler α} {delivered : List α}
  (alone : Alone flow frame readings seen reassembler delivered) (count : Nat) (few : count ≤ 97)
  (bounded : ∀ index ∈ seen, index < count)

include alone count few bounded

/-- One arrival keeps the frames collected. -/
theorem Alone.step (arrival : Nat × Nat) (inside : arrival.1 < count)
    (reading : arrival.2 ∈ readings)
    (close : ∀ reading ∈ readings, arrival.2 - reading < gapReleaseAfterMs) :
    Alone flow frame readings (arrival.1 :: seen)
      (pushAt reassembler (framePush flow frame arrival)).1
      (delivered ++ (pushAt reassembler (framePush flow frame arrival)).2) := by
  have own : key (framePush flow frame arrival).header = flow := rfl
  have work : pushedWork reassembler (framePush flow frame arrival) =
      (begin reassembler flow).push (UInt32.ofNat arrival.1) (frame arrival.1) arrival.2 := by
    rw [pushedWork, own, alone.makeRoom]
    rfl
  obtain ⟨output, delivers, collected⟩ := Collected.push (begin reassembler flow)
    alone.collected alone.total count few bounded arrival.1 arrival.2 inside reading close
  obtain ⟨_, _, emitted, _, within⟩ := Work.push_emits (begin reassembler flow)
    (Nat.le_of_eq alone.total.symm) alone.bounded (UInt32.ofNat arrival.1) (frame arrival.1)
    arrival.2
  have state : flowState (pushAt reassembler (framePush flow frame arrival)).1 flow =
      ((begin reassembler flow).push (UInt32.ofNat arrival.1) (frame arrival.1)
        arrival.2).flow := by
    rw [flowState_pushAt, own, if_pos rfl, work]
  refine ⟨?_, ?_, ?_, ?_⟩
  · intro other member
    rw [pushAt_eq, own, alone.makeRoom] at member
    rcases (mem_insert _).mp member with same | old
    · exact same
    · exact alone.only other old
  · have share := emitted.share
    have total := alone.total
    rw [state, pushAt_eq, work]
    simp only [begin] at share ⊢
    omega
  · rw [pushAt_eq, work]
    exact within
  · rw [state, pushAt_eq, work, delivers]
    exact collected

/-- A whole arrival sequence keeps the frames collected. -/
theorem Alone.run (arrivals : List (Nat × Nat)) (inside : ∀ arrival ∈ arrivals, arrival.1 < count)
    (timely : ∀ arrival ∈ arrivals, arrival.2 ∈ readings ∧ ∀ reading ∈ readings,
      arrival.2 - reading < gapReleaseAfterMs) :
    Alone flow frame readings ((arrivals.map Prod.fst).reverse ++ seen)
      (final pushAt reassembler (arrivals.map (framePush flow frame))) (delivered ++
        (outputs pushAt reassembler (arrivals.map (framePush flow frame))).flatten) := by
  induction arrivals generalizing reassembler seen delivered with
  | nil => simpa [final, outputs] using alone
  | cons arrival rest ih =>
    obtain ⟨reading, close⟩ := timely arrival mem_cons_self
    have here := inside arrival mem_cons_self
    have next := ih
      (alone.step count few bounded arrival here reading close)
      (fun index member => (mem_cons.mp member).elim (fun same => same ▸ here)
        (bounded index))
      (fun later member => inside later (mem_cons_of_mem arrival member))
      (fun later member => timely later (mem_cons_of_mem arrival member))
    simpa [final, outputs] using next

end

/-- When all frames below the count have been seen and no other, the flow expects
the count and holds nothing. -/
theorem Collected.complete {frame : Nat → α} {state : FlowState α} {delivered : List α}
    (collected : Collected frame readings seen state delivered) (count : Nat)
    (all : ∀ index, index ∈ seen ↔ index < count) :
    state.pending = [] ∧ delivered = (List.range count).map frame := by
  have reached : state.expected.toNat = count := by
    have notBelow : ¬state.expected.toNat < count := by
      intro below
      rcases (collected.exact _).mp ((all _).mpr below) with less | ⟨held, member, same⟩
      · omega
      · have above := (collected.held_between held member).2
        omega
    have notAbove : ¬count < state.expected.toNat := by
      intro above
      have seenCount := (all count).mp ((collected.exact count).mpr (Or.inl above))
      omega
    omega
  refine ⟨eq_nil_iff_forall_not_mem.mpr ?_, reached ▸ collected.delivered⟩
  intro held member
  obtain ⟨wasSeen, above⟩ := collected.held_between held member
  have below := (all _).mp wasSeen
  omega

/-- Any arrival sequence of the frames below a count of at most ninety-seven, with
any duplicates and clock readings less than the release age apart, delivers each
frame once and in order and leaves nothing pending. -/
theorem arrivals_delivered_in_order (flow : ReassemblyKey) (frame : Nat → α) (count : Nat)
    (few : count ≤ 97) (arrivals : List (Nat × Nat))
    (inside : ∀ arrival ∈ arrivals, arrival.1 < count)
    (complete : ∀ index < count, ∃ arrival ∈ arrivals, arrival.1 = index)
    (close : ∀ first ∈ arrivals, ∀ second ∈ arrivals, first.2 < second.2 + 12) :
    (outputs pushAt new (arrivals.map (framePush flow frame))).flatten =
        (List.range count).map frame ∧
      (final pushAt new (arrivals.map (framePush flow frame))).pendingTotal = 0 ∧
      EveryFlow (fun _ state => state.pending = [])
        (final pushAt new (arrivals.map (framePush flow frame))) := by
  have timely : ∀ arrival ∈ arrivals, arrival.2 ∈ arrivals.map Prod.snd ∧
      ∀ reading ∈ arrivals.map Prod.snd, arrival.2 - reading < gapReleaseAfterMs := by
    intro arrival member
    refine ⟨mem_map_of_mem member, ?_⟩
    intro reading inReadings
    obtain ⟨other, otherMember, rfl⟩ := mem_map.mp inReadings
    have apart := close arrival member other otherMember
    simp only [gapReleaseAfterMs]
    omega
  have alone := (alone_new flow frame (arrivals.map Prod.snd)).run count few (by simp) arrivals
    inside timely
  have all : ∀ index, index ∈ (arrivals.map Prod.fst).reverse ++ [] ↔ index < count := by
    intro index
    rw [append_nil, mem_reverse, mem_map]
    constructor
    · rintro ⟨arrival, member, rfl⟩
      exact inside arrival member
    · exact complete index
  obtain ⟨empty, delivered⟩ := alone.collected.complete count all
  refine ⟨delivered, ?_, ?_⟩
  · rw [alone.total, empty, length_nil]
  · intro other state stored
    have same : other = flow :=
      alone.only other (lookup_isSome.mp (by rw [stored]; rfl))
    subst same
    rw [flowState, stored] at empty
    exact empty

/-- Three frames, swapped and one of them twice, within one millisecond. -/
theorem arrivals_delivered_swapped : (outputs pushAt new ([(2, 5), (0, 4), (2, 5), (1, 5)].map
        (framePush ⟨7, 9⟩ fun index => index))).flatten = (List.range 3).map (fun index => index) ∧
      (final pushAt new ([(2, 5), (0, 4), (2, 5), (1, 5)].map
        (framePush ⟨7, 9⟩ fun index => index))).pendingTotal = 0 ∧
      EveryFlow (fun _ state => state.pending = [])
        (final pushAt new ([(2, 5), (0, 4), (2, 5), (1, 5)].map
          (framePush ⟨7, 9⟩ fun index => index))) :=
  arrivals_delivered_in_order ⟨7, 9⟩ (fun index => index) 3 (by decide)
    [(2, 5), (0, 4), (2, 5), (1, 5)] (by decide) (by decide) (by decide)

end Csqtt.Reassembler
