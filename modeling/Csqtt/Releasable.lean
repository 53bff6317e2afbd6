import Csqtt.DeliveryOrder

/-!
# Held packets that can still be released

A held packet is useful only while it is ahead of the expected number of its
flow. Delivery, expiry and draining keep every held packet ahead. The two bounds
do not: they give up the gap after the pushed packet was found to be ahead, the
expected number moves, and the packet is then held without a second comparison.

The condition under which a bounded push stays sound is exact. The release moves
the expected number to the first number missing behind the lowest held packet, so
the pushed packet stays ahead exactly when some number between the lowest held
one and the pushed one is not held.
-/

namespace Csqtt.Reassembler

open FlowFrame Runs Bool
open List

universe u
variable {α : Type u}

/-- Every held packet is ahead of the expected number. -/
def Ahead (state : FlowState α) : Prop :=
  ∀ held ∈ state.pending, state.expected < held.sequence

/-- No sequence number is held twice. -/
def Distinct (state : FlowState α) : Prop := (state.pending.map Pending.sequence).Nodup

/-- Every held packet can still be released, and the flow bound is kept. -/
structure Releasable (state : FlowState α) : Prop where
  ahead : Ahead state
  bounded : state.pending.length ≤ maxPendingPerFlow

/-- The facts about a flow that hold whether or not a bound was met. -/
structure Sane (state : FlowState α) : Prop where
  low : Low state
  distinct : Distinct state

/-- Some number below the given one and above a held packet is not held. -/
def GapBefore (state : FlowState α) (sequence : UInt32) : Prop :=
  ∃ skipped, skipped < sequence ∧ (∃ held ∈ state.pending, held.sequence < skipped) ∧
    ∀ held ∈ state.pending, held.sequence ≠ skipped

section

variable {expected after : UInt32} {released : List (Pending α)}
  (contiguous : Contiguous expected released after)
  (low : ∀ held ∈ released, held.sequence.toNat < sequenceLimit)

include contiguous low

/-- Contiguous emissions cover every number between the two expected ones. -/
theorem Contiguous.covers (number : UInt32) (since : expected ≤ number) (below : number < after) :
    ∃ held ∈ released, held.sequence = number := by
  induction contiguous with
  | still expected =>
    rw [UInt32.le_iff_toNat_le] at since
    rw [UInt32.lt_iff_toNat_lt] at below
    omega
  | emit expected after held rest due _ ih =>
    have next := succ_toNat held.sequence (low held mem_cons_self)
    by_cases here : held.sequence = number
    · exact ⟨held, mem_cons_self, here⟩
    have beyond : expected + 1 ≤ number := by
      rw [UInt32.le_iff_toNat_le] at since ⊢
      have unequal : held.sequence.toNat ≠ number.toNat := fun same =>
        here (UInt32.toNat_inj.mp same)
      rw [due] at next unequal
      omega
    obtain ⟨found, member, same⟩ := ih
      (fun other member => low other (mem_cons_of_mem held member)) beyond below
    exact ⟨found, mem_cons_of_mem held member, same⟩

theorem Contiguous.length : after.toNat = expected.toNat + released.length := by
  induction contiguous with
  | still expected => rfl
  | emit expected after held rest due _ ih =>
    have next := succ_toNat held.sequence (low held mem_cons_self)
    have later := ih fun other member =>
      low other (mem_cons_of_mem held member)
    rw [due] at next
    rw [later, next, length_cons]
    omega

end

variable {released : List (Pending α)}

/-- If numbers are distinct, they still are when packets have left, whose numbers are other ones. -/
theorem distinct_split {remaining all : List (Pending α)}
    (conserved : released ++ remaining ~ all) (distinct : (all.map Pending.sequence).Nodup) :
    (remaining.map Pending.sequence).Nodup ∧
      ∀ first ∈ released, ∀ second ∈ remaining, first.sequence ≠ second.sequence := by
  have nodup := ((conserved.map Pending.sequence).nodup_iff).mpr distinct
  rw [map_append] at nodup
  obtain ⟨_, left, apart⟩ := nodup_append.mp nodup
  exact ⟨left, fun first early second late =>
    apart _ (mem_map_of_mem early) _ (mem_map_of_mem late)⟩

variable {state : FlowState α}

theorem Distinct.cons (distinct : Distinct state) {held : Pending α}
    (fresh : ∀ other ∈ state.pending, other.sequence ≠ held.sequence) :
    ((held :: state.pending).map Pending.sequence).Nodup := by
  refine nodup_cons.mpr ⟨?_, distinct⟩
  intro member
  obtain ⟨other, inPending, same⟩ := mem_map.mp member
  exact fresh other inPending same

theorem Sane.departs {before after : FlowState α}
    (sane : Sane before) (departed : Departure before after released) : Sane after := by
  have bounds : ∀ held, held ∈ released ∨ held ∈ after.pending →
      held.sequence.toNat < sequenceLimit := by
    intro held member
    exact sane.low.pending held (departed.conserved.mem_iff.mp (mem_append.mpr member))
  have increasing := departed.ascends.increasing sane.low.expected
    fun held member => bounds held (Or.inl member)
  exact ⟨⟨increasing.limited, fun held member => bounds held (Or.inr member)⟩,
    (distinct_split departed.conserved sane.distinct).1⟩

theorem Sane.advance (sane : Sane state) (room : state.expected.toNat < sequenceLimit) :
    Sane { state with expected := state.expected + 1, gapStartedMs := none } := by
  have next := succ_toNat state.expected room
  exact ⟨⟨by simp only; omega, sane.low.pending⟩, sane.distinct⟩

theorem Ahead.advance (ahead : Ahead state)
    (room : state.expected.toNat < sequenceLimit) (held : Pending α)
    (member : held ∈ state.pending) : state.expected + 1 ≤ held.sequence := by
  have next := succ_toNat state.expected room
  have above := UInt32.lt_iff_toNat_lt.mp (ahead held member)
  rw [UInt32.le_iff_toNat_le, next]
  omega

/-- A completed drain of packets at or ahead of the expected number leaves all
remaining ones ahead. -/
theorem drained_ahead {before after : FlowState α}
    (sane : Sane before) (drained : Drain before after released)
    (atLeast : ∀ held ∈ before.pending, before.expected ≤ held.sequence)
    (settled : ∀ held ∈ after.pending, held.sequence ≠ after.expected) : Ahead after := by
  intro held member
  have old : held ∈ before.pending :=
    drained.conserved.mem_iff.mp (mem_append_right _ member)
  have reached : ¬held.sequence < after.expected := by
    intro below
    obtain ⟨emitted, inReleased, same⟩ := drained.contiguous.covers
      (fun other inReleased => sane.low.pending other
        (drained.conserved.mem_iff.mp (mem_append_left _ inReleased)))
      held.sequence (atLeast held old) below
    exact (distinct_split drained.conserved sane.distinct).2 emitted inReleased held member same
  have unequal : held.sequence.toNat ≠ after.expected.toNat := fun same =>
    settled held member (UInt32.toNat_inj.mp same)
  rw [UInt32.lt_iff_toNat_lt] at reached ⊢
  omega

/-- The lowest held packet leaves, and the packets behind it are drained. -/
structure GivesUp (before after : FlowState α) (lowest : Pending α)
    (rest released : List (Pending α)) : Prop where
  permuted : [lowest] ++ rest ~ before.pending
  least : ∀ held ∈ before.pending, lowest.sequence ≤ held.sequence
  drained : Drain ⟨lowest.sequence + 1, after.gapStartedMs, rest⟩ after released
  settled : ∀ held ∈ after.pending, held.sequence ≠ after.expected

variable (state : FlowState α)

/-- Giving up the gap of a sound flow releases its lowest packet. -/
theorem releaseLowest_givesUp (nowMs : Nat) (sane : Sane state) (ahead : Ahead state)
    (nonempty : state.pending ≠ []) :
    ∃ lowest rest released, GivesUp state (releaseLowest state nowMs).1 lowest rest released := by
  have forward : ∀ held ∈ state.pending, isForward held.sequence state.expected = true := by
    intro held member
    exact (isForward_iff _ _ (sane.low.pending held member) sane.low.expected).mpr
      (UInt32.lt_iff_toNat_lt.mp (ahead held member))
  obtain ⟨other, otherMember⟩ := exists_mem_of_ne_nil _ nonempty
  obtain ⟨lowest, rest, released, permuted, _, nearest, contiguous, conserved, _, settled, _⟩ :=
    releaseLowest_some state nowMs other otherMember (forward other otherMember)
  have lowestMember : lowest ∈ state.pending := permuted.mem_iff.mp mem_cons_self
  refine ⟨lowest, rest, released, permuted, ?_, ⟨contiguous, conserved, rfl⟩, settled⟩
  intro held member
  have closer := UInt32.le_iff_toNat_le.mp (nearest held member (forward held member))
  rw [UInt32.toNat_sub_of_le _ _ (UInt32.le_of_lt (ahead held member)),
    UInt32.toNat_sub_of_le _ _ (UInt32.le_of_lt (ahead lowest lowestMember))] at closer
  have above := UInt32.lt_iff_toNat_lt.mp (ahead held member)
  rw [UInt32.le_iff_toNat_le]
  omega

namespace GivesUp

variable {before after : FlowState α} {lowest : Pending α} {rest released : List (Pending α)}

section

variable (given : GivesUp before after lowest rest released)

include given

theorem lowest_mem : lowest ∈ before.pending :=
  given.permuted.mem_iff.mp (mem_append_left rest mem_cons_self)

theorem rest_mem (held : Pending α) (member : held ∈ rest) : held ∈ before.pending :=
  given.permuted.mem_iff.mp (mem_append_right [lowest] member)

theorem sane (beforeSane : Sane before) :
    Sane (⟨lowest.sequence + 1, after.gapStartedMs, rest⟩ : FlowState α) := by
  have limit := beforeSane.low.pending lowest given.lowest_mem
  have next := succ_toNat lowest.sequence limit
  exact ⟨⟨by simp only; omega,
      fun held member => beforeSane.low.pending held (given.rest_mem held member)⟩,
    (distinct_split given.permuted beforeSane.distinct).1⟩

theorem atLeast (beforeSane : Sane before) (held : Pending α) (member : held ∈ rest) :
    lowest.sequence + 1 ≤ held.sequence := by
  have next := succ_toNat lowest.sequence (beforeSane.low.pending lowest given.lowest_mem)
  have different := (distinct_split given.permuted beforeSane.distinct).2 lowest
    mem_cons_self held member
  have unequal : lowest.sequence.toNat ≠ held.sequence.toNat := fun same =>
    different (UInt32.toNat_inj.mp same)
  have order := UInt32.le_iff_toNat_le.mp (given.least held (given.rest_mem held member))
  rw [UInt32.le_iff_toNat_le, next]
  omega

theorem ahead (beforeSane : Sane before) : Ahead after :=
  drained_ahead (given.sane beforeSane) given.drained (given.atLeast beforeSane) given.settled

theorem shorter : after.pending.length < before.pending.length := by
  have first := given.permuted.length_eq
  have later := given.drained.conserved.length_eq
  simp only [length_append, length_singleton] at first later
  omega

/-- Every number from the lowest packet up to the new expected one was held. -/
theorem covers (beforeSane : Sane before) (number : UInt32) (since : lowest.sequence ≤ number)
    (below : number < after.expected) : ∃ held ∈ before.pending, held.sequence = number := by
  by_cases first : lowest.sequence = number
  · exact ⟨lowest, given.lowest_mem, first⟩
  have next := succ_toNat lowest.sequence (beforeSane.low.pending lowest given.lowest_mem)
  have unequal : lowest.sequence.toNat ≠ number.toNat := fun same =>
    first (UInt32.toNat_inj.mp same)
  have beyond : lowest.sequence + 1 ≤ number := by
    rw [UInt32.le_iff_toNat_le] at since ⊢
    omega
  have old : ∀ held ∈ released, held ∈ before.pending := fun held member =>
    given.rest_mem held (given.drained.conserved.mem_iff.mp (mem_append_left _ member))
  obtain ⟨held, member, same⟩ := given.drained.contiguous.covers
    (fun held member => beforeSane.low.pending held (old held member)) number beyond below
  exact ⟨held, old held member, same⟩

/-- The new expected number is beyond the lowest packet and was not held. -/
theorem expected_free (beforeSane : Sane before) : lowest.sequence < after.expected ∧
      ∀ held ∈ before.pending, held.sequence ≠ after.expected := by
  have next := succ_toNat lowest.sequence (beforeSane.low.pending lowest given.lowest_mem)
  have restLow : ∀ held ∈ rest, held.sequence.toNat < sequenceLimit := fun held member =>
    beforeSane.low.pending held (given.rest_mem held member)
  have increasing := given.drained.contiguous.ascends.increasing (given.sane beforeSane).low.expected
    fun held member => restLow held
      (given.drained.conserved.mem_iff.mp (mem_append_left _ member))
  have advanced := UInt32.le_iff_toNat_le.mp increasing.advanced
  have passed : lowest.sequence < after.expected := by
    rw [UInt32.lt_iff_toNat_lt]
    simp only at advanced
    omega
  refine ⟨passed, ?_⟩
  intro held member
  rcases mem_append.mp (given.permuted.mem_iff.mpr member) with isLowest | inRest
  · rw [mem_singleton.mp isLowest]
    exact UInt32.ne_of_lt passed
  · rcases mem_append.mp (given.drained.conserved.mem_iff.mpr inRest) with early | late
    · exact UInt32.ne_of_lt (increasing.below held early)
    · exact given.settled held late

theorem stays_ahead (beforeSane : Sane before) (sequence : UInt32) :
    after.expected < sequence ↔ GapBefore before sequence := by
  obtain ⟨passed, free⟩ := given.expected_free beforeSane
  constructor
  · intro stays
    exact ⟨after.expected, stays, ⟨lowest, given.lowest_mem, passed⟩, free⟩
  · rintro ⟨skipped, below, ⟨held, member, above⟩, missing⟩
    have since : lowest.sequence ≤ skipped :=
      UInt32.le_of_lt (UInt32.lt_of_le_of_lt (given.least held member) above)
    have notBelow : ¬skipped < after.expected := by
      intro inside
      obtain ⟨covering, coveringMember, same⟩ := given.covers beforeSane skipped since inside
      exact missing covering coveringMember same
    rw [UInt32.lt_iff_toNat_lt] at notBelow below ⊢
    omega

end

end GivesUp

theorem releaseLowest_unexpired (nowMs : Nat) :
    gapExpired (releaseLowest state nowMs).1 nowMs = false := by
  have timer : (releaseLowest state nowMs).1.gapStartedMs = none ∨
      (releaseLowest state nowMs).1.gapStartedMs = some nowMs := by
    by_cases ahead : ∃ held ∈ state.pending, isForward held.sequence state.expected = true
    · obtain ⟨held, member, forward⟩ := ahead
      obtain ⟨_, _, _, _, _, _, _, _, _, _, gap⟩ :=
        releaseLowest_some state nowMs held member forward
      rw [gap]
      split
      · exact Or.inl rfl
      · exact Or.inr rfl
    · rw [releaseLowest_none state nowMs ahead]
      exact Or.inl rfl
  rcases timer with none | now
  · simp [gapExpired, none]
  · simp [gapExpired, now, gapReleaseAfterMs]

theorem releaseExpired_unexpired (nowMs : Nat) :
    gapExpired (releaseExpired state nowMs).1 nowMs = false := by
  unfold releaseExpired
  split
  next => exact releaseLowest_unexpired state nowMs
  next running => exact eq_false_iff.mpr running

theorem releaseExpired_ahead (nowMs : Nat) (sane : Sane state) (ahead : Ahead state) :
    Ahead (releaseExpired state nowMs).1 ∧ (gapExpired state nowMs = true → state.pending ≠ [] →
        (releaseExpired state nowMs).1.pending.length < state.pending.length) := by
  by_cases expired : gapExpired state nowMs = true
  · rw [releaseExpired, if_pos expired]
    by_cases empty : state.pending = []
    · have nothing := releaseLowest_none state nowMs (by simp [empty])
      rw [nothing]
      exact ⟨ahead, fun _ nonempty => absurd empty nonempty⟩
    · obtain ⟨_, _, _, given⟩ := releaseLowest_givesUp state nowMs sane ahead empty
      exact ⟨given.ahead sane, fun _ _ => given.shorter⟩
  · rw [releaseExpired, if_neg expired]
    exact ⟨ahead, fun impossible => absurd impossible expired⟩

namespace Work

theorem release_unexpired (work : Work α) (nowMs : Nat)
    (unexpired : gapExpired work.flow nowMs = false) :
    work.release (releaseExpired · nowMs) = work := by
  simp [release, releaseExpired, unexpired]

/-- With room in the total and no expired gap, the last phase holds the packet and
does nothing else but start the timer of the flow. -/
theorem holdLast_eq (work : Work α) (sequence : UInt32) (value : α) (nowMs : Nat)
    (room : work.total < maxPendingTotal) (unexpired : gapExpired work.flow nowMs = false) :
    ∃ gap, (gap = work.flow.gapStartedMs ∨ gap = some nowMs) ∧
      (((work.hold sequence value).correctOverflow nowMs).armGap nowMs).release
        (releaseExpired · nowMs) =
      ⟨work.total + 1, ⟨work.flow.expected, gap, work.flow.pending ++ [⟨sequence, value⟩]⟩,
        work.output⟩ := by
  have within : ¬(work.hold sequence value).total > maxPendingTotal := by
    simp only [hold]
    omega
  rw [correctOverflow, if_neg within]
  have calm : gapExpired ((work.hold sequence value).armGap nowMs).flow nowMs = false := by
    unfold armGap
    split
    next => simp [gapExpired, gapReleaseAfterMs]
    next => exact unexpired
  rw [release_unexpired _ nowMs calm]
  unfold armGap
  split
  next => exact ⟨some nowMs, Or.inr rfl, rfl⟩
  next => exact ⟨work.flow.gapStartedMs, Or.inl rfl, rfl⟩

/-- A bound is met that makes the flow give up its gap. -/
def Crowded (work : Work α) : Prop :=
  work.flow.pending.length = maxPendingPerFlow ∨
    work.total = maxPendingTotal ∧ work.flow.pending ≠ []

theorem Crowded.nonempty {work : Work α} (crowded : Crowded work) : work.flow.pending ≠ [] := by
  rcases crowded with full | ⟨_, nonempty⟩
  · exact ne_nil_of_length_pos (by simp [full, maxPendingPerFlow])
  · exact nonempty

/-- Away from the bounds the packet is held; at the global bound a flow that holds
nothing lets it pass. -/
theorem holdAhead_uncrowded (work : Work α) (sequence : UInt32) (value : α) (nowMs : Nat)
    (bounded : work.total ≤ maxPendingTotal) (unexpired : gapExpired work.flow nowMs = false)
    (uncrowded : ¬Crowded work) : (∃ gap, (gap = work.flow.gapStartedMs ∨ gap = some nowMs) ∧
        work.holdAhead sequence value nowMs =
          ⟨work.total + 1, ⟨work.flow.expected, gap, work.flow.pending ++ [⟨sequence, value⟩]⟩,
            work.output⟩) ∨ work.total = maxPendingTotal ∧
        (work.holdAhead sequence value nowMs).flow = ⟨sequence + 1, none, []⟩ := by
  obtain ⟨notFull, notBound⟩ := not_or.mp uncrowded
  rw [holdAhead, enforceFlowBound, if_neg notFull]
  by_cases total : work.total = maxPendingTotal
  · have empty : work.flow.pending = [] := by
      by_contra nonempty
      exact notBound ⟨total, nonempty⟩
    right
    exact ⟨total, by simp [total, empty, bypass]⟩
  · left
    rw [if_neg (fun passes => total passes.1), enforceGlobalBound, if_neg total]
    exact holdLast_eq work sequence value nowMs (by omega) unexpired

section

variable (work : Work α) (covered : Covered work) (sequence : UInt32) (value : α) (nowMs : Nat)
  (bounded : work.total ≤ maxPendingTotal) (sane : Sane work.flow)

include work covered sequence value nowMs bounded sane

/-- At a bound a sound flow gives up its gap once and then holds the packet. -/
theorem holdAhead_crowded (ahead : Ahead work.flow) (crowded : Crowded work) :
    ∃ gap, (work.holdAhead sequence value nowMs).flow =
      ⟨(releaseLowest work.flow nowMs).1.expected, gap,
        (releaseLowest work.flow nowMs).1.pending ++ [⟨sequence, value⟩]⟩ := by
  have nonempty := crowded.nonempty
  obtain ⟨_, _, _, given⟩ := releaseLowest_givesUp work.flow nowMs sane ahead nonempty
  have room : (work.release (releaseLowest · nowMs)).total < maxPendingTotal := by
    have shorter := given.shorter
    unfold Covered at covered
    simp only [release]
    omega
  obtain ⟨gap, _, held⟩ := holdLast_eq (work.release (releaseLowest · nowMs)) sequence value
    nowMs room (releaseLowest_unexpired work.flow nowMs)
  simp only [holdAhead]
  by_cases full : work.flow.pending.length = maxPendingPerFlow
  · rw [enforceFlowBound, if_pos full, if_neg (fun passes => Nat.ne_of_lt room passes.1),
      enforceGlobalBound, if_neg (Nat.ne_of_lt room)]
    exact ⟨gap, congrArg Work.flow held⟩
  have total : work.total = maxPendingTotal := by
    rcases crowded with impossible | ⟨total, _⟩
    · exact absurd impossible full
    · exact total
  rw [enforceFlowBound, if_neg full, if_neg (fun passes => nonempty (by simpa using passes.2)),
    enforceGlobalBound, if_pos total]
  exact ⟨gap, congrArg Work.flow held⟩

/-- Holding a packet ahead of the gap keeps a sound flow sound exactly when no
bound is met or a gap precedes the packet. -/
theorem holdAhead_releasable (releasable : Releasable work.flow)
    (unexpired : gapExpired work.flow nowMs = false) (forward : work.flow.expected < sequence) :
    Releasable (work.holdAhead sequence value nowMs).flow ↔
      (Crowded work → GapBefore work.flow sequence) := by
  have lengths := releasable.bounded
  by_cases crowded : Crowded work
  · obtain ⟨_, _, _, given⟩ :=
      releaseLowest_givesUp work.flow nowMs sane releasable.ahead crowded.nonempty
    obtain ⟨gap, flow⟩ := holdAhead_crowded work covered sequence value nowMs bounded sane
      releasable.ahead crowded
    have shorter := given.shorter
    rw [flow]
    constructor
    · intro kept _
      exact (given.stays_ahead sane sequence).mp (kept.ahead ⟨sequence, value⟩ (by simp))
    · intro preceded
      refine ⟨?_, ?_⟩
      · intro held member
        rcases mem_append.mp member with old | new
        · exact given.ahead sane held old
        · rw [mem_singleton.mp new]
          exact (given.stays_ahead sane sequence).mpr (preceded crowded)
      · simp only [length_append, length_singleton]
        omega
  · refine ⟨fun _ impossible => absurd impossible crowded, fun _ => ?_⟩
    rcases holdAhead_uncrowded work sequence value nowMs bounded unexpired crowded with
      ⟨gap, _, held⟩ | ⟨_, flow⟩
    · rw [held]
      refine ⟨?_, ?_⟩
      · intro held member
        rcases mem_append.mp member with old | new
        · exact releasable.ahead held old
        · rw [mem_singleton.mp new]
          exact forward
      · have notFull := (not_or.mp crowded).1
        simp only [length_append, length_singleton]
        omega
    · rw [flow]
      exact ⟨by simp [Ahead], by simp⟩

end

/-- The push meets a bound: no gap expires, and the packet is ahead, not yet held
and brought to a crowded flow. -/
structure Squeezed (work : Work α) (sequence : UInt32) (nowMs : Nat) : Prop where
  unexpired : gapExpired work.flow nowMs = false
  forward : isForward sequence work.flow.expected = true
  fresh : ∀ held ∈ work.flow.pending, held.sequence ≠ sequence
  crowded : Crowded work

theorem deliver_releasable (work : Work α) (value : α) (sane : Sane work.flow)
    (releasable : Releasable work.flow) (room : work.flow.expected.toNat < sequenceLimit) :
    Releasable (work.deliver value).flow := by
  obtain ⟨released, drained, _, settled⟩ := drainContiguous_drains
    { work.flow with expected := work.flow.expected + 1, gapStartedMs := none }
  refine ⟨drained_ahead (sane.advance room) drained (releasable.ahead.advance room) settled, ?_⟩
  have counted := drained.departs.length
  have lengths := releasable.bounded
  simp only [deliver, release]
  simp only at counted
  omega

section

variable (work : Work α) (covered : Covered work) (bounded : work.total ≤ maxPendingTotal)
  (sane : Sane work.flow) (releasable : Releasable work.flow)

include work covered bounded sane releasable

/-- The first phase of a push keeps a sound flow sound, and a gap given up by it
leaves no bound to meet. -/
theorem expire_releasable (nowMs : Nat) : Releasable (work.release (releaseExpired · nowMs)).flow ∧
      (gapExpired work.flow nowMs = true → ¬Crowded (work.release (releaseExpired · nowMs))) := by
  obtain ⟨released, departed, _⟩ := releaseExpired_departs work.flow nowMs
  obtain ⟨ahead, shorter⟩ := releaseExpired_ahead work.flow nowMs sane releasable.ahead
  have counted := departed.length
  have lengths := releasable.bounded
  refine ⟨⟨ahead, by simp only [release]; omega⟩, ?_⟩
  intro expired crowded
  by_cases empty : work.flow.pending = []
  · have none : (releaseExpired work.flow nowMs).1.pending.length = 0 := by
      rw [empty, length_nil] at counted
      omega
    exact crowded.nonempty (length_eq_zero_iff.mp none)
  · have fewer := shorter expired empty
    unfold Covered at covered
    rcases crowded with full | ⟨total, _⟩
    · simp only [release] at full
      omega
    · simp only [release] at total
      omega

/-- One push keeps a sound flow sound exactly when it meets no bound, or meets one
with a gap before its packet. -/
theorem push_releasable (sequence : UInt32) (value : α) (nowMs : Nat)
    (low : sequence.toNat < sequenceLimit) : Releasable (work.push sequence value nowMs).flow ↔
      (Squeezed work sequence nowMs → GapBefore work.flow sequence) := by
  obtain ⟨kept, relieved⟩ := expire_releasable work covered bounded sane releasable nowMs
  obtain ⟨released, departed, _⟩ := releaseExpired_departs work.flow nowMs
  obtain ⟨emitted, expiredEmits⟩ := releaseExpired_emits work covered nowMs
  have stillSane : Sane (work.release (releaseExpired · nowMs)).flow := sane.departs departed
  simp only [push]
  split
  next due =>
    refine ⟨fun _ squeezed => ?_, fun _ => ?_⟩
    · rw [release_unexpired work nowMs squeezed.unexpired] at due
      have forward := squeezed.forward
      simp [isForward, due] at forward
    · exact deliver_releasable _ value stillSane kept (due ▸ low)
  next =>
    split
    next dropped =>
      refine ⟨fun _ squeezed => ?_, fun _ => kept⟩
      rw [release_unexpired work nowMs squeezed.unexpired, squeezed.forward] at dropped
      obtain ⟨held, member, same⟩ : ∃ held ∈ work.flow.pending, held.sequence = sequence := by
        simpa using dropped
      exact absurd same (squeezed.fresh held member)
    next ahead =>
      obtain ⟨forward, fresh⟩ := (kept_iff _ sequence).mp ahead
      have beyond := UInt32.lt_iff_toNat_lt.mpr
        ((isForward_iff _ _ low stillSane.low.expected).mp forward)
      rw [holdAhead_releasable _ (expiredEmits.covered covered) sequence value nowMs
        (expiredEmits.bounded bounded) stillSane kept (releaseExpired_unexpired work.flow nowMs) beyond]
      by_cases expired : gapExpired work.flow nowMs = true
      · refine ⟨fun _ squeezed => ?_, fun _ crowded => absurd crowded (relieved expired)⟩
        rw [squeezed.unexpired] at expired
        exact absurd expired false_ne_true
      have unexpired := eq_false_iff.mpr expired
      rw [release_unexpired work nowMs unexpired] at forward fresh ⊢
      exact ⟨fun safe squeezed => safe squeezed.crowded,
        fun safe crowded => safe ⟨unexpired, forward, fresh, crowded⟩⟩

end

theorem push_distinct (work : Work α) (covered : Covered work) (bounded : work.total ≤ maxPendingTotal)
    (sequence : UInt32) (value : α) (nowMs : Nat) (distinct : Distinct work.flow) :
    Distinct (work.push sequence value nowMs).flow := by
  obtain ⟨_, expired⟩ := releaseExpired_emits work covered nowMs
  have first := (distinct_split expired.conserved distinct).1
  simp only [push]
  split
  next =>
    obtain ⟨_, drained, _⟩ := drainContiguous_drains
      { (work.release (releaseExpired · nowMs)).flow with
        expected := (work.release (releaseExpired · nowMs)).flow.expected + 1
        gapStartedMs := none }
    exact (distinct_split drained.conserved first).1
  next =>
    split
    next => exact first
    next ahead =>
      obtain ⟨forward, fresh⟩ := (kept_iff _ sequence).mp ahead
      obtain ⟨_, held, _⟩ := holdAhead_emits _ (expired.covered covered) sequence value nowMs
        ⟨expired.bounded bounded, fun _ => forward⟩
      exact (distinct_split held.conserved (Distinct.cons first fresh)).1

end Work

/-- The push meets no bound, or meets one with a gap before its packet. -/
def Spared (reassembler : FlowReassembler α) (push : Push α) : Prop :=
  (begin (makeRoom reassembler (key push.header)) (key push.header)).Squeezed push.header.sequence
      push.nowMs →
    GapBefore (flowState (makeRoom reassembler (key push.header)) (key push.header))
      push.header.sequence

/-- The facts that every push with a low sequence number keeps. -/
structure Grounded (reassembler : FlowReassembler α) : Prop where
  accounted : Accounted reassembler
  sane : EveryFlow (fun _ => Sane) reassembler

theorem sane_fresh : Sane (freshFlow : FlowState α) := ⟨low_fresh, by simp [Distinct, freshFlow]⟩

theorem releasable_fresh : Releasable (freshFlow : FlowState α) :=
  ⟨by simp [Ahead, freshFlow], Nat.zero_le _⟩

theorem Grounded.flow {reassembler : FlowReassembler α} (grounded : Grounded reassembler)
    (flow : ReassemblyKey) : Sane (flowState (makeRoom reassembler flow) flow) :=
  (grounded.sane.makeRoom flow).flowState flow sane_fresh

section

variable (reassembler : FlowReassembler α) (push : Push α) (grounded : Grounded reassembler)

include reassembler push grounded

theorem pushAt_grounded (low : push.header.sequence.toNat < sequenceLimit) :
    Grounded (pushAt reassembler push).1 := by
  refine ⟨pushAt_accounted _ _ grounded.accounted,
    (pushAt_everyFlow reassembler push grounded.sane).mpr ?_⟩
  obtain ⟨offered, released, emitted, origin, _⟩ := grounded.accounted.emits push
  have flowSane := grounded.flow (key push.header)
  have offeredLow : ∀ held ∈ offered, held.sequence.toNat < sequenceLimit := by
    rcases origin with rfl | rfl
    · simp
    · intro held member
      cases mem_singleton.mp member
      exact low
  exact ⟨(emitted.low flowSane.low offeredLow).2, Work.push_distinct _
    ((grounded.accounted.makeRoom _).covered _) (grounded.accounted.makeRoom _).bounded _ _ _
    flowSane.distinct⟩

theorem pushAt_releasable (releasable : EveryFlow (fun _ => Releasable) reassembler)
    (low : push.header.sequence.toNat < sequenceLimit) :
    EveryFlow (fun _ => Releasable) (pushAt reassembler push).1 ↔ Spared reassembler push := by
  rw [pushAt_everyFlow reassembler push releasable]
  exact Work.push_releasable _ ((grounded.accounted.makeRoom _).covered _)
    (grounded.accounted.makeRoom _).bounded (grounded.flow _)
    ((releasable.makeRoom _).flowState _ releasable_fresh) _ _ _ low

end

/-- In every state of a run with low sequence numbers, all held packets of all
flows can be released and the flow bound is kept, exactly when each push of the
run is spared. -/
theorem releasable_throughout_iff_spared (pushes : List (Push α))
    (low : ∀ push ∈ pushes, push.header.sequence.toNat < 2 ^ 31) :
    (∀ done rest, done ++ rest = pushes → EveryFlow (fun _ => Releasable) (final pushAt new done)) ↔
      Along pushAt Spared new pushes := by
  rw [← throughout_iff]
  exact throughout_iff_along pushAt Grounded (EveryFlow fun _ => Releasable)
    (fun push => push.header.sequence.toNat < sequenceLimit) Spared
    (fun reassembler push grounded _ low _ => pushAt_grounded reassembler push grounded low)
    pushAt_releasable new pushes ⟨accounted_new, everyFlow_new _⟩ (everyFlow_new _) low

/-- Two swapped packets: neither push meets a bound. -/
theorem releasable_throughout_swapped : EveryFlow (fun _ => Releasable)
      (final pushAt new [⟨⟨7, 9, 1⟩, 'b', 1⟩, ⟨⟨7, 9, 0⟩, 'a', 2⟩]) :=
  (releasable_throughout_iff_spared [⟨⟨7, 9, 1⟩, 'b', 1⟩, ⟨⟨7, 9, 0⟩, 'a', 2⟩] (by decide)).mpr
    ⟨fun squeezed => absurd squeezed.crowded (by unfold Work.Crowded; decide),
      fun squeezed => absurd squeezed.crowded (by unfold Work.Crowded; decide), trivial⟩
    [⟨⟨7, 9, 1⟩, 'b', 1⟩, ⟨⟨7, 9, 0⟩, 'a', 2⟩] [] rfl

/-- Packets 1 to 97 of one flow at one instant, with packet 0 missing. -/
def crowdedRun : List (Push Nat) :=
  (List.range 97).map fun index => ⟨⟨7, 9, UInt32.ofNat (index + 1)⟩, index + 1, 0⟩

/-- The last packet of the crowded run forces the others out and is then held at
the number it has just made the flow expect. -/
theorem crowdedRun_holds_expected : (∀ push ∈ crowdedRun, push.header.sequence.toNat < 2 ^ 31) ∧
      (final pushAt new crowdedRun).flows.lookup ⟨7, 9⟩ = some ⟨97, some 0, [⟨97, 97⟩]⟩ ∧
      ¬EveryFlow (fun _ => Releasable) (final pushAt new crowdedRun) := by
  have stored : (final pushAt new crowdedRun).flows.lookup ⟨7, 9⟩ =
      some ⟨97, some 0, [⟨97, 97⟩]⟩ := by decide +kernel
  refine ⟨by decide, stored, ?_⟩
  intro releasable
  have ahead := (releasable _ _ stored).ahead ⟨97, 97⟩ mem_cons_self
  exact absurd ahead (by decide)

end Csqtt.Reassembler
