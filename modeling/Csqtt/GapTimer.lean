import Csqtt.Releasable

/-!
# The timer of a gap

A flow that holds packets waits for a missing one. Its timer says since when, so that the gap is given
up after twelve milliseconds. The timer should run exactly if packets are held.

It does not. If the expected packet comes, the timer is stopped, and the packets behind it are
released. If there is another gap behind these, packets are still held, but the timer is not started
again: they wait until some other packet of the flow has to be held. Giving up a gap also stops the timer
if no held packet is ahead of the expected number, and a packet that is held and released at once at
the bound on all packets leaves the timer running if it takes all others along.

The condition under which a push keeps the timer right is exact. It says which numbers are held, not
what the push computes.
-/

namespace Csqtt.Reassembler

open FlowFrame Runs FlowState Pending
open List

universe u
variable {α : Type u}

/-- The sequence numbers of the held packets. -/
def FlowState.numbers (state : FlowState α) : List UInt32 := state.pending.map sequence

/-- The timer runs exactly if packets are held. -/
def Armed (state : FlowState α) : Prop := state.pending ≠ [] ↔ state.gapStartedMs.isSome = true

/-! ## Consecutive numbers -/

/-- So many consecutive numbers from a first one on. -/
def upFrom (start : UInt32) : Nat → List UInt32
  | 0 => []
  | count + 1 => start :: upFrom (start + 1) count

@[simp] theorem length_upFrom (start : UInt32) (count : Nat) : (upFrom start count).length = count := by
  induction count generalizing start with
  | zero => rfl
  | succ count ih => rw [upFrom, length_cons, ih]

theorem ofNat_succ_add (start : UInt32) (count : Nat) :
    start + UInt32.ofNat (count + 1) = start + 1 + UInt32.ofNat count := by
  rw [UInt32.ofNat_add, UInt32.add_assoc, UInt32.add_comm 1]
  rfl

theorem mem_upFrom {start number : UInt32} {count : Nat} :
    number ∈ upFrom start count ↔ ∃ index < count, number = start + UInt32.ofNat index := by
  induction count generalizing start with
  | zero =>
    constructor
    · intro member
      cases member
    · rintro ⟨index, small, -⟩
      exact absurd small (Nat.not_lt_zero _)
  | succ count ih =>
    rw [upFrom, mem_cons, ih]
    constructor
    · rintro (rfl | ⟨index, small, rfl⟩)
      · exact ⟨0, Nat.succ_pos _, (UInt32.add_zero _).symm⟩
      · exact ⟨index + 1, Nat.succ_lt_succ small, (ofNat_succ_add _ _).symm⟩
    · rintro ⟨index, small, rfl⟩
      cases index with
      | zero => exact .inl (UInt32.add_zero _)
      | succ index => exact .inr ⟨index, Nat.lt_of_succ_lt_succ small, ofNat_succ_add _ _⟩

theorem not_mem_upFrom {start : UInt32} {count : Nat} (few : count < 2 ^ 32) :
    start + UInt32.ofNat count ∉ upFrom start count := by
  intro member
  obtain ⟨index, small, same⟩ := mem_upFrom.mp member
  have equal : UInt32.ofNat count = UInt32.ofNat index := UInt32.add_right_inj start |>.mp same
  have values := congrArg UInt32.toNat equal
  rw [UInt32.toNat_ofNat_of_lt' few, UInt32.toNat_ofNat_of_lt' (Nat.lt_trans small few)] at values
  omega

theorem Contiguous.numbers {expected after : UInt32} {released : List (Pending α)}
    (contiguous : Contiguous expected released after) :
    released.map sequence = upFrom expected released.length ∧
      after = expected + UInt32.ofNat released.length := by
  induction contiguous with
  | still expected => exact ⟨rfl, (UInt32.add_zero _).symm⟩
  | emit expected after held rest due _ ih =>
    obtain ⟨numbers, reached⟩ := ih
    refine ⟨?_, ?_⟩
    · rw [map_cons, length_cons, upFrom, due, numbers]
    · rw [length_cons, ofNat_succ_add, reached]

/-- Nothing remains after the release of consecutive packets exactly if all have consecutive numbers. -/
theorem Contiguous.remaining_nil_iff {expected after : UInt32}
    {released remaining held : List (Pending α)} (contiguous : Contiguous expected released after)
    (conserved : released ++ remaining ~ held)
    (settled : ∀ packet ∈ remaining, packet.sequence ≠ after) (few : held.length < 2 ^ 32) :
    remaining = [] ↔ held.map sequence ~ upFrom expected held.length := by
  obtain ⟨numbers, reached⟩ := contiguous.numbers
  have lengths := conserved.length_eq
  rw [length_append] at lengths
  have all := conserved.map sequence
  rw [map_append, numbers] at all
  constructor
  · rintro rfl
    rw [length_nil, Nat.add_zero] at lengths
    rw [map_nil, append_nil, lengths] at all
    exact all.symm
  · intro consecutive
    by_contra nonempty
    have positive := length_pos_iff.mpr nonempty
    have next : after ∈ held.map sequence :=
      consecutive.mem_iff.mpr (mem_upFrom.mpr ⟨released.length, by omega, reached⟩)
    rcases mem_append.mp (all.mem_iff.mpr next) with early | late
    · rw [reached] at early
      exact not_mem_upFrom (by omega) early
    · obtain ⟨packet, member, same⟩ := mem_map.mp late
      exact settled packet member same

/-! ## The condition -/

/-- Where a flow goes on if it gives up its gap: from the nearest number ahead that is held, so many are
held without a gap. -/
structure GoesOn (state : FlowState α) (lowest : UInt32) (count : Nat) : Prop where
  held : lowest ∈ state.numbers
  ahead : isForward lowest state.expected = true
  nearest : ∀ number ∈ state.numbers, isForward number state.expected = true →
    lowest - state.expected ≤ number - state.expected
  passed : ∀ number ∈ upFrom lowest count, number ∈ state.numbers
  missing : lowest + UInt32.ofNat count ∉ state.numbers

/-- Some held packet is ahead of the expected number. -/
def SomeAhead (state : FlowState α) : Prop :=
  ∃ number ∈ state.numbers, isForward number state.expected = true

/-- The push keeps the timer right. If an expired gap is given up and the packet is the one that is
missed next, all others have to follow it directly. So they have to if the packet is expected. A packet
that is late or held already must not find an expired gap with nothing ahead. At the bound on all
packets, a packet that is the only one ahead must not be followed directly by all others. -/
def KeepsTimer (total : Nat) (state : FlowState α) (sequence : UInt32) (nowMs : Nat) : Prop :=
  (gapExpired state nowMs = true → SomeAhead state →
    ∀ lowest count, GoesOn state lowest count → sequence = lowest + UInt32.ofNat count →
      state.numbers ~ upFrom lowest count ++ upFrom (sequence + 1) (state.numbers.length - count)) ∧
  (¬ (gapExpired state nowMs = true ∧ SomeAhead state) → (sequence = state.expected →
      state.numbers ~ upFrom (sequence + 1) state.numbers.length) ∧
    (sequence ≠ state.expected → isForward sequence state.expected = false ∨ sequence ∈ state.numbers →
      gapExpired state nowMs = false) ∧
    (isForward sequence state.expected = true → sequence ∉ state.numbers →
      total = maxPendingTotal → state.pending ≠ [] → ¬ SomeAhead state →
      ¬ state.numbers ~ upFrom (sequence + 1) state.numbers.length))

/-- The flow of the push keeps its timer right. -/
def TimerKept (reassembler : FlowReassembler α) (push : Push α) : Prop :=
  KeepsTimer (makeRoom reassembler (key push.header)).pendingTotal
    (flowState (makeRoom reassembler (key push.header)) (key push.header)) push.header.sequence
    push.nowMs

/-! ## Releases -/

variable {state : FlowState α}

theorem armed_of_stopped (stopped : state.gapStartedMs = none) :
    Armed state ↔ state.pending = [] := by
  rw [Armed, stopped, Option.isSome_none, iff_false_right Bool.false_ne_true, not_not]

theorem armed_fresh : Armed (freshFlow : FlowState α) := (armed_of_stopped rfl).mpr rfl

theorem someAhead_iff (state : FlowState α) :
    SomeAhead state ↔ ∃ held ∈ state.pending, isForward held.sequence state.expected = true := by
  constructor
  · rintro ⟨number, member, forward⟩
    obtain ⟨held, inside, rfl⟩ := mem_map.mp member
    exact ⟨held, inside, forward⟩
  · rintro ⟨held, inside, forward⟩
    exact ⟨held.sequence, mem_map_of_mem inside, forward⟩

theorem SomeAhead.congr {first second : FlowState α} (expected : first.expected = second.expected)
    (pending : first.pending = second.pending) : SomeAhead first ↔ SomeAhead second := by
  rw [SomeAhead, SomeAhead, numbers, numbers, expected, pending]

theorem releaseLowest_stale (nowMs : Nat) (stale : ¬ SomeAhead state) :
    releaseLowest state nowMs = ({ state with gapStartedMs := none }, []) := by
  rw [someAhead_iff] at stale
  exact releaseLowest_none state nowMs stale

/-- With a packet ahead, the flow goes on behind the packets without a gap, and its timer is right. -/
theorem releaseLowest_goesOn (nowMs : Nat) (some : SomeAhead state)
    (few : state.pending.length < 2 ^ 32) : ∃ lowest count, GoesOn state lowest count ∧
      (releaseLowest state nowMs).1.expected = lowest + UInt32.ofNat count ∧
      upFrom lowest count ++ (releaseLowest state nowMs).1.numbers ~ state.numbers ∧
      Armed (releaseLowest state nowMs).1 ∧ 0 < count := by
  obtain ⟨held, member, forward⟩ := (someAhead_iff state).mp some
  obtain ⟨lowest, rest, released, permuted, nearest, least, contiguous, conserved, -, settled, gap⟩ :=
    releaseLowest_some state nowMs held member forward
  obtain ⟨numbers, reached⟩ := contiguous.numbers
  have lengths := permuted.length_eq
  have others := conserved.length_eq
  rw [length_cons] at lengths
  rw [length_append] at others
  have parts : upFrom lowest.sequence (released.length + 1) ++ (releaseLowest state nowMs).1.numbers ~
      state.numbers := by
    rw [upFrom, ← numbers, cons_append]
    have mapped := (conserved.map sequence).cons lowest.sequence
    rw [map_append] at mapped
    exact mapped.trans (permuted.map sequence)
  have after : (releaseLowest state nowMs).1.expected =
      lowest.sequence + UInt32.ofNat (released.length + 1) := by
    rw [ofNat_succ_add, reached]
  refine ⟨lowest.sequence, released.length + 1, ?_, after, parts, ?_, Nat.succ_pos _⟩
  · refine ⟨?_, nearest, ?_, ?_, ?_⟩
    · exact (permuted.map sequence).mem_iff.mp mem_cons_self
    · intro number inside ahead
      obtain ⟨packet, stored, rfl⟩ := mem_map.mp inside
      exact least packet stored ahead
    · intro number early
      exact parts.mem_iff.mp (mem_append_left _ early)
    · intro inside
      rcases mem_append.mp (parts.mem_iff.mpr inside) with early | late
      · exact not_mem_upFrom (by omega) early
      · obtain ⟨packet, stored, same⟩ := mem_map.mp late
        exact settled packet stored (same.trans after.symm)
  · unfold Armed
    rw [gap]
    cases (releaseLowest state nowMs).1.pending with
    | nil => exact armed_fresh
    | cons first others => exact ⟨fun _ => rfl, fun _ => cons_ne_nil _ _⟩

theorem GoesOn.unique {lowest other : UInt32} {count more : Nat}
    (here : GoesOn state lowest count) (there : GoesOn state other more) :
    lowest = other ∧ count = more := by
  have first := here.nearest other there.held there.ahead
  have second := there.nearest lowest here.held here.ahead
  have same : lowest - state.expected = other - state.expected := UInt32.le_antisymm first second
  obtain rfl : lowest = other := UInt32.sub_left_inj _ |>.mp same
  refine ⟨rfl, ?_⟩
  rcases Nat.lt_trichotomy count more with less | equal | greater
  · exact absurd (there.passed _ (mem_upFrom.mpr ⟨count, less, rfl⟩)) here.missing
  · exact equal
  · exact absurd (here.passed _ (mem_upFrom.mpr ⟨more, greater, rfl⟩)) there.missing

namespace Work

theorem Covered.few {work : Work α} (covered : Covered work) (bounded : work.total ≤ maxPendingTotal) :
    work.flow.pending.length < 2 ^ 32 := by
  unfold Covered maxPendingTotal at *
  omega

theorem deliver_armed (work : Work α) (value : α) (few : work.flow.pending.length < 2 ^ 32) :
    Armed (work.deliver value).flow ↔
      work.flow.numbers ~ upFrom (work.flow.expected + 1) work.flow.numbers.length := by
  obtain ⟨released, drained, -, settled⟩ := drainContiguous_drains
    { work.flow with expected := work.flow.expected + 1, gapStartedMs := none }
  have nothing := drained.contiguous.remaining_nil_iff drained.conserved settled few
  rw [numbers, length_map, ← nothing]
  exact armed_of_stopped drained.gap

/-- A flow that may have given up its gap: at the bound on all packets it has released nothing. -/
structure Limited (before after : Work α) (condition : Prop) : Prop where
  covered : Covered after
  bounded : after.total ≤ maxPendingTotal
  full : after.total = maxPendingTotal ↔
    before.total = maxPendingTotal ∧ (condition → ¬ SomeAhead before.flow)
  expected : after.total = maxPendingTotal → after.flow.expected = before.flow.expected
  pending : after.total = maxPendingTotal → after.flow.pending = before.flow.pending

theorem limited (work : Work α) (covered : Covered work) (bounded : work.total ≤ maxPendingTotal)
    (nowMs : Nat) (condition : Prop) [Decidable condition] :
    Limited work (if condition then work.release (releaseLowest · nowMs) else work) condition := by
  split
  next holds =>
    obtain ⟨released, emitted, progress⟩ := releaseLowest_emits work covered nowMs
    have total := emitted.total
    rw [length_nil, Nat.add_zero] at total
    by_cases some : SomeAhead work.flow
    · have positive := length_pos_iff.mpr (progress ((someAhead_iff _).mp some))
      have below : (work.release (releaseLowest · nowMs)).total ≠ maxPendingTotal := by omega
      exact ⟨emitted.covered covered, by omega,
        ⟨fun full => absurd full below, fun stale => absurd some (stale.2 holds)⟩,
        fun full => absurd full below, fun full => absurd full below⟩
    · have same : work.release (releaseLowest · nowMs) =
          { work with flow := { work.flow with gapStartedMs := none } } := by
        simp [release, releaseLowest_stale nowMs some]
      rw [same]
      exact ⟨covered, bounded, ⟨fun full => ⟨full, fun _ => some⟩, fun full => full.1⟩,
        fun _ => rfl, fun _ => rfl⟩
  next fails =>
    exact ⟨covered, bounded,
      ⟨fun full => ⟨full, fun holds => absurd holds fails⟩, fun full => full.1⟩,
      fun _ => rfl, fun _ => rfl⟩

theorem releaseLowest_if_unexpired (work : Work α) (nowMs : Nat) (condition : Prop)
    [Decidable condition] (unexpired : gapExpired work.flow nowMs = false) :
    gapExpired (if condition then work.release (releaseLowest · nowMs) else work).flow nowMs = false := by
  split
  next => exact releaseLowest_unexpired work.flow nowMs
  next => exact unexpired

theorem armGap_armed (work : Work α) (nowMs : Nat) (unexpired : gapExpired work.flow nowMs = false) :
    Armed ((work.armGap nowMs).release (releaseExpired · nowMs)).flow ↔ work.flow.pending ≠ [] := by
  unfold armGap
  split
  next stopped =>
    rw [release_unexpired _ nowMs (by simp [gapExpired, gapReleaseAfterMs])]
    exact ⟨fun armed => armed.mpr rfl, fun nonempty => ⟨fun _ => rfl, fun _ => nonempty⟩⟩
  next running =>
    rw [release_unexpired _ nowMs unexpired]
    have some : work.flow.gapStartedMs.isSome = true := by
      rw [Option.isSome_iff_ne_none]
      intro none
      rw [none] at running
      exact running rfl
    exact ⟨fun armed => armed.mpr some, fun nonempty => ⟨fun _ => some, fun _ => nonempty⟩⟩

/-- A packet that is held at the bound is the only one ahead. It is released again, and so are the ones
that follow it directly. -/
theorem hold_released (work : Work α) (sequence : UInt32) (value : α) (nowMs : Nat)
    (stale : ¬ SomeAhead work.flow) (forward : isForward sequence work.flow.expected = true)
    (few : work.flow.pending.length < 2 ^ 32) :
    ((work.hold sequence value).release (releaseLowest · nowMs)).flow.pending = [] ↔
      work.flow.numbers ~ upFrom (sequence + 1) work.flow.numbers.length := by
  obtain ⟨lowest, rest, released, permuted, ahead, -, contiguous, conserved, -, settled, -⟩ :=
    releaseLowest_some (work.hold sequence value).flow nowMs ⟨sequence, value⟩
      (mem_append_right _ mem_cons_self) forward
  have held : (work.hold sequence value).flow.pending = work.flow.pending ++ [⟨sequence, value⟩] := rfl
  obtain rfl : lowest = ⟨sequence, value⟩ := by
    rcases mem_append.mp (permuted.mem_iff.mp mem_cons_self) with old | new
    · exact absurd ((someAhead_iff _).mpr ⟨lowest, old, ahead⟩) stale
    · exact mem_singleton.mp new
  have others : rest ~ work.flow.pending :=
    ((permuted.trans (perm_append_singleton _ _)).cons_inv)
  have nothing := contiguous.remaining_nil_iff (conserved.trans others) settled few
  rw [numbers, length_map]
  exact nothing

/-- Holding a packet ahead starts the timer. Only at the bound it may be that nothing is held then. -/
theorem holdAhead_armed (work : Work α) (covered : Covered work) (sequence : UInt32) (value : α)
    (nowMs : Nat) (bounded : work.total ≤ maxPendingTotal)
    (unexpired : gapExpired work.flow nowMs = false)
    (forward : isForward sequence work.flow.expected = true) :
    Armed (work.holdAhead sequence value nowMs).flow ↔
      (work.total = maxPendingTotal → work.flow.pending ≠ [] → ¬ SomeAhead work.flow →
        ¬ work.flow.numbers ~ upFrom (sequence + 1) work.flow.numbers.length) := by
  have flowLimited : Limited work (work.enforceFlowBound nowMs) _ :=
    work.limited covered bounded nowMs (work.flow.pending.length = maxPendingPerFlow)
  have flowUnexpired : gapExpired (work.enforceFlowBound nowMs).flow nowMs = false :=
    work.releaseLowest_if_unexpired nowMs _ unexpired
  unfold holdAhead
  dsimp only
  generalize work.enforceFlowBound nowMs = middle at flowLimited flowUnexpired
  split
  next bypassed =>
    obtain ⟨full, empty⟩ := bypassed
    rw [List.isEmpty_iff] at empty
    constructor
    · intro _ _ nonempty
      rw [flowLimited.pending full] at empty
      exact absurd empty nonempty
    · intro _
      exact (armed_of_stopped rfl).mpr empty
  next notBypassed =>
    have globalLimited : Limited middle (middle.enforceGlobalBound nowMs) _ :=
      middle.limited flowLimited.covered flowLimited.bounded nowMs (middle.total = maxPendingTotal)
    have globalUnexpired : gapExpired (middle.enforceGlobalBound nowMs).flow nowMs = false :=
      middle.releaseLowest_if_unexpired nowMs _ flowUnexpired
    generalize middle.enforceGlobalBound nowMs = late at globalLimited globalUnexpired
    unfold correctOverflow
    rw [armGap_armed _ _ ((late.hold sequence value).releaseLowest_if_unexpired nowMs _ globalUnexpired)]
    by_cases full : late.total = maxPendingTotal
    · obtain ⟨middleFull, stale⟩ := globalLimited.full.mp full
      obtain ⟨workFull, -⟩ := flowLimited.full.mp middleFull
      have samePending := (globalLimited.pending full).trans (flowLimited.pending middleFull)
      have sameExpected := (globalLimited.expected full).trans (flowLimited.expected middleFull)
      have nothingAhead : ¬ SomeAhead late.flow := fun some => stale middleFull
        ((SomeAhead.congr (globalLimited.expected full) (globalLimited.pending full)).mp some)
      have workStale : ¬ SomeAhead work.flow := fun some =>
        nothingAhead ((SomeAhead.congr sameExpected samePending).mpr some)
      have nonempty : work.flow.pending ≠ [] := by
        rw [← flowLimited.pending middleFull]
        intro empty
        exact notBypassed ⟨middleFull, List.isEmpty_iff.mpr empty⟩
      have again := late.hold_released sequence value nowMs nothingAhead (sameExpected ▸ forward)
        (globalLimited.covered.few globalLimited.bounded)
      have exceeded : (late.hold sequence value).total > maxPendingTotal := by
        change late.total + 1 > maxPendingTotal
        omega
      rw [if_pos exceeded, ne_eq, again, numbers, samePending]
      exact ⟨fun apart _ _ _ => apart, fun apart => apart workFull nonempty workStale⟩
    · have within : ¬ (late.hold sequence value).total > maxPendingTotal := by
        have bound := globalLimited.bounded
        change ¬ late.total + 1 > maxPendingTotal
        omega
      rw [if_neg within]
      constructor
      · intro _ workFull nonempty stale
        have middleFull := flowLimited.full.mpr ⟨workFull, fun _ => stale⟩
        refine absurd (globalLimited.full.mpr ⟨middleFull, fun _ some => ?_⟩) full
        exact stale ((SomeAhead.congr (flowLimited.expected middleFull)
          (flowLimited.pending middleFull)).mp some)
      · intro _
        exact append_ne_nil_of_right_ne_nil _ (cons_ne_nil _ _)

theorem nonempty_of_expired {nowMs : Nat} (armed : Armed state)
    (expired : gapExpired state nowMs = true) : state.pending ≠ [] := by
  refine armed.mpr ?_
  cases running : state.gapStartedMs with
  | none =>
    rw [gapExpired, running] at expired
    cases expired
  | some started => rfl

/-- What is left of a push after an expired gap was given up. -/
def settle (work : Work α) (sequence : UInt32) (value : α) (nowMs : Nat) : Work α :=
  if sequence = work.flow.expected then work.deliver value
  else if !isForward sequence work.flow.expected ||
      work.flow.pending.any (fun held => held.sequence == sequence) then work
  else work.holdAhead sequence value nowMs

theorem push_eq_settle (work : Work α) (sequence : UInt32) (value : α) (nowMs : Nat) :
    work.push sequence value nowMs =
      (work.release (releaseExpired · nowMs)).settle sequence value nowMs := rfl

theorem dropped_iff (state : FlowState α) (sequence : UInt32) :
    (!isForward sequence state.expected ||
        state.pending.any (fun held => held.sequence == sequence)) = true ↔
      isForward sequence state.expected = false ∨ sequence ∈ state.numbers := by
  rw [Bool.or_eq_true, Bool.not_eq_true', any_eq_true, numbers, mem_map]
  simp

section

variable (work : Work α) (covered : Covered work) (bounded : work.total ≤ maxPendingTotal)

include work covered bounded

theorem settle_armed (sequence : UInt32) (value : α) (nowMs : Nat)
    (unexpired : gapExpired work.flow nowMs = false) :
    Armed (work.settle sequence value nowMs).flow ↔ (sequence = work.flow.expected →
        work.flow.numbers ~ upFrom (sequence + 1) work.flow.numbers.length) ∧
      (sequence ≠ work.flow.expected →
        isForward sequence work.flow.expected = false ∨ sequence ∈ work.flow.numbers →
        Armed work.flow) ∧
      (isForward sequence work.flow.expected = true → sequence ∉ work.flow.numbers →
        work.total = maxPendingTotal → work.flow.pending ≠ [] → ¬ SomeAhead work.flow →
        ¬ work.flow.numbers ~ upFrom (sequence + 1) work.flow.numbers.length) := by
  unfold settle
  split
  next due =>
    rw [work.deliver_armed value (covered.few bounded), ← due]
    constructor
    · intro follow
      refine ⟨fun _ => follow, fun other => absurd rfl other, fun forward => ?_⟩
      rw [isForward, bne_self_eq_false, Bool.false_and] at forward
      cases forward
    · intro kept
      exact kept.1 rfl
  next other =>
    split
    next dropped =>
      rw [dropped_iff] at dropped
      constructor
      · intro armed
        refine ⟨fun due => absurd due other, fun _ _ => armed, fun forward fresh => ?_⟩
        rcases dropped with late | held
        · rw [late] at forward
          cases forward
        · exact absurd held fresh
      · intro kept
        exact kept.2.1 other dropped
    next kept =>
      rw [dropped_iff, not_or, Bool.not_eq_false] at kept
      obtain ⟨forward, fresh⟩ := kept
      rw [work.holdAhead_armed covered sequence value nowMs bounded unexpired forward]
      constructor
      · intro apart
        refine ⟨fun due => absurd due other, fun _ dropped => ?_, fun _ _ => apart⟩
        rcases dropped with late | held
        · rw [late] at forward
          cases forward
        · exact absurd held fresh
      · intro conditions
        exact conditions.2.2 forward fresh

/-- A push keeps the timer right exactly under the condition. -/
theorem push_armed (armed : Armed work.flow) (sequence : UInt32) (value : α) (nowMs : Nat) :
    Armed (work.push sequence value nowMs).flow ↔
      KeepsTimer work.total work.flow sequence nowMs := by
  obtain ⟨first, emitted⟩ := releaseExpired_emits work covered nowMs
  rw [push_eq_settle, settle_armed _ (emitted.covered covered) (emitted.bounded bounded) _ _ _
    (releaseExpired_unexpired work.flow nowMs)]
  unfold KeepsTimer
  by_cases givenUp : gapExpired work.flow nowMs = true ∧ SomeAhead work.flow
  · obtain ⟨expired, some⟩ := givenUp
    obtain ⟨lowest, count, goesOn, reached, parts, rightly, positive⟩ :=
      releaseLowest_goesOn nowMs some (covered.few bounded)
    have flow : (work.release (releaseExpired · nowMs)).flow = (releaseLowest work.flow nowMs).1 := by
      simp only [release, releaseExpired, expired, if_pos]
    have below : (work.release (releaseExpired · nowMs)).total ≠ maxPendingTotal := by
      have gone := parts.length_eq
      have share := emitted.share
      rw [flow] at share
      rw [length_append, length_upFrom, numbers, numbers, length_map, length_map] at gone
      omega
    rw [flow]
    constructor
    · rintro ⟨follow, -, -⟩
      refine ⟨?_, fun kept => absurd ⟨expired, some⟩ kept⟩
      intro _ _ other more there here
      obtain ⟨rfl, rfl⟩ := goesOn.unique there
      have rest := follow (here.trans reached.symm)
      have lengths := parts.length_eq
      rw [length_append, length_upFrom] at lengths
      rw [← lengths, Nat.add_sub_cancel_left]
      exact parts.symm.trans (rest.append_left _)
    · rintro ⟨follow, -⟩
      refine ⟨?_, fun _ _ => rightly, fun _ _ full => absurd full below⟩
      intro due
      have whole := follow expired some lowest count goesOn (due.trans reached)
      have lengths := parts.length_eq
      rw [length_append, length_upFrom] at lengths
      rw [← lengths, Nat.add_sub_cancel_left] at whole
      exact (perm_append_left_iff _).mp (parts.trans whole)
  · have unmoved : (work.release (releaseExpired · nowMs)).flow.expected = work.flow.expected ∧
        (work.release (releaseExpired · nowMs)).flow.pending = work.flow.pending ∧
        (work.release (releaseExpired · nowMs)).total = work.total ∧
        (Armed (work.release (releaseExpired · nowMs)).flow ↔ gapExpired work.flow nowMs = false) := by
      cases expired : gapExpired work.flow nowMs with
      | false =>
        rw [release_unexpired _ _ expired]
        exact ⟨rfl, rfl, rfl, fun _ => rfl, fun _ => armed⟩
      | true =>
        have stopped : work.release (releaseExpired · nowMs) =
            { work with flow := { work.flow with gapStartedMs := none } } := by
          simp [release, releaseExpired, expired, releaseLowest_stale nowMs fun some =>
            givenUp ⟨expired, some⟩]
        have nonempty := nonempty_of_expired armed expired
        rw [stopped]
        refine ⟨rfl, rfl, rfl, fun right => ?_, fun running => absurd running Bool.true_eq_false_eq_False⟩
        exact absurd ((armed_of_stopped rfl).mp right) nonempty
    obtain ⟨expected, pending, same, timer⟩ := unmoved
    rw [timer, SomeAhead.congr expected pending, numbers, expected, pending, same]
    exact ⟨fun kept => ⟨fun expired some => absurd ⟨expired, some⟩ givenUp, fun _ => kept⟩,
      fun kept => kept.2 givenUp⟩

end

end Work

/-- In every state of a run the timer of every flow runs exactly if the flow holds packets, exactly when
each push of the run meets the condition. -/
theorem armed_throughout_iff (pushes : List (Push α)) :
    Throughout pushAt (EveryFlow fun _ => Armed) new pushes ↔
      Along pushAt TimerKept new pushes := by
  refine throughout_iff_along pushAt Accounted (EveryFlow fun _ => Armed) (fun _ => True) TimerKept
    ?_ ?_ new pushes accounted_new (everyFlow_new _) (fun _ _ => trivial)
  · intro reassembler push accounted _ _ _
    exact pushAt_accounted reassembler push accounted
  · intro reassembler push accounted armed _
    rw [pushAt_everyFlow reassembler push armed]
    exact Work.push_armed _ ((accounted.makeRoom _).covered _) (accounted.makeRoom _).bounded
      ((armed.makeRoom _).flowState _ armed_fresh) _ _ _

/-- Packet 2 is held, and then packet 0 comes, so that packet 1 is missing. -/
def lossyRun : List (Push Nat) := [⟨⟨7, 9, 2⟩, 2, 0⟩, ⟨⟨7, 9, 0⟩, 0, 1⟩]

/-- The timer does not run then. Packet 2 is still held ten seconds later, when packet 0 comes again,
although times do not go back. -/
theorem lossyRun_holds_without_timer :
    (final pushAt new lossyRun).flows.lookup ⟨7, 9⟩ = some ⟨1, none, [⟨2, 2⟩]⟩ ∧
      (pushAt (final pushAt new lossyRun) ⟨⟨7, 9, 0⟩, 0, 10001⟩).2 = [] ∧
      (pushAt (final pushAt new lossyRun) ⟨⟨7, 9, 0⟩, 0, 10001⟩).1.flows.lookup ⟨7, 9⟩ =
        some ⟨1, none, [⟨2, 2⟩]⟩ ∧ ¬ Throughout pushAt (EveryFlow fun _ => Armed) new lossyRun := by
  have stored : (final pushAt new lossyRun).flows.lookup ⟨7, 9⟩ = some ⟨1, none, [⟨2, 2⟩]⟩ := by
    decide +kernel
  refine ⟨stored, by decide +kernel, by decide +kernel, ?_⟩
  intro safe
  have armed := throughout_final pushAt _ new lossyRun safe ⟨7, 9⟩ _ stored
  exact absurd (armed.mp (cons_ne_nil _ _)) Bool.false_ne_true

end Csqtt.Reassembler
