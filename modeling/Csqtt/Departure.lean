import Csqtt.Reassembler
import Csqtt.Runs

/-!
# What leaves a flow, and what the totals count

Every path that emits packets removes them from the pending vector or passes the
pushed packet through, and moves the expected number just beyond the last packet
emitted. `Departure` states this once; the release functions, a push and a whole
run are then described by it instead of by their code.

The second half relates the running total to the lengths of the pending vectors.
A flow that reaches the global bound has not moved its expected number since the
packet was found to be ahead of it: a release that moved it also lowered the
total below the bound. That fact is what keeps the total bounded and what makes
the bypass path emit nothing behind the expected number. Neither statement
restricts sequence numbers, clocks or the order of arrivals.
-/

namespace Csqtt.Reassembler

open FlowFrame Table VecOps Pending
open List

universe u
variable {α : Type u}

/-- Each packet emitted is the expected one or ahead of it, and the next expected
number follows the last packet emitted. -/
inductive Ascends : UInt32 → List (Pending α) → UInt32 → Prop where
  | still (expected : UInt32) : Ascends expected [] expected
  | emit (expected after : UInt32) (held : Pending α) (rest : List (Pending α))
      (ahead : held.sequence = expected ∨ isForward held.sequence expected = true)
      (later : Ascends (held.sequence + 1) rest after) :
      Ascends expected (held :: rest) after

theorem Ascends.unmoved {expected after : UInt32} (silent : Ascends expected ([] : List (Pending α)) after) :
    expected = after := by
  cases silent
  rfl

theorem Ascends.append {first middle last : UInt32} {early late : List (Pending α)}
    (before : Ascends first early middle) (after : Ascends middle late last) :
    Ascends first (early ++ late) last := by
  induction before with
  | still => exact after
  | emit expected reached held rest ahead _ ih =>
    exact .emit expected last held (rest ++ late) ahead (ih after)

/-- A release emits the listed packets in order, removes exactly them from the
pending vector and leaves the expected number behind the last one. -/
structure Departure (before after : FlowState α) (released : List (Pending α)) : Prop where
  ascends : Ascends before.expected released after.expected
  conserved : released ++ after.pending ~ before.pending

theorem Departure.refl (state : FlowState α) : Departure state state [] :=
  ⟨.still state.expected, List.Perm.refl state.pending⟩

variable {released : List (Pending α)}

theorem Departure.length {before after : FlowState α} (departed : Departure before after released) :
    released.length + after.pending.length = before.pending.length := by
  have counted := departed.conserved.length_eq
  rwa [length_append] at counted

/-- Each packet emitted is exactly the expected one. -/
inductive Contiguous : UInt32 → List (Pending α) → UInt32 → Prop where
  | still (expected : UInt32) : Contiguous expected [] expected
  | emit (expected after : UInt32) (held : Pending α) (rest : List (Pending α))
      (due : held.sequence = expected) (later : Contiguous (expected + 1) rest after) :
      Contiguous expected (held :: rest) after

theorem Contiguous.ascends {expected after : UInt32}
    (contiguous : Contiguous expected released after) : Ascends expected released after := by
  induction contiguous with
  | still expected => exact .still expected
  | emit expected after held rest due _ ih =>
    exact .emit expected after held rest (Or.inl due) (due ▸ ih)

/-- A drain emits the contiguous packets that start at the expected number and
leaves the gap timer alone. -/
structure Drain (before after : FlowState α) (released : List (Pending α)) : Prop where
  contiguous : Contiguous before.expected released after.expected
  conserved : released ++ after.pending ~ before.pending
  gap : after.gapStartedMs = before.gapStartedMs

theorem Drain.departs {before after : FlowState α}
    (drained : Drain before after released) : Departure before after released :=
  ⟨drained.contiguous.ascends, drained.conserved⟩

/-- With one round for each held packet, a drain ends when the expected packet is
no longer held. -/
theorem drainRounds_drains (rounds : Nat) (state : FlowState α) :
    ∃ released, Drain state (drainRounds rounds state).1 released ∧
      (drainRounds rounds state).2 = released.map value ∧
      (state.pending.length ≤ rounds → ∀ held ∈ (drainRounds rounds state).1.pending,
        held.sequence ≠ (drainRounds rounds state).1.expected) := by
  induction rounds generalizing state with
  | zero =>
    refine ⟨[], ⟨.still _, List.Perm.refl _, rfl⟩, rfl, ?_⟩
    intro enough held member
    have empty : state.pending = [] := length_eq_zero_iff.mp (by omega)
    simp [drainRounds, empty] at member
  | succ rounds ih =>
    cases found : removeFirst (fun held => held.sequence == state.expected)
        state.pending with
    | none =>
      have same : drainRounds (rounds + 1) state = (state, []) := by simp only [drainRounds, found]
      rw [same]
      refine ⟨[], ⟨.still _, List.Perm.refl _, rfl⟩, rfl, ?_⟩
      intro _ held member
      have missed := (removeFirst_none _ _).mp found held member
      simpa using missed
    | some taken =>
      obtain ⟨first, rest⟩ := taken
      obtain ⟨matched, permuted⟩ := removeFirst_some _ _ _ _ found
      have due : first.sequence = state.expected := by simpa using matched
      obtain ⟨released, drained, output, settled⟩ :=
        ih { state with pending := rest, expected := state.expected + 1 }
      have unfolded : drainRounds (rounds + 1) state =
          ((drainRounds rounds { state with pending := rest, expected := state.expected + 1 }).1,
            first.value :: (drainRounds rounds
              { state with pending := rest, expected := state.expected + 1 }).2) := by
        simp only [drainRounds, found]
      rw [unfolded]
      refine ⟨first :: released, ⟨?_, ?_, drained.gap⟩, ?_, ?_⟩
      · exact .emit _ _ first released due drained.contiguous
      · exact (drained.conserved.cons first).trans permuted
      · simp [output]
      · intro enough
        apply settled
        have counted := permuted.length_eq
        simp only [length_cons] at counted ⊢
        omega

section

variable (state : FlowState α)

include state

theorem drainContiguous_drains : ∃ released, Drain state (drainContiguous state).1 released ∧
      (drainContiguous state).2 = released.map value ∧ ∀ held ∈ (drainContiguous state).1.pending,
        held.sequence ≠ (drainContiguous state).1.expected := by
  obtain ⟨released, drained, output, settled⟩ :=
    drainRounds_drains state.pending.length state
  exact ⟨released, drained, output, settled (Nat.le_refl _)⟩

theorem distance_none (held : Pending α) :
    distance state held = none ↔ isForward held.sequence state.expected = false := by
  simp [distance]

theorem releaseLowest_none (nowMs : Nat)
    (stale : ¬∃ held ∈ state.pending, isForward held.sequence state.expected = true) :
    releaseLowest state nowMs = ({ state with gapStartedMs := none }, []) := by
  have nothing : removeLeast (distance state) state.pending = none :=
    (removeLeast_none _ _).mpr fun held member => (distance_none state held).mpr
      (Bool.eq_false_iff.mpr fun forward => stale ⟨held, member, forward⟩)
  simp only [releaseLowest, nothing]

/-- Giving up the gap of a flow that holds a packet ahead of it emits the nearest
such packet first and then drains. The timer restarts exactly when packets remain. -/
theorem releaseLowest_some (nowMs : Nat) (ahead : Pending α) (member : ahead ∈ state.pending)
    (forward : isForward ahead.sequence state.expected = true) : ∃ lowest rest released,
      lowest :: rest ~ state.pending ∧ isForward lowest.sequence state.expected = true ∧
      (∀ held ∈ state.pending, isForward held.sequence state.expected = true →
        lowest.sequence - state.expected ≤ held.sequence - state.expected) ∧
      Contiguous (lowest.sequence + 1) released (releaseLowest state nowMs).1.expected ∧
      released ++ (releaseLowest state nowMs).1.pending ~ rest ∧
      (releaseLowest state nowMs).2 = lowest.value :: released.map value ∧
      (∀ held ∈ (releaseLowest state nowMs).1.pending,
        held.sequence ≠ (releaseLowest state nowMs).1.expected) ∧
      (releaseLowest state nowMs).1.gapStartedMs =
        if (releaseLowest state nowMs).1.pending.isEmpty then none else some nowMs := by
  cases chosen : removeLeast (distance state) state.pending with
  | none =>
    have unkeyed := (removeLeast_none _ _).mp chosen ahead member
    rw [distance_none, forward] at unkeyed
    exact absurd unkeyed (by decide)
  | some taken =>
    obtain ⟨lowest, rest⟩ := taken
    obtain ⟨permuted, least, keyed, bounds⟩ := removeLeast_some _ _ _ _ chosen
    obtain ⟨nearest, gapDistance⟩ : isForward lowest.sequence state.expected = true ∧
        lowest.sequence - state.expected = least := by
      simpa [distance] using keyed
    obtain ⟨released, drained, output, settled⟩ :=
      drainContiguous_drains ⟨lowest.sequence + 1, none, rest⟩
    refine ⟨lowest, rest, released, permuted, nearest, ?_, ?_⟩
    · intro held inPending heldForward
      rw [gapDistance]
      exact bounds held inPending _ (by simp [distance, heldForward])
    · simp only [releaseLowest, chosen]
      split
      next =>
        exact ⟨drained.contiguous, drained.conserved, congrArg _ output, settled, drained.gap⟩
      next => exact ⟨drained.contiguous, drained.conserved, congrArg _ output, settled, rfl⟩

/-- Giving up a gap is a departure. It emits a packet whenever one is ahead. -/
theorem releaseLowest_departs (nowMs : Nat) :
    ∃ released, Departure state (releaseLowest state nowMs).1 released ∧
      (releaseLowest state nowMs).2 = released.map value ∧
      (released = [] → (releaseLowest state nowMs).1 = { state with gapStartedMs := none }) ∧
      ((∃ held ∈ state.pending, isForward held.sequence state.expected = true) →
        released ≠ []) := by
  by_cases ahead : ∃ held ∈ state.pending, isForward held.sequence state.expected = true
  · obtain ⟨held, member, forward⟩ := ahead
    obtain ⟨lowest, rest, released, permuted, nearest, _, contiguous, conserved, output, _⟩ :=
      releaseLowest_some state nowMs held member forward
    refine ⟨lowest :: released, ⟨?_, ?_⟩, output, ?_, ?_⟩
    · exact .emit _ _ lowest released (Or.inr nearest) contiguous.ascends
    · exact (conserved.cons lowest).trans permuted
    · intro impossible
      exact absurd impossible (cons_ne_nil lowest released)
    · intro _
      exact cons_ne_nil lowest released
  · rw [releaseLowest_none state nowMs ahead]
    exact ⟨[], ⟨.still _, List.Perm.refl _⟩, rfl, fun _ => rfl, fun forward => absurd forward ahead⟩

theorem releaseExpired_departs (nowMs : Nat) :
    ∃ released, Departure state (releaseExpired state nowMs).1 released ∧
      (releaseExpired state nowMs).2 = released.map value := by
  unfold releaseExpired
  split
  next =>
    obtain ⟨released, departed, output, _⟩ := releaseLowest_departs state nowMs
    exact ⟨released, departed, output⟩
  next => exact ⟨[], Departure.refl state, rfl⟩

end

namespace Work

/-- What part of a push can do: packets are offered to the flow, packets are
emitted in ascending order, the others are held, and the total follows. -/
structure Emits (before after : Work α) (offered released : List (Pending α)) : Prop where
  output : after.output = before.output ++ released.map value
  ascends : Ascends before.flow.expected released after.flow.expected
  conserved : released ++ after.flow.pending ~ offered ++ before.flow.pending
  total : after.total + released.length = before.total + offered.length

theorem Emits.refl (work : Work α) : Emits work work [] [] :=
  ⟨by simp, .still _, List.Perm.refl _, rfl⟩

/-- Consecutive parts of a push compose. -/
theorem Emits.trans {first middle last : Work α}
    {offered laterOffered laterReleased : List (Pending α)}
    (early : Emits first middle offered released)
    (late : Emits middle last laterOffered laterReleased) :
    Emits first last (laterOffered ++ offered) (released ++ laterReleased) := by
  refine ⟨?_, early.ascends.append late.ascends, ?_, ?_⟩
  · rw [late.output, early.output, map_append, append_assoc]
  · calc released ++ laterReleased ++ last.flow.pending
        = released ++ (laterReleased ++ last.flow.pending) := append_assoc ..
      _ ~ released ++ (laterOffered ++ middle.flow.pending) := late.conserved.append_left released
      _ ~ laterOffered ++ (released ++ middle.flow.pending) := perm_append_comm_assoc ..
      _ ~ laterOffered ++ (offered ++ first.flow.pending) := early.conserved.append_left _
      _ = laterOffered ++ offered ++ first.flow.pending := (append_assoc ..).symm
  · have earlyTotal := early.total
    have lateTotal := late.total
    simp only [length_append]
    omega

/-- The packets of the flow at work are part of the total. -/
def Covered (work : Work α) : Prop := work.flow.pending.length ≤ work.total

variable {before after : Work α} {offered released : List (Pending α)}

theorem Emits.share (emitted : Emits before after offered released) :
    before.total + after.flow.pending.length = after.total + before.flow.pending.length := by
  have counted := emitted.conserved.length_eq
  have total := emitted.total
  simp only [length_append] at counted
  omega

theorem Emits.covered (emitted : Emits before after offered released) (covered : Covered before) :
    Covered after := by
  have share := emitted.share
  unfold Covered at covered ⊢
  omega

theorem Emits.bounded (emitted : Emits before after [] released)
    (bounded : before.total ≤ maxPendingTotal) : after.total ≤ maxPendingTotal := by
  have total := emitted.total
  rw [length_nil] at total
  omega

section

variable (work : Work α)

include work

theorem release_emits (covered : Covered work) (release : FlowState α → FlowState α × List α)
    (released : List (Pending α)) (departed : Departure work.flow (release work.flow).1 released)
    (output : (release work.flow).2 = released.map value) :
    Emits work (work.release release) [] released := by
  refine ⟨?_, departed.ascends, departed.conserved, ?_⟩
  · simp only [Work.release, output]
  · have counted := departed.length
    unfold Covered at covered
    simp only [Work.release, length_nil]
    omega

theorem releaseLowest_emits (covered : Covered work) (nowMs : Nat) :
    ∃ released, Emits work (work.release (releaseLowest · nowMs)) [] released ∧
      ((∃ held ∈ work.flow.pending, isForward held.sequence work.flow.expected = true) →
        released ≠ []) := by
  obtain ⟨released, departed, output, _, progress⟩ := releaseLowest_departs work.flow nowMs
  exact ⟨released, release_emits work covered _ released departed output, progress⟩

theorem releaseExpired_emits (covered : Covered work) (nowMs : Nat) :
    ∃ released, Emits work (work.release (releaseExpired · nowMs)) [] released := by
  obtain ⟨released, departed, output⟩ := releaseExpired_departs work.flow nowMs
  exact ⟨released, release_emits work covered _ released departed output⟩

theorem deliver_emits (covered : Covered work) (value : α) :
    ∃ released, Emits work (work.deliver value) [⟨work.flow.expected, value⟩]
      (⟨work.flow.expected, value⟩ :: released) := by
  have passed : Emits work
      { work with
        flow := { work.flow with expected := work.flow.expected + 1, gapStartedMs := none }
        output := work.output ++ [value] }
      [⟨work.flow.expected, value⟩] [⟨work.flow.expected, value⟩] :=
    ⟨rfl, .emit _ _ _ _ (Or.inl rfl) (.still _), List.Perm.refl _, rfl⟩
  obtain ⟨released, drained, output, _⟩ := drainContiguous_drains
    { work.flow with expected := work.flow.expected + 1, gapStartedMs := none }
  exact ⟨released, passed.trans
    (release_emits _ (passed.covered covered) drainContiguous released drained.departs output)⟩

theorem bypass_emits (sequence : UInt32) (value : α)
    (forward : isForward sequence work.flow.expected = true) :
    Emits work (work.bypass sequence value) [⟨sequence, value⟩] [⟨sequence, value⟩] :=
  ⟨rfl, .emit _ _ _ _ (Or.inr forward) (.still _), List.Perm.refl _, rfl⟩

theorem hold_emits (sequence : UInt32) (value : α) :
    Emits work (work.hold sequence value) [⟨sequence, value⟩] [] :=
  have held : work.flow.pending ++ [⟨sequence, value⟩] ~ [⟨sequence, value⟩] ++ work.flow.pending :=
    perm_append_comm
  ⟨by simp [hold], .still _, held, rfl⟩

theorem armGap_emits (nowMs : Nat) : Emits work (work.armGap nowMs) [] [] := by
  unfold armGap
  split
  next => exact ⟨by simp, .still _, List.Perm.refl _, rfl⟩
  next => exact Emits.refl work

section

variable (covered : Covered work) (nowMs : Nat)
include covered nowMs

theorem releaseLowest_if_emits (condition : Prop) [Decidable condition] : ∃ released, Emits work
      (if condition then work.release (releaseLowest · nowMs) else work) [] released := by
  split
  next =>
    obtain ⟨released, emitted, _⟩ := releaseLowest_emits work covered nowMs
    exact ⟨released, emitted⟩
  next => exact ⟨[], Emits.refl work⟩

theorem enforceFlowBound_emits : ∃ released, Emits work (work.enforceFlowBound nowMs) [] released :=
  releaseLowest_if_emits work covered nowMs _

theorem enforceGlobalBound_emits :
    ∃ released, Emits work (work.enforceGlobalBound nowMs) [] released :=
  releaseLowest_if_emits work covered nowMs _

theorem correctOverflow_emits : ∃ released, Emits work (work.correctOverflow nowMs) [] released :=
  releaseLowest_if_emits work covered nowMs _

end

end

/-- The total is within its bound, and at the bound the packet to be held is
still ahead of the expected number. -/
structure Ready (sequence : UInt32) (work : Work α) : Prop where
  bounded : work.total ≤ maxPendingTotal
  forward : work.total = maxPendingTotal → isForward sequence work.flow.expected = true

theorem Ready.emits {sequence : UInt32} (ready : Ready sequence before)
    (emitted : Emits before after [] released) : Ready sequence after := by
  have total := emitted.total
  have bounded := ready.bounded
  cases released with
  | nil =>
    have same : before.total = after.total := by simpa using total.symm
    have unmoved := emitted.ascends.unmoved
    exact ⟨same ▸ ready.bounded, fun full => unmoved ▸ ready.forward (same.trans full)⟩
  | cons first rest =>
    simp only [length_cons, length_nil] at total
    exact ⟨by omega, fun full => by omega⟩

section

variable (work : Work α) (covered : Covered work) (sequence : UInt32) (value : α) (nowMs : Nat)
  (ready : Ready sequence work)

include work covered sequence value nowMs ready

/-- Holding a packet and correcting the overflow returns to the bound: at the
bound the packet just held is ahead, so the correction releases one. -/
theorem hold_correctOverflow_emits :
    ∃ released, Emits work ((work.hold sequence value).correctOverflow nowMs)
        [⟨sequence, value⟩] released ∧
      ((work.hold sequence value).correctOverflow nowMs).total ≤ maxPendingTotal := by
  have held := hold_emits work sequence value
  have bounded := ready.bounded
  unfold correctOverflow
  split
  next exceeded =>
    have full : work.total = maxPendingTotal := by
      simp only [hold] at exceeded
      omega
    obtain ⟨released, emitted, progress⟩ :=
      releaseLowest_emits (work.hold sequence value) (held.covered covered) nowMs
    have nonempty : released ≠ [] :=
      progress ⟨⟨sequence, value⟩, by simp [hold], ready.forward full⟩
    refine ⟨released, held.trans emitted, ?_⟩
    have total := (held.trans emitted).total
    have positive := length_pos_iff.mpr nonempty
    simp only [nil_append, length_singleton] at total
    omega
  next within =>
    exact ⟨[], held, by omega⟩

/-- A packet ahead of the gap is offered once, and the total stays bounded. -/
theorem holdAhead_emits :
    ∃ released, Emits work (work.holdAhead sequence value nowMs) [⟨sequence, value⟩] released ∧
      (work.holdAhead sequence value nowMs).total ≤ maxPendingTotal := by
  obtain ⟨first, emitted⟩ := enforceFlowBound_emits work covered nowMs
  have stillReady := ready.emits emitted
  have stillCovered := emitted.covered covered
  simp only [holdAhead]
  split
  next full =>
    exact ⟨_, emitted.trans (bypass_emits _ sequence value (stillReady.forward full.1)),
      stillReady.bounded⟩
  next =>
    obtain ⟨second, global⟩ := enforceGlobalBound_emits _ stillCovered nowMs
    obtain ⟨third, corrected, bounded⟩ := hold_correctOverflow_emits _
      (global.covered stillCovered) sequence value nowMs (stillReady.emits global)
    have armed := armGap_emits
      ((((work.enforceFlowBound nowMs).enforceGlobalBound nowMs).hold sequence value).correctOverflow
        nowMs) nowMs
    have whole := ((emitted.trans global).trans corrected).trans armed
    obtain ⟨last, expired⟩ := releaseExpired_emits _ (whole.covered covered) nowMs
    exact ⟨_, whole.trans expired, expired.bounded (armed.bounded bounded)⟩

end

theorem kept_iff (state : FlowState α) (sequence : UInt32) : ¬(!isForward sequence state.expected ||
        state.pending.any (fun held => held.sequence == sequence)) = true ↔
      isForward sequence state.expected = true ∧
        ∀ held ∈ state.pending, held.sequence ≠ sequence := by
  simp

/-- One push offers its packet at most once, emits in ascending order and keeps
the total within its bound. -/
theorem push_emits (work : Work α) (covered : Covered work)
    (bounded : work.total ≤ maxPendingTotal) (sequence : UInt32) (value : α) (nowMs : Nat) :
    ∃ offered released, Emits work (work.push sequence value nowMs) offered released ∧
      (offered = [] ∨ offered = [⟨sequence, value⟩]) ∧
      (work.push sequence value nowMs).total ≤ maxPendingTotal := by
  obtain ⟨first, expired⟩ := releaseExpired_emits work covered nowMs
  have stillCovered := expired.covered covered
  have within := expired.bounded bounded
  simp only [push]
  split
  next due =>
    obtain ⟨drained, delivered⟩ := deliver_emits _ stillCovered value
    refine ⟨_, _, expired.trans delivered, Or.inr ?_, ?_⟩
    · simp [due]
    · have total := delivered.total
      simp only [length_cons, length_nil] at total
      omega
  next =>
    split
    next => exact ⟨[], first, expired, Or.inl rfl, within⟩
    next kept =>
      have forward := ((kept_iff _ sequence).mp kept).1
      obtain ⟨later, held, total⟩ := holdAhead_emits _ stillCovered sequence value nowMs
        ⟨within, fun _ => forward⟩
      exact ⟨_, _, expired.trans held, Or.inr rfl, total⟩

end Work

/-- A flow taken out of the reassembler for one push. -/
def begin (reassembler : FlowReassembler α) (flow : ReassemblyKey) : Work α :=
  ⟨reassembler.pendingTotal, flowState reassembler flow, []⟩

/-- The work of one push, from admission to the flow that is stored back. -/
def pushedWork (reassembler : FlowReassembler α) (push : Push α) : Work α :=
  (begin (makeRoom reassembler (key push.header)) (key push.header)).push push.header.sequence
    push.value push.nowMs

variable (reassembler : FlowReassembler α) (push : Push α)

theorem pushAt_eq : pushAt reassembler push =
      ({ flows := (makeRoom reassembler (key push.header)).flows.insert (key push.header)
          (pushedWork reassembler push).flow
         pendingTotal := (pushedWork reassembler push).total },
        (pushedWork reassembler push).output) := rfl

/-- The running total is the number of held packets; it and the number of flows
are bounded. -/
structure Accounted (reassembler : FlowReassembler α) : Prop where
  total : reassembler.pendingTotal = reassembler.flows.weight fun flow => flow.pending.length
  bounded : reassembler.pendingTotal ≤ maxPendingTotal
  tracked : reassembler.flows.size ≤ maxTrackedFlows

theorem accounted_new : Accounted (new : FlowReassembler α) :=
  ⟨rfl, Nat.zero_le _, Nat.zero_le _⟩

section

variable {reassembler : FlowReassembler α} (accounted : Accounted reassembler)
  (flow : ReassemblyKey)

include accounted flow

theorem Accounted.makeRoom : Accounted (makeRoom reassembler flow) := by
  unfold Reassembler.makeRoom
  split
  next => exact accounted_new
  next => exact accounted

theorem Accounted.covered : (begin reassembler flow).Covered := by
  simp only [Work.Covered, begin, flowState]
  cases stored : reassembler.flows.lookup flow with
  | none => exact Nat.zero_le _
  | some state =>
    rw [accounted.total]
    exact weight_le (fun flow => flow.pending.length) _ _ _ stored

theorem Accounted.room (state : FlowState α) :
    Table.size ((Reassembler.makeRoom reassembler flow).flows.insert flow state) ≤
      maxTrackedFlows := by
  have tracked := accounted.tracked
  rw [size_insert, Reassembler.makeRoom]
  by_cases cleared : clears reassembler flow = true
  · rw [if_pos cleared]
    split <;> simp [new, maxTrackedFlows]
  rw [if_neg cleared]
  split
  next => exact tracked
  next absent =>
    have room : reassembler.flows.size ≠ maxTrackedFlows := by
      intro full
      exact cleared (by simp [clears, full, absent])
    omega

end

theorem Accounted.emits {reassembler : FlowReassembler α} (accounted : Accounted reassembler)
    (push : Push α) : ∃ offered released,
      (begin (Reassembler.makeRoom reassembler (key push.header)) (key push.header)).Emits
        (pushedWork reassembler push) offered released ∧
      (offered = [] ∨ offered = [⟨push.header.sequence, push.value⟩]) ∧
      (pushedWork reassembler push).total ≤ maxPendingTotal :=
  Work.push_emits _ ((accounted.makeRoom _).covered _) (accounted.makeRoom _).bounded _ _ _

theorem weight_insert_flow (flow : ReassemblyKey) (state : FlowState α) :
    Table.weight (fun flow => flow.pending.length) (reassembler.flows.insert flow state) +
        (flowState reassembler flow).pending.length =
      reassembler.flows.weight (fun flow => flow.pending.length) + state.pending.length := by
  rw [weight_insert, flowState]
  cases stored : reassembler.flows.lookup flow with
  | none =>
    rw [weight_erase_absent _ _ _ stored]
    simp only [Option.getD_none, freshFlow, length_nil]
    omega
  | some previous =>
    have split := weight_erase (fun flow => flow.pending.length) _ _ _ stored
    simp only [Option.getD_some]
    omega

theorem pushAt_accounted (accounted : Accounted reassembler) :
    Accounted (pushAt reassembler push).1 := by
  obtain ⟨offered, released, emitted, _, bounded⟩ := accounted.emits push
  rw [pushAt_eq]
  refine ⟨?_, bounded, accounted.room _ _⟩
  have share := emitted.share
  have total := (accounted.makeRoom (key push.header)).total
  have inserted := weight_insert_flow (makeRoom reassembler (key push.header)) (key push.header)
    (pushedWork reassembler push).flow
  simp only [begin] at share
  dsimp only
  omega

/-- The property holds of every tracked flow. -/
def EveryFlow (holds : ReassemblyKey → FlowState α → Prop) (reassembler : FlowReassembler α) :
    Prop :=
  ∀ flow state, reassembler.flows.lookup flow = some state → holds flow state

variable {holds : ReassemblyKey → FlowState α → Prop}

theorem everyFlow_new (holds : ReassemblyKey → FlowState α → Prop) :
    EveryFlow holds (new : FlowReassembler α) := by
  intro flow state stored
  simp [new] at stored

section

variable {reassembler : FlowReassembler α} (every : EveryFlow holds reassembler) (flow : ReassemblyKey)

include every

theorem EveryFlow.makeRoom : EveryFlow holds (makeRoom reassembler flow) := by
  unfold Reassembler.makeRoom
  split
  next => exact everyFlow_new holds
  next => exact every

theorem EveryFlow.flowState (fresh : holds flow freshFlow) :
    holds flow (flowState reassembler flow) := by
  unfold Reassembler.flowState
  cases stored : reassembler.flows.lookup flow with
  | none => exact fresh
  | some state => exact every flow state stored

end

theorem pushAt_everyFlow
    (every : EveryFlow holds reassembler) : EveryFlow holds (pushAt reassembler push).1 ↔
      holds (key push.header) (pushedWork reassembler push).flow := by
  rw [pushAt_eq]
  constructor
  · intro kept
    exact kept _ _ (AList.lookup_insert _)
  · intro kept flow state stored
    simp only [lookup_insert_if] at stored
    split at stored
    next same =>
      subst same
      cases stored
      exact kept
    next => exact every.makeRoom _ flow state stored

end Csqtt.Reassembler
