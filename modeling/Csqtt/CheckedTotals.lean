import Csqtt.Departure
import Csqtt.Runs

/-!
# Totals that never saturate

The running total of held packets is updated by saturating subtractions: around each release, the lengths
of the vector before and after are subtracted, and the difference is subtracted from the total. If one of
these ever saturated, the total would be wrong.

Here a push is written once more with subtractions that fail where the others saturate. In every state
that a run reaches it does not fail and does what the push does, and the total is the number of held
packets.
-/

namespace Csqtt.Reassembler

open FlowFrame Runs Option

universe u
variable {α : Type u}

/-- Subtraction that fails instead of saturating. -/
def checkedSub (minuend subtrahend : Nat) : Option Nat :=
  if subtrahend ≤ minuend then some (minuend - subtrahend) else none

theorem checkedSub_eq {minuend subtrahend : Nat} (within : subtrahend ≤ minuend) :
    checkedSub minuend subtrahend = some (minuend - subtrahend) := if_pos within

namespace Work

/-- Apply a release to the flow and take the released packets off the total. -/
def checkedRelease (work : Work α) (release : FlowState α → FlowState α × List α) :
    Option (Work α) :=
  let (flow, output) := release work.flow
  (checkedSub work.flow.pending.length flow.pending.length).bind fun released =>
    (checkedSub work.total released).map fun total =>
      { total := total, flow := flow, output := work.output ++ output }

/-- Give up the gap under a condition. -/
def checkedBound (work : Work α) (condition : Prop) [Decidable condition] (nowMs : Nat) :
    Option (Work α) :=
  if condition then work.checkedRelease (releaseLowest · nowMs) else some work

def checkedEnforceFlowBound (work : Work α) (nowMs : Nat) : Option (Work α) :=
  work.checkedBound (work.flow.pending.length = maxPendingPerFlow) nowMs

def checkedEnforceGlobalBound (work : Work α) (nowMs : Nat) : Option (Work α) :=
  work.checkedBound (work.total = maxPendingTotal) nowMs

def checkedCorrectOverflow (work : Work α) (nowMs : Nat) : Option (Work α) :=
  work.checkedBound (work.total > maxPendingTotal) nowMs

def checkedDeliver (work : Work α) (value : α) : Option (Work α) :=
  { work with
    flow := { work.flow with expected := work.flow.expected + 1, gapStartedMs := none }
    output := work.output ++ [value] }.checkedRelease drainContiguous

def checkedHoldAhead (work : Work α) (sequence : UInt32) (value : α) (nowMs : Nat) :
    Option (Work α) := do
  let work ← work.checkedEnforceFlowBound nowMs
  if work.total = maxPendingTotal ∧ work.flow.pending.isEmpty then
    some (work.bypass sequence value)
  else
    let work ← work.checkedEnforceGlobalBound nowMs
    let work ← (work.hold sequence value).checkedCorrectOverflow nowMs
    (work.armGap nowMs).checkedRelease (releaseExpired · nowMs)

def checkedPush (work : Work α) (sequence : UInt32) (value : α) (nowMs : Nat) : Option (Work α) := do
  let work ← work.checkedRelease (releaseExpired · nowMs)
  if sequence = work.flow.expected then work.checkedDeliver value
  else if !isForward sequence work.flow.expected ||
      work.flow.pending.any (fun held => held.sequence == sequence) then some work
  else work.checkedHoldAhead sequence value nowMs

/-! ## No subtraction fails -/

/-- A release takes packets out of the vector that are part of the total. -/
theorem Covered.checkedRelease_eq {work : Work α} (covered : Covered work)
    {release : FlowState α → FlowState α × List α} {released : List (Pending α)}
    (departed : Departure work.flow (release work.flow).1 released) :
    work.checkedRelease release = some (work.release release) := by
  have counted := departed.length
  unfold Covered at covered
  have shorter : (release work.flow).1.pending.length ≤ work.flow.pending.length := by omega
  have enough : work.flow.pending.length - (release work.flow).1.pending.length ≤ work.total := by
    omega
  simp [checkedRelease, checkedSub_eq shorter, checkedSub_eq enough, Work.release]

section

variable (work : Work α) (covered : Covered work)

include work covered

theorem checkedRelease_expired (nowMs : Nat) :
    work.checkedRelease (releaseExpired · nowMs) = some (work.release (releaseExpired · nowMs)) := by
  obtain ⟨released, departed, -⟩ := releaseExpired_departs work.flow nowMs
  exact covered.checkedRelease_eq departed

theorem checkedBound_eq (condition : Prop) [Decidable condition] (nowMs : Nat) :
    work.checkedBound condition nowMs =
      some (if condition then work.release (releaseLowest · nowMs) else work) := by
  unfold checkedBound
  split
  next =>
    obtain ⟨released, departed, -⟩ := releaseLowest_departs work.flow nowMs
    exact covered.checkedRelease_eq departed
  next => rfl

theorem checkedDeliver_eq (value : α) : work.checkedDeliver value = some (work.deliver value) := by
  obtain ⟨released, drained, -⟩ := drainContiguous_drains
    { work.flow with expected := work.flow.expected + 1, gapStartedMs := none }
  have passed : Covered
      { work with
        flow := { work.flow with expected := work.flow.expected + 1, gapStartedMs := none }
        output := work.output ++ [value] } := covered
  exact passed.checkedRelease_eq drained.departs

theorem checkedHoldAhead_eq (sequence : UInt32) (value : α) (nowMs : Nat) :
    work.checkedHoldAhead sequence value nowMs = some (work.holdAhead sequence value nowMs) := by
  obtain ⟨_, flowBound⟩ := enforceFlowBound_emits work covered nowMs
  have flowCovered := flowBound.covered covered
  have flowChecked : work.checkedEnforceFlowBound nowMs = some (work.enforceFlowBound nowMs) :=
    work.checkedBound_eq covered _ nowMs
  rw [checkedHoldAhead, flowChecked, bind_eq_bind, bind_some]
  unfold holdAhead
  dsimp only
  generalize work.enforceFlowBound nowMs = middle at flowCovered
  split
  next => rfl
  next =>
    obtain ⟨_, global⟩ := enforceGlobalBound_emits middle flowCovered nowMs
    have heldCovered := (hold_emits _ sequence value).covered (global.covered flowCovered)
    obtain ⟨_, corrected⟩ := correctOverflow_emits _ heldCovered nowMs
    have globalChecked : middle.checkedEnforceGlobalBound nowMs = some (middle.enforceGlobalBound nowMs) :=
      middle.checkedBound_eq flowCovered _ nowMs
    have overflowChecked : ((middle.enforceGlobalBound nowMs).hold sequence value).checkedCorrectOverflow
        nowMs = some (((middle.enforceGlobalBound nowMs).hold sequence value).correctOverflow nowMs) :=
      checkedBound_eq _ heldCovered _ nowMs
    rw [globalChecked, bind_some, overflowChecked, bind_some]
    exact checkedRelease_expired _
      ((armGap_emits _ nowMs).covered (corrected.covered heldCovered)) nowMs

theorem checkedPush_eq (sequence : UInt32) (value : α) (nowMs : Nat) :
    work.checkedPush sequence value nowMs = some (work.push sequence value nowMs) := by
  obtain ⟨_, expired⟩ := releaseExpired_emits work covered nowMs
  have stillCovered := expired.covered covered
  rw [checkedPush, work.checkedRelease_expired covered, bind_eq_bind, bind_some]
  unfold push
  dsimp only
  split
  next => exact checkedDeliver_eq _ stillCovered value
  next =>
    split
    next => rfl
    next => exact checkedHoldAhead_eq _ stillCovered sequence value nowMs

end

end Work

/-- Push one packet, with subtractions that fail where those of the push saturate. -/
def checkedPushAt (reassembler : FlowReassembler α) (push : Push α) :
    Option (FlowReassembler α × List α) := do
  let flow := key push.header
  let reassembler := makeRoom reassembler flow
  let work ← (begin reassembler flow).checkedPush push.header.sequence push.value push.nowMs
  some ({ flows := reassembler.flows.insert flow work.flow, pendingTotal := work.total }, work.output)

/-- In every state that a run reaches, the total is the number of held packets, it is at most 4096, at most
4096 flows are tracked, and no subtraction of the next push saturates. -/
theorem totals_never_saturate (pushes : List (Push α)) : Throughout pushAt (fun reassembler =>
        reassembler.pendingTotal = reassembler.flows.weight (fun flow => flow.pending.length) ∧
          reassembler.pendingTotal ≤ 4096 ∧ reassembler.flows.size ≤ 4096) new pushes ∧
      Along pushAt (fun reassembler push =>
        checkedPushAt reassembler push = some (pushAt reassembler push)) new pushes := by
  constructor
  · refine throughout_of_along pushAt Accounted _ (fun _ _ => True) ?_ ?_ new pushes accounted_new
      (along_true _ _ _)
    · intro reassembler push accounted _
      exact pushAt_accounted reassembler push accounted
    · intro reassembler accounted
      exact ⟨accounted.total, accounted.bounded, accounted.tracked⟩
  · refine along_of_step pushAt Accounted (fun _ _ => True) _ ?_ new pushes accounted_new
      (along_true _ _ _)
    intro reassembler push accounted _
    refine ⟨?_, pushAt_accounted reassembler push accounted⟩
    rw [checkedPushAt, Work.checkedPush_eq _ ((accounted.makeRoom _).covered _)]
    rfl

end Csqtt.Reassembler
