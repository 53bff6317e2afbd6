import Csqtt.StreamReconcile
import Mathlib.Data.List.GetD

/-!
# What a client keeps about repairs

A client restarts a stream for a report with a larger number than all before. If the report replaces
an earlier one that did not help, it also gets new credentials. Whether the earlier one has helped is
read from a second number, which two operations write: a message that streams are back raises it, and
a stream that is ready sets it to the number of the last report, up or down.

Here both are said from the outside, over whole traces in which reports and messages are repeated and
come in any order. Restarts are counted by the new maxima among the numbers of the reports. A restart
after a report that has helped since keeps the credentials, and a restart after a report that has not
and for which no message came early does not keep them.
-/

namespace Csqtt.Streams

open List RepairState Nat Option

/-! ## Traces -/

/-- A call of the client's repair state. -/
inductive RepairCall
  | applyRepair (command : StreamRepairCommand)
  | applyAlive (command : StreamRepairCommand)
  | markReady (workerId : Nat)
deriving DecidableEq, Repr

def RepairState.call (state : RepairState) : RepairCall → RepairState
  | .applyRepair command => (state.applyRepair command).1
  | .applyAlive command => state.applyAlive command
  | .markReady workerId => state.markReady workerId

/-- A message is about a stream. -/
def StreamRepairCommand.names (command : StreamRepairCommand) (workerId : Nat) : Bool :=
  decide (workerId ∈ command.workerIds.map UInt16.toNat)

/-- The number of a report about a stream. -/
def RepairCall.report (workerId : Nat) : RepairCall → Option Nat
  | .applyRepair command =>
    if command.names workerId then some command.sequence.toNat else none
  | _ => none

/-- The numbers of all reports about a stream, in the order in which they came. -/
def reportsAbout (workerId : Nat) (calls : List RepairCall) : List Nat :=
  calls.filterMap (RepairCall.report workerId)

/-- A number is larger than all before. Reports are numbered from one on. -/
def isNewMaximum (earlier : List Nat) (sequence : Nat) : Bool :=
  decide (0 < sequence ∧ ∀ other ∈ earlier, other < sequence)

/-- How many numbers are larger than all before them. -/
def newMaxima (sequences : List Nat) : Nat :=
  (List.range sequences.length).countP fun index =>
    isNewMaximum (sequences.take index) (sequences.getD index 0)

/-- A call says that a stream works again, for all reports up to a number. -/
def RepairCall.helps (workerId sequence : Nat) : RepairCall → Bool
  | .applyRepair _ => false
  | .applyAlive command => command.names workerId && decide (sequence ≤ command.sequence.toNat)
  | .markReady ready => ready == workerId

/-! ## Numbers of reports -/

variable {sequence : Nat}

theorem mem_reportsAbout_cons {workerId : Nat} {call : RepairCall} {rest : List RepairCall} :
    sequence ∈ reportsAbout workerId (call :: rest) ↔
      call.report workerId = some sequence ∨ sequence ∈ reportsAbout workerId rest := by
  simp [reportsAbout]

variable (sequences : List Nat)

theorem newMaxima_concat (sequence : Nat) : newMaxima (sequences ++ [sequence]) =
      newMaxima sequences + if isNewMaximum sequences sequence then 1 else 0 := by
  have earlier : (List.range sequences.length).countP (fun index =>
      isNewMaximum ((sequences ++ [sequence]).take index)
        ((sequences ++ [sequence]).getD index 0)) = newMaxima sequences := by
    apply countP_congr
    intro index member
    have inside : index < sequences.length := mem_range.mp member
    rw [take_append_of_le_length (le_of_lt inside), getD_append _ _ _ _ inside]
  rw [newMaxima, length_append, length_singleton, range_succ, countP_append,
    earlier, countP_singleton, take_left, getD_append_right _ _ _ _ (Nat.le_refl _),
    Nat.sub_self, getD_cons_zero]

/-- The largest number so far, or zero. -/
def largest (sequences : List Nat) : Nat := sequences.foldl max 0

theorem largest_concat (sequence : Nat) :
    largest (sequences ++ [sequence]) = max (largest sequences) sequence := by
  rw [largest, foldl_append]
  rfl

theorem isNewMaximum_iff (sequence : Nat) :
    isNewMaximum sequences sequence = true ↔ largest sequences < sequence := by
  rw [isNewMaximum, decide_eq_true_eq]
  induction sequences using List.reverseRecOn with
  | nil => exact and_iff_left (forall_mem_nil _)
  | append_singleton earlier last ih =>
    rw [largest_concat, Nat.max_lt, ← ih, forall_mem_append, forall_mem_singleton, and_assoc]

theorem newMaxima_le_largest : newMaxima sequences ≤ largest sequences := by
  induction sequences using List.reverseRecOn with
  | nil => exact Nat.le_refl 0
  | append_singleton earlier last ih =>
    rw [newMaxima_concat, largest_concat]
    split
    · rename_i new
      rw [isNewMaximum_iff] at new
      omega
    · omega

/-! ## One slot -/

/-- What a call does to the slot of a stream. -/
def RepairSlot.call (workerId : Nat) (slot : RepairSlot) : RepairCall → RepairSlot
  | .applyRepair command =>
    if command.names workerId then (slot.repaired command.sequence).1 else slot
  | .applyAlive command =>
    if command.names workerId then
      { slot with readySequence := max slot.readySequence command.sequence }
    else slot
  | .markReady ready =>
    if ready = workerId then { slot with readySequence := slot.lastSequence } else slot

theorem RepairState.slot_call (state : RepairState) (call : RepairCall) (workerId : Nat) :
    (state.call call).slot workerId = (state.slot workerId).map fun slot => slot.call workerId call := by
  cases call with
  | applyRepair command =>
    rw [call, slot_applyRepair]
    simp [RepairSlot.call, StreamRepairCommand.names]
  | applyAlive command =>
    rw [call, slot_applyAlive]
    simp [RepairSlot.call, StreamRepairCommand.names]
  | markReady ready => exact slot_modify ..

theorem RepairState.slot_calls (state : RepairState) (calls : List RepairCall) (workerId : Nat) :
    (calls.foldl call state).slot workerId =
      (state.slot workerId).map fun slot => calls.foldl (RepairSlot.call workerId) slot := by
  induction calls generalizing state with
  | nil => simp
  | cons call rest ih =>
    rw [foldl_cons, ih, slot_call, Option.map_map]
    rfl

theorem RepairState.slot_new {desiredCount workerId : Nat} (positive : 0 < workerId)
    (inside : workerId ≤ desiredCount) : (new desiredCount).slot workerId = some {} := by
  rw [slot, if_pos (ne_of_gt positive)]
  exact getElem?_replicate_of_lt (lt_succ_of_le inside)

namespace RepairSlot

variable {workerId : Nat} {slot : RepairSlot} {call : RepairCall}

theorem repaired_old {sequence : UInt64} (old : sequence.toNat ≤ slot.lastSequence.toNat) :
    slot.repaired sequence = (slot, {}) := by
  rw [repaired, if_pos (UInt64.le_iff_toNat_le.mpr old)]

theorem repaired_new {sequence : UInt64} (new : slot.lastSequence.toNat < sequence.toNat) :
    (slot.repaired sequence).1 = { slot with
        lastSequence := sequence
        restartGeneration := slot.restartGeneration + 1
        credentialGeneration :=
          if slot.lastSequence ≠ 0 ∧ slot.readySequence < slot.lastSequence then
            slot.credentialGeneration + 1
          else slot.credentialGeneration } := by
  have larger : ¬ sequence ≤ slot.lastSequence := by
    rw [UInt64.le_iff_toNat_le]
    omega
  rw [repaired, if_neg larger]
  split
  · rfl
  · rfl

theorem call_silent (silent : call.report workerId = none) :
    (slot.call workerId call).lastSequence = slot.lastSequence ∧
      (slot.call workerId call).restartGeneration = slot.restartGeneration := by
  cases call with
  | applyRepair command =>
    rw [RepairCall.report] at silent
    rw [RepairSlot.call]
    split at silent
    · cases silent
    · rename_i other
      rw [if_neg other]
      exact ⟨rfl, rfl⟩
  | applyAlive command | markReady ready =>
    rw [RepairSlot.call]
    split
    · exact ⟨rfl, rfl⟩
    · exact ⟨rfl, rfl⟩

theorem call_report (report : call.report workerId = some sequence) :
    ∃ command : StreamRepairCommand, command.sequence.toNat = sequence ∧
      ∀ slot : RepairSlot, slot.call workerId call = (slot.repaired command.sequence).1 := by
  cases call with
  | applyRepair command =>
    rw [RepairCall.report] at report
    split at report
    · rename_i named
      refine ⟨command, Option.some.inj report, ?_⟩
      intro slot
      rw [RepairSlot.call, if_pos named]
    · cases report
  | applyAlive command | markReady ready => cases report

/-- What a slot has counted: the largest number, and the new maxima. -/
structure Counts (sequences : List Nat) (slot : RepairSlot) : Prop where
  last : slot.lastSequence.toNat = largest sequences
  restarts : slot.restartGeneration.toNat = newMaxima sequences

/-- One more report. The count of restarts does not wrap around, since there are no more restarts than
numbers. -/
theorem Counts.repaired {sequences : List Nat} (counts : slot.Counts sequences) (sequence : UInt64) :
    (slot.repaired sequence).1.Counts (sequences ++ [sequence.toNat]) := by
  have next := newMaxima_concat sequences sequence.toNat
  have reached := largest_concat sequences sequence.toNat
  have last := counts.last
  by_cases new : largest sequences < sequence.toNat
  · rw [if_pos ((isNewMaximum_iff _ _).mpr new)] at next
    have few := newMaxima_le_largest sequences
    have fits := sequence.toNat_lt
    rw [repaired_new (by omega)]
    constructor
    · rw [reached]
      exact (max_eq_right (le_of_lt new)).symm
    · have restarts := counts.restarts
      rw [next, ← restarts]
      have one : (1 : UInt64).toNat = 1 := rfl
      rw [UInt64.toNat_add, one]
      exact mod_eq_of_lt (by omega)
  · rw [if_neg (fun larger => new ((isNewMaximum_iff _ _).mp larger))] at next
    rw [repaired_old (by omega)]
    refine ⟨?_, next ▸ counts.restarts⟩
    rw [reached, Nat.max_eq_left (Nat.le_of_not_lt new)]
    exact last

/-- The slot of a stream counts the reports about it. -/
theorem Counts.calls {sequences : List Nat} (counts : slot.Counts sequences)
    (calls : List RepairCall) : (calls.foldl (RepairSlot.call workerId) slot).Counts
      (sequences ++ reportsAbout workerId calls) := by
  induction calls generalizing slot sequences with
  | nil =>
    rw [reportsAbout, filterMap_nil, append_nil]
    exact counts
  | cons call rest ih =>
    rw [foldl_cons, reportsAbout]
    cases report : call.report workerId with
    | none =>
      obtain ⟨last, restarts⟩ := @call_silent workerId slot call report
      rw [filterMap_cons_none report]
      refine ih ⟨?_, ?_⟩
      · rw [last]
        exact counts.last
      · rw [restarts]
        exact counts.restarts
    | some sequence =>
      obtain ⟨command, rfl, repaired⟩ := call_report report
      rw [filterMap_cons_some report, append_cons, repaired]
      exact ih (counts.repaired command.sequence)

/-! ## Reports that have helped -/

/-- The last report has a number, and the slot is ready for it, or not. -/
structure Stands (slot : RepairSlot) (sequence : Nat) (ready : Bool) : Prop where
  last : slot.lastSequence.toNat = sequence
  ready : ready = decide (sequence ≤ slot.readySequence.toNat)

/-- A call after the last new report. Once the slot is ready, it stays so. -/
theorem Stands.called {ready : Bool} (stands : slot.Stands sequence ready)
    (old : ∀ other ∈ call.report workerId, other ≤ sequence) :
    (slot.call workerId call).Stands sequence (ready || call.helps workerId sequence) := by
  obtain ⟨last, rfl⟩ := stands
  cases call with
  | applyRepair command =>
    have same : slot.call workerId (.applyRepair command) = slot := by
      rw [RepairSlot.call]
      split
      · rename_i named
        have small : command.sequence.toNat ≤ sequence := old _ (if_pos named)
        rw [repaired_old (by omega)]
      · rfl
    rw [same, RepairCall.helps, Bool.or_false]
    exact ⟨last, rfl⟩
  | applyAlive command =>
    rw [RepairSlot.call, RepairCall.helps]
    split
    · rename_i named
      refine ⟨last, ?_⟩
      rw [named, Bool.true_and, toNat_max, ← Bool.decide_or]
      exact decide_eq_decide.mpr le_max_iff.symm
    · rename_i other
      rw [Bool.eq_false_of_not_eq_true other, Bool.false_and, Bool.or_false]
      exact ⟨last, rfl⟩
  | markReady marked =>
    rw [RepairSlot.call, RepairCall.helps]
    split
    · rename_i same
      refine ⟨last, ?_⟩
      dsimp only
      rw [same, beq_self_eq_true, Bool.or_true, last]
      exact (decide_eq_true (Nat.le_refl _)).symm
    · rename_i other
      rw [beq_false_of_ne other, Bool.or_false]
      exact ⟨last, rfl⟩

theorem Stands.calls {ready : Bool} (stands : slot.Stands sequence ready)
    {calls : List RepairCall} (old : ∀ other ∈ reportsAbout workerId calls, other ≤ sequence) :
    (calls.foldl (RepairSlot.call workerId) slot).Stands sequence
      (ready || calls.any (RepairCall.helps workerId sequence)) := by
  induction calls generalizing slot ready with
  | nil =>
    rw [any_nil, Bool.or_false]
    exact stands
  | cons call rest ih =>
    rw [foldl_cons, any_cons, ← Bool.or_assoc]
    refine ih (stands.called ?_) ?_
    · intro other report
      exact old other (mem_reportsAbout_cons.mpr (.inl report))
    · intro other member
      exact old other (mem_reportsAbout_cons.mpr (.inr member))

/-- A slot whose numbers are all below a bound. -/
def Below (slot : RepairSlot) (bound : Nat) : Prop :=
  slot.lastSequence.toNat < bound ∧ slot.readySequence.toNat < bound

/-- Numbers below a bound stay there, if no larger ones come. A stream that is ready takes over the
number of the last report only. -/
theorem Below.calls {bound : Nat} (below : slot.Below bound) {calls : List RepairCall}
    (reports : ∀ other ∈ reportsAbout workerId calls, other < bound)
    (alives : ∀ command, .applyAlive command ∈ calls → command.names workerId →
      command.sequence.toNat < bound) :
    (calls.foldl (RepairSlot.call workerId) slot).Below bound := by
  refine List.foldlRecOn (motive := (Below · bound)) calls _ below ?_
  intro slot below call member
  cases call with
  | applyRepair command =>
    rw [RepairSlot.call]
    split
    · rename_i named
      have small : command.sequence.toNat < bound :=
        reports _ (mem_filterMap.mpr ⟨_, member, if_pos named⟩)
      rcases lt_or_ge slot.lastSequence.toNat command.sequence.toNat with new | old
      · rw [repaired_new new]
        exact ⟨small, below.2⟩
      · rw [repaired_old old]
        exact below
    · exact below
  | applyAlive command =>
    rw [RepairSlot.call]
    split
    · rename_i named
      refine ⟨below.1, ?_⟩
      rw [toNat_max]
      exact Nat.max_lt.mpr ⟨below.2, alives command member named⟩
    · exact below
  | markReady ready =>
    rw [RepairSlot.call]
    split
    · exact ⟨below.1, below.1⟩
    · exact below

end RepairSlot

/-! ## Whole traces -/

namespace RepairState

variable {desiredCount workerId : Nat}

theorem slot_trace (positive : 0 < workerId) (inside : workerId ≤ desiredCount)
    (calls : List RepairCall) : (calls.foldl call (.new desiredCount)).slot workerId =
      some (calls.foldl (RepairSlot.call workerId) {}) := by
  rw [slot_calls, slot_new positive inside, map_some]

/-- Whether new credentials are needed is a matter of the slot. -/
theorem credentialGeneration_applyRepair {state : RepairState} {slot : RepairSlot}
    (found : state.slot workerId = some slot) {command : StreamRepairCommand}
    (named : command.names workerId = true)
    (new : slot.lastSequence.toNat < command.sequence.toNat) (positive : 0 < slot.lastSequence.toNat) :
    (state.applyRepair command).1.credentialGeneration workerId =
      if slot.readySequence.toNat < slot.lastSequence.toNat then
        state.credentialGeneration workerId + 1
      else state.credentialGeneration workerId := by
  have nonzero : slot.lastSequence ≠ 0 := by
    rintro zero
    rw [zero] at positive
    exact absurd positive (by decide)
  rw [credentialGeneration, credentialGeneration, slot_applyRepair, found, map_some,
    map_some, if_pos (of_decide_eq_true named), RepairSlot.repaired_new new]
  simp only [nonzero, ne_eq, not_false_eq_true, true_and, UInt64.lt_iff_toNat_lt, map_some,
    getD_some]

end RepairState

/-- In every trace, a stream is restarted as often as the number of a report about it is larger than
all before. And when a report with a larger number replaces the last new one, the credentials are kept
if the stream was ready since then or a message came since then that it is back, for this number or a
larger one. They are replaced if it was not ready since then and no such message ever came. -/
theorem restarts_and_resets_follow_the_trace {desiredCount workerId : Nat} (positive : 0 < workerId)
    (inside : workerId ≤ desiredCount) : (∀ calls : List RepairCall,
      ((calls.foldl call (.new desiredCount)).restartGeneration workerId).toNat =
        newMaxima (reportsAbout workerId calls)) ∧
    ∀ (before : List RepairCall) (previous : StreamRepairCommand) (since : List RepairCall)
      (command : StreamRepairCommand), previous.names workerId = true →
      isNewMaximum (reportsAbout workerId before) previous.sequence.toNat = true →
      (∀ other ∈ reportsAbout workerId since, other ≤ previous.sequence.toNat) →
      command.names workerId = true → previous.sequence.toNat < command.sequence.toNat →
      let state := (before ++ .applyRepair previous :: since).foldl call
        (.new desiredCount)
      ((∃ call ∈ since, call.helps workerId previous.sequence.toNat = true) →
        (state.applyRepair command).1.credentialGeneration workerId =
          state.credentialGeneration workerId) ∧
      ((∀ call ∈ since, call ≠ .markReady workerId) →
        (∀ alive, .applyAlive alive ∈ before ++ since → alive.names workerId = true →
          alive.sequence.toNat < previous.sequence.toNat) →
        (state.applyRepair command).1.credentialGeneration workerId =
          state.credentialGeneration workerId + 1) := by
  have initial : RepairSlot.Counts [] {} := ⟨rfl, rfl⟩
  constructor
  · intro calls
    rw [restartGeneration, slot_trace positive inside, map_some, getD_some]
    exact (initial.calls calls).restarts
  intro before previous since command named new old namedAgain newer state
  have larger := (isNewMaximum_iff _ _).mp new
  let early := before.foldl (RepairSlot.call workerId) {}
  have behind : early.lastSequence.toNat < previous.sequence.toNat := by
    rw [(initial.calls before).last]
    exact larger
  have reported : early.call workerId (.applyRepair previous) =
      (early.repaired previous.sequence).1 := if_pos named
  have stood : (early.call workerId (.applyRepair previous)).Stands previous.sequence.toNat
      (decide (previous.sequence.toNat ≤ early.readySequence.toNat)) := by
    rw [reported, RepairSlot.repaired_new behind]
    exact ⟨rfl, rfl⟩
  have stands := stood.calls old
  have found : state.slot workerId =
      some (since.foldl (RepairSlot.call workerId) (early.call workerId (.applyRepair previous))) := by
    rw [slot_trace positive inside, foldl_append]
    rfl
  have reset := credentialGeneration_applyRepair found namedAgain
    (stands.last ▸ newer) (stands.last ▸ lt_of_le_of_lt (zero_le _) larger)
  rw [stands.last] at reset
  constructor
  · rintro ⟨call, member, helps⟩
    have ready := stands.ready
    rw [any_eq_true.mpr ⟨call, member, helps⟩, Bool.or_true] at ready
    rw [reset, if_neg (not_lt.mpr (of_decide_eq_true ready.symm))]
  · intro unready alives
    have below : early.Below previous.sequence.toNat := by
      refine RepairSlot.Below.calls ⟨?_, ?_⟩ ?_ ?_
      · exact lt_of_le_of_lt (zero_le _) larger
      · exact lt_of_le_of_lt (zero_le _) larger
      · exact (of_decide_eq_true new).2
      · intro alive member
        exact alives alive (mem_append_left _ member)
    have useless : since.any (RepairCall.helps workerId previous.sequence.toNat) = false := by
      rw [List.any_eq_false]
      intro call member helps
      cases call with
      | applyRepair other => cases helps
      | applyAlive alive =>
        rw [RepairCall.helps, Bool.and_eq_true, decide_eq_true_eq] at helps
        have small := alives alive (mem_append_right _ member) helps.1
        omega
      | markReady ready =>
        rw [RepairCall.helps, beq_iff_eq] at helps
        exact unready _ member (congrArg _ helps)
    have ready := stands.ready
    rw [useless, Bool.or_false, decide_eq_false (Nat.not_le.mpr below.2)] at ready
    rw [reset, if_pos (Nat.lt_of_not_le (of_decide_eq_false ready.symm))]

namespace Sample

/-- A report about the first of two streams. -/
def firstReport (sequence : UInt64) : StreamRepairCommand := ⟨sequence, 2, [1]⟩

/-- The stream is reported, is back, and is reported again with the old number. -/
def helpedTrace : List RepairCall := [.applyAlive (firstReport 1), .applyRepair (firstReport 1)]

/-- The old report is repeated, and the other stream is ready. -/
def unhelpedTrace : List RepairCall := [.applyRepair (firstReport 1), .markReady 2]

end Sample

/-- A client with two streams whose first one was reported, and what came after that. -/
def Sample.reported (since : List RepairCall) : RepairState :=
  (RepairCall.applyRepair (firstReport 1) :: since).foldl call (.new 2)

open Sample

/-- A new report after one that has helped keeps the credentials, and one after a report that has not
replaces them. Both restart the stream, and a repeated report does not. -/
theorem first_stream_is_restarted_twice : ((reported (helpedTrace ++
        [.applyRepair (firstReport 3)])).restartGeneration 1).toNat = 2 ∧
      ((reported helpedTrace).applyRepair (firstReport 3)).1.credentialGeneration 1 =
        (reported helpedTrace).credentialGeneration 1 ∧ ((reported unhelpedTrace).applyRepair
          (firstReport 3)).1.credentialGeneration 1 =
        (reported unhelpedTrace).credentialGeneration 1 + 1 := by
  obtain ⟨restarts, resets⟩ := @restarts_and_resets_follow_the_trace 2 1 (by decide) (by decide)
  refine ⟨(restarts _).trans (by decide), ?_, ?_⟩
  · exact (resets [] (firstReport 1) helpedTrace (firstReport 3) (by decide)
      (by decide) (by decide) (by decide) (by decide)).1 (by decide)
  · refine (resets [] (firstReport 1) unhelpedTrace (firstReport 3) (by decide)
      (by decide) (by decide) (by decide) (by decide)).2 (by decide) ?_
    intro alive member
    simp [unhelpedTrace] at member

end Csqtt.Streams
