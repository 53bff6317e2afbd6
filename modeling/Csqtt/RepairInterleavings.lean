import Csqtt.StreamReconcile

/-!
# Repairs of one stream at the same time

Reports, messages that a stream is back, and the stream itself act on the numbers of a slot by single
atomic operations. Which of them is ready is raised in one operation by a message, but read and written
back in two by the stream: it may write back an old number after a message has raised it. The next
report then takes the last one for one that did not help, and resets the credentials.

Nothing of this happens as long as the stream only writes a number that does not fall behind.
-/

namespace Csqtt.Streams

open Runs

/-- A call on one stream. -/
inductive SlotCall
  | applyRepair (sequence : UInt64)
  | applyAlive (sequence : UInt64)
  | markReady
deriving DecidableEq, Repr

/-- What a thread is about to do. -/
inductive SlotPhase
  | idle
  /-- Read the number of the last report. -/
  | repairing (sequence : UInt64)
  /-- Exchange it for a larger one, if it is still the same. -/
  | exchanging (sequence current : UInt64)
  /-- See whether the report that was replaced has helped. -/
  | checking (previous : UInt64)
  | resetting
  | restarting
  | reviving (sequence : UInt64)
  /-- Read the number of the last report. -/
  | marking
  /-- Write that the stream is ready for the report that was read. -/
  | storing (sequence : UInt64)
deriving DecidableEq, Repr

structure SharedSlot where
  slot : RepairSlot := {}
  threads : List SlotPhase
deriving DecidableEq, Repr

inductive SlotEvent
  | call (thread : Nat) (call : SlotCall)
  | advance (thread : Nat)
deriving DecidableEq, Repr

def SlotCall.first : SlotCall → SlotPhase
  | .applyRepair sequence => .repairing sequence
  | .applyAlive sequence => .reviving sequence
  | .markReady => .marking

/-- The next atomic operation of a thread. -/
def RepairSlot.advance (slot : RepairSlot) : SlotPhase → RepairSlot × SlotPhase
  | .idle => (slot, .idle)
  | .repairing sequence => (slot, .exchanging sequence slot.lastSequence)
  | .exchanging sequence current =>
    if sequence ≤ current then (slot, .idle)
    else if slot.lastSequence = current then
      ({ slot with lastSequence := sequence }, if current ≠ 0 then .checking current else .restarting)
    else (slot, .exchanging sequence slot.lastSequence)
  | .checking previous => (slot, if slot.readySequence < previous then .resetting else .restarting)
  | .resetting => ({ slot with credentialGeneration := slot.credentialGeneration + 1 }, .restarting)
  | .restarting => ({ slot with restartGeneration := slot.restartGeneration + 1 }, .idle)
  | .reviving sequence => ({ slot with readySequence := max slot.readySequence sequence }, .idle)
  | .marking => (slot, .storing slot.lastSequence)
  | .storing sequence => ({ slot with readySequence := sequence }, .idle)

def SharedSlot.step (shared : SharedSlot) : SlotEvent → SharedSlot × Unit
  | .call thread call =>
    (if shared.threads[thread]? = some .idle then
      { shared with threads := shared.threads.set thread call.first } else shared, ())
  | .advance thread =>
    match shared.threads[thread]? with
    | some phase =>
      (⟨(shared.slot.advance phase).1, shared.threads.set thread (shared.slot.advance phase).2⟩, ())
    | none => (shared, ())

/-- A stream that is ready writes a number that is not behind both the last report and what is there. -/
def SharedSlot.fresh (shared : SharedSlot) : SlotEvent → Bool
  | .call _ _ => true
  | .advance thread =>
    match shared.threads[thread]? with
    | some (.storing sequence) =>
      shared.slot.readySequence ≤ sequence || shared.slot.lastSequence ≤ sequence
    | _ => true

/-- A report has been made, and the stream is known to be ready for it. -/
def RepairSlot.Helped (previous : UInt64) (slot : RepairSlot) : Prop :=
  previous ≤ slot.lastSequence ∧ previous ≤ slot.readySequence

variable {shared : SharedSlot} {previous : UInt64}

theorem le_revived (slot : RepairSlot) (sequence : UInt64) :
    slot.readySequence ≤ (slot.advance (.reviving sequence)).1.readySequence ∧
      sequence ≤ (slot.advance (.reviving sequence)).1.readySequence := by
  rw [UInt64.le_iff_toNat_le, UInt64.le_iff_toNat_le, RepairSlot.advance, toNat_max]
  exact ⟨Nat.le_max_left _ _, Nat.le_max_right _ _⟩

theorem RepairSlot.Helped.step (helped : shared.slot.Helped previous) {event : SlotEvent}
    (fresh : shared.fresh event = true) : (shared.step event).1.slot.Helped previous := by
  obtain ⟨last, ready⟩ := helped
  cases event with
  | call thread call =>
    rw [SharedSlot.step]
    split <;> exact ⟨last, ready⟩
  | advance thread =>
    rw [SharedSlot.step]
    split
    · rename_i phase here
      cases phase with
      | exchanging sequence current =>
        rw [RepairSlot.advance]
        split
        · exact ⟨last, ready⟩
        · rename_i new
          split
          · rename_i same
            rw [same] at last
            exact ⟨UInt64.le_trans last (UInt64.le_of_lt (UInt64.not_le.mp new)), ready⟩
          · exact ⟨last, ready⟩
      | reviving sequence => exact ⟨last, UInt64.le_trans ready (le_revived _ sequence).1⟩
      | storing sequence =>
        refine ⟨last, ?_⟩
        simp only [SharedSlot.fresh, here, Bool.or_eq_true, decide_eq_true_eq] at fresh
        obtain above | recent := fresh
        · exact UInt64.le_trans ready above
        · exact UInt64.le_trans last recent
      | _ => exact ⟨last, ready⟩
    · exact ⟨last, ready⟩

/-- After a message for the last report, the report that replaces it finds that it has helped. -/
theorem helped_repair_keeps_credentials (before : SharedSlot) (alive thread : Nat) (sequence : UInt64)
    (after : List SlotEvent) (reviving : before.threads[alive]? = some (.reviving sequence))
    (reaches : before.slot.lastSequence ≤ sequence)
    (fresh : Along SharedSlot.step (fun shared event => shared.fresh event = true) before
      (.advance alive :: after))
    (checking : (final SharedSlot.step before (.advance alive :: after)).threads[thread]? =
      some (.checking before.slot.lastSequence)) :
    (final SharedSlot.step before (.advance alive :: after ++ [.advance thread])).threads[thread]? =
      some .restarting := by
  have revived : (before.step (.advance alive)).1.slot.Helped before.slot.lastSequence := by
    simp only [SharedSlot.step, reviving]
    exact ⟨UInt64.le_refl _, UInt64.le_trans reaches (le_revived _ _).2⟩
  have helped : (final SharedSlot.step before (.advance alive :: after)).slot.Helped
      before.slot.lastSequence :=
    throughout_final _ (fun shared => shared.slot.Helped before.slot.lastSequence) _ _
      (throughout_of_along _ _ _ _ (fun _ _ helped fresh => helped.step fresh) (fun _ => id) _ _ revived
        fresh.2)
  rw [final_append]
  generalize final SharedSlot.step before (.advance alive :: after) = later at *
  have inside := (List.getElem?_eq_some_iff.mp checking).1
  simp only [final, SharedSlot.step, checking, RepairSlot.advance, if_neg (UInt64.not_lt.mpr helped.2)]
  simp [inside]

/-- The first report has had an effect, and a message about it is under way. -/
def Sample.answered (mark : SlotPhase) : SharedSlot :=
  ⟨{ lastSequence := 1, restartGeneration := 1 }, [mark, .idle, .reviving 1]⟩

def Sample.secondReport : List SlotEvent := [.call 1 (.applyRepair 2), .advance 1, .advance 1]

open Sample

/-- A stream that was ready before the first report writes so after the message. -/
theorem stale_mark_resets_credentials : final SharedSlot.step { threads := [.idle, .idle, .idle] }
        [.call 0 .markReady, .advance 0, .call 1 (.applyRepair 1), .advance 1, .advance 1, .advance 1,
          .call 2 (.applyAlive 1)] = answered (.storing 0) ∧
      (final SharedSlot.step (answered (.storing 0))
        (.advance 2 :: .advance 0 :: secondReport ++ [.advance 1, .advance 1])).slot =
        ⟨1, 1, 2, 0⟩ := by
  decide

/-- A second report that comes while the first is acted on does not renew the credentials. -/
theorem second_report_keeps_credentials : (final SharedSlot.step (answered .idle)
      (.advance 2 :: secondReport ++ [.advance 1])).threads[1]? = some .restarting :=
  helped_repair_keeps_credentials (answered .idle) 2 1 1 secondReport (by decide) (by decide)
    (by decide) (by decide)

end Csqtt.Streams
