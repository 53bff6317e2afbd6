import Csqtt.DiskConvergence

/-!
# Updates that wait are not lost

Updates that wait for the thread are dropped and merged: a snapshot takes the place of everything that
waits, and counters are merged with counters that wait last. Here the file after all updates that the
thread has taken, and those that still wait, is compared with the file after all updates that were ever
submitted, in their order. Both are the same at any time, and at most a snapshot and the counters behind it
wait.
-/

namespace Csqtt.Persistence

open Control List Runs Table PersistenceQueue

/-- What an update makes of a stored database: a snapshot replaces it, and counters are set in the rows that
are there. -/
def applyUpdate (disk : Database) : PersistenceUpdate → Database
  | .snapshot db => db
  | .traffic traffic => writeTraffic disk traffic

def applyAll (disk : Database) (updates : List PersistenceUpdate) : Database :=
  updates.foldl applyUpdate disk

/-- The queue with the updates that were submitted and those that were taken. -/
structure Ledger where
  queue : PersistenceQueue := ⟨0, 0, 0, [], false⟩
  submitted : List PersistenceUpdate := []
  taken : List PersistenceUpdate := []

/-- An update is submitted, or one is taken. -/
inductive QueueCall
  | submitSnapshot (db : Database)
  | submitTraffic (traffic : TrafficSnapshot)
  | takePending

def Ledger.step (ledger : Ledger) : QueueCall → Ledger × Unit
  | .submitSnapshot db =>
    ({ ledger with
      queue := (ledger.queue.submitSnapshot db).1
      submitted := ledger.submitted ++ [.snapshot db] }, ())
  | .submitTraffic traffic =>
    ({ ledger with
      queue := (ledger.queue.submitTraffic traffic).1
      submitted := ledger.submitted ++ [.traffic traffic] }, ())
  | .takePending =>
    ({ ledger with
      queue := { ledger.queue with pending := ledger.queue.pending.tail }
      taken := ledger.taken ++ ledger.queue.pending.head?.toList.map Prod.snd }, ())

theorem Same.trans {first second third : Database} (before : Same first second)
    (after : Same second third) : Same first third where
  mainPassword := before.mainPassword.trans after.mainPassword
  mainDeviceId := before.mainDeviceId.trans after.mainDeviceId
  mainUpBytes := before.mainUpBytes.trans after.mainUpBytes
  mainDownBytes := before.mainDownBytes.trans after.mainDownBytes
  passwords := fun password => (before.passwords password).trans (after.passwords password)
  devices := fun deviceId => (before.devices deviceId).trans (after.devices deviceId)

theorem Same.writeTraffic {disk other : Database} (same : Same disk other)
    (traffic : TrafficSnapshot) :
    Same (writeTraffic disk traffic) (writeTraffic other traffic) where
  mainPassword := same.mainPassword
  mainDeviceId := same.mainDeviceId
  mainUpBytes := by simp [Persistence.writeTraffic, same.mainUpBytes]
  mainDownBytes := by simp [Persistence.writeTraffic, same.mainDownBytes]
  passwords := by
    simp [Persistence.writeTraffic, lookup_revise _ _ (nodup_rows _), same.passwords]
  devices := by
    simp [Persistence.writeTraffic, lookup_revise _ _ (nodup_rows _), same.devices]

theorem applyAll_withTraffic (disk : Database) (pending : List (Nat × PersistenceUpdate))
    (revision : Nat) (traffic : TrafficSnapshot) :
    Same (applyAll disk ((withTraffic pending revision traffic).map Prod.snd))
      (writeTraffic (applyAll disk (pending.map Prod.snd)) traffic) := by
  rw [withTraffic]
  split
  · rename_i before waiting last
    conv_rhs => rw [← dropLast_append_getLast? _ last]
    simpa [applyAll, applyUpdate] using writeTraffic_mergeFrom _ waiting traffic
  · simp [applyAll, applyUpdate, Same.refl]

/-- What waits is at most one update and counters behind it. -/
def Short (pending : List (Nat × PersistenceUpdate)) : Prop :=
  pending.length ≤ 1 ∨ ∃ first revision traffic, pending = [first, (revision, .traffic traffic)]

theorem Short.withTraffic {pending : List (Nat × PersistenceUpdate)} (short : Short pending)
    (revision : Nat) (traffic : TrafficSnapshot) : Short
      (withTraffic pending revision traffic) := by
  rcases short with few | ⟨first, before, waiting, rfl⟩
  · match pending, few with
    | [], _ => exact .inl (Nat.le_refl 1)
    | [(before, .snapshot db)], _ => exact .inr ⟨_, _, _, rfl⟩
    | [(before, .traffic waiting)], _ => exact .inl (Nat.le_refl 1)
  · exact .inr ⟨_, _, _, rfl⟩

/-- Nothing that was submitted is missing from what was taken and what waits. -/
structure Complete (ledger : Ledger) : Prop where
  same : ∀ disk, Same (applyAll disk (ledger.taken ++ ledger.queue.pending.map Prod.snd))
    (applyAll disk ledger.submitted)
  short : Short ledger.queue.pending

theorem Complete.step {ledger : Ledger} (complete : Complete ledger) (call : QueueCall) :
    Complete (ledger.step call).1 := by
  cases call with
  | submitSnapshot db =>
    refine ⟨fun disk => ?_, .inl (Nat.le_refl 1)⟩
    simp [Ledger.step, submitSnapshot, applyAll, applyUpdate, Same.refl]
  | submitTraffic traffic =>
    refine ⟨fun disk => ?_, complete.short.withTraffic _ traffic⟩
    have waiting := applyAll_withTraffic (applyAll disk ledger.taken) ledger.queue.pending
      (ledger.queue.nextRevision + 1) traffic
    have before := (complete.same disk).writeTraffic traffic
    simp only [Ledger.step, applyAll, foldl_append] at waiting before ⊢
    exact waiting.trans before
  | takePending =>
    obtain ⟨same, short⟩ := complete
    unfold Ledger.step
    cases waiting : ledger.queue.pending with
    | nil =>
      rw [waiting] at same
      exact ⟨by simpa using same, .inl (Nat.zero_le _)⟩
    | cons update rest =>
      rw [waiting] at same short
      refine ⟨by simpa using same, .inl ?_⟩
      rcases short with few | ⟨first, revision, traffic, two⟩
      · simp only [tail_cons, length_cons] at few ⊢
        omega
      · simp [List.cons.inj two]

/-- In every run the updates that were taken and those that wait make the same of any stored database as all
submitted updates, and at most two wait. -/
theorem coalescing_loses_nothing (calls : List QueueCall) (disk : Database) :
    let ledger := final Ledger.step {} calls
    Same (applyAll disk (ledger.taken ++ ledger.queue.pending.map Prod.snd))
      (applyAll disk ledger.submitted) ∧ ledger.queue.pending.length ≤ 2 := by
  intro ledger
  have complete : Complete ledger := throughout_final _ _ _ _
    (throughout_of_step Ledger.step Complete (fun _ => True)
      (fun _ call complete _ => complete.step call) {} calls
      ⟨fun _ => Same.refl _, .inl (Nat.zero_le _)⟩ fun _ _ => trivial)
  refine ⟨complete.same disk, ?_⟩
  rcases complete.short with few | ⟨first, revision, traffic, two⟩
  · omega
  · rw [two]
    exact Nat.le_refl 2

end Csqtt.Persistence
