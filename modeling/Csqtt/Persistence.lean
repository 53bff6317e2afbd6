import Csqtt.Database
import Csqtt.Runs

/-!
# The database file

Changes of the database are written to its file by a thread of their own. A snapshot of
the whole database replaces everything that still waits; the counters of the traffic wait
behind it and are merged with counters that wait already. Every update has a revision, and
two marks say how far the thread has come: the highest revision that was attempted and the
highest one that was written.

Who has submitted a snapshot waits for its revision. The mark of the written revisions is
shared by both kinds of updates, and that is one kind too many: if a snapshot cannot be
written and counters behind it can, the mark passes the snapshot, and whoever waits for it
is told that it was written.

A transaction is written as a whole or not at all. `written` lists the updates that were,
and `snapshots` the revisions of all snapshots that were submitted. Revisions are natural
numbers; sixty-four bits do not run out.
-/

namespace Csqtt.Persistence

open ControlText Control List Runs

/-- Absolute numbers of bytes. -/
structure TrafficCounters where
  upBytes : Int
  downBytes : Int
deriving DecidableEq, Repr

/-- Counters that have changed. -/
structure TrafficSnapshot where
  main : Option TrafficCounters
  passwords : Table Text TrafficCounters
  devices : Table Text TrafficCounters

namespace TrafficSnapshot

/-- Newer counters take the place of older ones. -/
def mergeFrom (traffic newer : TrafficSnapshot) : TrafficSnapshot where
  main := newer.main.or traffic.main
  passwords := newer.passwords ∪ traffic.passwords
  devices := newer.devices ∪ traffic.devices

def isEmpty (traffic : TrafficSnapshot) : Bool :=
  traffic.main.isNone && traffic.passwords.entries.isEmpty && traffic.devices.entries.isEmpty

end TrafficSnapshot

inductive PersistenceUpdate
  | snapshot (database : Database)
  | traffic (traffic : TrafficSnapshot)

/-- What waits for the thread, and how far it has come. -/
structure PersistenceQueue where
  nextRevision : Nat
  processedRevision : Nat
  successfulRevision : Nat
  pending : List (Nat × PersistenceUpdate)
  workerRunning : Bool

namespace PersistenceQueue

/-- A snapshot supersedes whatever waits. The answer is its revision, and whether a
thread has to be started. -/
def submitSnapshot (queue : PersistenceQueue) (snapshot : Database) :
    PersistenceQueue × Nat × Bool :=
  let revision := queue.nextRevision + 1
  ({ queue with
    nextRevision := revision
    pending := [(revision, .snapshot snapshot)]
    workerRunning := true }, revision, !queue.workerRunning)

/-- The waiting updates with counters behind them. -/
def withTraffic (pending : List (Nat × PersistenceUpdate)) (revision : Nat)
    (traffic : TrafficSnapshot) : List (Nat × PersistenceUpdate) :=
  match pending.getLast? with
  | some (_, .traffic waiting) =>
    pending.dropLast ++ [(revision, .traffic (waiting.mergeFrom traffic))]
  | _ => pending ++ [(revision, .traffic traffic)]

def submitTraffic (queue : PersistenceQueue) (traffic : TrafficSnapshot) :
    PersistenceQueue × Nat × Bool :=
  let revision := queue.nextRevision + 1
  ({ queue with
    nextRevision := revision
    pending := withTraffic queue.pending revision traffic
    workerRunning := true }, revision, !queue.workerRunning)

/-- Move the marks. -/
def complete (queue : PersistenceQueue) (revision : Nat) (successful : Bool) : PersistenceQueue :=
  { queue with
    processedRevision :=
      if revision ≥ queue.processedRevision then revision else queue.processedRevision
    successfulRevision :=
      if successful && revision ≥ queue.successfulRevision then revision
      else queue.successfulRevision }

end PersistenceQueue

/-- The queue and the last error, the update that the thread works on, the updates that
were written, and the revisions of all snapshots. -/
structure DatabasePersistence where
  queue : PersistenceQueue
  lastError : Option String
  current : Option (Nat × PersistenceUpdate)
  written : List (Nat × PersistenceUpdate)
  snapshots : List Nat

/-- What happens next: an update is submitted, or the thread takes one or is done with it,
perhaps with an error. -/
inductive Request
  | submit (snapshot : Database)
  | submitTraffic (traffic : TrafficSnapshot)
  | take
  | finish (error : Option String)

namespace DatabasePersistence

def new : DatabasePersistence := ⟨⟨0, 0, 0, [], false⟩, none, none, [], []⟩

variable (persistence : DatabasePersistence)

/-- Submit a snapshot. The answer is its revision. -/
def submit (snapshot : Database) : DatabasePersistence × Nat :=
  let (queue, revision, _) := persistence.queue.submitSnapshot snapshot
  ({ persistence with queue := queue, snapshots := persistence.snapshots ++ [revision] }, revision)

/-- Submit counters, unless there are none. -/
def submitTraffic (traffic : TrafficSnapshot) : DatabasePersistence × Nat :=
  if traffic.isEmpty then (persistence, 0)
  else
    let (queue, revision, _) := persistence.queue.submitTraffic traffic
    ({ persistence with queue := queue }, revision)

/-- The thread takes the oldest update when it is done with the one before. -/
def take : DatabasePersistence :=
  match persistence.current, persistence.queue.pending with
  | none, update :: rest =>
    { persistence with
      queue := { persistence.queue with pending := rest }
      current := some update }
  | _, _ => persistence

/-- The thread is done with an update. -/
def finish (error : Option String) : DatabasePersistence :=
  match persistence.current with
  | none => persistence
  | some update =>
    { persistence with
      queue := persistence.queue.complete update.1 error.isNone
      -- after a success the mark has reached the revision, and the old error is forgotten
      lastError := error
      current := none
      written := if error.isNone then persistence.written ++ [update] else persistence.written }

/-- What a caller who waits for a revision is told, if it is told something. -/
def wait (revision : Nat) : Option (Except String Unit) :=
  if persistence.queue.successfulRevision ≥ revision then some (.ok ())
  else if persistence.queue.processedRevision ≥ revision then
    some (.error (persistence.lastError.getD "database persistence failed"))
  else none

/-- The next state, and the revision that was returned. -/
def step : Request → DatabasePersistence × Nat
  | .submit snapshot => persistence.submit snapshot
  | .submitTraffic traffic => persistence.submitTraffic traffic
  | .take => (persistence.take, 0)
  | .finish error => (persistence.finish error, 0)

/-- A snapshot with this or a later revision was written. -/
def Covers (revision : Nat) : Prop :=
  ∃ update ∈ persistence.written, revision ≤ update.1 ∧ ∃ database, update.2 = .snapshot database

/-- Whoever waits for a snapshot is told only of success if it was written, or a later
one. -/
def Durable : Prop :=
  ∀ revision ∈ persistence.snapshots, persistence.wait revision = some (.ok ()) →
    persistence.Covers revision

/-- No revision is ahead of the counter. -/
structure Counted : Prop where
  successful : persistence.queue.successfulRevision ≤ persistence.queue.nextRevision
  pending : ∀ update ∈ persistence.queue.pending, update.1 ≤ persistence.queue.nextRevision
  current : ∀ update ∈ persistence.current, update.1 ≤ persistence.queue.nextRevision

/-- Counters are written only after the snapshots before them. -/
def InOrder : Request → Prop
  | .finish none => ∀ revision traffic, persistence.current = some (revision, .traffic traffic) →
    ∀ snapshot ∈ persistence.snapshots, snapshot ≤ revision → persistence.Covers snapshot
  | _ => True

end DatabasePersistence

/-! ## The marks -/

namespace DatabasePersistence

variable {persistence : DatabasePersistence}

theorem wait_ok_iff (revision : Nat) : persistence.wait revision = some (.ok ()) ↔
      revision ≤ persistence.queue.successfulRevision := by
  rw [wait]
  split
  · rename_i passed
    exact ⟨fun _ => passed, fun _ => rfl⟩
  rename_i behind
  constructor
  · intro told
    split at told
    · cases told
    · cases told
  · intro passed
    exact absurd passed behind

variable {revision : Nat}

theorem withTraffic_bounded {pending : List (Nat × PersistenceUpdate)} {bound : Nat}
    {traffic : TrafficSnapshot} (older : ∀ update ∈ pending, update.1 ≤ bound)
    (newer : revision ≤ bound) :
    ∀ update ∈ PersistenceQueue.withTraffic pending revision traffic, update.1 ≤ bound := by
  rw [PersistenceQueue.withTraffic]
  split
  · refine forall_mem_append.mpr ⟨?_, forall_mem_singleton.mpr newer⟩
    intro update member
    exact older update (dropLast_subset _ member)
  · exact forall_mem_append.mpr ⟨older, forall_mem_singleton.mpr newer⟩

/-- No step brings a revision ahead of the counter. -/
theorem Counted.step (counted : persistence.Counted) (request : Request) :
    (persistence.step request).1.Counted := by
  cases request with
  | submit snapshot =>
    refine ⟨Nat.le_succ_of_le counted.successful, ?_, ?_⟩
    · exact forall_mem_singleton.mpr (le_refl _)
    · intro update working
      exact Nat.le_succ_of_le (counted.current update working)
  | submitTraffic traffic =>
    rw [DatabasePersistence.step, DatabasePersistence.submitTraffic]
    split
    · exact counted
    refine ⟨Nat.le_succ_of_le counted.successful, ?_, ?_⟩
    · apply withTraffic_bounded _ (le_refl _)
      intro update waiting
      exact Nat.le_succ_of_le (counted.pending update waiting)
    · intro update working
      exact Nat.le_succ_of_le (counted.current update working)
  | take =>
    rw [DatabasePersistence.step, DatabasePersistence.take]
    split
    · rename_i update rest idle waiting
      have bounded := counted.pending
      rw [waiting] at bounded
      obtain ⟨first, others⟩ := forall_mem_cons.mp bounded
      refine ⟨counted.successful, others, ?_⟩
      intro taken same
      cases same
      exact first
    · exact counted
  | finish error =>
    rw [DatabasePersistence.step, DatabasePersistence.finish]
    split
    · exact counted
    rename_i update working
    refine ⟨?_, counted.pending, fun _ none => nomatch none⟩
    dsimp only [PersistenceQueue.complete]
    split
    · exact counted.current update working
    · exact counted.successful

theorem durable_congr {other : DatabasePersistence} (snapshots : other.snapshots = persistence.snapshots)
    (successful : other.queue.successfulRevision = persistence.queue.successfulRevision)
    (written : other.written = persistence.written) : other.Durable ↔ persistence.Durable := by
  simp only [Durable, wait_ok_iff, Covers, snapshots, successful, written]

theorem Covers.append (covers : persistence.Covers revision)
    {other : DatabasePersistence} {more : List (Nat × PersistenceUpdate)}
    (written : other.written = persistence.written ++ more) : other.Covers revision := by
  obtain ⟨update, member, later⟩ := covers
  refine ⟨update, ?_, later⟩
  rw [written]
  exact mem_append_left _ member

/-- A write that succeeds completes its revision. -/
theorem finish_ok {update : Nat × PersistenceUpdate} (working : persistence.current = some update) :
    persistence.finish none = { persistence with
      queue := persistence.queue.complete update.1 true
      lastError := none
      current := none
      written := persistence.written ++ [update] } := by
  rw [finish, working]
  rfl

section

variable (durable : persistence.Durable)

include durable

theorem Durable.submit (counted : persistence.Counted) (snapshot : Database) :
    (persistence.submit snapshot).1.Durable := by
  intro revision member told
  rw [wait_ok_iff] at told
  cases mem_append.mp member with
  | inl old => exact durable revision old ((wait_ok_iff revision).mpr told)
  | inr new =>
    rw [mem_singleton.mp new] at told
    have behind := counted.successful
    exact absurd (Nat.le_trans told behind) (Nat.not_succ_le_self _)

theorem Durable.wroteSnapshot {database : Database}
    (working : persistence.current = some (revision, .snapshot database)) :
    (persistence.finish none).Durable := by
  rw [finish_ok working]
  intro snapshot member told
  rw [wait_ok_iff] at told
  dsimp only [PersistenceQueue.complete] at told
  split at told
  · exact ⟨(revision, .snapshot database), mem_append_right _ mem_cons_self, told, database, rfl⟩
  · exact (durable snapshot member ((wait_ok_iff snapshot).mpr told)).append rfl

/-- Written counters are told as success for all snapshots before them. -/
theorem Durable.wroteTraffic_iff {traffic : TrafficSnapshot}
    (working : persistence.current = some (revision, .traffic traffic)) :
    (persistence.finish none).Durable ↔
      ∀ snapshot ∈ persistence.snapshots, snapshot ≤ revision → persistence.Covers snapshot := by
  rw [finish_ok working]
  constructor
  · intro after snapshot member before
    have told : snapshot ≤ (persistence.queue.complete revision true).successfulRevision := by
      dsimp only [PersistenceQueue.complete]
      split
      · exact before
      · rename_i behind
        simp only [Bool.true_and, decide_eq_true_eq] at behind
        omega
    obtain ⟨update, written, later, database, isSnapshot⟩ :=
      after snapshot member ((wait_ok_iff snapshot).mpr told)
    cases mem_append.mp written with
    | inl old => exact ⟨update, old, later, database, isSnapshot⟩
    | inr new =>
      rw [mem_singleton.mp new] at isSnapshot
      cases isSnapshot
  · intro covered snapshot member told
    rw [wait_ok_iff] at told
    dsimp only [PersistenceQueue.complete] at told
    split at told
    · exact (covered snapshot member told).append rfl
    · exact (durable snapshot member ((wait_ok_iff snapshot).mpr told)).append rfl

/-- Only written counters can break the promise. -/
theorem Durable.step_iff (counted : persistence.Counted) (request : Request) :
    (persistence.step request).1.Durable ↔ persistence.InOrder request := by
  cases request with
  | submit snapshot => exact ⟨fun _ => trivial, fun _ => durable.submit counted snapshot⟩
  | submitTraffic traffic =>
    refine ⟨fun _ => trivial, fun _ => ?_⟩
    rw [DatabasePersistence.step, DatabasePersistence.submitTraffic]
    split
    · exact durable
    · exact (durable_congr rfl rfl rfl).mpr durable
  | take =>
    refine ⟨fun _ => trivial, fun _ => ?_⟩
    rw [DatabasePersistence.step, DatabasePersistence.take]
    split
    · exact (durable_congr rfl rfl rfl).mpr durable
    · exact durable
  | finish error =>
    rw [DatabasePersistence.step]
    cases working : persistence.current with
    | none =>
      have idle : persistence.finish error = persistence := by rw [finish, working]
      rw [idle]
      refine ⟨fun _ => ?_, fun _ => durable⟩
      cases error with
      | some _ => trivial
      | none =>
        intro revision traffic working'
        rw [working] at working'
        cases working'
    | some update =>
      obtain ⟨revision, kind⟩ := update
      cases error with
      | some message =>
        refine ⟨fun _ => trivial, fun _ => (durable_congr ?_ ?_ ?_).mpr durable⟩
        · rw [finish, working]
        · rw [finish, working]
          rfl
        · rw [finish, working]
          rfl
      | none =>
        cases kind with
        | snapshot database =>
          refine ⟨fun _ => ?_, fun _ => durable.wroteSnapshot working⟩
          intro other traffic working'
          rw [working] at working'
          cases working'
        | traffic traffic =>
          rw [durable.wroteTraffic_iff working]
          constructor
          · intro covered other counters working'
            rw [working] at working'
            cases working'
            exact covered
          · intro inOrder
            exact inOrder revision traffic working

end

end DatabasePersistence

/-- In every run, whoever waits for a snapshot is told of success only if this or a later
snapshot was written, precisely if counters are written only when the snapshots before
them have been. -/
theorem acknowledged_iff_traffic_in_order (requests : List Request) :
    (∀ done rest, done ++ rest = requests → (final DatabasePersistence.step .new done).Durable) ↔
      Along DatabasePersistence.step DatabasePersistence.InOrder .new requests := by
  rw [← throughout_iff]
  refine throughout_iff_along DatabasePersistence.step DatabasePersistence.Counted
    DatabasePersistence.Durable (fun _ => True) DatabasePersistence.InOrder ?_ ?_ _ requests ?_ ?_ ?_
  · intro persistence request counted _ _ _
    exact counted.step request
  · intro persistence request counted durable _
    exact durable.step_iff counted request
  · exact ⟨le_refl 0, forall_mem_nil _, fun _ none => nomatch none⟩
  · intro revision member
    cases member
  · intro request _
    trivial

/-- A snapshot cannot be written; the counters behind it can. -/
def fullDisk : List Request :=
  [.submit ⟨[], [], 0, 0, ∅, ∅⟩, .take, .finish (some "disk full"),
    .submitTraffic ⟨some ⟨1, 0⟩, ∅, ∅⟩, .take, .finish none]

/-- The snapshot is lost, and its submitter is told that it was written. -/
theorem lost_snapshot_is_acknowledged : ¬ ∀ done rest, done ++ rest = fullDisk →
      (final DatabasePersistence.step .new done).Durable := by
  intro always
  have durable := always fullDisk [] (append_nil _)
  have submitted : 1 ∈ (final DatabasePersistence.step .new fullDisk).snapshots := by
    decide +kernel
  have told : (final DatabasePersistence.step .new fullDisk).wait 1 = some (.ok ()) := by
    rw [DatabasePersistence.wait_ok_iff]
    decide +kernel
  obtain ⟨update, member, _, database, isSnapshot⟩ := durable 1 submitted told
  have onlyTraffic : (final DatabasePersistence.step .new fullDisk).written.all (fun update =>
      match update.2 with
      | .snapshot _ => false
      | .traffic _ => true) = true := by
    decide +kernel
  have found := all_eq_true.mp onlyTraffic update member
  rw [isSnapshot] at found
  cases found

end Csqtt.Persistence
