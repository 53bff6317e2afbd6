import Csqtt.RepairMessages

/-!
# Rounds that are kept

The server keeps a round for every client with streams. When a client has gone, its round may be
dropped. The rounds of clients that were told everything are not: they are kept for ever, and only
those with something left to say are dropped after a minute.

A log says which clients had streams at which time. In every run, the kept rounds belong to clients
that have streams or had some less than a minute ago, precisely if no client stays away for a minute
after it was told everything.
-/

namespace Csqtt.Streams

open List Runs Table Bool Reconciler StreamRepairRound Option

/-- What is kept about streams, and which clients had streams when. -/
structure Watch where
  state : Reconciler := {}
  log : List (StreamIdentity × Nat) := []

/-- The clients with streams at a tick, and its time. -/
def Reconciler.present (state : Reconciler) (tick : Tick) : List (StreamIdentity × Nat) :=
  if state.isDue tick then (state.counted tick).rows.map fun row => (row.1, tick.now) else []

def Watch.step (watch : Watch) (tick : Tick) : Watch × Unit :=
  (⟨(watch.state.reconcileStreams tick).1, watch.log ++ watch.state.present tick⟩, ())

/-- After a tick, each kept round belongs to a client that has streams, or had some less than a minute
ago. -/
def KeepsRecent (watch : Watch) (tick : Tick) : Prop :=
  watch.state.isDue tick = true → ∀ row ∈ (watch.state.reconcileStreams tick).1.repairs.rows,
      ((watch.state.reconcileStreams tick).1.inventory.lookup row.1).isSome = true ∨
        ∃ entry ∈ watch.log, entry.1 = row.1 ∧ tick.now < entry.2 + streamRoundOrphanTtlMs

/-- Before a tick, each kept round belongs to a client that has streams now, has something left to
say, or was attended to less than a minute ago. -/
def UnfinishedOrRecent (watch : Watch) (tick : Tick) : Prop :=
  watch.state.isDue tick = true → ∀ row ∈ watch.state.repairs.rows,
      ((watch.state.counted tick).lookup row.1).isSome = true ∨ row.2.active = true ∨
        tick.now < row.2.lastSeenMs + streamRoundOrphanTtlMs

instance (watch : Watch) (tick : Tick) : Decidable (KeepsRecent watch tick) :=
  inferInstanceAs (Decidable (_ → ∀ _ ∈ _, _ ∨ ∃ _ ∈ _, _))

/-! ## Times -/

theorem attend_lastSeenMs (now : Nat) (identity : StreamIdentity) (streams : StreamInventory)
    (round : Option StreamRepairRound) : (attend now identity streams round).1.lastSeenMs = now := by
  unfold attend
  dsimp only
  split
  · unfold alivePayload recovered
    split
    · split
      · rfl
      · rfl
    · split
      · rfl
      · rfl
  · unfold repairPayload observed
    dsimp only
    split
    · split
      · rfl
      · split
        · rfl
        · rfl
    · split
      · rfl
      · split
        · rfl
        · rfl

namespace Reconciler

variable {state : Reconciler} {tick : Tick} {identity : StreamIdentity}

section

variable (due : state.isDue tick = true)

include due

theorem isDue_le : state.lastReconcileMs ≤ tick.now := by
  rw [isDue, decide_eq_true_eq] at due
  unfold streamReconcileIntervalMs at due
  omega

theorem repairs_attended {streams : StreamInventory}
    (found : (state.counted tick).lookup identity = some streams) :
    ∃ round, (state.reconcileStreams tick).1.repairs.lookup identity = some round ∧
      round.lastSeenMs = tick.now := by
  have visited := state.visit_lookup tick identity
  rw [found] at visited
  refine ⟨_, ?_, attend_lastSeenMs tick.now identity streams (state.repairs.lookup identity)⟩
  rw [reconcileStreams, if_pos due]
  rw [lookup_retain, visited.1, filter_some, found, isSome_some, Bool.true_or,
    Bool.true_or, if_pos rfl]

/-- The round of a client without streams is kept as it is if there is nothing left to say, or if the
client was attended to less than a minute ago. -/
theorem repairs_unattended (missing : (state.counted tick).lookup identity = none) :
    (state.reconcileStreams tick).1.repairs.lookup identity =
      (state.repairs.lookup identity).filter fun round => !round.active ||
        decide (tick.now - round.lastSeenMs < streamRoundOrphanTtlMs) := by
  have visited := state.visit_lookup tick identity
  rw [missing] at visited
  rw [reconcileStreams, if_pos due]
  rw [lookup_retain, visited.1, missing, isSome_none]
  simp

theorem inventory_reconciled : (state.reconcileStreams tick).1.inventory = state.counted tick := by
  rw [reconcileStreams, if_pos due]

theorem mem_present {entry : StreamIdentity × Nat} : entry ∈ state.present tick ↔
      ((state.counted tick).lookup entry.1).isSome = true ∧ entry.2 = tick.now := by
  rw [present, if_pos due, List.mem_map]
  constructor
  · rintro ⟨row, member, rfl⟩
    rw [mem_rows.mp member]
    exact ⟨rfl, rfl⟩
  · rintro ⟨some, time⟩
    obtain ⟨streams, found⟩ := isSome_iff_exists.mp some
    exact ⟨(entry.1, streams), mem_rows.mpr found, Prod.ext rfl time.symm⟩

end

end Reconciler

namespace Watch

variable {watch : Watch} {tick : Tick}

/-- The log knows when the client of a kept round was attended to, and of no later time. -/
structure Logged (watch : Watch) : Prop where
  noted : ∀ identity round, watch.state.repairs.lookup identity = some round →
    (identity, round.lastSeenMs) ∈ watch.log
  past : ∀ entry ∈ watch.log, entry.2 ≤ watch.state.lastReconcileMs
  latest : ∀ entry ∈ watch.log, ∀ round, watch.state.repairs.lookup entry.1 = some round →
    entry.2 ≤ round.lastSeenMs

theorem Logged.initial : Logged {} := by
  refine ⟨?_, forall_mem_nil _, forall_mem_nil _⟩
  intro identity round found
  cases found

theorem Logged.due (logged : watch.Logged) (due : watch.state.isDue tick = true) :
    (watch.step tick).1.Logged := by
  have later := isDue_le due
  have reached : (watch.step tick).1.state.lastReconcileMs = tick.now := by
    rw [step, reconcileStreams, if_pos due]
  have past : ∀ entry ∈ (watch.step tick).1.log, entry.2 ≤ tick.now := by
    intro entry member
    rcases mem_append.mp member with old | new
    · exact (logged.past entry old).trans later
    · exact le_of_eq ((mem_present due).mp new).2
  refine ⟨?_, ?_, ?_⟩
  · intro identity round found
    cases listed : (watch.state.counted tick).lookup identity with
    | some streams =>
      obtain ⟨kept, stored, time⟩ := repairs_attended due listed
      cases stored.symm.trans found
      refine mem_append_right _ ((mem_present due).mpr ⟨?_, time⟩)
      rw [listed]
      rfl
    | none =>
      have stored := (repairs_unattended due listed).symm.trans found
      exact mem_append_left _ (logged.noted identity round (filter_eq_some_iff.mp stored).1)
  · rw [reached]
    exact past
  · intro entry member round found
    cases listed : (watch.state.counted tick).lookup entry.1 with
    | some streams =>
      obtain ⟨kept, stored, time⟩ := repairs_attended due listed
      cases stored.symm.trans found
      rw [time]
      exact past entry member
    | none =>
      have stored := (repairs_unattended due listed).symm.trans found
      rcases mem_append.mp member with old | new
      · exact logged.latest entry old round (filter_eq_some_iff.mp stored).1
      · have here := ((mem_present due).mp new).1
        rw [listed] at here
        cases here

theorem Logged.next (logged : watch.Logged) (tick : Tick) : (watch.step tick).1.Logged := by
  cases due : watch.state.isDue tick with
  | true => exact logged.due due
  | false =>
    have idle : (watch.step tick).1.log = watch.log := by
      rw [step, present, due]
      exact append_nil _
    have kept : (watch.step tick).1.state.repairs = watch.state.repairs ∧
        (watch.step tick).1.state.lastReconcileMs = watch.state.lastReconcileMs := by
      rw [step, reconcileStreams, due]
      exact ⟨rfl, rfl⟩
    refine ⟨?_, ?_, ?_⟩
    · rw [idle, kept.1]
      exact logged.noted
    · rw [idle, kept.2]
      exact logged.past
    · rw [idle, kept.1]
      exact logged.latest

/-- After a tick the kept rounds are recent precisely if those before it are, or are unfinished. -/
theorem Logged.decided (logged : watch.Logged) (tick : Tick) :
    KeepsRecent watch tick ↔ UnfinishedOrRecent watch tick := by
  refine forall_congr' fun due => ?_
  rw [inventory_reconciled due]
  constructor
  · rintro recent ⟨identity, round⟩ member
    have stored := mem_rows.mp member
    cases listed : (watch.state.counted tick).lookup identity with
    | some streams => exact .inl rfl
    | none =>
      refine .inr ?_
      by_contra finished
      obtain ⟨inactive, old⟩ := not_or.mp finished
      have kept : (watch.state.reconcileStreams tick).1.repairs.lookup identity = some round := by
        rw [repairs_unattended due listed, stored, filter_some, eq_false_of_not_eq_true inactive]
        rfl
      rcases recent (identity, round) (mem_rows.mpr kept) with here | ⟨entry, noted, rfl, late⟩
      · rw [listed] at here
        cases here
      · have latest := logged.latest entry noted round stored
        dsimp only at old
        omega
  · rintro unfinished ⟨identity, round⟩ member
    have kept := mem_rows.mp member
    cases listed : (watch.state.counted tick).lookup identity with
    | some streams => exact .inl rfl
    | none =>
      rw [repairs_unattended due listed, filter_eq_some_iff, or_eq_true,
        not_eq_true', decide_eq_true_eq] at kept
      obtain ⟨stored, spared⟩ := kept
      refine .inr ⟨_, logged.noted identity round stored, rfl, ?_⟩
      have before := unfinished (identity, round) (mem_rows.mpr stored)
      rw [listed] at before
      rcases before with here | active | late
      · cases here
      · rcases spared with inactive | late
        · rw [active] at inactive
          cases inactive
        · dsimp only at late ⊢
          omega
      · exact late

end Watch

/-- In every run, after every tick the kept rounds belong to clients that have streams or had some less
than a minute ago, precisely if at every tick each kept round whose client has no streams has
something left to say or belongs to a client that was attended to less than a minute ago. -/
theorem rounds_recent_iff_unfinished (ticks : List Tick) : Along Watch.step KeepsRecent {} ticks ↔
      Along Watch.step UnfinishedOrRecent {} ticks :=
  along_iff_of_step _ Watch.Logged KeepsRecent UnfinishedOrRecent
    (fun _ tick logged => logged.decided tick) (fun _ tick logged _ => logged.next tick) _ ticks
    Watch.Logged.initial

namespace Sample

/-- A client has its only stream, and goes away. -/
def goneClient : List Tick :=
  [⟨3001, true, [(0, ⟨1, streamIdentity, 1, true, 1⟩)]⟩, ⟨6001, true, []⟩, ⟨3606001, true, []⟩]

end Sample

open Sample

/-- After an hour the round of the client is still kept. -/
theorem gone_client_is_kept : (final Watch.step {} goneClient).log = [(streamIdentity, 3001)] ∧
      (final Watch.step {} goneClient).state.repairs.keys = [streamIdentity] ∧
      (final Watch.step {} goneClient).state.inventory.keys = [] ∧
      ¬ Along Watch.step KeepsRecent {} goneClient := by
  refine ⟨by decide +kernel, by decide +kernel, by decide +kernel, by decide +kernel⟩

end Csqtt.Streams
