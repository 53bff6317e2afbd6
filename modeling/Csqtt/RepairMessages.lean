import Csqtt.StreamReconcile

/-!
# Messages that a client understands

A client refuses a message that names a stream beyond the number of streams in it. A report takes both
from the same tick. A message that streams are back does not: the streams are those that were missing
before, and the number is that of the newest session now. If a client wants fewer streams than before
and has all of them, the message may name a stream that is no longer wanted, and the client refuses it
as a whole.

In every run, all messages are understood precisely if this never happens.
-/

namespace Csqtt.Streams

open Bytes ControlText List Runs Option Table Bool StreamRepairRound

/-- A client reads from a message what the server has put into it: what the log says of a report, and
what the round keeps about streams that are back. -/
def Understood (round : StreamRepairRound) (action : StreamControlAction) : Prop :=
  match action.repair with
  | some log => parseStreamRepair action.payload = some ⟨log.sequence, log.desiredCount, log.missing⟩
  | none =>
    parseStreamAlive action.payload = some ⟨round.sequence, round.aliveDesiredCount, round.aliveIds⟩

instance (round : StreamRepairRound) : ∀ action, Decidable (Understood round action)
  | ⟨_, _, some _⟩ | ⟨_, _, none⟩ => inferInstanceAs (Decidable (_ = _))

/-- If no stream of a client is missing, those that were missing are still wanted. -/
def StillWanted (streams : StreamInventory) (round : StreamRepairRound) : Prop :=
  streams.fillMissing = [] → ∀ workerId ∈ round.lastMissing, workerId ≤ streams.desiredCount

instance (streams : StreamInventory) (round : StreamRepairRound) :
    Decidable (StillWanted streams round) :=
  inferInstanceAs (Decidable (_ → ∀ _ ∈ _, _))

/-- All messages of a tick are understood. -/
def TickUnderstood (state : Reconciler) (tick : Tick) : Prop :=
  ∀ entry ∈ (state.reconcileStreams tick).2,
    Understood ((state.reconcileStreams tick).1.roundOf entry.1) entry.2

instance (state : Reconciler) (tick : Tick) : Decidable (TickUnderstood state tick) :=
  inferInstanceAs (Decidable (∀ _ ∈ _, _))

/-- No client that has all of its streams has lost interest in one that was missing. -/
def TickStillWanted (state : Reconciler) (tick : Tick) : Prop :=
  state.isDue tick = true →
    ∀ row ∈ (state.counted tick).rows, StillWanted row.2 (state.roundOf row.1)

instance (state : Reconciler) (tick : Tick) : Decidable (TickStillWanted state tick) :=
  inferInstanceAs (Decidable (_ → ∀ _ ∈ _, _))

/-! ## Rounds -/

theorem parseStreamCommand_within {payload kind : List UInt8} {command : StreamRepairCommand}
    (parsed : parseStreamCommand payload kind = some command) :
    ∀ workerId ∈ command.workerIds, workerId ≤ command.desiredCount := by
  unfold parseStreamCommand at parsed
  split at parsed
  · dsimp only at parsed
    split at parsed
    · cases parsed
    split at parsed
    · cases parsed
    split at parsed
    · cases parsed
    split at parsed
    · cases parsed
    rename_i within _
    cases parsed
    intro workerId member
    by_contra large
    refine within (any_eq_true.mpr ⟨workerId, member, ?_⟩)
    rw [or_eq_true, decide_eq_true_eq]
    exact .inr (UInt16.not_le.mp large)
  · cases parsed

/-- What a round keeps can be put into a message. -/
structure Speakable (round : StreamRepairRound) : Prop where
  numbered : round.lastMissing ≠ [] ∨ round.aliveIds ≠ [] → 0 < round.sequence.toNat
  missing : round.lastMissing.length ≤ maxStreamWorkers ∧
    ∀ workerId ∈ round.lastMissing, 0 < workerId.toNat
  alive : round.aliveIds ≠ [] →
    StreamRepairCommand.Valid ⟨round.sequence, round.aliveDesiredCount, round.aliveIds⟩

theorem nextSequence_pos (sequence : UInt64) : 0 < (nextSequence sequence).toNat := by
  have one : (1 : UInt64).toNat = 1 := rfl
  rw [nextSequence, toNat_max, one]
  omega

namespace Speakable

variable {round : StreamRepairRound} {now : Nat}

theorem initial : Speakable {} := by
  refine ⟨?_, ⟨Nat.zero_le _, forall_mem_nil _⟩, fun some => absurd rfl some⟩
  rintro (some | some)
  · exact absurd rfl some
  · exact absurd rfl some

section

variable (speakable : Speakable round)

include speakable

theorem seen (now : Nat) : Speakable { round with lastSeenMs := now } :=
  ⟨speakable.numbered, speakable.missing, speakable.alive⟩

theorem observed {missing : List UInt16} (few : missing.length ≤ maxStreamWorkers)
    (positive : ∀ workerId ∈ missing, 0 < workerId.toNat) :
    Speakable (round.observed missing now) := by
  unfold StreamRepairRound.observed
  split
  · exact speakable
  · exact ⟨fun _ => nextSequence_pos _, ⟨few, positive⟩, fun some => absurd rfl some⟩

theorem renumbered {sequence : UInt64} (lastSentMs : Nat)
    (positive : round.lastMissing ≠ [] ∨ round.aliveIds ≠ [] → 0 < sequence.toNat) :
    Speakable { round with sequence := sequence, lastSentMs := lastSentMs } := by
  refine ⟨positive, speakable.missing, ?_⟩
  intro some
  have valid := speakable.alive some
  exact ⟨positive (.inr some), valid.desired, valid.named, valid.few, valid.within⟩

theorem recovered {desiredCount : UInt16} (desired : IsStreamCount desiredCount)
    (wanted : ∀ workerId ∈ round.lastMissing, workerId ≤ desiredCount) :
    Speakable (round.recovered desiredCount now) := by
  unfold StreamRepairRound.recovered
  split
  · exact speakable
  rename_i some
  have numbered := speakable.numbered (.inl some)
  refine ⟨fun _ => numbered, ⟨Nat.zero_le _, forall_mem_nil _⟩, fun _ => ?_⟩
  refine ⟨numbered, desired, some, speakable.missing.1, ?_⟩
  intro workerId member
  exact ⟨speakable.missing.2 workerId member, UInt16.le_iff_toNat_le.mp (wanted workerId member)⟩

theorem told : Speakable (round.alivePayload now).1 := by
  unfold alivePayload
  split
  · exact speakable
  · exact ⟨speakable.numbered, speakable.missing, speakable.alive⟩

end

end Speakable

/-! ## Messages of a round -/

section Messages

variable {round : StreamRepairRound} {streams : StreamInventory} {now : Nat}

theorem Speakable.alive_understood (speakable : Speakable round) (carriers : List Nat) :
    ∀ payload ∈ (round.alivePayload now).2,
      Understood (round.alivePayload now).1 ⟨carriers, payload, none⟩ := by
  unfold alivePayload
  split
  · intro payload sent
    cases sent
  · rename_i talks
    rintro payload ⟨⟩
    exact (speakable.alive fun none => talks (.inl none)).read streamAlivePrefix

theorem alivePayload_recovered {desiredCount : UInt16} (some : round.lastMissing ≠ []) :
    (round.recovered desiredCount now).alivePayload now =
      ({ round.recovered desiredCount now with aliveSent := 1, aliveSentMs := now },
        .some (streamControlPayload streamAlivePrefix round.sequence desiredCount
          round.lastMissing)) := by
  rw [StreamRepairRound.recovered, if_neg some, alivePayload, if_neg]
  · rfl
  · rintro (none | often | early)
    · exact some none
    · have never : streamAliveRepeat ≤ 0 := often
      exact absurd never (by decide)
    · exact early.1 rfl

theorem Speakable.back (speakable : Speakable round) (now : Nat)
    (desired : IsStreamCount streams.desiredCount) (complete : streams.fillMissing = []) :
    ((∀ payload ∈ ((round.recovered streams.desiredCount now).alivePayload now).2,
        Understood ((round.recovered streams.desiredCount now).alivePayload now).1
          ⟨streams.carriers, payload, none⟩) ↔ StillWanted streams round) ∧
      (StillWanted streams round →
        Speakable ((round.recovered streams.desiredCount now).alivePayload now).1) := by
  have kept : StillWanted streams round → Speakable (round.recovered streams.desiredCount now) :=
    fun wanted => speakable.recovered desired (wanted complete)
  refine ⟨⟨?_, fun wanted => (kept wanted).alive_understood streams.carriers⟩,
    fun wanted => (kept wanted).told⟩
  intro understood _
  by_cases none : round.lastMissing = []
  · rw [none]
    exact forall_mem_nil _
  rw [alivePayload_recovered none] at understood
  have parsed := understood _ rfl
  rw [Understood, StreamRepairRound.recovered, if_neg none] at parsed
  exact parseStreamCommand_within parsed

/-- A report of missing streams is always understood. -/
theorem Speakable.report (speakable : Speakable round) (now : Nat)
    (desired : IsStreamCount streams.desiredCount) (some : streams.fillMissing ≠ [])
    (identity : StreamIdentity) (other : StreamRepairRound) :
    let result := round.repairPayload streams.fillMissing streams.desiredCount now
    Speakable result.1 ∧ ∀ payload ∈ result.2, Understood other ⟨streams.carriers, payload,
      .some ⟨identity.deviceId, identity.generationId, streams.desiredCount, result.1.sequence,
        streams.fillMissing⟩⟩ := by
  have positive : ∀ workerId ∈ streams.fillMissing, 0 < workerId.toNat :=
    fun workerId missing => (StreamInventory.mem_fillMissing missing).1
  have observed : Speakable (round.observed streams.fillMissing now) :=
    speakable.observed streams.length_fillMissing positive
  have missing := round.lastMissing_observed streams.fillMissing now
  unfold repairPayload
  dsimp only
  split
  · refine ⟨observed, ?_⟩
    intro payload sent
    cases sent
  split
  · refine ⟨observed, ?_⟩
    intro payload sent
    cases sent
  have numbered : 0 < (if (round.observed streams.fillMissing now).lastSentMs ≠ 0 then
      nextSequence (round.observed streams.fillMissing now).sequence
      else (round.observed streams.fillMissing now).sequence).toNat := by
    split
    · exact nextSequence_pos _
    · refine observed.numbered (.inl ?_)
      rw [missing]
      exact some
  refine ⟨observed.renumbered now fun _ => numbered, ?_⟩
  rintro payload ⟨⟩
  rw [missing]
  have valid : StreamRepairCommand.Valid ⟨_, streams.desiredCount, streams.fillMissing⟩ :=
    ⟨numbered, desired, some, streams.length_fillMissing,
      fun workerId missing => StreamInventory.mem_fillMissing missing⟩
  exact valid.parse

/-- Attending to a client: its message is understood precisely if the streams that were missing are
still wanted, and the round can go on then. -/
theorem Speakable.attend {round : Option StreamRepairRound} (speakable : Speakable (round.getD {}))
    (desired : IsStreamCount streams.desiredCount) (identity : StreamIdentity) :
    let result := Streams.attend now identity streams round
    ((∀ action ∈ result.2, Understood result.1 action) ↔ StillWanted streams (round.getD {})) ∧
      (StillWanted streams (round.getD {}) → Speakable result.1) := by
  have seen := speakable.seen now
  unfold Streams.attend
  dsimp only
  split
  · rename_i complete
    have back := seen.back now desired complete
    refine ⟨Iff.trans ?_ back.1, back.2⟩
    simp
  · rename_i some
    obtain ⟨kept, understood⟩ := seen.report now desired some identity
      (repairPayload { round.getD {} with lastSeenMs := now } streams.fillMissing
        streams.desiredCount now).1
    refine ⟨⟨fun _ complete => absurd complete some, fun _ => ?_⟩, fun _ => kept⟩
    simp only [Option.mem_map, forall_exists_index, and_imp, forall_apply_eq_imp_iff₂]
    exact understood

end Messages

/-! ## Ticks -/

namespace Reconciler

variable {state : Reconciler} {tick : Tick} {identity : StreamIdentity}

/-- A tick attends to a client with streams: its round goes on, and this is what it is told. -/
theorem reconcile_attended (due : state.isDue tick = true) {streams : StreamInventory}
    (found : (state.counted tick).lookup identity = some streams) :
    (state.reconcileStreams tick).1.roundOf identity =
        (attend tick.now identity streams (state.repairs.lookup identity)).1 ∧
      ∀ action, (identity, action) ∈ (state.reconcileStreams tick).2 ↔
        action ∈ (attend tick.now identity streams (state.repairs.lookup identity)).2 := by
  have visited := state.visit_lookup tick identity
  rw [found] at visited
  obtain ⟨round, actions⟩ := visited
  rw [reconcileStreams, if_pos due]
  constructor
  · rw [roundOf]
    rw [lookup_retain, round, filter_some, found, isSome_some, Bool.true_or,
      Bool.true_or, if_pos rfl, getD_some]
  · intro action
    rw [mem_def, ← mem_toList, ← actions, mem_filterMap]
    constructor
    · intro member
      exact ⟨(identity, action), member, if_pos rfl⟩
    · rintro ⟨⟨other, sent⟩, member, same⟩
      split at same
      · rename_i name
        cases same
        cases name
        exact member
      · cases same

theorem reconcile_unattended (due : state.isDue tick = true)
    (missing : (state.counted tick).lookup identity = none) :
    ((state.reconcileStreams tick).1.roundOf identity = state.roundOf identity ∨
        (state.reconcileStreams tick).1.roundOf identity = {}) ∧
      ∀ action, (identity, action) ∉ (state.reconcileStreams tick).2 := by
  have visited := state.visit_lookup tick identity
  rw [missing] at visited
  obtain ⟨round, actions⟩ := visited
  rw [reconcileStreams, if_pos due]
  constructor
  · rw [roundOf, roundOf]
    rw [lookup_retain, round]
    cases state.repairs.lookup identity with
    | none => exact .inl rfl
    | some kept =>
      rw [filter_some]
      split
      · exact .inl rfl
      · exact .inr rfl
  · intro action member
    have nothing := filterMap_eq_nil_iff.mp actions (identity, action) member
    rw [if_pos rfl] at nothing
    cases nothing

/-- All that is kept can be put into messages. -/
structure Tellable (state : Reconciler) : Prop where
  sound : state.Sound
  rounds : ∀ identity, Speakable (state.roundOf identity)

theorem Tellable.initial : Tellable {} := by
  refine ⟨?_, fun identity => Speakable.initial⟩
  intro identity streams found
  cases found

theorem Tellable.attend (tellable : state.Tellable) {streams : StreamInventory}
    (found : (state.counted tick).lookup identity = some streams) :
    let result := Streams.attend tick.now identity streams (state.repairs.lookup identity)
    ((∀ action ∈ result.2, Understood result.1 action) ↔
        StillWanted streams (state.roundOf identity)) ∧
      (StillWanted streams (state.roundOf identity) → Speakable result.1) :=
  (tellable.rounds identity).attend ((tellable.sound.counted tick identity).2 streams found) identity

/-- The messages of a tick are understood precisely if all streams that were missing are still
wanted. -/
theorem Tellable.decided (tellable : state.Tellable) (tick : Tick) :
    TickUnderstood state tick ↔ TickStillWanted state tick := by
  cases due : state.isDue tick with
  | false =>
    have silent : (state.reconcileStreams tick).2 = [] := by
      rw [reconcileStreams, if_neg (eq_false_iff.mp due)]
    rw [TickUnderstood, TickStillWanted, silent, due]
    exact ⟨fun _ now => absurd now false_ne_true, fun _ => forall_mem_nil _⟩
  | true =>
    rw [TickStillWanted, due]
    constructor
    · rintro understood - ⟨identity, streams⟩ member
      have found := mem_rows.mp member
      obtain ⟨round, actions⟩ := reconcile_attended due found
      refine (tellable.attend found).1.mp ?_
      intro action sent
      rw [← round]
      exact understood (identity, action) ((actions action).mpr sent)
    · rintro wanted ⟨identity, action⟩ sent
      cases found : (state.counted tick).lookup identity with
      | none => exact absurd sent ((reconcile_unattended due found).2 action)
      | some streams =>
        obtain ⟨round, actions⟩ := reconcile_attended due found
        have listed : (identity, streams) ∈ (state.counted tick).rows := mem_rows.mpr found
        rw [round]
        exact (tellable.attend found).1.mpr (wanted rfl _ listed) action ((actions action).mp sent)

/-- Then all that is kept can still be put into messages. -/
theorem Tellable.next (tellable : state.Tellable) (wanted : TickStillWanted state tick) :
    (state.reconcileStreams tick).1.Tellable := by
  cases due : state.isDue tick with
  | false =>
    rw [reconcileStreams, if_neg (eq_false_iff.mp due)]
    exact ⟨tellable.sound, tellable.rounds⟩
  | true =>
    constructor
    · rw [reconcileStreams, if_pos due]
      exact fun identity => (tellable.sound.counted tick identity).2
    · intro identity
      cases found : (state.counted tick).lookup identity with
      | none =>
        rcases (reconcile_unattended due found).1 with kept | dropped
        · rw [kept]
          exact tellable.rounds identity
        · rw [dropped]
          exact .initial
      | some streams =>
        have listed : (identity, streams) ∈ (state.counted tick).rows := mem_rows.mpr found
        rw [(reconcile_attended due found).1]
        exact (tellable.attend found).2 (wanted due _ listed)

end Reconciler

/-- In every run, each message about streams is understood as it was meant, precisely if no client
that has all of its streams has lost interest in one that was missing. -/
theorem messages_understood_iff_still_wanted (ticks : List Tick) :
    Along Reconciler.reconcileStreams TickUnderstood {} ticks ↔
      Along Reconciler.reconcileStreams TickStillWanted {} ticks :=
  along_iff_of_step _ Reconciler.Tellable TickUnderstood TickStillWanted
    (fun _ tick tellable => tellable.decided tick) (fun _ _ tellable => tellable.next) _ ticks
    Reconciler.Tellable.initial

namespace Sample

/-- The client wants three streams and has the first. Then it wants two, and has them. -/
def fewerStreams : List Tick :=
  [⟨3001, true, [(0, ⟨1, streamIdentity, 3, true, 1⟩)]⟩,
    ⟨33001, true, [(0, ⟨1, streamIdentity, 3, true, 1⟩)]⟩,
    ⟨36001, true, [(0, ⟨1, streamIdentity, 3, true, 1⟩), (1, ⟨2, streamIdentity, 2, true, 2⟩)]⟩]

end Sample

/-- The second and the third stream were reported. The message that both are back names two wanted
streams, and the client refuses it: it does not learn that the second stream is back. -/
theorem fewer_streams_are_not_understood :
    ((outputs Reconciler.reconcileStreams {} Sample.fewerStreams).flatten.map fun entry =>
        (entry.2.payload, parseStreamRepair entry.2.payload, parseStreamAlive entry.2.payload)) =
      [(streamControlPayload streamRepairPrefix 1 3 [2, 3], some ⟨1, 3, [2, 3]⟩, none),
        (streamControlPayload streamAlivePrefix 1 2 [2, 3], none, none)] ∧
      ¬ Along Reconciler.reconcileStreams TickUnderstood {} Sample.fewerStreams := by
  exact ⟨by decide +kernel, by decide +kernel⟩

end Csqtt.Streams
