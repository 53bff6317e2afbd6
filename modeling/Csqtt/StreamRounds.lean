import Csqtt.PayloadKinds
import Csqtt.Runs

/-!
# Rounds of stream repair

A client has several streams. If some are missing for a while, the server tells the client which ones,
and tells it again with a larger sequence number if they stay missing. When all are back, the server
says so twice.

A round keeps what was sent and when. Times of zero stand for "not yet". What a round may send is said
from the outside: an observer sees the calls and the payloads, but not the round. A payload is justified
if it is due and right by what the observer has seen. Every payload of every round is justified, as
long as times are positive and the sequence number does not wrap around.
-/

namespace Csqtt.Streams

open Bytes ControlText List Runs

def streamRepairGraceMs : Nat := 30000
def streamRepairEscalateMs : Nat := 60000
def streamAliveIntervalMs : Nat := 10000
def streamAliveRepeat : Nat := 2

/-! ## Payloads -/

/-- A message about streams: its kind, a sequence number, the number of streams that there should be,
and up to 255 streams. -/
def streamControlPayload (kind : Text) (sequence : UInt64) (desiredCount : UInt16)
    (workerIds : List UInt16) : List UInt8 :=
  let count := min workerIds.length 255
  kind ++ (toBe 8 sequence.toNat ++ (toBe 2 desiredCount.toNat ++ (UInt8.ofNat count ::
    (workerIds.take count).flatMap fun workerId => toBe 2 workerId.toNat)))

/-- Numbers of two bytes each. What is left over is ignored. -/
def readWorkers : List UInt8 → List UInt16
  | first :: second :: rest => UInt16.ofNat (fromBe [first, second]) :: readWorkers rest
  | _ => []

/-- The sequence number of a message. -/
def sequenceOf (kind : Text) (payload : List UInt8) : Nat :=
  fromBe (slice payload kind.length (kind.length + 8))

/-- The streams that a message names. -/
def namedWorkers (kind : Text) (payload : List UInt8) : List UInt16 :=
  readWorkers (payload.drop (kind.length + 11))

section Payloads

variable (kind : Text) (sequence : UInt64) (desiredCount : UInt16) (workerIds : List UInt16)

@[simp] theorem sequenceOf_payload :
    sequenceOf kind (streamControlPayload kind sequence desiredCount workerIds) = sequence.toNat := by
  have read : slice (streamControlPayload kind sequence desiredCount workerIds) kind.length
      (kind.length + 8) = toBe 8 sequence.toNat :=
    slice_eq_middle _ kind (toBe 8 sequence.toNat) _ _ _ rfl rfl (by rw [toBe_length])
  rw [sequenceOf, read]
  exact fromBe_u64 sequence

theorem readWorkers_written (ids : List UInt16) :
    readWorkers (ids.flatMap fun workerId => toBe 2 workerId.toNat) = ids := by
  induction ids with
  | nil => rfl
  | cons workerId rest ih =>
    have read := fromBe_u16 workerId
    have two : toBe 2 workerId.toNat =
        [UInt8.ofNat (workerId.toNat / 256), UInt8.ofNat workerId.toNat] := rfl
    rw [two] at read
    rw [flatMap_cons, two, cons_append, cons_append, nil_append, readWorkers, read,
      UInt16.ofNat_toNat, ih]

theorem namedWorkers_payload (few : workerIds.length ≤ 255) :
    namedWorkers kind (streamControlPayload kind sequence desiredCount workerIds) = workerIds := by
  have header : (kind ++ toBe 8 sequence.toNat ++ toBe 2 desiredCount.toNat ++
      [UInt8.ofNat workerIds.length]).length = kind.length + 11 := by simp
  have whole : streamControlPayload kind sequence desiredCount workerIds =
      (kind ++ toBe 8 sequence.toNat ++ toBe 2 desiredCount.toNat ++ [UInt8.ofNat workerIds.length]) ++
        workerIds.flatMap fun workerId => toBe 2 workerId.toNat := by
    rw [streamControlPayload, Nat.min_eq_left few, take_length]
    simp
  rw [namedWorkers, whole, ← header, drop_left]
  exact readWorkers_written workerIds

end Payloads

/-! ## Rounds -/

structure StreamRepairRound where
  sequence : UInt64 := 0
  lastMissing : List UInt16 := []
  firstMissingMs : Nat := 0
  lastSentMs : Nat := 0
  aliveIds : List UInt16 := []
  aliveDesiredCount : UInt16 := 0
  aliveSentMs : Nat := 0
  aliveSent : Nat := 0
  lastSeenMs : Nat := 0
deriving DecidableEq, Repr

/-- The next sequence number, which is never zero. -/
def nextSequence (sequence : UInt64) : UInt64 := max (sequence + 1) 1

namespace StreamRepairRound

/-- Other streams than before are missing. -/
def observed (round : StreamRepairRound) (missing : List UInt16) (now : Nat) : StreamRepairRound :=
  if missing = round.lastMissing then round
  else
    { round with
      sequence := nextSequence round.sequence
      lastMissing := missing
      firstMissingMs := now
      lastSentMs := 0
      aliveIds := []
      aliveSent := 0 }

/-- Streams are missing. -/
def repairPayload (round : StreamRepairRound) (missing : List UInt16) (desiredCount : UInt16)
    (now : Nat) : StreamRepairRound × Option (List UInt8) :=
  let round := round.observed missing now
  if now - round.firstMissingMs < streamRepairGraceMs then (round, none)
  else if round.lastSentMs ≠ 0 ∧ now - round.lastSentMs < streamRepairEscalateMs then (round, none)
  else
    let sequence := if round.lastSentMs ≠ 0 then nextSequence round.sequence else round.sequence
    ({ round with sequence := sequence, lastSentMs := now },
      some (streamControlPayload streamRepairPrefix sequence desiredCount round.lastMissing))

/-- No stream is missing. -/
def recovered (round : StreamRepairRound) (desiredCount : UInt16) (now : Nat) : StreamRepairRound :=
  if round.lastMissing = [] then round
  else
    { round with
      aliveIds := round.lastMissing
      lastMissing := []
      aliveDesiredCount := desiredCount
      aliveSentMs := 0
      aliveSent := 0
      firstMissingMs := now
      lastSentMs := 0 }

/-- Tell that streams are back. -/
def alivePayload (round : StreamRepairRound) (now : Nat) : StreamRepairRound × Option (List UInt8) :=
  if round.aliveIds = [] ∨ streamAliveRepeat ≤ round.aliveSent ∨
      (round.aliveSentMs ≠ 0 ∧ now - round.aliveSentMs < streamAliveIntervalMs) then (round, none)
  else
    ({ round with aliveSent := min (round.aliveSent + 1) 255, aliveSentMs := now },
      some (streamControlPayload streamAlivePrefix round.sequence round.aliveDesiredCount
        round.aliveIds))

/-- There is something left to say. -/
def active (round : StreamRepairRound) : Bool :=
  !round.lastMissing.isEmpty || (!round.aliveIds.isEmpty && decide (round.aliveSent < streamAliveRepeat))

end StreamRepairRound

/-- A call of a round. -/
inductive RoundCall
  | repairPayload (missing : List UInt16) (desiredCount : UInt16)
  | recovered (desiredCount : UInt16)
  | alivePayload
deriving DecidableEq, Repr

/-- A call of a round at a time. -/
def StreamRepairRound.step (round : StreamRepairRound) :
    RoundCall × Nat → StreamRepairRound × Option (List UInt8)
  | (.repairPayload missing desiredCount, now) => round.repairPayload missing desiredCount now
  | (.recovered desiredCount, now) => (round.recovered desiredCount now, none)
  | (.alivePayload, now) => round.alivePayload now

/-! ## What an observer sees -/

/-- What an observer of the calls and payloads of a round remembers: which streams are missing and
since when, the last message about these missing streams, the sequence numbers of all such messages,
which missing streams have come back last, and when messages about that were sent. -/
structure Observer where
  missing : List UInt16 := []
  since : Nat := 0
  lastRepair : Option (Nat × Nat) := none
  repairs : List Nat := []
  recovered : List UInt16 := []
  recoveredCount : UInt16 := 0
  alives : List Nat := []
deriving DecidableEq, Repr

namespace Observer

/-- A call tells which streams are missing. -/
def look (observer : Observer) : RoundCall × Nat → Observer
  | (.repairPayload missing _, now) =>
    if missing = observer.missing then observer
    else { observer with missing := missing, since := now, lastRepair := none }
  | (.recovered desiredCount, now) =>
    if observer.missing = [] then observer
    else
      { observer with
        missing := []
        since := now
        lastRepair := none
        recovered := observer.missing
        recoveredCount := desiredCount
        alives := [] }
  | (.alivePayload, _) => observer

/-- A payload is sent. -/
def note (observer : Observer) : RoundCall × Nat → Option (List UInt8) → Observer
  | (.repairPayload _ _, now), some payload =>
    { observer with
      lastRepair := some (now, sequenceOf streamRepairPrefix payload)
      repairs := sequenceOf streamRepairPrefix payload :: observer.repairs }
  | (.alivePayload, now), some _ => { observer with alives := now :: observer.alives }
  | _, _ => observer

end Observer

/-- What may be sent by what was seen: messages about streams that have been missing for long, with
larger and larger sequence numbers; and up to two messages after streams are back, which name these
streams and have a sequence number that is not smaller than any before. -/
inductive Justified (seen : Observer) : RoundCall × Nat → Option (List UInt8) → Prop
  | silent {input : RoundCall × Nat} : Justified seen input none
  | repair {missing : List UInt16} {desiredCount : UInt16} {now : Nat} {sequence : UInt64}
      (same : seen.missing = missing) (unchanged : seen.since + streamRepairGraceMs ≤ now)
      (later : ∀ last ∈ seen.lastRepair,
        last.1 + streamRepairEscalateMs ≤ now ∧ last.2 < sequence.toNat) :
      Justified seen (.repairPayload missing desiredCount, now)
        (some (streamControlPayload streamRepairPrefix sequence desiredCount missing))
  | alive {now : Nat} {sequence : UInt64} (back : seen.recovered ≠ [])
      (fewer : seen.alives.length < streamAliveRepeat)
      (later : ∀ last ∈ seen.alives, last + streamAliveIntervalMs ≤ now)
      (notOlder : ∀ repair ∈ seen.repairs, repair ≤ sequence.toNat)
      (names : seen.recovered.length ≤ 255 → namedWorkers streamAlivePrefix
        (streamControlPayload streamAlivePrefix sequence seen.recoveredCount seen.recovered) =
          seen.recovered) :
      Justified seen (.alivePayload, now)
        (some (streamControlPayload streamAlivePrefix sequence seen.recoveredCount seen.recovered))

/-- A round with its observer. -/
def observedStep (state : StreamRepairRound × Observer) (input : RoundCall × Nat) :
    (StreamRepairRound × Observer) × Option (List UInt8) :=
  let (round, sent) := state.1.step input
  ((round, (state.2.look input).note input sent), sent)

/-! ## Rounds and their observers -/

/-- The sequence number of a round does not wrap around. -/
def Countable (round : StreamRepairRound) : Prop := round.sequence.toNat + 1 < 2 ^ 64

theorem toNat_nextSequence {sequence : UInt64} (countable : sequence.toNat + 1 < 2 ^ 64) :
    (nextSequence sequence).toNat = sequence.toNat + 1 := by
  have sum : (sequence + 1).toNat = sequence.toNat + 1 := by
    rw [UInt64.toNat_add]
    exact Nat.mod_eq_of_lt countable
  change (if sequence + 1 ≤ 1 then 1 else sequence + 1 : UInt64).toNat = _
  split
  · rename_i small
    rw [UInt64.le_iff_toNat_le, sum] at small
    have one : (1 : UInt64).toNat = 1 := rfl
    omega
  · exact sum

theorem StreamRepairRound.lastMissing_observed (round : StreamRepairRound) (missing : List UInt16)
    (now : Nat) : (round.observed missing now).lastMissing = missing := by
  unfold StreamRepairRound.observed
  split
  · exact (‹missing = round.lastMissing›).symm
  · rfl

theorem Countable.observed {round : StreamRepairRound} (countable : Countable round)
    (missing : List UInt16) (now : Nat) (sent : (round.observed missing now).lastSentMs ≠ 0) :
    Countable (round.observed missing now) := by
  revert sent
  unfold StreamRepairRound.observed
  split
  · exact fun _ => countable
  · exact fun sent => absurd rfl sent

/-- What a round keeps and what its observer remembers belong together. -/
structure Agrees (round : StreamRepairRound) (observer : Observer) : Prop where
  missing : round.lastMissing = observer.missing
  since : round.firstMissingMs = observer.since
  unsent : observer.lastRepair = none → round.lastSentMs = 0
  sent : ∀ last ∈ observer.lastRepair, last.1 = round.lastSentMs ∧ last.1 ≠ 0 ∧
    last.2 = round.sequence.toNat
  repairs : ∀ repair ∈ observer.repairs, repair ≤ round.sequence.toNat
  back : round.aliveIds ≠ [] → round.aliveIds = observer.recovered ∧
    round.aliveDesiredCount = observer.recoveredCount ∧ round.aliveSent = observer.alives.length
  told : round.aliveIds ≠ [] → ∀ last ∈ observer.alives, last ≤ round.aliveSentMs ∧ last ≠ 0

namespace Agrees

variable {round : StreamRepairRound} {observer : Observer} {missing : List UInt16}
  {desiredCount : UInt16} {now : Nat}

theorem initial : Agrees {} {} := by
  refine ⟨rfl, rfl, fun _ => rfl, ?_, ?_, ?_, ?_⟩
  · intro last member
    cases member
  · intro repair member
    cases member
  · intro some
    exact absurd rfl some
  · intro some
    exact absurd rfl some

section

variable (agrees : Agrees round observer)

include agrees

theorem observed (countable : Countable round) :
    Agrees (round.observed missing now) (observer.look (.repairPayload missing desiredCount, now)) := by
  unfold StreamRepairRound.observed Observer.look
  dsimp only
  rw [agrees.missing]
  split
  · exact agrees
  have larger := toNat_nextSequence countable
  refine ⟨rfl, rfl, fun _ => rfl, ?_, ?_, ?_, ?_⟩
  · intro last member
    cases member
  · intro repair member
    have before := agrees.repairs repair member
    dsimp only
    omega
  · intro some
    exact absurd rfl some
  · intro some
    exact absurd rfl some

theorem recovered :
    Agrees (round.recovered desiredCount now) (observer.look (.recovered desiredCount, now)) := by
  unfold StreamRepairRound.recovered Observer.look
  rw [agrees.missing]
  split
  · exact agrees
  refine ⟨rfl, rfl, fun _ => rfl, ?_, agrees.repairs, fun _ => ⟨rfl, rfl, rfl⟩, ?_⟩
  · intro last member
    cases member
  · intro _ last member
    cases member

theorem sending {sequence : UInt64} (positive : 0 < now)
    (notSmaller : round.sequence.toNat ≤ sequence.toNat) :
    Agrees { round with sequence := sequence, lastSentMs := now }
      (observer.note (.repairPayload missing desiredCount, now)
        (some (streamControlPayload streamRepairPrefix sequence desiredCount missing))) := by
  refine ⟨agrees.missing, agrees.since, ?_, ?_, ?_, agrees.back, agrees.told⟩
  · intro unsent
    cases unsent
  · rintro last ⟨⟩
    exact ⟨rfl, Nat.ne_of_gt positive, sequenceOf_payload ..⟩
  · intro repair member
    rcases mem_cons.mp member with rfl | earlier
    · rw [sequenceOf_payload]
    · exact Nat.le_trans (agrees.repairs repair earlier) notSmaller

/-- A message about missing streams is justified. -/
theorem repaired (countable : Countable round) (positive : 0 < now) (missing : List UInt16)
    (desiredCount : UInt16) : Justified (observer.look (.repairPayload missing desiredCount, now))
        (.repairPayload missing desiredCount, now) (round.repairPayload missing desiredCount now).2 ∧
      Agrees (round.repairPayload missing desiredCount now).1
        ((observer.look (.repairPayload missing desiredCount, now)).note
          (.repairPayload missing desiredCount, now)
          (round.repairPayload missing desiredCount now).2) := by
  have here := round.lastMissing_observed missing now
  have countableToo := countable.observed missing now
  have sees : Agrees (round.observed missing now)
      (observer.look (.repairPayload missing desiredCount, now)) := agrees.observed countable
  unfold StreamRepairRound.repairPayload
  dsimp only
  generalize round.observed missing now = current at here countableToo sees
  generalize observer.look (.repairPayload missing desiredCount, now) = seen at sees
  split
  · exact ⟨.silent, sees⟩
  rename_i grace
  have unchanged : seen.since + streamRepairGraceMs ≤ now := by
    rw [← sees.since]
    unfold streamRepairGraceMs at *
    omega
  subst here
  by_cases sent : current.lastSentMs = 0
  · have none : seen.lastRepair = none := by
      cases last : seen.lastRepair with
      | none => rfl
      | some repair =>
        obtain ⟨same, nonzero, -⟩ := sees.sent repair last
        exact absurd (same.trans sent) nonzero
    rw [if_neg (fun escalated => escalated.1 sent), if_neg (not_not.mpr sent)]
    refine ⟨.repair sees.missing.symm unchanged ?_, sees.sending positive (Nat.le_refl _)⟩
    intro last member
    rw [none] at member
    cases member
  · have larger := toNat_nextSequence (countableToo sent)
    split
    · exact ⟨.silent, sees⟩
    rename_i escalated
    refine ⟨.repair sees.missing.symm unchanged ?_, sees.sending positive (by omega)⟩
    intro last member
    obtain ⟨same, -, sequence⟩ := sees.sent last member
    rw [same, sequence, larger]
    unfold streamRepairEscalateMs at *
    omega

/-- A message about streams that are back is justified. -/
theorem told_back (positive : 0 < now) :
    Justified observer (.alivePayload, now) (round.alivePayload now).2 ∧
      Agrees (round.alivePayload now).1 (observer.note (.alivePayload, now) (round.alivePayload now).2) := by
  unfold StreamRepairRound.alivePayload
  split
  · exact ⟨.silent, agrees⟩
  rename_i wanted
  rw [not_or, not_or, Nat.not_le] at wanted
  obtain ⟨some, fewer, late⟩ := wanted
  obtain ⟨ids, count, number⟩ := agrees.back some
  have told := agrees.told some
  rw [number] at fewer
  have spaced : ∀ last ∈ observer.alives, last + streamAliveIntervalMs ≤ now := by
    intro last member
    obtain ⟨before, nonzero⟩ := told last member
    unfold streamAliveIntervalMs at *
    omega
  constructor
  · dsimp only
    rw [ids, count]
    rw [ids] at some
    exact .alive some fewer spaced agrees.repairs fun few => namedWorkers_payload _ _ _ _ few
  · refine ⟨agrees.missing, agrees.since, agrees.unsent, agrees.sent, agrees.repairs,
      fun _ => ⟨ids, count, ?_⟩, fun _ => ?_⟩
    · change min (round.aliveSent + 1) 255 = observer.alives.length + 1
      unfold streamAliveRepeat at fewer
      omega
    · intro last member
      rcases mem_cons.mp member with rfl | earlier
      · exact ⟨Nat.le_refl _, Nat.ne_of_gt positive⟩
      · exact ⟨Nat.le_trans (Nat.le_add_right _ _) (spaced last earlier), (told last earlier).2⟩

theorem step (countable : Countable round) {input : RoundCall × Nat} (positive : 0 < input.2) :
    Justified (observer.look input) input (round.step input).2 ∧
      Agrees (round.step input).1 ((observer.look input).note input (round.step input).2) := by
  obtain ⟨call, now⟩ := input
  cases call with
  | repairPayload missing desiredCount => exact agrees.repaired countable positive missing desiredCount
  | recovered desiredCount => exact ⟨.silent, agrees.recovered⟩
  | alivePayload => exact agrees.told_back positive

end

end Agrees

/-- In every run of a round whose times are positive and whose sequence number does not wrap around,
every payload is justified by what an observer has seen until then. -/
theorem rounds_send_what_is_justified (calls : List (RoundCall × Nat))
    (countable : Along observedStep (fun state _ => Countable state.1) ({}, {}) calls)
    (positive : ∀ call ∈ calls, 0 < call.2) : Along observedStep (fun state input =>
      Justified (state.2.look input) input (state.1.step input).2) ({}, {}) calls := by
  refine along_of_step observedStep (fun state => Agrees state.1 state.2) _ _ ?_ _ calls
    Agrees.initial (along_and _ _ (fun call => 0 < call.2) _ _ countable positive)
  intro state input agrees allowed
  exact agrees.step allowed.1 allowed.2

/-- A round that sends, sends again, and tells that the streams are back. -/
theorem sample_round_is_justified :
    let calls := [(.repairPayload [14, 28] 36, 1), (.repairPayload [14, 28] 36, 30001),
      (.repairPayload [14, 28] 36, 90001), (.recovered 36, 93001), (.alivePayload, 93001)]
    (outputs observedStep ({}, {}) calls).map Option.isSome = [false, true, true, false, true] ∧
      Along observedStep (fun state input =>
        Justified (state.2.look input) input (state.1.step input).2) ({}, {}) calls := by
  refine ⟨by decide +kernel, rounds_send_what_is_justified _ ?_ (by decide)⟩
  unfold Countable
  decide +kernel

end Csqtt.Streams
