import Csqtt.Runs
import Csqtt.Stamps
import Csqtt.WireRoundTrip
import Mathlib.Data.List.ReduceOption

/-!
# Nonces of one sender

Each wrap derives its nonce, or its initialization vector, from the source identifier,
the sequence number and the media timestamp of the header. The source identifier is
fixed for a session, the sequence number is a counter of sixteen bits, and the
timestamp is the media clock truncated to thirty-two bits. So the triples of a run are
the stamps of a counter and a clock.

The clock's period is 2 ^ 32 ticks: about 24.8 hours at the audio rate and 13.2 hours
at the video rate. Within one period no triple returns. Nothing ends a session at the
end of the period, and a session of a little more than one period repeats a triple.
-/

namespace Csqtt.NonceUniqueness

open RtpWire Stamps List Runs WireRoundTrip Nat ClientObfs

/-- What nonces are made of: source identifier, sequence number and timestamp. -/
abbrev Triple := UInt32 × UInt16 × UInt32

/-- The triple of a header. -/
def triple (fields : HeaderFields) : Triple := (fields.ssrc, fields.sequence, fields.timestamp)

/-- The AEAD nonce of a triple. -/
def nonceOf (used : Triple) : List UInt8 := nonce used.1 used.2.1 used.2.2

/-- The initialization vector of a triple. -/
def ivOf (used : Triple) : List UInt8 := srtpIv used.1 used.2.1 used.2.2

/-- No triple, no nonce and no initialization vector occurs twice. -/
def Unique (used : List Triple) : Prop :=
  used.Nodup ∧ (used.map nonceOf).Nodup ∧ (used.map ivOf).Nodup

instance : LE Duration :=
  ⟨fun early late => early.secs < late.secs ∨ early.secs = late.secs ∧ early.nanos ≤ late.nanos⟩

instance (early late : Duration) : Decidable (early ≤ late) :=
  inferInstanceAs (Decidable (_ ∨ _))

/-- Media clock ticks of an elapsed time, without truncation. -/
def ticks (clockRate : UInt32) (elapsed : Duration) : Nat :=
  elapsed.secs.toNat * clockRate.toNat + elapsed.nanos.toNat * clockRate.toNat / 1000000000

theorem durationTicks_toNat (elapsed : Duration) (clockRate : UInt32) :
    (durationTicks elapsed clockRate).toNat = ticks clockRate elapsed % 2 ^ 32 := by
  have nanosLt := elapsed.nanos.toNat_lt
  have rateLt := clockRate.toNat_lt
  have product : elapsed.nanos.toNat * clockRate.toNat < 2 ^ 64 :=
    calc elapsed.nanos.toNat * clockRate.toNat < 2 ^ 32 * 2 ^ 32 :=
          mul_lt_mul'' nanosLt rateLt
      _ = 2 ^ 64 := by norm_num
  simp only [durationTicks, ticks, UInt64.toNat_toUInt32, UInt64.toNat_add, UInt64.toNat_mul,
    UInt64.toNat_div, UInt32.toNat_toUInt64, mod_eq_of_lt product]
  have scale : (1000000000 : UInt64).toNat = 1000000000 := rfl
  rw [scale, mod_add_mod, mod_mod_of_dvd _ (by norm_num)]

theorem ticks_mono (clockRate : UInt32) {early late : Duration} (ordered : early ≤ late) :
    ticks clockRate early ≤ ticks clockRate late := by
  have below : early.nanos.toNat < 1000000000 := UInt32.lt_iff_toNat_lt.mp early.below
  unfold ticks
  cases ordered with
  | inl later =>
    have second : (early.secs.toNat + 1) * clockRate.toNat ≤ late.secs.toNat * clockRate.toNat :=
      Nat.mul_le_mul_right _ (UInt64.lt_iff_toNat_lt.mp later)
    have part : early.nanos.toNat * clockRate.toNat / 1000000000 ≤ clockRate.toNat := by
      apply Nat.div_le_of_le_mul
      exact Nat.mul_le_mul_right _ below.le
    rw [Nat.succ_mul] at second
    omega
  | inr same =>
    rw [same.1]
    apply Nat.add_le_add_left
    apply Nat.div_le_div_right
    exact Nat.mul_le_mul_right _ (UInt32.le_iff_toNat_le.mp same.2)

theorem le_of_ticks_lt {clockRate : UInt32} {early late : Duration}
    (ascends : ticks clockRate early < ticks clockRate late) : early ≤ late := by
  have total : early ≤ late ∨ late ≤ early := by
    show (_ ∨ _) ∨ (_ ∨ _)
    rw [UInt64.lt_iff_toNat_lt, UInt64.lt_iff_toNat_lt, ← UInt64.toNat_inj, ← UInt64.toNat_inj,
      UInt32.le_iff_toNat_le, UInt32.le_iff_toNat_le]
    omega
  cases total with
  | inl ordered => exact ordered
  | inr reversed => exact absurd (ticks_mono clockRate reversed) (not_le.mpr ascends)

theorem nonceOf_injective : Function.Injective nonceOf := by
  rintro ⟨ssrc, sequence, timestamp⟩ ⟨ssrc', sequence', timestamp'⟩ same
  simp only [nonceOf, nonce] at same
  obtain ⟨front, timestamps⟩ := append_inj' same (by simp)
  obtain ⟨front, _⟩ := append_inj' front rfl
  obtain ⟨ssrcs, sequences⟩ := append_inj' front (by simp)
  have sameSsrc := UInt32.toNat_inj.mp (Bytes.toBe_inj ssrcs ssrc.toNat_lt ssrc'.toNat_lt)
  have sameSequence :=
    UInt16.toNat_inj.mp (Bytes.toBe_inj sequences sequence.toNat_lt sequence'.toNat_lt)
  have sameTimestamp :=
    UInt32.toNat_inj.mp (Bytes.toBe_inj timestamps timestamp.toNat_lt timestamp'.toNat_lt)
  rw [sameSsrc, sameSequence, sameTimestamp]

theorem ivOf_injective : Function.Injective ivOf := by
  intro used other same
  exact nonceOf_injective (append_inj' same rfl).1

/-- The triple of a sender with the given starting points at a stamp. -/
def tripleAt (ssrc : UInt32) (sequence : UInt16) (timestamp : UInt32) (stamp : Nat × Nat) :
    Triple :=
  (ssrc, sequence + UInt16.ofNat stamp.1, timestamp + UInt32.ofNat stamp.2)

theorem tripleAt_stamp (ssrc : UInt32) (sequence : UInt16) (timestamp : UInt32) (count : UInt64)
    (clockRate : UInt32) (elapsed : Duration) : tripleAt ssrc sequence timestamp
        (count.toNat % 65536, ticks clockRate elapsed % 2 ^ 32) =
      (ssrc, sequence + count.toUInt16, timestamp + durationTicks elapsed clockRate) := by
  have counter : UInt16.ofNat (count.toNat % 65536) = count.toUInt16 := by
    apply UInt16.toNat_inj.mp
    rw [UInt16.toNat_ofNat', UInt64.toNat_toUInt16, mod_mod]
  have clock : UInt32.ofNat (ticks clockRate elapsed % 2 ^ 32) = durationTicks elapsed clockRate := by
    apply UInt32.toNat_inj.mp
    rw [UInt32.toNat_ofNat', durationTicks_toNat, mod_mod]
  rw [tripleAt, counter, clock]

theorem tripleAt_inj {ssrc : UInt32} {sequence : UInt16} {timestamp : UInt32}
    {stamp other : Nat × Nat} (stampFits : stamp.1 < 65536 ∧ stamp.2 < 2 ^ 32)
    (otherFits : other.1 < 65536 ∧ other.2 < 2 ^ 32)
    (same : tripleAt ssrc sequence timestamp stamp = tripleAt ssrc sequence timestamp other) :
    stamp = other := by
  obtain ⟨_, fields⟩ := Prod.mk.inj same
  obtain ⟨sequences, timestamps⟩ := Prod.mk.inj fields
  have counters := congrArg UInt16.toNat ((UInt16.add_right_inj sequence).mp sequences)
  have clocks := congrArg UInt32.toNat ((UInt32.add_right_inj timestamp).mp timestamps)
  rw [UInt16.toNat_ofNat_of_lt' stampFits.1, UInt16.toNat_ofNat_of_lt' otherFits.1] at counters
  rw [UInt32.toNat_ofNat_of_lt' stampFits.2, UInt32.toNat_ofNat_of_lt' otherFits.2] at clocks
  exact Prod.ext counters clocks

/-- What is known of the wraps of a session: the clock does not run backwards, and no
tick of the media clock sees more than 65535 packets. -/
structure Paced (clockRate : UInt32) (elapsed : List Duration) : Prop where
  forwards : elapsed.Pairwise (· ≤ ·)
  few : ∀ tick, (elapsed.map (ticks clockRate)).count tick ≤ 65535

/-- All wraps happen within one period of the truncated media clock. -/
def WithinPeriod (clockRate : UInt32) (elapsed : List Duration) : Prop :=
  ∀ early ∈ elapsed, ∀ late ∈ elapsed, ticks clockRate late < ticks clockRate early + 2 ^ 32

/-- The triples of a sender whose wraps happen at the given times. -/
def triples (ssrc : UInt32) (sequence : UInt16) (timestamp : UInt32) (count : UInt64)
    (clockRate : UInt32) (elapsed : List Duration) : List Triple :=
  (stamps 65536 (2 ^ 32) count.toNat (elapsed.map (ticks clockRate))).map
    (tripleAt ssrc sequence timestamp)

theorem next_count (count : UInt64) : (count + 1).toNat % 65536 = (count.toNat + 1) % 65536 := by
  have one : (1 : UInt64).toNat = 1 := rfl
  rw [UInt64.toNat_add, one, mod_mod_of_dvd _ (by decide)]

section

variable (ssrc : UInt32) (sequence : UInt16) (timestamp : UInt32) (count : UInt64)
  (clockRate : UInt32)

include ssrc sequence timestamp count clockRate

theorem triples_cons (first : Duration) (rest : List Duration) :
    triples ssrc sequence timestamp count clockRate (first :: rest) =
      (ssrc, sequence + count.toUInt16, timestamp + durationTicks first clockRate) ::
        triples ssrc sequence timestamp (count + 1) clockRate rest := by
  rw [triples, triples, map_cons, stamps, map_cons, tripleAt_stamp, stamps_congr (next_count count)]

/-- Within one period no triple of a paced sender returns. -/
theorem triples_unique (elapsed : List Duration) (paced : Paced clockRate elapsed)
    (within : WithinPeriod clockRate elapsed) :
    Unique (triples ssrc sequence timestamp count clockRate elapsed) := by
  suffices nodup : (triples ssrc sequence timestamp count clockRate elapsed).Nodup from
    ⟨nodup, nodup.map nonceOf_injective, nodup.map ivOf_injective⟩
  have sorted : (elapsed.map (ticks clockRate)).Pairwise (· ≤ ·) := by
    apply pairwise_map.mpr
    exact paced.forwards.imp fun ordered => ticks_mono clockRate ordered
  have nodup : (stamps 65536 (2 ^ 32) count.toNat (elapsed.map (ticks clockRate))).Nodup := by
    apply stamps_nodup _ _ sorted
    · intro tick
      exact le_succ_of_le (paced.few tick)
    · intro early earlyMember late lateMember
      obtain ⟨first, firstMember, rfl⟩ := mem_map.mp earlyMember
      obtain ⟨last, lastMember, rfl⟩ := mem_map.mp lateMember
      exact within first firstMember last lastMember
  apply nodup.map_on
  intro stamp member other otherMember same
  exact tripleAt_inj (stamp_lt (by decide) (by decide) stamp member)
    (stamp_lt (by decide) (by decide) other otherMember) same

end

/-- One call of the client's wrap. -/
structure ClientCall where
  packet : ClientObfs.PacketBuf
  elapsed : Duration
  draws : Draws

/-- A wrap and the triple it takes. A packet that is not empty takes one, also when it
does not fit afterwards. -/
def clientStep (ciphers : Ciphers) (config : ClientObfs.ObfsConfig) (state : ClientObfs.ObfsState)
    (call : ClientCall) : ClientObfs.ObfsState × Option Triple :=
  ((wrap ciphers call.packet config state call.elapsed call.draws).1,
    if call.packet.isEmpty then none
    else some (triple (headerFields config state call.elapsed call.draws)))

/-- The triples of a run of the client's sender. -/
def clientUsed (ciphers : Ciphers) (config : ClientObfs.ObfsConfig) (state : ClientObfs.ObfsState)
    (calls : List ClientCall) : List Triple :=
  (outputs (clientStep ciphers config) state calls).reduceOption

/-- The times at which packets are wrapped. -/
def clientTimes (calls : List ClientCall) : List Duration :=
  (calls.filter fun call => !call.packet.isEmpty).map ClientCall.elapsed

/-- One call of the server's wrap for a session. -/
structure ServerCall where
  plain : List UInt8
  output : ServerObfs.PacketBuf
  elapsed : Duration
  draws : Draws

/-- A wrap and the triple it takes, also when the packet does not fit afterwards. -/
def serverStep (ciphers : Ciphers) (isSrtp : Bool) (out : ServerObfs.OutState)
    (call : ServerCall) : ServerObfs.OutState × Triple :=
  ((ServerObfs.wrapLegacyInto ciphers isSrtp out call.plain call.output call.elapsed call.draws).1,
    triple (out.headerFields call.elapsed call.draws))

/-- The triples of a run of the server's sender for one session. -/
def serverUsed (ciphers : Ciphers) (isSrtp : Bool) (out : ServerObfs.OutState)
    (calls : List ServerCall) : List Triple :=
  outputs (serverStep ciphers isSrtp) out calls

/-- The client's triples are the stamps of its counter and clock. -/
theorem clientUsed_eq (ciphers : Ciphers) (config : ClientObfs.ObfsConfig)
    (state : ClientObfs.ObfsState) (calls : List ClientCall) :
    clientUsed ciphers config state calls =
      triples config.ssrc state.initialSequence state.initialTimestamp state.count
        (rtpClockRate config.payloadType) (clientTimes calls) := by
  induction calls generalizing state with
  | nil => rfl
  | cons call rest ih =>
    cases empty : call.packet.isEmpty with
    | true =>
      have idle : clientStep ciphers config state call = (state, none) := by
        simp [clientStep, wrap, empty]
      have times : clientTimes (call :: rest) = clientTimes rest := by
        simp [clientTimes, empty]
      rw [clientUsed, outputs, idle, reduceOption_cons_of_none, times]
      exact ih state
    | false =>
      have taken : clientStep ciphers config state call =
          (state.next, some (triple (headerFields config state call.elapsed
            call.draws))) := by
        simp [clientStep, wrap, empty]
      have times : clientTimes (call :: rest) = call.elapsed :: clientTimes rest := by
        simp [clientTimes, empty]
      rw [clientUsed, outputs, taken, reduceOption_cons_of_some, times, ← clientUsed,
        ih state.next, triples_cons]
      rfl

theorem serverUsed_eq (ciphers : Ciphers) (isSrtp : Bool) (out : ServerObfs.OutState)
    (calls : List ServerCall) : serverUsed ciphers isSrtp out calls =
      triples out.ssrc out.initialSeq out.initialTs out.count (rtpClockRate out.payloadType)
        (calls.map ServerCall.elapsed) := by
  induction calls generalizing out with
  | nil => rfl
  | cons call rest ih =>
    rw [serverUsed, outputs, ← serverUsed, ih, map_cons, triples_cons]
    rfl

/-- A run of one session's sender on either side: its fixed choices, the state it starts
in and its wraps. -/
inductive SenderRun where
  | client (config : ClientObfs.ObfsConfig) (state : ClientObfs.ObfsState)
    (calls : List ClientCall)
  | server (isSrtp : Bool) (out : ServerObfs.OutState) (calls : List ServerCall)

namespace SenderRun

/-- The rate of the sender's media clock. -/
def clockRate : SenderRun → UInt32
  | client config _ _ => rtpClockRate config.payloadType
  | server _ out _ => rtpClockRate out.payloadType

/-- The times at which packets are wrapped. -/
def times : SenderRun → List Duration
  | client _ _ calls => clientTimes calls
  | server _ _ calls => calls.map ServerCall.elapsed

/-- The triples the run takes. -/
def used (ciphers : Ciphers) : SenderRun → List Triple
  | client config state calls => clientUsed ciphers config state calls
  | server isSrtp out calls => serverUsed ciphers isSrtp out calls

end SenderRun

/-- Nonces are unique within one period of the media clock, for both senders, in both
modes, from every state and for every run whose clock does not run backwards and whose
ticks see at most 65535 packets each. -/
theorem nonces_unique_within_clock_period (ciphers : Ciphers) (run : SenderRun)
    (paced : Paced run.clockRate run.times) (within : WithinPeriod run.clockRate run.times) :
    Unique (run.used ciphers) := by
  cases run with
  | client config state calls =>
    rw [SenderRun.used, clientUsed_eq]
    exact triples_unique _ _ _ _ _ _ paced within
  | server isSrtp out calls =>
    rw [SenderRun.used, serverUsed_eq]
    exact triples_unique _ _ _ _ _ _ paced within

/-- A packet of one byte, sent by the server. -/
def steadyCall (elapsed : Duration) : ServerCall :=
  ⟨[7], .zeroed, elapsed, lowDraws⟩

/-- One period of the media clock at the audio rate, 24.8 hours. -/
def period : Duration := ⟨89478, 485333334, by decide⟩

/-- One packet a second for 65536 seconds, and one at the end of the period. -/
def steadyTimes : List Duration :=
  .ofSecs 0 :: ((List.range 65535).map (fun second => .ofSecs (UInt64.ofNat (second + 1))) ++
    [period])

theorem ticks_ofSecs (second : Nat) (small : second < 2 ^ 64) :
    ticks 48000 (.ofSecs (UInt64.ofNat second)) = second * 48000 := by
  have rate : (48000 : UInt32).toNat = 48000 := rfl
  have zero : (0 : UInt32).toNat = 0 := rfl
  rw [ticks, Duration.ofSecs, UInt64.toNat_ofNat_of_lt' small, rate, zero]
  simp

theorem steadyTimes_ticks : steadyTimes.map (ticks 48000) =
      0 :: ((List.range 65535).map (fun second => (second + 1) * 48000) ++ [2 ^ 32]) := by
  have first : ticks 48000 (.ofSecs 0) = 0 := ticks_ofSecs 0 (by decide)
  have last : ticks 48000 period = 2 ^ 32 := by decide
  have middle : (List.range 65535).map
      (ticks 48000 ∘ fun second => Duration.ofSecs (UInt64.ofNat (second + 1))) =
      (List.range 65535).map (fun second => (second + 1) * 48000) := by
    apply map_congr_left
    intro second member
    have small := mem_range.mp member
    exact ticks_ofSecs (second + 1) (by omega)
  rw [steadyTimes, map_cons, map_append, map_map, first, map_singleton, last, middle]

theorem steadyTimes_ascending : (steadyTimes.map (ticks 48000)).Pairwise (· < ·) := by
  rw [steadyTimes_ticks, pairwise_cons, pairwise_append, pairwise_map]
  refine ⟨?_, ?_, pairwise_singleton _ _, ?_⟩
  · intro reading member
    simp only [mem_append, mem_map, mem_range, mem_singleton] at member
    omega
  · exact pairwise_lt_range.imp (by omega)
  · intro early member late last
    simp only [mem_map, mem_range, mem_singleton] at member last
    omega

/-- The server's sender of an audio session with packets at the given times. -/
def serverRun (times : List Duration) : SenderRun :=
  .server false (serverCounters 111) (times.map steadyCall)

theorem serverRun_times (times : List Duration) : (serverRun times).times = times := by
  rw [serverRun, SenderRun.times, map_map]
  exact map_id times

/-- An audio session of a little more than one period repeats a triple: the first packet
and the last one, 65536 packets and 2 ^ 32 ticks later. -/
theorem steady_session_repeats :
    Paced (serverRun steadyTimes).clockRate (serverRun steadyTimes).times ∧
      ¬Unique ((serverRun steadyTimes).used plainCiphers) := by
  have rate : (serverRun steadyTimes).clockRate = 48000 := by decide
  have used : (serverRun steadyTimes).used plainCiphers =
      triples 3 40 0 65536 (serverRun steadyTimes).clockRate (serverRun steadyTimes).times :=
    serverUsed_eq _ _ _ _
  rw [used, serverRun_times, rate]
  constructor
  · constructor
    · exact (pairwise_map.mp steadyTimes_ascending).imp le_of_ticks_lt
    · intro tick
      have once := nodup_iff_count_le_one.mp
        (steadyTimes_ascending.imp Nat.ne_of_lt) tick
      exact le_trans once (by decide)
  · rintro ⟨nodup, _⟩
    rw [triples, steadyTimes_ticks] at nodup
    apply stamps_return _ 0 (2 ^ 32) _ _ _ (List.Nodup.of_map _ nodup)
    · rw [length_map, length_range]
    · decide

/-- Two packets in one tick and one a second later. -/
def burst : List Duration := [.ofSecs 1, .ofSecs 1, .ofSecs 2]

theorem burst_paced : Paced 48000 burst where
  forwards := by decide
  few tick := le_trans count_le_length (by decide)

/-- A packet of one byte, sent by the client. -/
def clientCall (elapsed : Duration) : ClientCall where
  packet := { ClientObfs.PacketBuf.zeroed with
    stop := 65
    ordered := by decide
    inside := by decide }
  elapsed := elapsed
  draws := lowDraws

/-- The client's sender of an audio session with packets at the given times; its first
packet has the last sequence number before the wrap. -/
def clientRun (times : List Duration) : SenderRun :=
  .client (.new .audio 1) clientCounters (times.map clientCall)

/-- Both senders in a burst. -/
theorem burst_unique : Unique ((clientRun burst).used plainCiphers) ∧
      Unique ((serverRun burst).used plainCiphers) := by
  have within : WithinPeriod 48000 burst := by
    unfold WithinPeriod
    decide
  exact ⟨nonces_unique_within_clock_period _ (clientRun burst) burst_paced within,
    nonces_unique_within_clock_period _ (serverRun burst) burst_paced within⟩

end Csqtt.NonceUniqueness
