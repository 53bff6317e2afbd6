import Mathlib.Data.List.Count
import Mathlib.Data.List.Nodup
import Mathlib.Tactic.Ring

/-!
# Events stamped with a counter and a clock

Consecutive events are stamped with a counter and with the reading of a clock, each
truncated to a field of its own size. The counter advances by one with each event;
the clock does not run backwards. A stamp may return for two reasons: the counter
wraps while the clock stands still, or both wrap. The first is excluded by a bound
on the events of one reading, the second by a bound on the length of the run.

`stamps_nodup` states this for fields of any size. Nothing here mentions packets.
-/

namespace Csqtt.Stamps

open List

/-- The stamps of events at the given clock readings, the first one numbered
`counter`; `counts` and `ticks` are the sizes of the two fields. -/
def stamps (counts ticks : Nat) : Nat → List Nat → List (Nat × Nat)
  | _, [] => []
  | counter, reading :: rest =>
    (counter % counts, reading % ticks) :: stamps counts ticks (counter + 1) rest

variable {counts ticks counter : Nat}

/-- Only the residue of the counter matters. -/
theorem stamps_congr {other : Nat} (same : counter % counts = other % counts)
    (clock : List Nat) : stamps counts ticks counter clock = stamps counts ticks other clock := by
  induction clock generalizing counter other with
  | nil => rfl
  | cons reading rest ih =>
    have next : (counter + 1) % counts = (other + 1) % counts := by
      rw [Nat.add_mod, same, ← Nat.add_mod]
    rw [stamps, stamps, same, ih next]

/-- The stamps of a concatenation; the counter goes on behind the first part. -/
theorem stamps_append (counter : Nat) (first second : List Nat) :
    stamps counts ticks counter (first ++ second) = stamps counts ticks counter first ++
        stamps counts ticks (counter + first.length) second := by
  induction first generalizing counter with
  | nil => rfl
  | cons reading rest ih =>
    have shifted : counter + (reading :: rest).length = counter + 1 + rest.length := by
      rw [length_cons]
      omega
    rw [shifted, cons_append, stamps, ih]
    rfl

/-- Each stamp lies within its fields. -/
theorem stamp_lt {clock : List Nat} (counted : 0 < counts) (ticked : 0 < ticks) :
    ∀ stamp ∈ stamps counts ticks counter clock, stamp.1 < counts ∧ stamp.2 < ticks := by
  induction clock generalizing counter with
  | nil =>
    intro stamp member
    cases member
  | cons reading rest ih =>
    intro stamp member
    rw [stamps, mem_cons] at member
    cases member with
    | inl here =>
      rw [here]
      exact ⟨Nat.mod_lt _ counted, Nat.mod_lt _ ticked⟩
    | inr later => exact ih stamp later

/-- A stamp belongs to an event with a known number of predecessors. -/
theorem mem_stamps {clock : List Nat} {stamp : Nat × Nat}
    (member : stamp ∈ stamps counts ticks counter clock) :
    ∃ before reading after, clock = before ++ reading :: after ∧
      stamp = ((counter + before.length) % counts, reading % ticks) := by
  induction clock generalizing counter with
  | nil => cases member
  | cons first rest ih =>
    rw [stamps, mem_cons] at member
    cases member with
    | inl here => exact ⟨[], first, rest, rfl, here⟩
    | inr later =>
      obtain ⟨before, reading, after, split, stamped⟩ := ih later
      refine ⟨first :: before, reading, after, by rw [split]; rfl, ?_⟩
      rw [stamped, length_cons]
      congr 2
      omega

/-- Numbers less than one period apart that look alike are equal. -/
theorem gap_zero {period base gap : Nat} (near : gap < period)
    (alike : base % period = (base + gap) % period) : gap = 0 := by
  have multiple := Nat.sub_mod_eq_zero_of_mod_eq alike.symm
  rw [Nat.add_sub_cancel_left, Nat.mod_eq_of_lt near] at multiple
  exact multiple

/-- A stamp returns when counter and clock both come around. -/
theorem stamps_return (counter first last : Nat) (middle : List Nat)
    (around : counts ∣ middle.length + 1) (alike : first % ticks = last % ticks) :
    ¬(stamps counts ticks counter (first :: (middle ++ [last]))).Nodup := by
  intro nodup
  rw [← cons_append, stamps_append] at nodup
  obtain ⟨_, _, apart⟩ := nodup_append.mp nodup
  refine apart (counter % counts, first % ticks) ?_ _ mem_cons_self ?_
  · exact mem_cons_self
  · obtain ⟨turns, length⟩ := around
    rw [length_cons, length, Nat.add_mul_mod_self_left, alike]

/-- Between two equal readings the clock stands still. -/
theorem still_between {reading : Nat} {before after : List Nat}
    (sorted : (reading :: (before ++ reading :: after)).Pairwise (· ≤ ·)) :
    before.length + 2 ≤ (reading :: (before ++ reading :: after)).count reading := by
  obtain ⟨above, rest⟩ := pairwise_cons.mp sorted
  obtain ⟨_, _, below⟩ := pairwise_append.mp rest
  have still : before.count reading = before.length := by
    apply count_eq_length.mpr
    intro other member
    have atLeast := above other (mem_append_left _ member)
    have atMost := below other member reading mem_cons_self
    omega
  rw [count_cons_self, count_append, count_cons_self, still]
  omega

/-- No stamp returns while the clock does not run backwards, no reading has more events
than the counter has values, and the run is shorter than the clock's period. -/
theorem stamps_nodup (counter : Nat) (clock : List Nat) (sorted : clock.Pairwise (· ≤ ·))
    (few : ∀ reading, clock.count reading ≤ counts)
    (within : ∀ early ∈ clock, ∀ late ∈ clock, late < early + ticks) :
    (stamps counts ticks counter clock).Nodup := by
  induction clock generalizing counter with
  | nil => exact nodup_nil
  | cons reading rest ih =>
    rw [stamps, nodup_cons]
    constructor
    · intro returns
      obtain ⟨before, later, after, split, stamped⟩ := mem_stamps returns
      obtain ⟨sameCounter, sameReading⟩ := Prod.mk.inj stamped
      subst split
      have member : later ∈ reading :: (before ++ later :: after) := by simp
      have ordered : reading ≤ later := (pairwise_cons.mp sorted).1 later (by simp)
      have near := within reading mem_cons_self later member
      obtain ⟨passed, rfl⟩ := Nat.exists_eq_add_of_le ordered
      obtain rfl : passed = 0 := gap_zero (by omega) sameReading
      have crowded := Nat.le_trans (still_between sorted) (few reading)
      have gap : counter + 1 + before.length = counter + (before.length + 1) := by omega
      rw [gap] at sameCounter
      have none := gap_zero (by omega) sameCounter
      omega
    · apply ih
      · exact (pairwise_cons.mp sorted).2
      · intro other
        exact Nat.le_trans (count_le_count_cons) (few other)
      · intro early earlyMember late lateMember
        exact within early (mem_cons_of_mem _ earlyMember) late
          (mem_cons_of_mem _ lateMember)

end Csqtt.Stamps
