import Csqtt.PackedBits
import Csqtt.Runs

/-!
# The sliding-window set model and ring bitmaps

The model remembers every counter it accepted. It accepts a new maximum, and a
counter that lies less than the window width behind the maximum and was not
accepted before. An implementation keeps only the maximum and one bit for each
residue modulo the width; `Tracks` says that these bits are exact for the
counters inside the window and says nothing about the others.

The laws give the effect of the four updates an implementation makes: the first
counter, a short forward jump that clears the residues it passes, a long jump
that clears the whole ring, and a counter filled in behind the maximum. `slide`
makes these updates on a ring of packed bits, and answers as the model does.
-/

namespace Csqtt.SlidingWindow

open List PackedBits

/-- The answer of the set model. -/
def admissible (width : Nat) (accepted : List Nat) (counter : Nat) : Bool :=
  match accepted.max? with
  | none => true
  | some highest => decide (highest < counter) ||
      (decide (highest < counter + width) && decide (counter ∉ accepted))

/-- One arrival in the set model. -/
def observe (width : Nat) (accepted : List Nat) (counter : Nat) : List Nat × Bool :=
  if admissible width accepted counter then (counter :: accepted, true) else (accepted, false)

theorem observe_answer (width : Nat) (accepted : List Nat) (counter : Nat) :
    (observe width accepted counter).2 = admissible width accepted counter := by
  cases answer : admissible width accepted counter <;> simp [observe, answer]

section

variable (accepted : List Nat) (highest counter : Nat) (largest : accepted.max? = some highest)

include accepted highest counter largest

/-- A new maximum is the maximum of what is accepted with it. -/
theorem max_cons_of_lt (new : highest < counter) : (counter :: accepted).max? = some counter := by
  obtain ⟨_, bounded⟩ := max?_eq_some_iff.mp largest
  refine max?_eq_some_iff.mpr ⟨mem_cons_self, ?_⟩
  intro other member
  cases mem_cons.mp member with
  | inl same => exact Nat.le_of_eq same
  | inr old => exact Nat.le_of_lt (Nat.lt_of_le_of_lt (bounded other old) new)

/-- A counter behind the maximum does not change it. -/
theorem max_cons_of_le (old : counter ≤ highest) : (counter :: accepted).max? = some highest := by
  obtain ⟨member, bounded⟩ := max?_eq_some_iff.mp largest
  refine max?_eq_some_iff.mpr ⟨mem_cons_of_mem counter member, ?_⟩
  intro other inside
  cases mem_cons.mp inside with
  | inl same => exact same ▸ old
  | inr older => exact bounded other older

/-- A counter beyond the maximum was not accepted. -/
theorem not_mem_of_lt (new : highest < counter) : counter ∉ accepted := by
  intro member
  have bounded := (max?_eq_some_iff.mp largest).2 counter member
  omega

end

/-- The model accepts no counter twice. -/
theorem observe_nodup (width : Nat) (accepted : List Nat) (counter : Nat)
    (nodup : accepted.Nodup) : (observe width accepted counter).1.Nodup := by
  unfold observe
  split
  next admitted =>
    refine nodup_cons.mpr ⟨?_, nodup⟩
    unfold admissible at admitted
    split at admitted
    next none =>
      rw [max?_eq_none_iff.mp none]
      exact not_mem_nil
    next highest largest =>
      by_cases new : highest < counter
      · exact not_mem_of_lt accepted highest counter largest new
      · have inside : highest < counter + width ∧ counter ∉ accepted := by
          simpa [new] using admitted
        exact inside.2
  next => exact nodup

/-- Counters less than the width apart have different residues. -/
theorem residues_differ (width first second : Nat) (order : first < second)
    (close : second < first + width) : first % width ≠ second % width := by
  intro same
  have divides := Nat.sub_mod_eq_zero_of_mod_eq same.symm
  rw [Nat.mod_eq_of_lt (by omega)] at divides
  omega

/-- The bits of a ring are exact for the counters inside the window. -/
structure Tracks (width : Nat) (bit : Nat → Bool) (highest : Nat) (accepted : List Nat) :
    Prop where
  largest : accepted.max? = some highest
  exact : ∀ counter ≤ highest, highest < counter + width →
    (bit (counter % width) = true ↔ counter ∈ accepted)

section Updates

variable {width : Nat} {bit updated : Nat → Bool} {highest counter : Nat} {accepted : List Nat}

section

variable (tracks : Tracks width bit highest accepted)

include tracks

/-- The model accepts a new maximum. -/
theorem Tracks.admissible_new (new : highest < counter) :
    admissible width accepted counter = true := by
  simp [admissible, tracks.largest, new]

/-- The model refuses a counter behind the window and one whose bit is set. -/
theorem Tracks.admissible_refused (old : counter ≤ highest)
    (refused : counter + width ≤ highest ∨ bit (counter % width) = true) :
    admissible width accepted counter = false := by
  have notNew : ¬highest < counter := Nat.not_lt.mpr old
  simp only [admissible, tracks.largest, notNew, decide_false, Bool.false_or]
  cases refused with
  | inl late => simp [Nat.not_lt.mpr late]
  | inr set =>
    by_cases inside : highest < counter + width
    · simp [(tracks.exact counter old inside).mp set]
    · simp [inside]

/-- The model accepts a counter inside the window whose bit is clear. -/
theorem Tracks.admissible_clear (old : counter ≤ highest) (inside : highest < counter + width)
    (clear : ¬bit (counter % width) = true) : admissible width accepted counter = true := by
  have fresh : counter ∉ accepted := fun member =>
    clear ((tracks.exact counter old inside).mpr member)
  simp [admissible, tracks.largest, inside, fresh]

end

/-- The first counter sets its bit in an empty ring. -/
theorem tracks_first (set : ∀ residue, updated residue = decide (residue = counter % width)) :
    Tracks width updated counter [counter] := by
  refine ⟨rfl, ?_⟩
  intro other below inside
  rw [set, decide_eq_true_eq, mem_singleton]
  constructor
  · intro same
    by_contra different
    exact residues_differ width other counter (by omega) (by omega) same
  · intro same
    rw [same]

section

variable (tracks : Tracks width bit highest accepted)

include tracks

/-- A jump of less than the width clears the residues it passes and sets its own. -/
theorem Tracks.near (new : highest < counter)
    (set : ∀ residue, updated residue = (decide (residue = counter % width) ||
      (decide (residue ∉ (List.range' 1 (counter - highest)).map fun offset =>
        (highest + offset) % width) && bit residue))) :
    Tracks width updated counter (counter :: accepted) := by
  refine ⟨max_cons_of_lt accepted highest counter tracks.largest new, ?_⟩
  intro other below inside
  by_cases same : other = counter
  · simp [set, same]
  have apart := residues_differ width other counter (by omega) (by omega)
  rw [set]
  by_cases passed : highest < other
  · have cleared : other % width ∈ (List.range' 1 (counter - highest)).map fun offset =>
        (highest + offset) % width := by
      refine mem_map.mpr ⟨other - highest, ?_, ?_⟩
      · rw [mem_range'_1]
        omega
      · rw [Nat.add_sub_cancel' (Nat.le_of_lt passed)]
    have absent := not_mem_of_lt accepted highest other tracks.largest passed
    simp [apart, cleared, same, absent]
  · have kept : other % width ∉ (List.range' 1 (counter - highest)).map fun offset =>
        (highest + offset) % width := by
      intro member
      obtain ⟨offset, inRange, equal⟩ := mem_map.mp member
      rw [mem_range'_1] at inRange
      exact residues_differ width other (highest + offset) (by omega) (by omega) equal.symm
    have exact := tracks.exact other (by omega) (by omega)
    simp [apart, kept, same, exact]

/-- A jump of at least the width leaves no old counter in the window. -/
theorem Tracks.far (new : highest < counter) (distant : highest + width ≤ counter)
    (set : ∀ residue, updated residue = decide (residue = counter % width)) :
    Tracks width updated counter (counter :: accepted) := by
  refine ⟨max_cons_of_lt accepted highest counter tracks.largest new, ?_⟩
  intro other below inside
  have single := (tracks_first set).exact other below inside
  have absent := not_mem_of_lt accepted highest other tracks.largest (by omega)
  rw [single]
  simp [absent]

/-- A counter behind the maximum sets its own bit. -/
theorem Tracks.fill (old : counter ≤ highest) (inWindow : highest < counter + width)
    (set : ∀ residue, updated residue = (decide (residue = counter % width) || bit residue)) :
    Tracks width updated highest (counter :: accepted) := by
  refine ⟨max_cons_of_le accepted highest counter tracks.largest old, ?_⟩
  intro other below inside
  rw [set]
  by_cases same : other = counter
  · simp [same]
  have apart : other % width ≠ counter % width := by
    by_cases before : other < counter
    · exact residues_differ width other counter before (by omega)
    · exact Ne.symm (residues_differ width counter other (by omega) (by omega))
  have exact := tracks.exact other below inside
  simp [apart, same, exact]

end

end Updates

section Ring

variable {words width : Nat} (inside : ∀ number, number % width < 64 * words)

/-- One arrival at a ring: the highest counter and the bits afterwards, and the answer. -/
def slide (width highest : Nat) (bits : PackedBits.Bits words) (counter : Nat) :
    (Nat × PackedBits.Bits words) × Bool :=
  if highest < counter then
    ((counter, set
      (if highest + width ≤ counter then empty words
        else clearAll bits ((List.range' 1 (counter - highest)).map fun offset =>
          (highest + offset) % width)) (counter % width)), true)
  else if counter + width ≤ highest ∨ test bits (counter % width) = true then
    ((highest, bits), false)
  else ((highest, set bits (counter % width)), true)

include inside

theorem test_single (counter residue : Nat) : test (set (empty words) (counter % width)) residue =
      decide (residue = counter % width) := by
  rw [test_set _ _ _ (inside counter), test_empty, Bool.or_false]

/-- The ring answers as the model does and tracks what the model accepted. -/
theorem Tracks.slide {bits : PackedBits.Bits words} {highest : Nat} {accepted : List Nat}
    (tracks : Tracks width (test bits) highest accepted) (counter : Nat) :
    (slide width highest bits counter).2 = admissible width accepted counter ∧
      Tracks width (test (slide width highest bits counter).1.2)
        (slide width highest bits counter).1.1 (observe width accepted counter).1 := by
  unfold SlidingWindow.slide
  split
  next new =>
    have admitted := tracks.admissible_new new
    rw [observe, if_pos admitted, admitted]
    refine ⟨rfl, ?_⟩
    dsimp only
    split
    next distant => exact tracks.far new distant (test_single inside counter)
    next =>
      refine tracks.near new ?_
      intro residue
      rw [test_set _ _ _ (inside counter), test_clearAll]
      intro index member
      obtain ⟨offset, _, rfl⟩ := mem_map.mp member
      exact inside _
  next notNew =>
    have old := Nat.le_of_not_lt notNew
    split
    next refused =>
      have rejected := tracks.admissible_refused old refused
      rw [observe, rejected]
      exact ⟨rfl, tracks⟩
    next passes =>
      obtain ⟨notLate, clear⟩ := not_or.mp passes
      have within := Nat.lt_of_not_le notLate
      have admitted := tracks.admissible_clear old within clear
      rw [observe, if_pos admitted, admitted]
      exact ⟨rfl, tracks.fill old within fun _ => test_set _ _ _ (inside counter)⟩

end Ring

/-- Two counters are less than the given distance apart. -/
def Within (distance highest counter : Nat) : Prop :=
  counter < highest + distance ∧ highest < counter + distance

instance (distance highest counter : Nat) : Decidable (Within distance highest counter) :=
  inferInstanceAs (Decidable (_ ∧ _))

/-- A window together with the counters it has accepted so far. -/
structure Recorded (σ : Type) where
  state : σ
  accepted : List Nat

/-- One arrival at a window that sees an encoding of the counter. -/
def record {σ ι : Type} (accept : σ → ι → σ × Bool) (encode : Nat → ι)
    (recorded : Recorded σ) (counter : Nat) : Recorded σ × Bool :=
  let (state, accepted) := accept recorded.state (encode counter)
  (⟨state, if accepted then counter :: recorded.accepted else recorded.accepted⟩, accepted)

/-- The window represents the counters recorded with it. -/
def Faithful {σ : Type} (represents : σ → List Nat → Prop) (recorded : Recorded σ)
    (accepted : List Nat) : Prop :=
  recorded.accepted = accepted ∧ represents recorded.state accepted

/-- A window whose answer is the model's answer, and which then represents what
the model accepted, keeps its record faithful. -/
theorem record_faithful {σ ι : Type} (accept : σ → ι → σ × Bool) (encode : Nat → ι)
    (represents : σ → List Nat → Prop) (width : Nat) (recorded : Recorded σ)
    (accepted : List Nat) (counter : Nat) (same : recorded.accepted = accepted)
    (answers : (accept recorded.state (encode counter)).2 = admissible width accepted counter)
    (kept : represents (accept recorded.state (encode counter)).1
      (observe width accepted counter).1) :
    (record accept encode recorded counter).2 = (observe width accepted counter).2 ∧
      Faithful represents (record accept encode recorded counter).1
        (observe width accepted counter).1 := by
  cases answer : admissible width accepted counter with
  | false =>
    simp only [observe, answer, Bool.false_eq_true, if_false] at kept ⊢
    simp only [record, answers, answer, Bool.false_eq_true, if_false]
    exact ⟨trivial, same, kept⟩
  | true =>
    simp only [observe, answer, if_true] at kept ⊢
    simp only [record, answers, answer, if_true]
    exact ⟨trivial, congrArg (counter :: ·) same, kept⟩

end Csqtt.SlidingWindow
