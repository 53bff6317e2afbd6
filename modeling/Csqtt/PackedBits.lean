import Mathlib.Data.List.Basic
import Mathlib.Tactic.Ring

/-!
# Bitmaps packed into 64-bit words

A fixed number of words stores one bit for each index below sixty-four times that
number. Reading masks one word; setting and clearing rewrite one word. The laws
state each operation's effect on every index, so that callers reason about a set
of indices and never about words.
-/

namespace Csqtt.PackedBits

open BitVec

/-- A bitmap of sixty-four bits for each word. -/
abbrev Bits (words : Nat) := Vector UInt64 words

variable {words : Nat}

/-- A bitmap without a set bit. -/
def empty (words : Nat) : Bits words := Vector.replicate words 0

/-- The word that stores an index. -/
def word (bits : Bits words) (index : Nat) : UInt64 := bits[index / 64]?.getD 0

/-- The single bit of an index within its word. -/
def mask (index : Nat) : UInt64 := 1 <<< UInt64.ofNat (index % 64)

/-- Whether the bit of an index is set. -/
def test (bits : Bits words) (index : Nat) : Bool := word bits index &&& mask index != 0

/-- Set the bit of an index. -/
def set (bits : Bits words) (index : Nat) : Bits words :=
  bits.setIfInBounds (index / 64) (word bits index ||| mask index)

/-- Clear the bit of an index. -/
def clear (bits : Bits words) (index : Nat) : Bits words :=
  bits.setIfInBounds (index / 64) (word bits index &&& ~~~mask index)

/-- Clear the bits of all listed indices. -/
def clearAll (bits : Bits words) (indices : List Nat) : Bits words := indices.foldl clear bits

variable (index : Nat)

/-- The mask of an index is a power of two. -/
theorem mask_eq_twoPow : (mask index).toBitVec = twoPow 64 (index % 64) := by
  rw [twoPow_eq]
  simp [mask, UInt64.toBitVec_shiftLeft]

variable (bits : Bits words)

/-- Masking a word reads one of its bits. -/
theorem test_eq_bit : test bits index = (word bits index).toBitVec.getLsbD (index % 64) := by
  have small : index % 64 < 64 := Nat.mod_lt index (by decide)
  have masked : word bits index &&& mask index = 0 ↔
      (word bits index).toBitVec.getLsbD (index % 64) = false := by
    rw [← UInt64.toBitVec_inj, UInt64.toBitVec_and, mask_eq_twoPow, and_twoPow]
    cases (word bits index).toBitVec.getLsbD (index % 64) with
    | false => simp
    | true =>
      have nonzero : twoPow 64 (index % 64) ≠ 0#64 := by
        intro zero
        have bit := congrArg (fun value => getLsbD value (index % 64)) zero
        simp [small] at bit
      simpa using nonzero
  cases bit : (word bits index).toBitVec.getLsbD (index % 64) with
  | false => simp [test, masked.mpr bit]
  | true =>
    have nonzero : word bits index &&& mask index ≠ 0 := by
      intro zero
      rw [masked.mp zero] at bit
      exact Bool.false_ne_true bit
    simp [test, nonzero]

variable (index tested : Nat)

/-- Rewriting the word of one index: other words stay, and the rewritten one is
read back. -/
theorem word_update (value : UInt64) (inside : index < 64 * words) :
    word (bits.setIfInBounds (index / 64) value) tested =
      if index / 64 = tested / 64 then value else word bits tested := by
  have stored : index / 64 < words := by omega
  rw [word, Vector.getElem?_setIfInBounds]
  by_cases same : index / 64 = tested / 64
  · rw [if_pos same, if_pos same, if_pos stored]
    rfl
  · rw [if_neg same, if_neg same]
    rfl

/-- Setting a bit sets exactly its index. -/
theorem test_set (inside : index < 64 * words) :
    test (set bits index) tested = (decide (tested = index) || test bits tested) := by
  rw [test_eq_bit, test_eq_bit, set, word_update bits index tested _ inside]
  by_cases sameWord : index / 64 = tested / 64
  · have sameIndex : index % 64 = tested % 64 ↔ tested = index := by omega
    have sameRead : word bits index = word bits tested := by rw [word, word, sameWord]
    have small : index % 64 < 64 := Nat.mod_lt index (by decide)
    rw [if_pos sameWord, UInt64.toBitVec_or, mask_eq_twoPow, getLsbD_or, getLsbD_twoPow, sameRead]
    simp [small, sameIndex, Bool.or_comm]
  · have different : tested ≠ index := by
      intro same
      exact sameWord (by rw [same])
    rw [if_neg sameWord]
    simp [different]

/-- Clearing a bit clears exactly its index. -/
theorem test_clear (inside : index < 64 * words) :
    test (clear bits index) tested = (decide (tested ≠ index) && test bits tested) := by
  rw [test_eq_bit, test_eq_bit, clear, word_update bits index tested _ inside]
  by_cases sameWord : index / 64 = tested / 64
  · have sameIndex : index % 64 = tested % 64 ↔ tested = index := by omega
    have sameRead : word bits index = word bits tested := by rw [word, word, sameWord]
    have small : index % 64 < 64 := Nat.mod_lt index (by decide)
    have testedSmall : tested % 64 < 64 := Nat.mod_lt tested (by decide)
    rw [if_pos sameWord, UInt64.toBitVec_and, UInt64.toBitVec_not, mask_eq_twoPow,
      getLsbD_and, getLsbD_not, getLsbD_twoPow, sameRead]
    simp [small, testedSmall, sameIndex, Bool.and_comm]
  · have different : tested ≠ index := by
      intro same
      exact sameWord (by rw [same])
    rw [if_neg sameWord]
    simp [different]

/-- Clearing listed bits clears exactly those indices. -/
theorem test_clearAll (indices : List Nat) (tested : Nat)
    (inside : ∀ index ∈ indices, index < 64 * words) :
    test (clearAll bits indices) tested = (decide (tested ∉ indices) && test bits tested) := by
  induction indices generalizing bits with
  | nil => simp [clearAll]
  | cons index rest ih =>
    have later := ih (clear bits index)
      fun other member => inside other (List.mem_cons_of_mem index member)
    rw [test_clear bits index tested (inside index List.mem_cons_self)] at later
    rw [show clearAll bits (index :: rest) = clearAll (clear bits index) rest from rfl, later]
    by_cases same : tested = index
    · simp [same]
    · simp [same]

/-- No bit of an empty bitmap is set. -/
theorem test_empty : test (empty words) index = false := by
  have zero : word (empty words) index = 0 := by
    rw [word, empty, Vector.getElem?_replicate]
    split <;> rfl
  simp [test, zero]

end Csqtt.PackedBits
