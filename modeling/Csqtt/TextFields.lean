import Csqtt.ControlText
import Mathlib.Data.List.Find
import Mathlib.Data.List.Infix
import Mathlib.Data.List.TakeWhile

/-!
# Fields of a text

Fields between vertical bars are found again if no field has a bar in it, and trimming leaves a
text alone that neither begins nor ends with white space. No bar is part of a white-space
character, so trimming the whole text cannot reach beyond its first field, nor beyond its last
one.

A byte from 0x21 to 0x7f is not part of any white-space character either; digits are such
bytes.
-/

namespace Csqtt.ControlText

open List Nat

/-! ## White space -/

/-- A byte that no white-space character begins or ends with. -/
def graphic (byte : UInt8) : Bool := decide (0x21 ≤ byte ∧ byte < 0x80)

/-- No white space has a bar in it. -/
theorem bar_not_mem_whiteSpace : ∀ space ∈ whiteSpace, (0x7c : UInt8) ∉ space := by
  decide

/-- White space is not empty. -/
theorem whiteSpace_ne_nil : ∀ space ∈ whiteSpace, space ≠ [] := by
  decide

/-- White space has no graphic byte in it. -/
theorem whiteSpace_not_graphic : ∀ space ∈ whiteSpace, ∀ byte ∈ space, graphic byte = false := by
  decide +kernel

variable (rounds : Nat)

/-- Trimming the start leaves an end of the text. -/
theorem trimStartRounds_isSuffix (text : Text) : trimStartRounds rounds text <:+ text := by
  induction rounds generalizing text with
  | zero => exact suffix_refl text
  | succ rounds ih =>
    rw [trimStartRounds]
    split
    · exact suffix_refl text
    · exact (ih _).trans (drop_suffix _ _)

/-- Trimming the end leaves a beginning of the text. -/
theorem trimEndRounds_isPrefix (text : Text) : trimEndRounds rounds text <+: text := by
  induction rounds generalizing text with
  | zero => exact prefix_refl text
  | succ rounds ih =>
    rw [trimEndRounds]
    split
    · exact prefix_refl text
    · refine (ih _).trans ?_
      exact take_prefix _ _

variable {byte : UInt8} {text field : Text}

/-- Trimming adds no byte. -/
theorem mem_of_mem_trim (member : byte ∈ trim text) : byte ∈ text :=
  (trimStartRounds_isSuffix _ _).mem ((trimEndRounds_isPrefix _ _).mem member)

/-- Trimming stops at a graphic byte in front. -/
theorem trimStartRounds_graphic (visible : graphic byte = true) (rest : Text) :
    trimStartRounds rounds (byte :: rest) = byte :: rest := by
  cases rounds with
  | zero => rfl
  | succ rounds =>
    rw [trimStartRounds]
    split
    · rfl
    rename_i space found
    have member := mem_of_find?_eq_some found
    have front := find?_some found
    have isPrefix := isPrefixOf_iff_prefix.mp front
    obtain ⟨first, others, split⟩ := exists_cons_of_ne_nil (whiteSpace_ne_nil space member)
    rw [split, cons_prefix_cons] at isPrefix
    have blank := whiteSpace_not_graphic space member first (split ▸ mem_cons_self)
    rw [isPrefix.1, visible] at blank
    cases blank

/-- Trimming stops at a graphic byte at the end. -/
theorem trimEndRounds_graphic (visible : graphic byte = true) (first : Text) :
    trimEndRounds rounds (first ++ [byte]) = first ++ [byte] := by
  cases rounds with
  | zero => rfl
  | succ rounds =>
    rw [trimEndRounds]
    split
    · rfl
    rename_i space found
    have member := mem_of_find?_eq_some found
    have back := find?_some found
    have isSuffix := isSuffixOf_iff_suffix.mp back
    have last := getLast_mem (whiteSpace_ne_nil space member)
    have blank := whiteSpace_not_graphic space member _ last
    rw [isSuffix.getLast, getLast_append_singleton, visible] at blank
    cases blank

/-- White space at the start of a text is at the start of its first field. -/
theorem prefix_of_bar_not_mem {space rest : Text} (none : (0x7c : UInt8) ∉ space)
    (front : space <+: field ++ 0x7c :: rest) : space <+: field := by
  have bar : field ++ [0x7c] <+: field ++ 0x7c :: rest := ⟨rest, by rw [append_assoc]; rfl⟩
  obtain inside | beyond := prefix_or_prefix_of_prefix front bar
  · obtain whole | proper := prefix_concat_iff.mp inside
    · rw [whole] at none
      exact absurd (mem_append_right field mem_cons_self) none
    · exact proper
  · exact absurd (beyond.mem (mem_append_right field mem_cons_self)) none

/-- Trimming does not reach beyond the first bar. -/
theorem trimStartRounds_bar (none : (0x7c : UInt8) ∉ field) (rest : Text) :
    trimStartRounds rounds (field ++ 0x7c :: rest) = trimStartRounds rounds field ++ 0x7c :: rest := by
  induction rounds generalizing field with
  | zero => rfl
  | succ rounds ih =>
    have alike : (whiteSpace.find? fun space => space.isPrefixOf (field ++ 0x7c :: rest)) =
        whiteSpace.find? fun space => space.isPrefixOf field := by
      refine find?_congr fun space member => ?_
      rw [Bool.eq_iff_iff, isPrefixOf_iff_prefix, isPrefixOf_iff_prefix]
      exact ⟨prefix_of_bar_not_mem (bar_not_mem_whiteSpace space member),
        fun front => front.trans (prefix_append _ _)⟩
    rw [trimStartRounds, trimStartRounds, alike]
    split
    · rfl
    rename_i space found
    have front := find?_some found
    obtain ⟨later, rfl⟩ := isPrefixOf_iff_prefix.mp front
    rw [append_assoc, drop_left, drop_left]
    exact ih fun inside => none (mem_append_right space inside)

/-- A text that trimming leaves alone does not begin with white space. -/
theorem trimStartRounds_trimmed (trimmed : trim text = text) (rounds : Nat) :
    trimStartRounds rounds text = text := by
  have whole : trimStartRounds text.length text = text := by
    refine (trimStartRounds_isSuffix _ _).eq_of_length_le ?_
    conv_lhs => rw [← trimmed]
    exact (trimEndRounds_isPrefix _ _).length_le
  cases rounds with
  | zero => rfl
  | succ rounds =>
    rw [trimStartRounds]
    split
    · rfl
    rename_i space found
    have member := mem_of_find?_eq_some found
    have front := find?_some found
    obtain ⟨later, rfl⟩ := isPrefixOf_iff_prefix.mp front
    have longer := length_pos_of_ne_nil (whiteSpace_ne_nil space member)
    obtain ⟨size, isSucc⟩ := exists_eq_succ_of_ne_zero
      (show (space ++ later).length ≠ 0 by rw [length_append]; omega)
    rw [isSucc, succ_eq_add_one, trimStartRounds, found] at whole
    dsimp only at whole
    rw [drop_left] at whole
    have short := (trimStartRounds_isSuffix size later).length_le
    rw [whole, length_append] at short
    omega

/-- A text that ends with a graphic byte is trimmed in its first field only, if at all. -/
theorem trim_bar (none : (0x7c : UInt8) ∉ field) (middle : Text) (visible : graphic byte = true) :
    ∃ trimmed, 0x7c ∉ trimmed ∧ (trim field = field → trimmed = field) ∧
      trim (field ++ 0x7c :: (middle ++ [byte])) = trimmed ++ 0x7c :: (middle ++ [byte]) := by
  refine ⟨trimStartRounds (field ++ 0x7c :: (middle ++ [byte])).length field, ?_, ?_, ?_⟩
  · exact fun member => none ((trimStartRounds_isSuffix _ _).mem member)
  · exact fun trimmed => trimStartRounds_trimmed trimmed _
  · rw [trim, trimStartRounds_bar _ none, ← cons_append, ← append_assoc,
      trimEndRounds_graphic _ visible]

/-- Graphic bytes are not trimmed. -/
theorem trim_graphic (visible : ∀ byte ∈ text, graphic byte = true) : trim text = text := by
  cases text with
  | nil => rfl
  | cons byte rest =>
    rw [trim, trimStartRounds_graphic _ (visible byte mem_cons_self)]
    obtain isNil | ⟨first, last, split⟩ := eq_nil_or_concat (byte :: rest)
    · cases isNil
    · rw [split, concat_eq_append] at visible
      rw [split, concat_eq_append]
      exact trimEndRounds_graphic _ (visible last (mem_append_right first mem_cons_self)) first

/-! ## Splitting -/

/-- A field without a bar is split off. -/
theorem splitn_append (limit : Nat) (none : (0x7c : UInt8) ∉ field) (rest : Text) :
    splitn 0x7c (limit + 2) (field ++ 0x7c :: rest) = field :: splitn 0x7c (limit + 1) rest := by
  have unequal : ∀ byte ∈ field, (byte != 0x7c) = true := fun byte member =>
    bne_iff_ne.mpr fun same => none (same ▸ member)
  rw [splitn, if_pos (mem_append_right field mem_cons_self)]
  rw [takeWhile_append_of_pos unequal, dropWhile_append_of_pos unequal]
  rw [takeWhile_cons_of_neg (by decide), dropWhile_cons_of_neg (by decide), append_nil, tail_cons]

/-- A field is the same under every limit that reaches beyond it. -/
theorem splitn_getElem? (separator : UInt8) {index first second : Nat} (text : Text)
    (below : index < first) (inside : index < second) :
    (splitn separator (first + 1) text)[index]? = (splitn separator (second + 1) text)[index]? := by
  induction index generalizing first second text with
  | zero =>
    obtain ⟨first, rfl⟩ := exists_eq_add_one_of_ne_zero (ne_of_gt below)
    obtain ⟨second, rfl⟩ := exists_eq_add_one_of_ne_zero (ne_of_gt inside)
    rw [splitn, splitn]
    split
    · rfl
    · rfl
  | succ index ih =>
    obtain ⟨first, rfl⟩ := exists_eq_add_one_of_ne_zero (ne_zero_of_lt below)
    obtain ⟨second, rfl⟩ := exists_eq_add_one_of_ne_zero (ne_zero_of_lt inside)
    rw [splitn, splitn]
    split
    · exact ih _ (lt_of_succ_lt_succ below) (lt_of_succ_lt_succ inside)
    · rfl

/-- A text without a bar is its first field. -/
theorem takeWhile_bar (none : (0x7c : UInt8) ∉ text) : text.takeWhile (· != 0x7c) = text :=
  takeWhile_eq_self_iff.mpr fun _ member => bne_iff_ne.mpr fun same => none (same ▸ member)

/-- The first field ends at the first bar. -/
theorem takeWhile_append_bar (text rest : Text) :
    (text ++ 0x7c :: rest).takeWhile (· != 0x7c) = text.takeWhile (· != 0x7c) := by
  rw [takeWhile_append]
  split
  · rename_i whole
    rw [takeWhile_cons_of_neg (by decide), append_nil]
    have opening : text.takeWhile (· != 0x7c) <+: text := takeWhile_prefix _
    exact (opening.eq_of_length whole).symm
  · rfl

/-! ## Texts that are put together -/

/-- Valid text in front does not change whether the rest is valid. -/
theorem fromUtf8_append {first : Text} (valid : fromUtf8 first = true) (second : Text) :
    fromUtf8 (first ++ second) = fromUtf8 second := by
  fun_induction fromUtf8 first with
  | case1 => rfl
  | case2 lead tail ascii ih =>
    rw [← ih valid, cons_append]
    conv_lhs => rw [fromUtf8.eq_def]
    dsimp only
    rw [if_pos ascii]
  | case3 => cases valid
  | case4 lead ascii next tail two ih =>
    rw [Bool.and_eq_true] at valid
    rw [← ih valid.2, cons_append, cons_append]
    conv_lhs => rw [fromUtf8.eq_def]
    dsimp only
    rw [if_neg ascii, if_pos two, valid.1, Bool.true_and]
  | case5 => cases valid
  | case6 lead ascii next two third tail three ih =>
    rw [Bool.and_eq_true] at valid
    rw [← ih valid.2, cons_append, cons_append, cons_append]
    conv_lhs => rw [fromUtf8.eq_def]
    dsimp only
    rw [if_neg ascii, if_neg two, if_pos three, valid.1, Bool.true_and]
  | case7 => cases valid
  | case8 lead ascii next two third three fourth tail ih =>
    rw [Bool.and_eq_true] at valid
    rw [← ih valid.2, cons_append, cons_append, cons_append, cons_append]
    conv_lhs => rw [fromUtf8.eq_def]
    dsimp only
    rw [if_neg ascii, if_neg two, if_neg three, valid.1, Bool.true_and]

/-- Nor does a valid field and its bar. -/
theorem fromUtf8_field (valid : fromUtf8 field = true) (rest : Text) :
    fromUtf8 (field ++ 0x7c :: rest) = fromUtf8 rest := by
  rw [fromUtf8_append valid]
  conv_lhs => rw [fromUtf8.eq_def]
  rfl

/-- ASCII is valid. -/
theorem fromUtf8_ascii (ascii : ∀ byte ∈ text, byte < 0x80) : fromUtf8 text = true := by
  induction text with
  | nil => rfl
  | cons byte rest ih =>
    obtain ⟨first, later⟩ := forall_mem_cons.mp ascii
    rw [fromUtf8.eq_def]
    dsimp only
    rw [if_pos first]
    exact ih later

end Csqtt.ControlText
