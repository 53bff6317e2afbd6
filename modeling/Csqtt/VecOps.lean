import Mathlib.Data.List.Basic
import Mathlib.Data.List.Perm.Basic

/-!
# Unordered removal from a growable vector

`swap_remove` returns the element at an index and moves the last element into the
hole. The remaining order is therefore not the original order, and every use of
the vector must be insensitive to it. The laws below expose only a permutation:
the removed element together with what remains is a rearrangement of the vector.

The first law states what a removal returns; the others select the index by a
predicate or by the first minimum of a key, as the two callers of the operation
do. They are independent of what the vector stores.
-/

namespace Csqtt.VecOps

open List Option

universe u v
variable {α : Type u} {κ : Type v}

/-- Remove one position, filling it with the last element. An index outside the
vector removes nothing; the machine operation would panic there. -/
def swapRemove (items : List α) (index : Nat) : Option (α × List α) :=
  match items[index]?, items.getLast? with
  | some removed, some last => some (removed, (items.set index last).dropLast)
  | _, _ => none

/-- Overwriting a position by the last element and dropping the last position
leaves everything except the overwritten element. -/
theorem set_last_dropLast_perm (front : List α) (last : α) (index : Nat)
    (inside : index < (front ++ [last]).length) :
    (front ++ [last])[index] :: ((front ++ [last]).set index last).dropLast ~ front ++ [last] := by
  by_cases inFront : index < front.length
  · rw [getElem_append_left inFront, set_append_left index last inFront, dropLast_concat]
    have replaced : front.set index last ~ last :: front.eraseIdx index :=
      set_perm_cons_eraseIdx inFront last
    have restored : front[index] :: front.eraseIdx index ~ front :=
      getElem_cons_eraseIdx_perm inFront
    calc front[index] :: front.set index last
        ~ front[index] :: last :: front.eraseIdx index := replaced.cons _
      _ ~ last :: front[index] :: front.eraseIdx index := List.Perm.swap ..
      _ ~ last :: front := restored.cons last
      _ ~ front ++ [last] := (perm_append_singleton last front).symm
  · have atEnd : index = front.length := by
      simp only [length_append, length_singleton] at inside
      omega
    subst atEnd
    simp only [getElem_concat_length, set_append_right _ _ (Nat.le_refl front.length),
      Nat.sub_self, set_cons_zero, dropLast_concat]
    exact (perm_append_singleton last front).symm

variable (items rest : List α)

/-- A completed removal returns the indexed element, and it together with what
remains is a rearrangement of the original vector. -/
theorem swapRemove_perm (index : Nat) (removed : α)
    (taken : swapRemove items index = some (removed, rest)) :
    items[index]? = some removed ∧ removed :: rest ~ items := by
  unfold swapRemove at taken
  split at taken
  next first last found ending =>
    obtain ⟨rfl, rfl⟩ := Prod.mk.inj (Option.some.inj taken)
    refine ⟨found, ?_⟩
    obtain ⟨front, rfl⟩ : ∃ front, items = front ++ [last] :=
      getLast?_eq_some_iff.mp ending
    obtain ⟨inside, value⟩ := List.getElem?_eq_some_iff.mp found
    have permuted := set_last_dropLast_perm front last index inside
    rw [value] at permuted
    exact permuted
  next => exact absurd taken (by simp)

/-- Every index inside the vector can be removed. -/
theorem swapRemove_isSome (items : List α) (index : Nat) (inside : index < items.length) :
    (swapRemove items index).isSome = true := by
  have nonempty : items ≠ [] := ne_nil_of_length_pos (by omega)
  simp [swapRemove, getElem?_eq_getElem inside, getLast?_eq_some_getLast nonempty]

/-- Remove the first element satisfying a predicate. -/
def removeFirst (test : α → Bool) (items : List α) : Option (α × List α) :=
  (items.findIdx? test).bind (swapRemove items)

variable (test : α → Bool)

/-- The removed element satisfies the predicate; nothing else is lost. -/
theorem removeFirst_some (removed : α) (taken : removeFirst test items = some (removed, rest)) :
    test removed = true ∧ removed :: rest ~ items := by
  obtain ⟨index, position, removal⟩ := bind_eq_some_iff.mp taken
  obtain ⟨found, permuted⟩ := swapRemove_perm items rest index removed removal
  obtain ⟨inside, satisfied, _⟩ := findIdx?_eq_some_iff_getElem.mp position
  obtain ⟨_, value⟩ := List.getElem?_eq_some_iff.mp found
  exact ⟨value ▸ satisfied, permuted⟩

/-- Nothing is removed exactly when no element satisfies the predicate. -/
theorem removeFirst_none (items : List α) :
    removeFirst test items = none ↔ ∀ item ∈ items, test item = false := by
  constructor
  · intro kept item member
    cases position : items.findIdx? test with
    | none => exact findIdx?_eq_none_iff.mp position item member
    | some index =>
      obtain ⟨inside, _⟩ := findIdx?_eq_some_iff_getElem.mp position
      have removable := swapRemove_isSome items index inside
      rw [removeFirst, position, bind_some] at kept
      rw [kept] at removable
      exact absurd removable Bool.false_ne_true
  · intro absent
    rw [removeFirst, findIdx?_eq_none_iff.mpr absent, bind_none]

/-- The indexed elements that receive a key, in vector order. -/
def candidates (key : α → Option κ) (items : List α) : List (Nat × κ) :=
  items.zipIdx.filterMap fun entry => (key entry.1).map (entry.2, ·)

variable (key : α → Option κ)

/-- A candidate is an index together with the key of the element stored there. -/
theorem candidate_iff (items : List α) (index : Nat) (value : κ) :
    (index, value) ∈ candidates key items ↔
      ∃ item, items[index]? = some item ∧ key item = some value := by
  simp only [candidates, mem_filterMap, map_eq_some_iff, Prod.mk.injEq, Prod.exists]
  constructor
  · rintro ⟨item, position, stored, keyed, keyValue, rfl, rfl⟩
    exact ⟨item, mem_zipIdx_iff_getElem?.mp stored, keyValue⟩
  · rintro ⟨item, stored, keyValue⟩
    exact ⟨item, index, mem_zipIdx_iff_getElem?.mpr stored, value, keyValue, rfl, rfl⟩

/-- Remove the first element of least key; elements without a key stay. -/
def removeLeast [LE κ] [DecidableLE κ] (key : α → Option κ) (items : List α) :
    Option (α × List α) :=
  ((candidates key items).minOn? Prod.snd).bind fun chosen => swapRemove items chosen.1

/-- The first minimum of a list is one of its members and bounds all keys. -/
theorem minOn_snd [LE κ] [DecidableLE κ] [Std.IsLinearPreorder κ] (entries : List (Nat × κ))
    (chosen : Nat × κ) (least : entries.minOn? Prod.snd = some chosen) :
    chosen ∈ entries ∧ ∀ entry ∈ entries, chosen.2 ≤ entry.2 := by
  have nonempty : entries ≠ [] := List.isSome_minOn?_iff.mp (by rw [least]; rfl)
  have same : entries.minOn Prod.snd nonempty = chosen :=
    Option.some.inj ((List.minOn?_eq_some_minOn nonempty).symm.trans least)
  subst same
  exact ⟨List.minOn_mem, fun entry member => List.apply_minOn_le_of_mem (f := Prod.snd) member⟩

section Ordered

variable [LE κ] [DecidableLE κ] [Std.IsLinearPreorder κ]

/-- The removed element has a key that bounds every other key from below;
nothing else is lost. -/
theorem removeLeast_some (removed : α) (taken : removeLeast key items = some (removed, rest)) :
    removed :: rest ~ items ∧ ∃ least, key removed = some least ∧
      ∀ item ∈ items, ∀ value, key item = some value → least ≤ value := by
  obtain ⟨⟨index, least⟩, chosen, removal⟩ := bind_eq_some_iff.mp taken
  obtain ⟨found, permuted⟩ := swapRemove_perm items rest index removed removal
  obtain ⟨candidate, bounds⟩ := minOn_snd _ _ chosen
  obtain ⟨item, stored, keyed⟩ := (candidate_iff key items index least).mp candidate
  obtain rfl : item = removed := Option.some.inj (stored.symm.trans found)
  refine ⟨permuted, least, keyed, ?_⟩
  intro other member value otherKeyed
  obtain ⟨position, otherStored⟩ := mem_iff_getElem?.mp member
  exact bounds (position, value)
    ((candidate_iff key items position value).mpr ⟨other, otherStored, otherKeyed⟩)

/-- Nothing is removed exactly when no element receives a key. -/
theorem removeLeast_none (items : List α) :
    removeLeast key items = none ↔ ∀ item ∈ items, key item = none := by
  constructor
  · intro kept item member
    by_contra keyed
    obtain ⟨value, keyValue⟩ := ne_none_iff_exists'.mp keyed
    obtain ⟨position, stored⟩ := mem_iff_getElem?.mp member
    have nonempty : candidates key items ≠ [] :=
      ne_nil_of_mem ((candidate_iff key items position value).mpr ⟨item, stored, keyValue⟩)
    obtain ⟨⟨index, least⟩, chosen⟩ :=
      isSome_iff_exists.mp ((List.isSome_minOn?_iff (f := Prod.snd)).mpr nonempty)
    obtain ⟨_, found, _⟩ := (candidate_iff key items index least).mp (minOn_snd _ _ chosen).1
    obtain ⟨inside, _⟩ := List.getElem?_eq_some_iff.mp found
    have removable := swapRemove_isSome items index inside
    rw [removeLeast, chosen, bind_some] at kept
    rw [kept] at removable
    exact Bool.false_ne_true removable
  · intro unkeyed
    have empty : candidates key items = [] := by
      apply eq_nil_iff_forall_not_mem.mpr
      rintro ⟨index, value⟩ candidate
      obtain ⟨item, stored, keyValue⟩ := (candidate_iff key items index value).mp candidate
      rw [unkeyed item (mem_of_getElem? stored)] at keyValue
      exact absurd keyValue (by simp)
    rw [removeLeast, empty, List.minOn?_nil, bind_none]

end Ordered

/-- Replacing one element, as seen through a map to lists: the image of that element
is replaced, and the images of all others stay. -/
theorem flatMap_set_perm {β : Type v} (image : α → List β) {items : List α} {index : Nat}
    {item : α} (here : items[index]? = some item) :
    items.flatMap image ~ image item ++ (items.eraseIdx index).flatMap image ∧
      ∀ new, (items.set index new).flatMap image ~
        image new ++ (items.eraseIdx index).flatMap image := by
  obtain ⟨inside, same⟩ := List.getElem?_eq_some_iff.mp here
  constructor
  · rw [← same]
    exact (getElem_cons_eraseIdx_perm inside).symm.flatMap_right image
  · intro new
    exact (set_perm_cons_eraseIdx inside new).flatMap_right image

/-- Changing the first element that passes a test, if no two elements pass it, changes
every element that passes it. -/
theorem modify_findIdx (change : α → α) {items : List α}
    (alone : items.Pairwise fun first second => test first = true → test second = false) :
    ((items.findIdx? test).elim items fun index => items.modify index change) =
      items.map fun item => if test item then change item else item := by
  induction items with
  | nil => rfl
  | cons item rest ih =>
    obtain ⟨first, later⟩ := pairwise_cons.mp alone
    rw [findIdx?_cons, map_cons]
    by_cases passes : test item = true
    · have others : rest.map (fun item => if test item then change item else item) = rest := by
        apply (map_congr_left _).trans (map_id rest)
        intro other member
        rw [first other member passes]
        rfl
      rw [if_pos passes, if_pos passes, others]
      rfl
    · rw [if_neg passes, if_neg passes, ← ih later]
      cases rest.findIdx? test with
      | none => rfl
      | some index => rfl

end Csqtt.VecOps
