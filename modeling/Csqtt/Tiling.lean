import Mathlib.Data.List.Basic

/-!
# Items one behind the other

A layout says which item stands at each position and where the next one begins. Items are
collected from a position up to an end. They tile the range between two positions if each begins
where the last one ends and the last one ends at the second position; what is collected then is
exactly these items.

Two layouts may agree on a range only. Items that tile a part of the range in one of them tile it
in the other as well. Nothing here mentions a particular format.
-/

namespace Csqtt

universe u

/-- What stands at a position and where it ends. -/
structure Layout (α : Type u) where
  item : Nat → α
  next : Nat → Nat
  grows : ∀ position, position < next position

namespace Layout

variable {α : Type u} (layout : Layout α)

/-- Collect the items before an end, in a bounded number of rounds. -/
def collect (stop : Nat) : Nat → Nat → List α
  | 0, _ => []
  | rounds + 1, position =>
    if position < stop then layout.item position :: collect stop rounds (layout.next position) else []

/-- All items that begin before an end. -/
def walk (stop position : Nat) : List α := layout.collect stop (stop - position) position

theorem collect_of_le {stop position : Nat} (reached : stop ≤ position) (rounds : Nat) :
    layout.collect stop rounds position = [] := by
  cases rounds with
  | zero => rfl
  | succ rounds => exact if_neg (Nat.not_lt.mpr reached)

/-- The number of rounds does not matter if it is large enough. -/
theorem collect_enough {stop position rounds others : Nat} (enough : stop - position ≤ rounds)
    (enoughToo : stop - position ≤ others) :
    layout.collect stop rounds position = layout.collect stop others position := by
  induction rounds generalizing others position with
  | zero =>
    have reached : stop ≤ position := by omega
    rw [layout.collect_of_le reached, layout.collect_of_le reached]
  | succ rounds ih =>
    by_cases before : position < stop
    · have further := layout.grows position
      obtain ⟨fewer, rfl⟩ : ∃ fewer, others = fewer + 1 := ⟨others - 1, by omega⟩
      rw [collect, collect, if_pos before, if_pos before, ih (by omega) (show _ ≤ fewer by omega)]
    · rw [layout.collect_of_le (Nat.not_lt.mp before), layout.collect_of_le (Nat.not_lt.mp before)]

@[simp] theorem walk_of_le {stop position : Nat} (reached : stop ≤ position) :
    layout.walk stop position = [] :=
  layout.collect_of_le reached _

/-- The first item is the one at the position. -/
theorem walk_of_lt {stop position : Nat} (before : position < stop) :
    layout.walk stop position = layout.item position :: layout.walk stop (layout.next position) := by
  have further := layout.grows position
  obtain ⟨rounds, count⟩ : ∃ rounds, stop - position = rounds + 1 := ⟨stop - position - 1, by omega⟩
  rw [walk, count, collect, if_pos before, walk,
    layout.collect_enough (show _ ≤ rounds by omega) (Nat.le_refl _)]

/-- The items tile the range between two positions. -/
inductive Passes : Nat → List α → Nat → Prop
  | done (position : Nat) : Passes position [] position
  | item (position : Nat) {items : List α} {stop : Nat} :
    Passes (layout.next position) items stop → Passes position (layout.item position :: items) stop

variable {layout}

namespace Passes

variable {start middle stop : Nat} {items more : List α}

theorem le (passes : layout.Passes start items stop) : start ≤ stop := by
  induction passes with
  | done position => exact Nat.le_refl position
  | item position _ ih =>
    exact Nat.le_trans (Nat.le_of_lt (layout.grows position)) ih

theorem append (passes : layout.Passes start items middle) (further : layout.Passes middle more stop) :
    layout.Passes start (items ++ more) stop := by
  induction passes with
  | done position => exact further
  | item position _ ih => exact .item position (ih further)

theorem single (position : Nat) :
    layout.Passes position [layout.item position] (layout.next position) :=
  .item position (.done _)

/-- Items that tile a first part are collected first. -/
theorem walk_eq (passes : layout.Passes start items middle) (inside : middle ≤ stop) :
    layout.walk stop start = items ++ layout.walk stop middle := by
  induction passes with
  | done position => rfl
  | item position later ih =>
    have before : position < stop :=
      Nat.lt_of_lt_of_le (layout.grows position) (Nat.le_trans later.le inside)
    rw [layout.walk_of_lt before, ih inside, List.cons_append]

section

variable (passes : layout.Passes start items stop)

include passes

/-- Items that tile the whole range are all that is collected. -/
theorem walk_stop : layout.walk stop start = items := by
  rw [passes.walk_eq (Nat.le_refl stop), layout.walk_of_le (Nat.le_refl stop), List.append_nil]

/-- Each item stands inside of the range. -/
theorem mem {found : α} (member : found ∈ items) :
    ∃ place, start ≤ place ∧ layout.next place ≤ stop ∧ found = layout.item place := by
  induction passes with
  | done position => cases member
  | item position later ih =>
    rcases List.mem_cons.mp member with rfl | member
    · exact ⟨position, Nat.le_refl position, later.le, rfl⟩
    · obtain ⟨place, behind, inside⟩ := ih member
      exact ⟨place, Nat.le_trans (Nat.le_of_lt (layout.grows position)) behind, inside⟩

/-- Items tile a range in every layout that agrees on the range. -/
theorem congr {other : Layout α}
    (same : ∀ position, start ≤ position → layout.next position ≤ stop → other.item position =
      layout.item position ∧ other.next position = layout.next position) :
    other.Passes start items stop := by
  induction passes with
  | done position => exact .done position
  | item position later ih =>
    obtain ⟨sameItem, sameNext⟩ := same position (Nat.le_refl position) later.le
    have further := ih fun place behind =>
      same place (Nat.le_trans (Nat.le_of_lt (layout.grows position)) behind)
    rw [← sameItem]
    exact .item position (sameNext ▸ further)

/-- Items end at one position only. -/
theorem unique {other : Nat} (passesToo : layout.Passes start items other) : stop = other := by
  induction passes with
  | done position =>
    cases passesToo
    rfl
  | item position _ ih =>
    cases passesToo with
    | item _ later => exact ih later

end

/-- Some of the items tile the range up to where the others begin. -/
theorem split (passes : layout.Passes start (items ++ more) stop) :
    ∃ middle, layout.Passes start items middle ∧ layout.Passes middle more stop := by
  induction items generalizing start with
  | nil => exact ⟨start, .done start, passes⟩
  | cons first items ih =>
    cases passes with
    | item _ later =>
      obtain ⟨middle, front, back⟩ := ih later
      exact ⟨middle, .item start front, back⟩

end Passes

end Layout

end Csqtt
