import Csqtt.TableWrites

/-!
# Visiting the rows of one table with the rows of another

A visit goes through a list of keyed values. For each, it updates the row that another table has under
the same key, or makes one, and may note something. If the keys are distinct, what happens to a row and
what is noted under its key depend on that row and that value only, in whatever order the visit goes.
Nothing here mentions a particular table.
-/

namespace Csqtt.Table

open List

universe u v w x
variable {κ : Type u} {ν : Type v} {α : Type w} {β : Type x} [DecidableEq κ]

/-- Update a row for each of the values, and collect notes. -/
def visit (act : α → Option ν → ν × Option β) : List (κ × α) → Table κ ν → Table κ ν × List (κ × β)
  | [], table => (table, [])
  | (key, value) :: rest, table =>
    let acted := act value (table.lookup key)
    let visited := visit act rest (table.insert key acted.1)
    (visited.1, (acted.2.map fun note => (key, note)).toList ++ visited.2)

variable (act : α → Option ν → ν × Option β)

/-- Rows without a value are left alone, and nothing is noted of them. -/
theorem visit_absent {values : List (κ × α)} {key : κ} (absent : ∀ value ∈ values, value.1 ≠ key)
    (table : Table κ ν) : (visit act values table).1.lookup key = table.lookup key ∧
      ∀ note ∈ (visit act values table).2, note.1 ≠ key := by
  induction values generalizing table with
  | nil =>
    refine ⟨rfl, fun note member => ?_⟩
    cases member
  | cons first rest ih =>
    obtain ⟨name, value⟩ := first
    have other : name ≠ key := absent (name, value) mem_cons_self
    obtain ⟨kept, noted⟩ := ih
      (fun later member => absent later (mem_cons_of_mem _ member))
      (table.insert name (act value (table.lookup name)).1)
    refine ⟨?_, ?_⟩
    · rw [visit, kept, lookup_insert_if, if_neg other.symm]
    · intro note member
      rcases mem_append.mp member with here | later
      · obtain ⟨_, -, rfl⟩ := Option.map_eq_some_iff.mp (Option.mem_toList.mp here)
        exact other
      · exact noted note later

/-- The row of a value is updated once, and noted once. -/
theorem visit_present {values : List (κ × α)} (distinct : (values.map Prod.fst).Nodup) {key : κ}
    {value : α} (present : (key, value) ∈ values) (table : Table κ ν) :
    (visit act values table).1.lookup key = some (act value (table.lookup key)).1 ∧
      (visit act values table).2.filterMap (fun note => if note.1 = key then some note.2 else none) =
        (act value (table.lookup key)).2.toList := by
  induction values generalizing table with
  | nil => cases present
  | cons first rest ih =>
    obtain ⟨name, other⟩ := first
    rw [map_cons, nodup_cons] at distinct
    rcases mem_cons.mp present with same | later
    · obtain ⟨rfl, rfl⟩ := Prod.mk.inj same
      have absent : ∀ later ∈ rest, later.1 ≠ key := by
        rintro later member rfl
        exact distinct.1 (mem_map.mpr ⟨later, member, rfl⟩)
      obtain ⟨kept, noted⟩ := visit_absent act absent (table.insert key (act value (table.lookup key)).1)
      refine ⟨?_, ?_⟩
      · rw [visit, kept, AList.lookup_insert]
      · have none : (visit act rest (table.insert key (act value (table.lookup key)).1)).2.filterMap
            (fun note => if note.1 = key then some note.2 else none) = [] := by
          rw [filterMap_eq_nil_iff]
          intro note member
          exact if_neg (noted note member)
        rw [visit, filterMap_append, none, append_nil]
        cases (act value (table.lookup key)).2 with
        | none => rfl
        | some note => simp
    · have different : name ≠ key := by
        rintro rfl
        exact distinct.1 (mem_map.mpr ⟨_, later, rfl⟩)
      have unchanged : (table.insert name (act other (table.lookup name)).1).lookup key =
          table.lookup key := by
        rw [lookup_insert_if, if_neg different.symm]
      obtain ⟨stored, noted⟩ := ih distinct.2 later
        (table.insert name (act other (table.lookup name)).1)
      rw [unchanged] at stored noted
      refine ⟨stored, ?_⟩
      rw [visit, filterMap_append, noted]
      cases (act other (table.lookup name)).2 with
      | none => rfl
      | some note => simp [different]

end Csqtt.Table
