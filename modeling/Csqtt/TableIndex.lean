import Csqtt.Tables

/-!
# Indexes of a table by a field of its rows

A table of rows under slots is often searched by a field of the row, so a second
table maps each field value to the slot of its row. `Indexes` says that the second
table is exact: it holds an entry for every row, and no other entry.

The laws follow the ways in which both tables are changed together. A row enters
under a vacant slot, and the index stays exact precisely if the field value was not
yet taken. A row leaves, is replaced by one with the same field, changes its field,
or moves to another slot. `Names` is the half of exactness that needs no free field
value: every entry names a row with that field. The other half says that every row has
its entry. The last section follows the list of all field values, for fields that name
rows uniquely across several tables.
-/

namespace Csqtt.Table

open List AList

universe u v w
variable {κ : Type u} {ν : Type v} {ι : Type w} [DecidableEq κ] [DecidableEq ι]

variable (table : Table κ ν)

/-- Lookup after removal, without a case split at the call site. -/
theorem lookup_erase_if (key other : κ) :
    (table.erase key).lookup other = if other = key then none else table.lookup other := by
  split
  next same => rw [same, lookup_erase]
  next different => exact lookup_erase_ne different

/-- An entry that is removed and inserted again is replaced. -/
theorem erase_insert (key : κ) (value : ν) :
    (table.erase key).insert key value = table.insert key value := by
  have missing : key ∉ (table.erase key).entries.keys :=
    lookup_eq_none.mp (lookup_erase key table)
  apply AList.ext
  rw [entries_insert, entries_insert, kerase_of_notMem_keys missing, entries_erase]

/-- A new entry that is removed leaves no trace. -/
theorem insert_erase (key : κ) (value : ν) (absent : table.lookup key = none) :
    (table.insert key value).erase key = table := by
  have missing : key ∉ table.entries.keys := lookup_eq_none.mp absent
  apply AList.ext
  rw [entries_erase, entries_insert, kerase_of_notMem_keys missing]
  exact kerase_cons_eq rfl

variable {slot : κ} {row new : ν}

section Fields

variable {field : ν → ι} {rows : Table κ ν} {index : Table ι κ}

/-- Every entry names the slot of a row with that field value. -/
def Names (field : ν → ι) (rows : Table κ ν) (index : Table ι κ) : Prop :=
  ∀ key slot, index.lookup key = some slot → ∃ row, rows.lookup slot = some row ∧ field row = key

namespace Names

theorem empty : Names field (∅ : Table κ ν) (∅ : Table ι κ) := by
  intro key slot entry
  cases entry

section

variable (named : Names field rows index)

include named

/-- A row enters under a vacant slot. If its field value was taken, the entry now names
the new row. -/
theorem insert (vacant : rows.lookup slot = none) :
    Names field (rows.insert slot row) (index.insert (field row) slot) := by
  intro key other entry
  rw [lookup_insert_if] at entry ⊢
  by_cases sameKey : key = field row
  · rw [if_pos sameKey] at entry
    cases entry
    exact ⟨row, if_pos rfl, sameKey.symm⟩
  rw [if_neg sameKey] at entry
  obtain ⟨found, here, same⟩ := named key other entry
  have elsewhere : other ≠ slot := by
    rintro rfl
    rw [vacant] at here
    cases here
  exact ⟨found, by rw [if_neg elsewhere, here], same⟩

/-- A row leaves with the entry of its field value. -/
theorem erase (here : rows.lookup slot = some row) :
    Names field (rows.erase slot) (index.erase (field row)) := by
  intro key other entry
  rw [lookup_erase_if] at entry ⊢
  by_cases sameKey : key = field row
  · rw [if_pos sameKey] at entry
    cases entry
  rw [if_neg sameKey] at entry
  obtain ⟨found, there, same⟩ := named key other entry
  have elsewhere : other ≠ slot := by
    rintro rfl
    rw [here] at there
    cases there
    exact sameKey same.symm
  exact ⟨found, by rw [if_neg elsewhere, there], same⟩

/-- A row is replaced by one with the same field. -/
theorem update (here : rows.lookup slot = some row)
    (same : field new = field row) : Names field (rows.insert slot new) index := by
  intro key other entry
  obtain ⟨found, there, isKey⟩ := named key other entry
  rw [lookup_insert_if]
  by_cases sameSlot : other = slot
  · rw [sameSlot, here] at there
    cases there
    exact ⟨new, if_pos sameSlot, same.trans isKey⟩
  · exact ⟨found, by rw [if_neg sameSlot, there], isKey⟩

/-- A row changes its field; its entry changes with it. -/
theorem rekey (here : rows.lookup slot = some row) :
    Names field (rows.insert slot new) ((index.erase (field row)).insert (field new) slot) := by
  rw [← erase_insert rows slot new]
  exact (named.erase here).insert (lookup_erase slot rows)

/-- A row moves to another slot; its entry follows it. -/
theorem relocate {target : κ} (here : rows.lookup slot = some row)
    (vacant : (rows.erase slot).lookup target = none) :
    Names field ((rows.erase slot).insert target row) (index.insert (field row) target) := by
  rw [← erase_insert index (field row) target]
  exact (named.erase here).insert vacant

end

end Names

/-- The index names exactly the slots of the rows, each under its field. -/
def Indexes (field : ν → ι) (rows : Table κ ν) (index : Table ι κ) : Prop :=
  ∀ key slot, index.lookup key = some slot ↔ ∃ row, rows.lookup slot = some row ∧ field row = key

namespace Indexes

/-- An index is exact if its entries name rows and every row has its entry. -/
theorem of_names (named : Names field rows index)
    (stored : ∀ slot row, rows.lookup slot = some row → index.lookup (field row) = some slot) :
    Indexes field rows index := by
  intro key slot
  constructor
  · exact named key slot
  · rintro ⟨row, here, rfl⟩
    exact stored slot row here

theorem empty : Indexes field (∅ : Table κ ν) (∅ : Table ι κ) := by
  intro key slot
  simp

section

variable (indexed : Indexes field rows index)

include indexed

/-- Every row has its entry. -/
theorem stored (here : rows.lookup slot = some row) : index.lookup (field row) = some slot :=
  (indexed (field row) slot).mpr ⟨row, here, rfl⟩

/-- Every entry names a row. -/
theorem named : Names field rows index :=
  fun key slot => (indexed key slot).mp

/-- No two slots hold rows with one field value. -/
theorem slot_unique {first second : κ} {other : ν} (here : rows.lookup first = some row)
    (there : rows.lookup second = some other) (same : field row = field other) :
    first = second := by
  have entry := indexed.stored here
  rw [same, indexed.stored there] at entry
  exact (Option.some.inj entry).symm

/-- A field value without an entry belongs to no row. -/
theorem absent {key : ι} (missing : index.lookup key = none)
    (here : rows.lookup slot = some row) : field row ≠ key := by
  intro same
  have entry := indexed.stored here
  rw [same, missing] at entry
  cases entry

/-- A row enters under a vacant slot, with a field value that is free. -/
theorem insert (vacant : rows.lookup slot = none) (free : index.lookup (field row) = none) :
    Indexes field (rows.insert slot row) (index.insert (field row) slot) := by
  refine of_names (indexed.named.insert vacant) ?_
  intro other found here
  rw [lookup_insert_if] at here ⊢
  split at here
  · rename_i same
    cases here
    rw [if_pos rfl, same]
  · rw [if_neg (indexed.absent free here), indexed.stored here]

/-- Entering a row keeps the index exact precisely if its field value was free. -/
theorem insert_iff (vacant : rows.lookup slot = none) :
    Indexes field (rows.insert slot row) (index.insert (field row) slot) ↔
      index.lookup (field row) = none := by
  constructor
  · intro after
    cases taken : index.lookup (field row) with
    | none => rfl
    | some other =>
      obtain ⟨found, here, same⟩ := indexed.named _ _ taken
      have elsewhere : other ≠ slot := by
        rintro rfl
        rw [vacant] at here
        cases here
      have there : (rows.insert slot row).lookup other = some found := by
        rw [lookup_insert_if, if_neg elsewhere, here]
      have entered : (rows.insert slot row).lookup slot = some row := by
        rw [lookup_insert_if, if_pos rfl]
      exact absurd (after.slot_unique there entered same) elsewhere
  · exact indexed.insert vacant

/-- A row leaves with the entry of its field value. -/
theorem erase (here : rows.lookup slot = some row) :
    Indexes field (rows.erase slot) (index.erase (field row)) := by
  refine of_names (indexed.named.erase here) ?_
  intro other found there
  rw [lookup_erase_if] at there ⊢
  split at there
  · cases there
  · rename_i apart
    have different : field found ≠ field row :=
      fun same => apart (indexed.slot_unique there here same)
    rw [if_neg different, indexed.stored there]

/-- A row is replaced by one with the same field. -/
theorem update (here : rows.lookup slot = some row)
    (same : field new = field row) : Indexes field (rows.insert slot new) index := by
  refine of_names (indexed.named.update here same) ?_
  intro other found there
  rw [lookup_insert_if] at there
  split at there
  · rename_i isSlot
    cases there
    rw [same, isSlot, indexed.stored here]
  · exact indexed.stored there

/-- A row changes its field to a value that is free. -/
theorem rekey (here : rows.lookup slot = some row) (free : index.lookup (field new) = none) :
    Indexes field (rows.insert slot new) ((index.erase (field row)).insert (field new) slot) := by
  have stillFree : (index.erase (field row)).lookup (field new) = none := by
    rw [lookup_erase_if, free, ite_self]
  rw [← erase_insert rows slot new]
  exact (indexed.erase here).insert (lookup_erase slot rows) stillFree

/-- A row moves to another slot; its entry follows it. -/
theorem relocate {target : κ} (here : rows.lookup slot = some row)
    (vacant : (rows.erase slot).lookup target = none) :
    Indexes field ((rows.erase slot).insert target row) (index.insert (field row) target) := by
  rw [← erase_insert index (field row) target]
  exact (indexed.erase here).insert vacant (lookup_erase _ _)

end

end Indexes

end Fields

/-! ## The list of all field values -/

section Image

variable {β : Type w}

/-- The field values of all rows, in no particular order. -/
def image (field : ν → β) (rows : Table κ ν) : List β := rows.entries.map fun entry => field entry.2

section

variable (field : ν → β) (rows : Table κ ν)

include field rows

variable (slot : κ)

/-- A row enters under a vacant slot. -/
theorem image_insert (row : ν) (vacant : rows.lookup slot = none) :
    image field (rows.insert slot row) = field row :: image field rows := by
  have missing : slot ∉ rows.entries.keys := lookup_eq_none.mp vacant
  rw [image, entries_insert, kerase_of_notMem_keys missing]
  rfl

theorem image_erase (row : ν) (here : rows.lookup slot = some row) :
    (field row :: image field (rows.erase slot)).Perm (image field rows) := by
  obtain ⟨found, first, rest, _, split, erased⟩ := exists_of_kerase
    (mem_keys.mp (lookup_isSome.mp (by rw [here]; rfl)))
  have other : (⟨slot, found⟩ : Sigma fun _ : κ => ν) ∈ rows.entries := by
    rw [split]
    simp
  have same : found = row :=
    Option.some.inj ((mem_lookup_iff.mpr other).symm.trans here)
  subst same
  rw [image, image, entries_erase, erased, split]
  simp only [map_append, map_cons]
  exact perm_middle.symm

theorem image_update (row new : ν) (here : rows.lookup slot = some row)
    (same : field new = field row) :
    (image field (rows.insert slot new)).Perm (image field rows) := by
  have replaced : image field (rows.insert slot new) = field new :: image field (rows.erase slot) := by
    rw [image, entries_insert]
    rfl
  rw [replaced, same]
  exact image_erase field rows slot row here

/-- The field value of a stored row. -/
theorem mem_image (row : ν) (here : rows.lookup slot = some row) : field row ∈ image field rows :=
  (image_erase field rows slot row here).subset mem_cons_self

theorem mem_image_iff (value : β) :
    value ∈ image field rows ↔ ∃ row, (∃ slot, rows.lookup slot = some row) ∧ field row = value := by
  constructor
  · intro member
    obtain ⟨entry, stored, same⟩ := mem_map.mp member
    exact ⟨entry.2, ⟨entry.1, mem_lookup_iff.mpr stored⟩, same⟩
  · rintro ⟨row, ⟨slot, here⟩, rfl⟩
    exact mem_image field rows slot row here

end

end Image

end Csqtt.Table
