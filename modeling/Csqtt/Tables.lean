import Mathlib.Data.List.AList
import Mathlib.Tactic.Ring

/-!
# Finite tables

A hash table is modeled by a duplicate-free association list. Only membership,
lookup, insertion, removal, filtering, clearing and size are used by callers, so the list
order stands for an arbitrary iteration order and no result depends on it.

`weight` sums a measure over all stored values. Its insertion law is what keeps
an incrementally maintained total equal to the sum it stands for.
-/

namespace Csqtt

open List AList

universe u v
variable {κ : Type u} {ν : Type v}

/-- A finite map from keys to values. -/
abbrev Table (κ : Type u) (ν : Type v) := AList fun _ : κ => ν

namespace Table

/-- The number of stored keys. -/
def size (table : Table κ ν) : Nat := table.keys.length

/-- The sum of a measure over all stored values. -/
def weight (measure : ν → Nat) (table : Table κ ν) : Nat :=
  (table.entries.map fun entry => measure entry.2).sum

/-- Keep the entries that meet a condition. -/
def retain (keep : κ → ν → Bool) (table : Table κ ν) : Table κ ν where
  entries := table.entries.filter fun entry => keep entry.1 entry.2
  nodupKeys := table.nodupKeys.sublist filter_sublist

@[simp] theorem size_empty : size (∅ : Table κ ν) = 0 := rfl

@[simp] theorem weight_empty (measure : ν → Nat) : weight measure (∅ : Table κ ν) = 0 := rfl

variable [DecidableEq κ]

section

variable (table : Table κ ν) (key : κ)

include table key

/-- Insertion adds a key exactly when it was absent. -/
theorem size_insert (value : ν) :
    size (table.insert key value) = if key ∈ table then size table else size table + 1 := by
  simp only [size, AList.keys_insert, length_cons, AList.mem_keys]
  split
  next present =>
    have positive : 0 < table.keys.length := length_pos_of_mem present
    rw [length_erase_of_mem present]
    omega
  next absent => rw [erase_of_not_mem absent]

/-- A new key makes a table larger by one. -/
theorem size_insert_absent (value : ν) (absent : table.lookup key = none) :
    size (table.insert key value) = size table + 1 := by
  rw [size_insert, if_neg (lookup_eq_none.mp absent)]

/-- Erasing a stored key makes it smaller by one. -/
theorem size_erase (value : ν) (stored : table.lookup key = some value) :
    size (table.erase key) + 1 = size table := by
  have present : key ∈ table.keys := AList.mem_keys.mp (lookup_isSome.mp (by rw [stored]; rfl))
  have positive : 0 < table.keys.length := length_pos_of_mem present
  rw [size, size, keys_erase, length_erase_of_mem present]
  omega

/-- The entries left after an erasure. -/
theorem entries_erase : (table.erase key).entries = table.entries.kerase key := rfl

end

section

variable (measure : ν → Nat) (table : Table κ ν) (key : κ)

include measure table key

/-- Removing a stored value takes exactly its measure away from the sum. -/
theorem weight_erase (value : ν) (stored : table.lookup key = some value) :
    weight measure (table.erase key) + measure value = weight measure table := by
  obtain ⟨found, first, rest, _, split, erased⟩ := exists_of_kerase
    (AList.mem_keys.mp (lookup_isSome.mp (by rw [stored]; rfl)))
  have entry : (⟨key, value⟩ : Sigma fun _ : κ => ν) ∈ table.entries :=
    mem_lookup_iff.mp stored
  have other : (⟨key, found⟩ : Sigma fun _ : κ => ν) ∈ table.entries := by rw [split]; simp
  have same : found = value := by
    have agreed := (mem_lookup_iff.mpr other).symm.trans (mem_lookup_iff.mpr entry)
    exact Option.some.inj agreed
  subst same
  rw [weight, weight, entries_erase, erased]
  simp only [split, map_append, sum_append, map_cons, sum_cons]
  omega

/-- Erasing an absent key changes no sum. -/
theorem weight_erase_absent (absent : table.lookup key = none) :
    weight measure (table.erase key) = weight measure table := by
  have missing : key ∉ table.entries.keys := lookup_eq_none.mp absent
  rw [weight, weight, entries_erase, kerase_of_notMem_keys missing]

/-- Insertion replaces the measure of the value previously stored, if any. -/
theorem weight_insert (value : ν) : weight measure (table.insert key value) =
      measure value + weight measure (table.erase key) := by
  rw [weight, weight, entries_insert, entries_erase, map_cons, sum_cons]

/-- A stored value's measure is part of the sum. -/
theorem weight_le (value : ν) (stored : table.lookup key = some value) :
    measure value ≤ weight measure table := by
  have split := weight_erase measure table key value stored
  omega

end

/-- Lookup after insertion, without a case split at the call site. -/
theorem lookup_insert_if (table : Table κ ν) (key other : κ) (value : ν) :
    (table.insert key value).lookup other =
      if other = key then some value else table.lookup other := by
  split
  next same => subst same; exact lookup_insert table
  next different => exact lookup_insert_ne different

end Table

end Csqtt
