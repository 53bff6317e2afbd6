import Csqtt.Tables

/-!
# Statements that write many rows

A transaction writes a table row by row. Three statements occur: `insertMissing` leaves a row
alone that is there already, `upsert` replaces it, and `revise` changes rows that are there
and adds none. Each is a fold over the rows to be written, and each has one law that says
what is found under a key afterwards.

`rewrite` makes a table the image of another one: rows without a counterpart are removed, and
all rows of the other table are upserted. `mapRows` changes all rows where they stand.

A copy of a table may lag behind in one part of its rows, such as counters, while changes of
that part are on their way. `Agrees` says that the copy is right except for this part of the
rows that such a change is known for; `revise` brings the copy closer.
-/

namespace Csqtt.Table

open List AList Bool

universe u v w
variable {κ : Type u} {ν : Type v} {γ : Type w}

/-- Change every row of a table. -/
def mapRows (change : κ → ν → γ) (table : Table κ ν) : Table κ γ where
  entries := table.entries.map fun entry => ⟨entry.1, change entry.1 entry.2⟩
  nodupKeys := by
    rw [List.NodupKeys, List.keys, map_map]
    exact table.nodupKeys

/-- The rows of a table. -/
def rows (table : Table κ ν) : List (κ × ν) := table.entries.map fun entry => (entry.1, entry.2)

variable (table : Table κ ν)

theorem length_rows : table.rows.length = table.size := by
  rw [rows, length_map, size, AList.keys, List.keys, length_map]

theorem size_retain_le (keep : κ → ν → Bool) (table : Table κ ν) :
    (table.retain keep).size ≤ table.size := by
  rw [← length_rows, ← length_rows, rows, rows, length_map, length_map]
  exact length_filter_le _ _

theorem nodup_rows : (table.rows.map Prod.fst).Nodup := by
  rw [rows, map_map]
  exact table.nodupKeys

variable [DecidableEq κ]

/-- The first row with a key. -/
def firstRow (rows : List (κ × ν)) (key : κ) : Option ν :=
  (rows.find? fun row => decide (row.1 = key)).map Prod.snd

/-- Insert rows; a row with a key that is taken is skipped. -/
def insertMissing (table : Table κ ν) (news : List (κ × ν)) : Table κ ν :=
  news.foldl (fun table row => if (table.lookup row.1).isSome then table
    else table.insert row.1 row.2) table

/-- Insert rows; a row with a key that is taken replaces the other one. -/
def upsert (table : Table κ ν) (news : List (κ × ν)) : Table κ ν :=
  news.foldl (fun table row => table.insert row.1 row.2) table

/-- Change the rows with certain keys, if they are there. -/
def revise (change : γ → ν → ν) (table : Table κ ν) (news : List (κ × γ)) : Table κ ν :=
  news.foldl (fun table row =>
    match table.lookup row.1 with
    | none => table
    | some old => table.insert row.1 (change row.2 old)) table

/-- Remove the rows whose keys are not in another table, and upsert rows. -/
def rewrite (table : Table κ ν) (source : Table κ γ) (news : List (κ × ν)) : Table κ ν :=
  (table.retain fun key _ => (source.lookup key).isSome).upsert news

/-! ## What is found afterwards -/

theorem size_erase_le (key : κ) : size (table.erase key) ≤ table.size := by
  rw [size, keys_erase]
  exact length_erase_le

theorem lookup_mapRows (change : κ → ν → γ) (table : Table κ ν) (key : κ) :
    (table.mapRows change).lookup key = (table.lookup key).map (change key) := by
  have found : ∀ entries : List (Sigma fun _ : κ => ν),
      (entries.map fun entry => (⟨entry.1, change entry.1 entry.2⟩ : Sigma fun _ : κ => γ)).dlookup
        key = (entries.dlookup key).map (change key) := by
    intro entries
    induction entries with
    | nil => rfl
    | cons entry rest ih =>
      obtain ⟨stored, row⟩ := entry
      rw [map_cons]
      by_cases same : stored = key
      · subst same
        rw [dlookup_cons_eq, dlookup_cons_eq, Option.map_some]
      · have different : key ≠ stored := fun back => same back.symm
        rw [dlookup_cons_ne _ _ different, dlookup_cons_ne _ _ different]
        exact ih
  exact found table.entries

theorem firstRow_cons (row : κ × ν) (rest : List (κ × ν)) (key : κ) :
    firstRow (row :: rest) key = if row.1 = key then some row.2 else firstRow rest key := by
  rw [firstRow, find?_cons]
  by_cases same : row.1 = key
  · rw [if_pos same, decide_eq_true same]
    rfl
  · rw [if_neg same, decide_eq_false same]
    rfl

/-- The first row with a key in a table is the only one. -/
theorem firstRow_rows (key : κ) : firstRow table.rows key = table.lookup key := by
  have found : ∀ entries : List (Sigma fun _ : κ => ν),
      firstRow (entries.map fun entry => (entry.1, entry.2)) key = entries.dlookup key := by
    intro entries
    induction entries with
    | nil => rfl
    | cons entry rest ih =>
      rw [map_cons, firstRow_cons, ih]
      by_cases same : entry.1 = key
      · rw [if_pos same]
        obtain ⟨stored, row⟩ := entry
        subst same
        rw [dlookup_cons_eq]
      · rw [if_neg same, dlookup_cons_ne _ _ (fun back => same back.symm)]
  exact found table.entries

/-- A row of a table is found under its key. -/
theorem mem_rows {table : Table κ ν} {row : κ × ν} :
    row ∈ table.rows ↔ table.lookup row.1 = some row.2 := by
  rw [rows, mem_map]
  constructor
  · rintro ⟨entry, stored, rfl⟩
    exact mem_lookup_iff.mpr stored
  · intro found
    exact ⟨⟨row.1, row.2⟩, mem_lookup_iff.mp found, rfl⟩

theorem firstRow_none {rows : List (κ × ν)} {key : κ} :
    firstRow rows key = none ↔ ∀ row ∈ rows, row.1 ≠ key := by
  rw [firstRow, Option.map_eq_none_iff, find?_eq_none]
  simp

theorem firstRow_mem {rows : List (κ × ν)} {key : κ} {row : ν} (found : firstRow rows key = some row) :
    (key, row) ∈ rows := by
  obtain ⟨entry, isFirst, rfl⟩ := Option.map_eq_some_iff.mp found
  have same := find?_some isFirst
  rw [decide_eq_true_eq] at same
  rw [← same]
  exact mem_of_find?_eq_some isFirst

theorem lookup_retain (keep : κ → ν → Bool) (table : Table κ ν) (key : κ) :
    (table.retain keep).lookup key = (table.lookup key).filter (keep key) := by
  apply Option.ext
  intro row
  have kept : (table.retain keep).lookup key = some row ↔
      ⟨key, row⟩ ∈ table.entries.filter fun entry => keep entry.1 entry.2 :=
    mem_lookup_iff
  rw [Option.filter_eq_some_iff, kept, mem_filter]
  exact and_congr_left fun _ => mem_lookup_iff.symm

theorem lookup_insertMissing (news : List (κ × ν)) (key : κ) :
    (table.insertMissing news).lookup key = (table.lookup key).or (firstRow news key) := by
  induction news generalizing table with
  | nil => exact Option.or_none.symm
  | cons row rest ih =>
    rw [insertMissing, foldl_cons]
    refine (ih _).trans ?_
    rw [firstRow_cons]
    by_cases same : row.1 = key
    · rw [same, if_pos rfl]
      cases taken : table.lookup key with
      | some stored =>
        rw [if_pos Option.isSome_some, taken]
        rfl
      | none =>
        rw [if_neg (by rw [Option.isSome_none]; exact false_ne_true), lookup_insert]
        rfl
    · rw [if_neg same]
      split
      · rfl
      · rw [lookup_insert_ne fun back => same back.symm]

/-- If each of several writes keeps what is found and fills in what is missing, the first one
that has something counts. -/
theorem found_foldl {σ : Type u} {α : Type v} (write : σ → α → σ) (found : σ → Option ν)
    (given : α → Option ν) (each : ∀ state value,
      found (write state value) = (found state).or (given value)) (state : σ) (values : List α) :
    found (values.foldl write state) = (found state).or (values.findSome? given) := by
  induction values generalizing state with
  | nil => exact Option.or_none.symm
  | cons value rest ih =>
    rw [foldl_cons, ih, each, Option.or_assoc, findSome?_cons]
    cases given value with
    | none => rfl
    | some row => rfl

/-- If no key occurs twice, the rows are found as they were written. -/
theorem lookup_upsert {news : List (κ × ν)} (distinct : (news.map Prod.fst).Nodup) (key : κ) :
    (table.upsert news).lookup key = (firstRow news key).or (table.lookup key) := by
  induction news generalizing table with
  | nil => rfl
  | cons row rest ih =>
    obtain ⟨new, later⟩ := nodup_cons.mp distinct
    rw [upsert, foldl_cons]
    refine (ih _ later).trans ?_
    rw [firstRow_cons, lookup_insert_if]
    by_cases same : row.1 = key
    · have only : firstRow rest key = none := by
        rw [firstRow_none]
        intro other member isKey
        rw [same, ← isKey] at new
        exact new (mem_map_of_mem member)
      rw [if_pos same, if_pos same.symm, only]
      rfl
    · rw [if_neg same, if_neg fun back => same back.symm]

theorem lookup_revise (change : γ → ν → ν) (table : Table κ ν) {news : List (κ × γ)}
    (distinct : (news.map Prod.fst).Nodup) (key : κ) : (table.revise change news).lookup key =
      (table.lookup key).map fun row => ((firstRow news key).map (change · row)).getD row := by
  induction news generalizing table with
  | nil =>
    rw [revise, foldl_nil]
    cases table.lookup key with
    | none => rfl
    | some row => rfl
  | cons new rest ih =>
    obtain ⟨isNew, later⟩ := nodup_cons.mp distinct
    rw [revise, foldl_cons]
    refine (ih _ later).trans ?_
    rw [firstRow_cons]
    by_cases same : new.1 = key
    · have only : firstRow rest key = none := by
        rw [firstRow_none]
        intro other member isKey
        rw [same, ← isKey] at isNew
        exact isNew (mem_map_of_mem member)
      rw [if_pos same, only, same]
      cases stored : table.lookup key with
      | none =>
        rw [stored]
        rfl
      | some row =>
        rw [lookup_insert]
        rfl
    · rw [if_neg same]
      split
      · rfl
      · rw [lookup_insert_ne fun back => same back.symm]

/-- Rows that are written under their keys. -/
theorem firstRow_map {rows : List (κ × γ)} {written : κ × γ → κ × ν}
    (keyed : ∀ row ∈ rows, (written row).1 = row.1) (key : κ) :
    firstRow (rows.map written) key = (firstRow rows key).map fun row => (written (key, row)).2 := by
  induction rows with
  | nil => rfl
  | cons row rest ih =>
    obtain ⟨here, later⟩ := forall_mem_cons.mp keyed
    rw [map_cons, firstRow_cons, firstRow_cons, here, ih later]
    by_cases same : row.1 = key
    · rw [if_pos same, if_pos same, Option.map_some, ← same]
    · rw [if_neg same, if_neg same]

/-- A table that was rewritten has the rows of the other one, as they were written. -/
theorem lookup_rewrite (source : Table κ γ) (written : κ × γ → κ × ν)
    (keyed : ∀ row ∈ source.rows, (written row).1 = row.1) (key : κ) :
    (table.rewrite source (source.rows.map written)).lookup key =
      (source.lookup key).map fun row => (written (key, row)).2 := by
  have same : (source.rows.map written).map Prod.fst = source.rows.map Prod.fst := by
    rw [map_map]
    exact map_congr_left keyed
  have distinct : ((source.rows.map written).map Prod.fst).Nodup := by
    rw [same]
    exact source.nodup_rows
  rw [rewrite, lookup_upsert _ distinct, firstRow_map keyed, firstRow_rows, lookup_retain]
  cases found : source.lookup key with
  | some row => rfl
  | none => exact Option.filter_eq_none_iff.mpr fun row _ => false_ne_true

/-- Rows that were written as they are. -/
theorem lookup_rewrite_rows (table source : Table κ ν) (key : κ) :
    (table.rewrite source source.rows).lookup key = source.lookup key := by
  have written := lookup_rewrite table source id (fun row _ => rfl) key
  rw [map_id] at written
  exact written.trans Option.map_id'

/-! ## Copies that lag behind -/

/-- Two tables have the same rows, except that a part of the rows under certain keys may
differ. `change` replaces that part. -/
def Agrees (change : γ → ν → ν) (copy table : Table κ ν) (lagging : κ → Prop) : Prop :=
  ∀ key, (∀ part, (copy.lookup key).map (change part) = (table.lookup key).map (change part)) ∧
    (copy.lookup key = table.lookup key ∨ lagging key)

namespace Agrees

variable {change : γ → ν → ν} {first second third : Table κ ν} {early late lagging : κ → Prop}

theorem of_lookup (same : ∀ key, first.lookup key = second.lookup key) :
    Agrees change first second lagging :=
  fun key => ⟨fun part => by rw [same key], .inl (same key)⟩

theorem lookup (agrees : Agrees change first second lagging) (none : ∀ key, ¬ lagging key) (key : κ) :
    first.lookup key = second.lookup key :=
  (agrees key).2.resolve_right (none key)

theorem trans (before : Agrees change first second early) (after : Agrees change second third late)
    (earlier : ∀ key, early key → lagging key) (later : ∀ key, late key → lagging key) :
    Agrees change first third lagging := by
  intro key
  obtain ⟨alike, same⟩ := before key
  obtain ⟨alikeToo, sameToo⟩ := after key
  refine ⟨fun part => (alike part).trans (alikeToo part), ?_⟩
  obtain equal | lags := same
  · obtain equalToo | lags := sameToo
    · exact .inl (equal.trans equalToo)
    · exact .inr (later key lags)
  · exact .inr (earlier key lags)

/-- A row whose part was replaced lags behind, unless nothing has changed. -/
theorem insert {key : κ} {row new : ν} (here : first.lookup key = some row)
    (alike : ∀ part, change part new = change part row) (marked : lagging key) :
    Agrees change first (first.insert key new) lagging := by
  intro other
  rw [lookup_insert_if]
  by_cases same : other = key
  · rw [if_pos same, same, here]
    exact ⟨fun part => congrArg some (alike part).symm, .inr marked⟩
  · rw [if_neg same]
    exact ⟨fun part => rfl, .inl rfl⟩

/-- Changes that were on their way are made to the copy. A change must be the one that the
table has, unless another one for the same row is still on its way. -/
theorem revise (agrees : Agrees change first second early)
    (replaces : ∀ part other row, change part (change other row) = change part row)
    (news : Table κ γ)
    (current : ∀ key part, news.lookup key = some part → ∀ row, second.lookup key = some row →
      change part row = row ∨ late key)
    (left : ∀ key, early key → (news.lookup key).isSome ∨ late key) :
    Agrees change (first.revise change news.rows) second late := by
  intro key
  rw [lookup_revise change first news.nodup_rows, firstRow_rows]
  obtain ⟨alike, same⟩ := agrees key
  cases found : news.lookup key with
  | none =>
    simp only [Option.map_none, Option.getD_none, Option.map_id']
    refine ⟨alike, same.imp_right fun lags => ?_⟩
    have missing := left key lags
    rw [found] at missing
    exact missing.resolve_left false_ne_true
  | some part =>
    simp only [Option.map_some, Option.getD_some]
    constructor
    · intro other
      rw [Option.map_map, ← alike other]
      exact congrArg (Option.map · _) (funext fun row => replaces other part row)
    · rw [alike part]
      cases here : second.lookup key with
      | none => exact .inl rfl
      | some row =>
        obtain unchanged | lags := current key part found row here
        · rw [Option.map_some, unchanged]
          exact .inl rfl
        · exact .inr lags

end Agrees

/-- Two changes one after the other are one change, in which the later one counts. -/
theorem lookup_revise_revise (change : γ → ν → ν)
    (replaces : ∀ part other row, change part (change other row) = change part row)
    (table : Table κ ν) (news later : Table κ γ) (key : κ) :
    ((table.revise change news.rows).revise change later.rows).lookup key =
      (table.revise change (later ∪ news).rows).lookup key := by
  simp only [lookup_revise _ _ (nodup_rows _), firstRow_rows, Option.map_map]
  congr 1
  funext row
  cases found : later.lookup key with
  | some part =>
    have first : (later ∪ news).lookup key = some part :=
      mem_lookup_union.mpr (.inl found)
    rw [first]
    simp only [Function.comp_apply, Option.map_some, Option.getD_some]
    cases news.lookup key with
    | none => rfl
    | some other => exact replaces part other row
  | none =>
    rw [lookup_union_right (lookup_eq_none.mp found)]
    simp

end Csqtt.Table
