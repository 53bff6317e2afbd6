import Csqtt.DatabaseFile
import Csqtt.Runs

/-!
# Loading the database

If there is no `csqtt.db`, the server creates one and merges the old databases into it, one
transaction for each. Then it looks for every row, forgets stale bindings, and removes the old
files. If there is a `csqtt.db`, old files are ignored.

A load is modeled by its result and by what it does to the directory, write by write; a
transaction is one write. A load that fails or is interrupted has made the first of its
writes and no other. So it may leave a `csqtt.db` that has some of the old rows only, and the
next load takes that file for the whole truth. A load that stops is harmless if it has written
nothing, or if the databases that it has merged have every row already.
-/

namespace Csqtt.Storage

open ControlText List Runs Option Table

/-! ## The directory -/

/-- What an old file has in it. -/
inductive LegacyContents
  | malformed
  | database (db : Database)

/-- The directory with the configuration. -/
structure Directory where
  database : Option DatabaseFile
  legacy : LegacyFile → Option LegacyContents

/-- What a load does to the directory. -/
inductive Write
  | create
  | importRows (legacy : Database)
  | save (db : Database)
  | remove (file : LegacyFile)

namespace Directory

/-- The old files that are there. -/
def legacyPaths (directory : Directory) : List LegacyFile :=
  [LegacyFile.passwords, .imported].filter fun file => (directory.legacy file).isSome

/-- Read an old file. -/
def readLegacy (directory : Directory) (file : LegacyFile) : Except LoadError Database :=
  match directory.legacy file with
  | some (.database db) => .ok { db with localProxy := db.localProxy.normalize }
  | _ => .error (.malformed file)

/-- The directory after a write. -/
def apply (directory : Directory) : Write → Directory
  | .create => { directory with database := some (directory.database.getD .created) }
  | .importRows legacy =>
    { directory with
      database := directory.database.map fun file => importLegacyDatabaseRows file legacy }
  | .save db =>
    { directory with database := directory.database.map fun file => writeDatabaseSnapshot file db }
  | .remove file => { directory with legacy := Function.update directory.legacy file none }

end Directory

/-- Forget stale bindings, and save the database if there were any. -/
def repairLoadedDatabase (db : Database) : Database × List Write :=
  let (db, changed) := db.repairStalePasswordBindings
  (db, if changed then [.save db] else [])

/-- Load the database of a directory: the result, and what was written on the way. -/
def loadDatabase (directory : Directory) : Except LoadError Database × List Write :=
  match directory.database with
  | some file =>
    let (db, saved) := repairLoadedDatabase (readDatabaseSnapshot file)
    (.ok db, saved)
  | none =>
    if directory.legacyPaths = [] then (.ok .empty, [])
    else
      match directory.legacyPaths.mapM directory.readLegacy with
      | .error error => (.error error, [])
      | .ok legacies =>
        let imports := .create :: legacies.map .importRows
        let sqlite :=
          readDatabaseSnapshot (legacies.foldl importLegacyDatabaseRows DatabaseFile.created)
        match legacies.forM (verifyLegacyDatabaseRows sqlite) with
        | .error error => (.error error, imports)
        | .ok () =>
          let (db, saved) := repairLoadedDatabase sqlite
          (.ok db, imports ++ (saved ++ directory.legacyPaths.map .remove))

/-- The directory after a load that fails or is interrupted when it has made some of its
writes, or is done. -/
def Directory.load (directory : Directory) (stop : Nat) : Directory × Unit :=
  (((loadDatabase directory).2.take stop).foldl Directory.apply directory, ())

/-! ## Which rows are there -/

/-- The row under a password in the first of several databases that have one. -/
def firstPassword (databases : List Database) (password : Text) : Option PasswordEntry :=
  databases.findSome? fun db => db.passwords.lookup password

/-- The first device with an id in several databases. -/
def firstDevice (databases : List Database) (deviceId : Text) : Option ClientDevice :=
  (databases.findSome? fun db => Table.firstRow db.deviceRows deviceId).map fun columns =>
    ⟨columns, deviceId⟩

/-- All rows of an old database are among some rows. A binding to a device that is not among
them counts as none. -/
structure Has (passwords : Text → Option PasswordEntry) (devices : Text → Option ClientDevice)
    (legacy : Database) : Prop where
  passwords : ∀ row ∈ legacy.passwords.rows, (passwords row.1).any fun entry =>
    legacyPasswordMatches (entry.repaired fun deviceId => (devices deviceId).isSome)
      (row.2.repaired fun deviceId => (devices deviceId).isSome)
  devices : ∀ row ∈ legacy.devices.rows, (devices row.1).any fun device =>
    legacyDeviceMatches device row.2

instance (passwords : Text → Option PasswordEntry) (devices : Text → Option ClientDevice)
    (legacy : Database) : Decidable (Has passwords devices legacy) :=
  decidable_of_iff (_ ∧ _) ⟨fun all => ⟨all.1, all.2⟩, fun all => ⟨all.1, all.2⟩⟩

/-- All rows of an old database are in a database. -/
def Covers (db legacy : Database) : Prop := Has db.passwords.lookup db.devices.lookup legacy

/-- The databases in the old files, as far as they can be read. -/
def Directory.legacyDatabases (directory : Directory) : List Database :=
  directory.legacyPaths.filterMap fun file => (directory.readLegacy file).toOption

/-- Whether all old files can be read. -/
def Directory.Readable (directory : Directory) : Prop :=
  ∀ file ∈ directory.legacyPaths, directory.legacy file ≠ some .malformed

/-- A load that stops is harmless if there is a `csqtt.db` already, if an old file cannot be
read, if it has written nothing, or if the databases that it has merged have all rows. -/
def Harmless (directory : Directory) (stop : Nat) : Prop :=
  directory.database.isSome ∨ ¬ directory.Readable ∨ stop = 0 ∨
    ∀ legacy ∈ directory.legacyDatabases,
      Has (firstPassword (directory.legacyDatabases.take (stop - 1)))
        (firstDevice (directory.legacyDatabases.take (stop - 1))) legacy

/-- A load that is not stopped fails, or has the rows of all old databases. -/
def Safe (legacies : List Database) (directory : Directory) : Prop :=
  ∀ db, (loadDatabase directory).1 = .ok db → ∀ legacy ∈ legacies, Covers db legacy

/-! ## Rows that are merged, repaired and saved -/

theorem lookup_imported_passwords (legacies : List Database) (file : DatabaseFile) (password : Text) :
    (legacies.foldl importLegacyDatabaseRows file).passwords.lookup password =
      (file.passwords.lookup password).or (firstPassword legacies password) := by
  refine found_foldl _ (fun file => file.passwords.lookup password) _ ?_ file legacies
  intro file legacy
  rw [← firstRow_rows legacy.passwords]
  exact lookup_insertMissing _ _ _

theorem lookup_imported_devices (legacies : List Database) (file : DatabaseFile) (deviceId : Text) :
    (legacies.foldl importLegacyDatabaseRows file).devices.lookup deviceId =
      (file.devices.lookup deviceId).or
        (legacies.findSome? fun db => Table.firstRow db.deviceRows deviceId) := by
  refine found_foldl _ (fun file => file.devices.lookup deviceId) _ ?_ file legacies
  intro file legacy
  exact lookup_insertMissing _ _ _

theorem covers_imported (legacies : List Database) (legacy : Database) :
    Covers (readDatabaseSnapshot (legacies.foldl importLegacyDatabaseRows .created)) legacy ↔
      Has (firstPassword legacies) (firstDevice legacies) legacy := by
  have passwords : (readDatabaseSnapshot
      (legacies.foldl importLegacyDatabaseRows .created)).passwords.lookup = firstPassword legacies :=
    funext fun password => lookup_imported_passwords legacies .created password
  have devices : (readDatabaseSnapshot
      (legacies.foldl importLegacyDatabaseRows .created)).devices.lookup = firstDevice legacies := by
    funext deviceId
    rw [lookup_readDatabaseSnapshot_devices, lookup_imported_devices]
    rfl
  rw [Covers, passwords, devices]

theorem Covers.congr {db other legacy : Database}
    (passwords : ∀ password, db.passwords.lookup password = other.passwords.lookup password)
    (devices : ∀ deviceId, db.devices.lookup deviceId = other.devices.lookup deviceId) :
    Covers db legacy ↔ Covers other legacy := by
  rw [Covers, Covers, funext passwords, funext devices]

theorem covers_repaired (db legacy : Database) :
    Covers db.repairStalePasswordBindings.1 legacy ↔ Covers db legacy := by
  have same : ∀ row : Text × PasswordEntry,
      ((db.repairStalePasswordBindings.1.passwords.lookup row.1).any fun entry =>
        legacyPasswordMatches (entry.repaired db.hasDevice) (row.2.repaired db.hasDevice)) =
      (db.passwords.lookup row.1).any fun entry =>
        legacyPasswordMatches (entry.repaired db.hasDevice) (row.2.repaired db.hasDevice) := by
    intro row
    rw [Database.repairStalePasswordBindings, lookup_mapRows, Option.any_map]
    simp only [PasswordEntry.repaired_repaired]
  constructor
  · intro covers
    exact ⟨fun row member => (same row).symm.trans (covers.passwords row member), covers.devices⟩
  · intro covers
    exact ⟨fun row member => (same row).trans (covers.passwords row member), covers.devices⟩

theorem covers_verified {sqlite legacy : Database}
    (passed : verifyLegacyDatabaseRows sqlite legacy = .ok ()) : Covers sqlite legacy := by
  obtain ⟨passwords, devices⟩ := verifyLegacyDatabaseRows_eq_ok passed
  constructor
  · intro row member
    obtain ⟨entry, here, alike⟩ := passwords row member
    rw [here]
    exact legacyPasswordMatches_repaired _ alike
  · intro row member
    obtain ⟨device, here, alike⟩ := devices row member
    rw [here]
    exact alike

/-! ## Loads that stop -/

/-- There is a file, and it has the rows of some old databases. -/
def Kept (legacies : List Database) (directory : Directory) : Prop :=
  ∃ file, directory.database = some file ∧
    ∀ legacy ∈ legacies, Covers (readDatabaseSnapshot file) legacy

variable {legacies : List Database} {directory : Directory}

theorem safe_iff {file : DatabaseFile} (stored : directory.database = some file) :
    Safe legacies directory ↔ ∀ legacy ∈ legacies, Covers (readDatabaseSnapshot file) legacy := by
  have loaded : (loadDatabase directory).1 =
      .ok (readDatabaseSnapshot file).repairStalePasswordBindings.1 := by
    rw [loadDatabase, stored]
    rfl
  rw [Safe, loaded]
  constructor
  · intro safe legacy member
    exact (covers_repaired _ legacy).mp (safe _ rfl legacy member)
  · intro covers db same legacy member
    cases same
    exact (covers_repaired _ legacy).mpr (covers legacy member)

/-- What may be written once all rows are there. -/
def Write.Harmless (legacies : List Database) : Write → Prop
  | .save db => db.Keyed ∧ ∀ legacy ∈ legacies, Covers db legacy
  | .remove _ => True
  | _ => False

theorem Kept.apply (kept : Kept legacies directory) {write : Write}
    (harmless : write.Harmless legacies) : Kept legacies (directory.apply write) := by
  obtain ⟨file, stored, covers⟩ := kept
  cases write with
  | create | importRows legacy => cases harmless
  | remove other => exact ⟨file, stored, covers⟩
  | save db =>
    obtain ⟨keyed, all⟩ := harmless
    refine ⟨writeDatabaseSnapshot file db, ?_, ?_⟩
    · rw [Directory.apply, stored]
      rfl
    · intro legacy member
      refine (Covers.congr ?_ ?_).mpr (all legacy member)
      · exact read_write_passwords file _
      · exact read_write_devices file keyed

theorem Kept.applyAll {writes : List Write} (kept : Kept legacies directory)
    (harmless : ∀ write ∈ writes, write.Harmless legacies) :
    Kept legacies (writes.foldl Directory.apply directory) :=
  List.foldlRecOn (motive := Kept legacies) writes _ kept
    fun _ kept write member => kept.apply (harmless write member)

theorem repairLoadedDatabase_harmless (file : DatabaseFile)
    (covers : ∀ legacy ∈ legacies, Covers (readDatabaseSnapshot file) legacy) :
    ∀ write ∈ (repairLoadedDatabase (readDatabaseSnapshot file)).2, write.Harmless legacies := by
  intro write member
  rw [repairLoadedDatabase] at member
  dsimp only at member
  split at member
  · obtain rfl := mem_singleton.mp member
    exact ⟨readDatabaseSnapshot_keyed file, fun legacy isOld =>
      (covers_repaired _ legacy).mpr (covers legacy isOld)⟩
  · cases member

/-- Either all old files are read, or one of them cannot be. -/
theorem readLegacy_mapM (directory : Directory) : (directory.Readable ∧
        directory.legacyPaths.mapM directory.readLegacy = .ok directory.legacyDatabases) ∨
      ¬ directory.Readable ∧ ∃ error, directory.legacyPaths.mapM directory.readLegacy = .error error := by
  have present : ∀ file ∈ directory.legacyPaths, (directory.legacy file).isSome :=
    fun file member => (mem_filter.mp member).2
  rw [Directory.Readable, Directory.legacyDatabases]
  generalize directory.legacyPaths = paths at present ⊢
  induction paths with
  | nil => exact .inl ⟨forall_mem_nil _, rfl⟩
  | cons file rest ih =>
    obtain ⟨here, later⟩ := forall_mem_cons.mp present
    obtain ⟨contents, found⟩ := isSome_iff_exists.mp here
    rw [mapM_cons, forall_mem_cons]
    cases contents with
    | malformed =>
      refine .inr ⟨fun readable => readable.1 found, .malformed file, ?_⟩
      rw [Directory.readLegacy, found]
      rfl
    | database db =>
      have read : directory.readLegacy file =
          .ok { db with localProxy := db.localProxy.normalize } := by
        rw [Directory.readLegacy, found]
      rw [filterMap_cons, read]
      obtain ⟨readable, all⟩ | ⟨unreadable, error, failed⟩ := ih later
      · refine .inl ⟨⟨?_, readable⟩, ?_⟩
        · rw [found]
          intro same
          cases same
        · rw [all]
          rfl
      · refine .inr ⟨fun readable => unreadable readable.2, error, ?_⟩
        rw [failed]
        rfl

theorem loadDatabase_idle (missing : directory.database = none)
    (idle : ¬ directory.Readable ∨ directory.legacyPaths = []) :
    (loadDatabase directory).2 = [] := by
  rw [loadDatabase, missing]
  dsimp only
  split
  · rfl
  rename_i paths
  obtain ⟨readable, _⟩ | ⟨_, error, failed⟩ := readLegacy_mapM directory
  · exact absurd readable (idle.resolve_right paths)
  · rw [failed]

/-- What a load without a file writes: the rows of all old databases and, if all of them are
there then, nothing that loses one. -/
theorem loadDatabase_writes (missing : directory.database = none) (readable : directory.Readable)
    (paths : directory.legacyPaths ≠ []) : ∃ rest, (loadDatabase directory).2 =
        .create :: (directory.legacyDatabases.map .importRows ++ rest) ∧
      (rest = [] ∨ (∀ legacy ∈ directory.legacyDatabases, Covers (readDatabaseSnapshot
          (directory.legacyDatabases.foldl importLegacyDatabaseRows .created)) legacy) ∧
        ∀ write ∈ rest, write.Harmless directory.legacyDatabases) := by
  obtain ⟨_, read⟩ | ⟨unreadable, _⟩ := readLegacy_mapM directory
  · rw [loadDatabase, missing]
    rw [if_neg paths, read]
    dsimp only
    split
    · exact ⟨[], by rw [append_nil], .inl rfl⟩
    rename_i passed
    have covers := fun legacy member => covers_verified (forM_eq_ok passed legacy member)
    refine ⟨_, cons_append, .inr ⟨covers, ?_⟩⟩
    intro write member
    obtain saved | removed := mem_append.mp member
    · exact repairLoadedDatabase_harmless _ covers write saved
    · obtain ⟨file, _, rfl⟩ := mem_map.mp removed
      trivial
  · exact absurd readable unreadable

theorem applyAll_importRows (legacies : List Database) (directory : Directory) (file : DatabaseFile)
    (stored : directory.database = some file) :
    ((legacies.map Write.importRows).foldl Directory.apply directory).database =
      some (legacies.foldl importLegacyDatabaseRows file) := by
  induction legacies generalizing directory file with
  | nil => exact stored
  | cons legacy rest ih =>
    rw [map_cons, foldl_cons, foldl_cons]
    refine ih _ _ ?_
    rw [Directory.apply, stored]
    rfl

theorem Safe.load_stored {file : DatabaseFile} (safe : Safe legacies directory)
    (stored : directory.database = some file) (stop : Nat) :
    Kept legacies (directory.load stop).1 := by
  have covers := (safe_iff stored).mp safe
  refine Kept.applyAll ⟨file, stored, covers⟩ fun write member => ?_
  refine repairLoadedDatabase_harmless file covers write ?_
  have written := mem_of_mem_take member
  rw [loadDatabase, stored] at written
  exact written

/-- A load without a file that stops after some writes leaves a safe directory exactly if the
databases that it has merged have all rows. -/
theorem safe_load_iff (missing : directory.database = none) (readable : directory.Readable)
    (paths : directory.legacyPaths ≠ []) (count : Nat) :
    Safe directory.legacyDatabases (directory.load (count + 1)).1 ↔
      ∀ legacy ∈ directory.legacyDatabases,
        Has (firstPassword (directory.legacyDatabases.take count))
          (firstDevice (directory.legacyDatabases.take count)) legacy := by
  obtain ⟨rest, writes, tail⟩ := loadDatabase_writes missing readable paths
  rw [Directory.load, writes]
  generalize directory.legacyDatabases = legacies at tail ⊢
  have merged : (((legacies.take count).map Write.importRows).foldl Directory.apply
      (directory.apply .create)).database =
      some ((legacies.take count).foldl importLegacyDatabaseRows .created) := by
    refine applyAll_importRows _ _ _ ?_
    rw [Directory.apply, missing]
    rfl
  rw [take_succ_cons, foldl_cons, take_append, foldl_append, length_map, ← map_take]
  by_cases early : rest.take (count - legacies.length) = []
  · rw [early, foldl_nil, safe_iff merged]
    exact forall₂_congr fun legacy _ => covers_imported _ legacy
  have late : legacies.length ≤ count := by
    by_contra before
    exact early (by rw [Nat.sub_eq_zero_of_le (Nat.le_of_not_le before), take_zero])
  have all : legacies.take count = legacies := take_of_length_le late
  obtain rfl | ⟨covers, harmless⟩ := tail
  · exact absurd take_nil early
  rw [all] at merged ⊢
  have spared : ∀ write ∈ rest.take (count - legacies.length), write.Harmless legacies :=
    fun write member => harmless write (mem_of_mem_take member)
  obtain ⟨file, stored, still⟩ := Kept.applyAll ⟨_, merged, covers⟩ spared
  rw [safe_iff stored]
  exact iff_of_true still fun legacy member =>
    (covers_imported legacies legacy).mp (covers legacy member)

theorem applyAll_isSome (writes : List Write) (stored : directory.database.isSome) :
    (writes.foldl Directory.apply directory).database.isSome := by
  induction writes generalizing directory with
  | nil => exact stored
  | cons write rest ih =>
    refine ih ?_
    cases write with
    | create => rfl
    | importRows legacy | save db => exact isSome_map.trans stored
    | remove file => exact stored

/-- A load after which there is still no file has done nothing. -/
theorem load_eq_of_missing {stop : Nat} (missing : (directory.load stop).1.database = none) :
    (directory.load stop).1 = directory := by
  have kept : directory.database = none := by
    rw [← not_isSome_iff_eq_none] at missing ⊢
    exact fun stored => missing (applyAll_isSome _ stored)
  cases stop with
  | zero => rfl
  | succ count =>
    by_cases active : directory.Readable ∧ directory.legacyPaths ≠ []
    · obtain ⟨rest, writes, _⟩ := loadDatabase_writes kept active.1 active.2
      rw [Directory.load, writes] at missing
      have stored := applyAll_isSome
        ((directory.legacyDatabases.map Write.importRows ++ rest).take count)
        (show (directory.apply .create).database.isSome from rfl)
      exact absurd stored (not_isSome_iff_eq_none.mpr missing)
    · rw [not_and_or, not_not] at active
      rw [Directory.load, loadDatabase_idle kept active, take_nil]
      rfl

theorem safe_of_missing (missing : directory.database = none) :
    Safe directory.legacyDatabases directory := by
  intro db loaded
  rw [loadDatabase, missing] at loaded
  dsimp only at loaded
  split at loaded
  · rename_i paths
    rw [Directory.legacyDatabases, paths]
    exact forall_mem_nil _
  obtain ⟨_, read⟩ | ⟨_, error, failed⟩ := readLegacy_mapM directory
  · rw [read] at loaded
    dsimp only at loaded
    split at loaded
    · cases loaded
    rename_i passed
    cases loaded
    intro legacy member
    exact (covers_repaired _ legacy).mpr (covers_verified (forM_eq_ok passed legacy member))
  · rw [failed] at loaded
    cases loaded

/-- One load that stops, in a directory without a file. -/
theorem safe_load_iff_harmless (missing : directory.database = none) (stop : Nat) :
    Safe directory.legacyDatabases (directory.load stop).1 ↔ Harmless directory stop := by
  have idle : ∀ {goal : Prop}, (directory.load stop).1 = directory → goal →
      (Safe directory.legacyDatabases (directory.load stop).1 ↔ goal) := by
    intro goal same holds
    rw [same]
    exact iff_of_true (safe_of_missing missing) holds
  by_cases readable : directory.Readable
  · by_cases paths : directory.legacyPaths = []
    · refine idle ?_ (.inr (.inr (.inr ?_)))
      · rw [Directory.load, loadDatabase_idle missing (.inr paths), take_nil]
        rfl
      · rw [Directory.legacyDatabases, paths]
        exact forall_mem_nil _
    · cases stop with
      | zero => exact idle rfl (.inr (.inr (.inl rfl)))
      | succ count =>
        rw [safe_load_iff missing readable paths count, Harmless, missing]
        constructor
        · exact fun all => .inr (.inr (.inr all))
        · rintro (stored | unreadable | nothing | all)
          · cases stored
          · exact absurd readable unreadable
          · cases nothing
          · exact all
  · refine idle ?_ (.inr (.inl readable))
    rw [Directory.load, loadDatabase_idle missing (.inl readable), take_nil]
    rfl

/-- Loads that fail or are interrupted, in any number and at any point, leave directories from
which a load fails or has the rows of all old databases, exactly if each of them was
harmless. -/
theorem stopped_loads_safe_iff_harmless (directory : Directory)
    (missing : directory.database = none) (stops : List Nat) :
    Throughout Directory.load (Safe directory.legacyDatabases) directory stops ↔
      Along Directory.load Harmless directory stops := by
  refine throughout_iff_along Directory.load
    (fun later => later.database = none → later = directory) _ (fun _ => True) _ ?_ ?_ directory stops
    (fun _ => rfl) (safe_of_missing missing) (fun _ _ => trivial)
  · intro later stop untouched _ _ _ still
    have same := load_eq_of_missing still
    rw [same] at still ⊢
    exact untouched still
  · intro later stop untouched safe _
    cases stored : later.database with
    | none =>
      rw [untouched stored]
      exact safe_load_iff_harmless missing stop
    | some file =>
      obtain ⟨kept, found, covers⟩ := safe.load_stored stored stop
      exact iff_of_true ((safe_iff found).mpr covers) (.inl (stored ▸ rfl))

/-! ## An import that is interrupted -/

/-- An old database with one client. -/
def oneClient : Database :=
  { Database.empty with
    passwords := AList.singleton [1] ⟨[2], 0, 0, 0, [], [], false, [], [], 0, 0, 0⟩
    devices := AList.singleton [2] ⟨⟨[3], [4], [5], 0, 0⟩, [2]⟩ }

/-- A directory with this database in `passwords.json`. -/
def withClient : Directory where
  database := none
  legacy
    | .passwords => some (.database oneClient)
    | .imported => none

/-- A load that fails before it has written something, and one that is done: the client is
there. -/
theorem retried_load_has_client :
    Throughout Directory.load (Safe withClient.legacyDatabases) withClient [0, 3] ∧
      (final Directory.load withClient [0, 3]).database.isSome ∧
      ((loadDatabase (final Directory.load withClient [0, 3])).1.toOption.any fun db =>
        (db.passwords.lookup [1]).isSome && (db.devices.lookup [2]).isSome) = true := by
  refine ⟨(stopped_loads_safe_iff_harmless withClient rfl [0, 3]).mpr ⟨?_, ?_, trivial⟩, ?_, ?_⟩
  · exact .inr (.inr (.inl rfl))
  · exact .inr (.inr (.inr (by decide +kernel)))
  · decide +kernel
  · decide +kernel

/-- A load that is interrupted after it has created `csqtt.db`: the next one returns a
database without the client. -/
theorem interrupted_import_loses_client : withClient.database = none ∧
      ((loadDatabase (withClient.load 1).1).1.toOption.any fun db =>
        (db.passwords.lookup [1]).isNone && (db.devices.lookup [2]).isNone) = true ∧
      ¬ Safe withClient.legacyDatabases (withClient.load 1).1 := by
  refine ⟨rfl, by decide +kernel, ?_⟩
  rw [safe_load_iff_harmless rfl]
  rintro (stored | unreadable | nothing | all)
  · cases stored
  · refine unreadable fun file _ same => ?_
    cases file with
    | passwords => cases same
    | imported => cases same
  · cases nothing
  · exact absurd all (by decide +kernel)

end Csqtt.Storage
