import Csqtt.Database
import Csqtt.TableWrites
import Mathlib.Data.List.Sort

/-!
# The database and its file

The database with all its columns, as the server keeps it in memory and in `csqtt.db`. In the
file a device and a proxy profile are rows under their ids, so a row there has the other
columns only. Each key of the table `meta` is a field of `metadata` that may be missing.

A snapshot replaces everything in the file. Databases of an older version, which were JSON
files, are merged into the file instead: what is there already is left alone, except that an
empty text counts as missing and that of two counters the larger one is kept. Afterwards
every row of the old database is looked for and compared.

The token of the bot, its administrator and the sessions of the panel are left out: they are
cleared wherever a database is loaded. Profiles with equal places keep the order that the
table has.
-/

namespace Csqtt.Storage

open ControlText List Option Table

/-! ## The database in memory -/

structure PasswordEntry where
  deviceId : Text
  expiresAt : Int
  downBytes : Int
  upBytes : Int
  vkHash : Text
  ports : Text
  isDeactivated : Bool
  name : Text
  vkHashes : Text
  dtlsPort : UInt16
  wgPort : UInt16
  localPort : UInt16
deriving DecidableEq, Repr

/-- The columns of a device beside its id. -/
structure DeviceColumns where
  ip : Text
  privKey : Text
  pubKey : Text
  upBytes : Int
  downBytes : Int
deriving DecidableEq, Repr

structure ClientDevice extends DeviceColumns where
  deviceId : Text
deriving DecidableEq, Repr

structure LocalProxyProfile where
  id : Text
  name : Text
  port : UInt16
  username : Text
  password : Text
deriving DecidableEq, Repr

structure LocalProxyState where
  activeProfileId : Text
  profiles : List LocalProxyProfile
deriving DecidableEq, Repr

structure Database where
  mainPassword : Text
  mainDeviceId : Text
  dns : Text
  autoRestartIntervalHours : Option UInt8
  mainUpBytes : Int
  mainDownBytes : Int
  passwords : Table Text PasswordEntry
  devices : Table Text ClientDevice
  loggingActive : Option Bool
  localProxy : LocalProxyState

def defaultAutoRestartIntervalHours : UInt8 := 0

def defaultLocalProxyPort : UInt16 := 45000

namespace LocalProxyState

/-- Give profiles without a port the usual one, and forget an active profile that is not
there. -/
def normalize (state : LocalProxyState) : LocalProxyState :=
  let profiles := state.profiles.map fun profile =>
    if profile.port = 0 then { profile with port := defaultLocalProxyPort } else profile
  { profiles := profiles
    activeProfileId :=
      if state.activeProfileId ≠ [] ∧ !profiles.any fun profile => profile.id == state.activeProfileId
      then [] else state.activeProfileId }

end LocalProxyState

/-- The part of an entry that requests and the panel work with. -/
def PasswordEntry.control (entry : PasswordEntry) : Control.PasswordEntry where
  deviceId := entry.deviceId
  expiresAt := entry.expiresAt
  upBytes := entry.upBytes
  downBytes := entry.downBytes
  isDeactivated := entry.isDeactivated

/-- The part of a device that requests and the panel work with. -/
def ClientDevice.control (device : ClientDevice) : Control.ClientDevice where
  deviceId := device.deviceId
  ip := device.ip
  upBytes := device.upBytes
  downBytes := device.downBytes

namespace Database

/-- A database without anything in it. -/
def empty : Database where
  mainPassword := []
  mainDeviceId := []
  dns := []
  autoRestartIntervalHours := none
  mainUpBytes := 0
  mainDownBytes := 0
  passwords := ∅
  devices := ∅
  loggingActive := none
  localProxy := ⟨[], []⟩

/-- The part of a database that requests and the panel work with. -/
def control (db : Database) : Control.Database where
  mainPassword := db.mainPassword
  mainDeviceId := db.mainDeviceId
  mainUpBytes := db.mainUpBytes
  mainDownBytes := db.mainDownBytes
  passwords := db.passwords.mapRows fun _ entry => entry.control
  devices := db.devices.mapRows fun _ device => device.control

/-- Whether there is a device with an id. -/
def hasDevice (db : Database) (deviceId : Text) : Bool := (db.devices.lookup deviceId).isSome

end Database

/-- A binding to a device that is not known is stale. -/
def PasswordEntry.stale (known : Text → Bool) (entry : PasswordEntry) : Bool :=
  entry.deviceId != [] && !known entry.deviceId

/-- An entry without a stale binding. -/
def PasswordEntry.repaired (known : Text → Bool) (entry : PasswordEntry) : PasswordEntry :=
  if entry.stale known then { entry with deviceId := [] } else entry

/-- Forget bindings of passwords to devices that do not exist. The answer is whether there
were any. -/
def Database.repairStalePasswordBindings (db : Database) : Database × Bool :=
  ({ db with passwords := db.passwords.mapRows fun _ entry => entry.repaired db.hasDevice },
    db.passwords.rows.any fun row => row.2.stale db.hasDevice)

/-! ## The file -/

structure Metadata where
  mainPassword : Option Text
  mainDeviceId : Option Text
  dns : Option Text
  autoRestartIntervalHours : Option UInt8
  loggingActive : Option Bool
deriving DecidableEq, Repr

structure Counters where
  mainUpBytes : Int
  mainDownBytes : Int
deriving DecidableEq, Repr

/-- The columns of a profile beside its id. -/
structure ProfileColumns where
  sortOrder : Int
  name : Text
  port : UInt16
  username : Text
  password : Text
deriving DecidableEq, Repr

/-- The tables of `csqtt.db`. -/
structure DatabaseFile where
  metadata : Metadata
  counters : Option Counters
  passwords : Table Text PasswordEntry
  devices : Table Text DeviceColumns
  localProxyProfiles : Table Text ProfileColumns
  activeProfileId : Option Text

/-- A file with empty tables. Every connection that is opened creates the tables if they are
missing. -/
def DatabaseFile.created : DatabaseFile where
  metadata := ⟨none, none, none, none, none⟩
  counters := none
  passwords := ∅
  devices := ∅
  localProxyProfiles := ∅
  activeProfileId := none

/-- The rows of the profiles, each with its place. -/
def LocalProxyState.rows (state : LocalProxyState) : List (Text × ProfileColumns) :=
  state.profiles.mapIdx fun place profile =>
    (profile.id, ⟨place, profile.name, profile.port, profile.username, profile.password⟩)

/-- The rows of the devices, each under its own id. -/
def Database.deviceRows (db : Database) : List (Text × DeviceColumns) :=
  db.devices.rows.map fun row => (row.2.deviceId, row.2.toDeviceColumns)

/-- Replace the contents of a file by a database. -/
def writeDatabaseSnapshot (file : DatabaseFile) (db : Database) : DatabaseFile where
  metadata :=
    { mainPassword := some db.mainPassword
      mainDeviceId := some db.mainDeviceId
      dns := some db.dns
      autoRestartIntervalHours :=
        some (db.autoRestartIntervalHours.getD defaultAutoRestartIntervalHours)
      loggingActive := db.loggingActive }
  counters := some ⟨db.mainUpBytes, db.mainDownBytes⟩
  passwords := file.passwords.rewrite db.passwords db.passwords.rows
  devices := file.devices.rewrite db.devices db.deviceRows
  localProxyProfiles := (file.localProxyProfiles.retain fun id _ =>
    db.localProxy.profiles.any fun profile => profile.id == id).upsert db.localProxy.rows
  activeProfileId := some db.localProxy.activeProfileId

/-- Read the contents of a file. -/
def readDatabaseSnapshot (file : DatabaseFile) : Database where
  mainPassword := file.metadata.mainPassword.getD []
  mainDeviceId := file.metadata.mainDeviceId.getD []
  dns := file.metadata.dns.getD []
  autoRestartIntervalHours := file.metadata.autoRestartIntervalHours
  mainUpBytes := file.counters.elim 0 Counters.mainUpBytes
  mainDownBytes := file.counters.elim 0 Counters.mainDownBytes
  passwords := file.passwords
  devices := file.devices.mapRows fun deviceId columns => ⟨columns, deviceId⟩
  loggingActive := file.metadata.loggingActive
  localProxy := LocalProxyState.normalize
    { activeProfileId := file.activeProfileId.getD []
      profiles := (file.localProxyProfiles.rows.insertionSort fun first second =>
          first.2.sortOrder ≤ second.2.sortOrder).map fun row =>
        ⟨row.1, row.2.name, row.2.port, row.2.username, row.2.password⟩ }

/-! ## Databases of the older version -/

/-- Keep a text, unless it is missing or empty. -/
def mergeText (stored : Option Text) (legacy : Text) : Option Text :=
  some (if stored.getD [] = [] then legacy else stored.getD [])

/-- Merge an old database into a file. -/
def importLegacyDatabaseRows (file : DatabaseFile) (legacy : Database) : DatabaseFile where
  metadata :=
    { file.metadata with
      mainPassword := mergeText file.metadata.mainPassword legacy.mainPassword
      mainDeviceId := mergeText file.metadata.mainDeviceId legacy.mainDeviceId
      dns := mergeText file.metadata.dns legacy.dns
      loggingActive := file.metadata.loggingActive.or legacy.loggingActive }
  counters := some (match file.counters with
    | none => ⟨legacy.mainUpBytes, legacy.mainDownBytes⟩
    | some counters => ⟨max counters.mainUpBytes legacy.mainUpBytes,
        max counters.mainDownBytes legacy.mainDownBytes⟩)
  passwords := file.passwords.insertMissing legacy.passwords.rows
  devices := file.devices.insertMissing legacy.deviceRows
  localProxyProfiles := file.localProxyProfiles.insertMissing legacy.localProxy.rows
  activeProfileId :=
    if legacy.localProxy.activeProfileId = [] then file.activeProfileId
    else mergeText file.activeProfileId legacy.localProxy.activeProfileId

/-- Whether two entries agree, apart from the counters. -/
def legacyPasswordMatches (sqlite legacy : PasswordEntry) : Bool :=
  sqlite.deviceId == legacy.deviceId && sqlite.expiresAt == legacy.expiresAt &&
    sqlite.vkHash == legacy.vkHash && sqlite.ports == legacy.ports &&
    sqlite.isDeactivated == legacy.isDeactivated && sqlite.name == legacy.name &&
    sqlite.vkHashes == legacy.vkHashes && sqlite.dtlsPort == legacy.dtlsPort &&
    sqlite.wgPort == legacy.wgPort && sqlite.localPort == legacy.localPort

/-- Whether two devices agree, apart from the counters. -/
def legacyDeviceMatches (sqlite legacy : ClientDevice) : Bool :=
  sqlite.deviceId == legacy.deviceId && sqlite.ip == legacy.ip &&
    sqlite.privKey == legacy.privKey && sqlite.pubKey == legacy.pubKey

/-- The names of old databases: `passwords.json` and `passwords.json.imported`. -/
inductive LegacyFile
  | passwords
  | imported
deriving DecidableEq, Repr

/-- Why a database is not loaded. -/
inductive LoadError
  | malformed (file : LegacyFile)
  | mainPasswordConflict
  | mainDeviceConflict
  | passwordMissing (password : Text)
  | passwordConflict (password : Text)
  | deviceMissing (deviceId : Text)
  | deviceConflict (deviceId : Text)
deriving DecidableEq, Repr

/-- Look for a row and compare it. -/
def verifyRow {α : Type} (agree : α → α → Bool) (missing conflict : LoadError) (stored : Option α)
    (legacy : α) : Except LoadError Unit :=
  match stored with
  | none => .error missing
  | some row => if agree row legacy then .ok () else .error conflict

/-- Two texts agree unless both are given and differ. -/
def verifyText (conflict : LoadError) (sqlite legacy : Text) : Except LoadError Unit :=
  if legacy ≠ [] ∧ sqlite ≠ [] ∧ sqlite ≠ legacy then .error conflict else .ok ()

/-- Compare the main password and its device, and look for every row of an old database. -/
def verifyLegacyDatabaseRows (sqlite legacy : Database) : Except LoadError Unit := do
  verifyText .mainPasswordConflict sqlite.mainPassword legacy.mainPassword
  verifyText .mainDeviceConflict sqlite.mainDeviceId legacy.mainDeviceId
  legacy.passwords.rows.forM fun row =>
    verifyRow legacyPasswordMatches (.passwordMissing row.1) (.passwordConflict row.1)
      (sqlite.passwords.lookup row.1) row.2
  legacy.devices.rows.forM fun row =>
    verifyRow legacyDeviceMatches (.deviceMissing row.1) (.deviceConflict row.1)
      (sqlite.devices.lookup row.1) row.2

/-! ## What the functions guarantee -/

/-- Every device stands under its own id. -/
def Database.Keyed (db : Database) : Prop :=
  ∀ deviceId device, db.devices.lookup deviceId = some device → device.deviceId = deviceId

theorem PasswordEntry.repaired_repaired (known : Text → Bool) (entry : PasswordEntry) :
    (entry.repaired known).repaired known = entry.repaired known := by
  rw [repaired, repaired]
  by_cases isStale : entry.stale known
  · rw [if_pos isStale]
    exact if_neg Bool.false_ne_true
  · rw [if_neg isStale, if_neg isStale]

/-- Entries that agree still agree when they are repaired. -/
theorem legacyPasswordMatches_repaired (known : Text → Bool) {sqlite legacy : PasswordEntry}
    (alike : legacyPasswordMatches sqlite legacy = true) :
    legacyPasswordMatches (sqlite.repaired known) (legacy.repaired known) = true := by
  simp only [legacyPasswordMatches, Bool.and_eq_true, beq_iff_eq, and_assoc] at alike ⊢
  obtain ⟨deviceId, others⟩ := alike
  have stale : sqlite.stale known = legacy.stale known := by
    rw [PasswordEntry.stale, PasswordEntry.stale, deviceId]
  rw [PasswordEntry.repaired, PasswordEntry.repaired, stale]
  split
  · exact ⟨rfl, others⟩
  · exact ⟨deviceId, others⟩

variable (file : DatabaseFile)

theorem lookup_readDatabaseSnapshot_devices (deviceId : Text) :
    (readDatabaseSnapshot file).devices.lookup deviceId =
      (file.devices.lookup deviceId).map fun columns => ⟨columns, deviceId⟩ :=
  lookup_mapRows _ _ _

theorem readDatabaseSnapshot_keyed : (readDatabaseSnapshot file).Keyed := by
  intro deviceId device here
  rw [lookup_readDatabaseSnapshot_devices] at here
  obtain ⟨columns, _, rfl⟩ := map_eq_some_iff.mp here
  rfl

theorem read_write_passwords (db : Database) (password : Text) :
    (readDatabaseSnapshot (writeDatabaseSnapshot file db)).passwords.lookup password =
      db.passwords.lookup password :=
  lookup_rewrite_rows _ _ _

theorem read_write_devices {db : Database} (keyed : db.Keyed) (deviceId : Text) :
    (readDatabaseSnapshot (writeDatabaseSnapshot file db)).devices.lookup deviceId =
      db.devices.lookup deviceId := by
  have own : ∀ row ∈ db.devices.rows, row.2.deviceId = row.1 :=
    fun row member => keyed row.1 row.2 (mem_rows.mp member)
  have written : (writeDatabaseSnapshot file db).devices.lookup deviceId =
      (db.devices.lookup deviceId).map ClientDevice.toDeviceColumns :=
    lookup_rewrite _ _ _ own deviceId
  rw [lookup_readDatabaseSnapshot_devices, written]
  cases here : db.devices.lookup deviceId with
  | none => rfl
  | some device =>
    rw [map_some, map_some, ← keyed deviceId device here]

theorem bind_eq_ok {α β ε : Type} {first : Except ε α} {second : α → Except ε β} {result : β}
    (passed : (first >>= second) = .ok result) : ∃ value, first = .ok value ∧
      second value = .ok result := by
  cases first with
  | error error => cases passed
  | ok value => exact ⟨value, rfl, passed⟩

theorem forM_eq_ok {α ε : Type} {check : α → Except ε Unit} {elements : List α}
    (passed : elements.forM check = .ok ()) : ∀ element ∈ elements, check element = .ok () := by
  induction elements with
  | nil => exact forall_mem_nil _
  | cons element rest ih =>
    obtain ⟨_, first, others⟩ := bind_eq_ok passed
    exact forall_mem_cons.mpr ⟨first, ih others⟩

theorem verifyRow_eq_ok {α : Type} {agree : α → α → Bool} {missing conflict : LoadError}
    {stored : Option α} {legacy : α} (passed : verifyRow agree missing conflict stored legacy = .ok ()) :
    ∃ row, stored = some row ∧ agree row legacy = true := by
  cases stored with
  | none => cases passed
  | some row =>
    refine ⟨row, rfl, ?_⟩
    by_contra differs
    rw [verifyRow, if_neg differs] at passed
    cases passed

theorem verifyLegacyDatabaseRows_eq_ok {sqlite legacy : Database}
    (passed : verifyLegacyDatabaseRows sqlite legacy = .ok ()) :
    (∀ row ∈ legacy.passwords.rows, ∃ entry, sqlite.passwords.lookup row.1 = some entry ∧
        legacyPasswordMatches entry row.2 = true) ∧
      ∀ row ∈ legacy.devices.rows, ∃ device, sqlite.devices.lookup row.1 = some device ∧
        legacyDeviceMatches device row.2 = true := by
  obtain ⟨_, _, passed⟩ := bind_eq_ok passed
  obtain ⟨_, _, passed⟩ := bind_eq_ok passed
  obtain ⟨_, passwords, devices⟩ := bind_eq_ok passed
  exact ⟨fun row member => verifyRow_eq_ok (forM_eq_ok passwords row member),
    fun row member => verifyRow_eq_ok (forM_eq_ok devices row member)⟩

/-! ## Reading a snapshot back -/

/-- Two databases with the same contents. What the tables have under their keys and the effective interval
of restarts count, not how they are stored. -/
structure SameContents (read db : Database) : Prop where
  mainPassword : read.mainPassword = db.mainPassword
  mainDeviceId : read.mainDeviceId = db.mainDeviceId
  dns : read.dns = db.dns
  autoRestartIntervalHours : read.autoRestartIntervalHours.getD defaultAutoRestartIntervalHours =
    db.autoRestartIntervalHours.getD defaultAutoRestartIntervalHours
  mainUpBytes : read.mainUpBytes = db.mainUpBytes
  mainDownBytes : read.mainDownBytes = db.mainDownBytes
  passwords : ∀ password, read.passwords.lookup password = db.passwords.lookup password
  devices : ∀ deviceId, read.devices.lookup deviceId = db.devices.lookup deviceId
  loggingActive : read.loggingActive = db.loggingActive
  localProxy : read.localProxy = db.localProxy

section Profiles

variable {state : LocalProxyState}

theorem profile_rows_ids : state.rows.map Prod.fst = state.profiles.map LocalProxyProfile.id :=
  ext_getElem (by simp [LocalProxyState.rows]) (by simp [LocalProxyState.rows])

section

variable (distinct : (state.profiles.map LocalProxyProfile.id).Nodup)
  (old : Table Text ProfileColumns)

include distinct old

/-- The rows of the profiles are those that were written, whatever was there before. -/
theorem written_profiles_perm :
    ((old.retain fun id _ => state.profiles.any fun profile => profile.id == id).upsert
      state.rows).rows.Perm state.rows := by
  rw [← profile_rows_ids] at distinct
  rw [perm_ext_iff_of_nodup (List.Nodup.of_map _ (nodup_rows _)) (List.Nodup.of_map _ distinct)]
  rintro ⟨id, columns⟩
  rw [mem_rows, lookup_upsert _ distinct, lookup_retain]
  constructor
  · intro found
    rcases or_eq_some_iff.mp found with written | ⟨missing, kept⟩
    · exact firstRow_mem written
    have member : id ∈ state.rows.map Prod.fst := by
      simpa [profile_rows_ids] using (filter_eq_some_iff.mp kept).2
    obtain ⟨row, written, rfl⟩ := mem_map.mp member
    exact absurd rfl (firstRow_none.mp missing row written)
  · intro written
    cases found : Table.firstRow state.rows id with
    | none => exact absurd rfl (firstRow_none.mp found _ written)
    | some first =>
      have same := inj_on_of_nodup_map distinct (firstRow_mem found) written rfl
      simpa using same

/-- Sorting them by their places gives back their order. -/
theorem sorted_profiles :
    ((old.retain fun id _ => state.profiles.any fun profile => profile.id == id).upsert
      state.rows).rows.insertionSort (fun first second => first.2.sortOrder ≤ second.2.sortOrder) =
      state.rows := by
  have placed : state.rows.Pairwise fun first second => first.2.sortOrder < second.2.sortOrder := by
    rw [pairwise_iff_getElem]
    simp [LocalProxyState.rows]
  have perm := (perm_insertionSort (fun first second : Text × ProfileColumns =>
    first.2.sortOrder ≤ second.2.sortOrder) _).trans (written_profiles_perm distinct old)
  refine List.Perm.eq_of_pairwise (fun first second here there before after => ?_)
    (pairwise_insertionSort _ _) (placed.imp Int.le_of_lt) perm
  have places : (state.rows.map fun row => row.2.sortOrder).Nodup :=
    pairwise_map.mpr (placed.imp fun ordered => Int.ne_of_lt ordered)
  exact inj_on_of_nodup_map places (perm.mem_iff.mp here) there (Int.le_antisymm before after)

end

end Profiles

/-- A snapshot is read back as it was written, whatever was in the file before. -/
theorem snapshot_is_read_back (file : DatabaseFile) (db : Database) (keyed : db.Keyed)
    (normalized : db.localProxy.normalize = db.localProxy)
    (distinct : (db.localProxy.profiles.map LocalProxyProfile.id).Nodup) :
    SameContents (readDatabaseSnapshot (writeDatabaseSnapshot file db)) db where
  mainPassword := rfl
  mainDeviceId := rfl
  dns := rfl
  autoRestartIntervalHours := rfl
  mainUpBytes := rfl
  mainDownBytes := rfl
  passwords := read_write_passwords file db
  devices := read_write_devices file keyed
  loggingActive := rfl
  localProxy := by
    rw [← normalized]
    simp only [readDatabaseSnapshot, writeDatabaseSnapshot, sorted_profiles distinct, getD_some]
    have same : (db.localProxy.rows.map fun row => (⟨row.1, row.2.name, row.2.port, row.2.username,
        row.2.password⟩ : LocalProxyProfile)) = db.localProxy.profiles :=
      ext_getElem (by simp [LocalProxyState.rows]) (by simp [LocalProxyState.rows])
    rw [same]

/-- A database with one device and two profiles, of which the first is active. -/
def profiled (first second : Text) : Database where
  __ := Database.empty
  devices := AList.insert first ⟨⟨[0x31], [], [], 1, 2⟩, first⟩ ∅
  localProxy := ⟨first, [⟨first, [], 1080, [], []⟩, ⟨second, [], 1081, [], []⟩]⟩

/-- One of the profiles was in the file before, at another place. -/
theorem moved_profile_is_read_back : SameContents (readDatabaseSnapshot (writeDatabaseSnapshot
      (writeDatabaseSnapshot .created (profiled [1] [2])) (profiled [2] [3]))) (profiled [2] [3]) := by
  refine snapshot_is_read_back _ _ (fun deviceId device found => ?_) (by decide) (by decide)
  rw [profiled, lookup_insert_if] at found
  grind [AList.lookup_empty]

end Csqtt.Storage
