import Csqtt.AddressPool

/-!
# Bindings of credentials to devices

The first device that uses a password is bound to it. A request binds the password first and
gives the device an address afterwards; if no address is left, the device gets no row, and the
binding stays. A client that is bound to such a device is told that there is no configuration
for it, now and later, and no other device may use its password.

When the database is loaded, bindings of passwords to devices that do not exist are forgotten.
The binding of the main password is taken as it is, so nothing is said about it until it
changes.
-/

namespace Csqtt.Control

open ControlText Option Table AList Database

/-- A database, and whether the binding of the main password has changed since it was
loaded. -/
structure Ledger where
  db : Database
  mainMoved : Bool

def Ledger.serve (ledger : Ledger) (demand : Demand) : Ledger × Option Answer :=
  let (db, answer) := ledger.db.serve demand
  (⟨db, ledger.mainMoved || db.mainDeviceId != ledger.db.mainDeviceId⟩, answer)

theorem Ledger.final_db (demands : List Demand) (ledger : Ledger) :
    (Runs.final Ledger.serve ledger demands).db = Runs.final Database.serve ledger.db demands := by
  induction demands generalizing ledger with
  | nil => rfl
  | cons demand rest ih => exact ih _

/-- Every binding names a device. -/
structure NoneDangles (ledger : Ledger) : Prop where
  passwords : ∀ password entry, ledger.db.passwords.lookup password = some entry →
    entry.deviceId ≠ [] → (ledger.db.devices.lookup entry.deviceId).isSome
  main : ledger.mainMoved = true → ledger.db.mainDeviceId ≠ [] →
    (ledger.db.devices.lookup ledger.db.mainDeviceId).isSome

/-- Whether a request with some access binds its credential. -/
def Database.Binds (db : Database) (access : CredentialAccess) : Prop :=
  access = .unbound ∨ access = .main ∧ db.mainDeviceId = []

/-- A request that binds its credential finds the row of its device, or an address for it. -/
def Placeable (ledger : Ledger) : Demand → Prop
  | .getconf now _ request => ∀ access,
    getconfCredentialAccess now ledger.db request.password request.epoch.deviceId = .ok access →
    ledger.db.Binds access →
    (ledger.db.devices.lookup request.epoch.deviceId).isSome ∨ (getNextIp ledger.db).isSome
  | _ => True

/-! ## What a demand does to bindings -/

variable {db : Database} {now : Int} {ledger : Ledger}

theorem getNextIp_congr {other : Database} (same : db.devices = other.devices) :
    getNextIp db = getNextIp other := by
  rw [getNextIp, getNextIp, same]

namespace Database

/-- No credential is bound anew, and no device is gone. -/
structure Loosens (before after : Database) : Prop where
  passwords : ∀ password later, after.passwords.lookup password = some later → later.deviceId ≠ [] →
    ∃ entry, before.passwords.lookup password = some entry ∧ entry.deviceId = later.deviceId
  main : after.mainDeviceId = before.mainDeviceId ∨ after.mainDeviceId = []
  devices : ∀ deviceId, (before.devices.lookup deviceId).isSome →
    (after.devices.lookup deviceId).isSome

theorem Loosens.refl (db : Database) : db.Loosens db :=
  ⟨fun _ entry here _ => ⟨entry, here, rfl⟩, .inl rfl, fun _ here => here⟩

theorem Loosens.filter {passwords : Table Text PasswordEntry}
    (fewer : ∀ password entry, passwords.lookup password = some entry →
      db.passwords.lookup password = some entry) : db.Loosens { db with passwords := passwords } :=
  ⟨fun password entry here _ => ⟨entry, fewer password entry here, rfl⟩, .inl rfl,
    fun _ here => here⟩

theorem Loosens.insert {password : Text} {new : PasswordEntry}
    (free : new.deviceId ≠ [] → ∃ entry, db.passwords.lookup password = some entry ∧
      entry.deviceId = new.deviceId) :
    db.Loosens { db with passwords := db.passwords.insert password new } := by
  refine ⟨fun other later here bound => ?_, .inl rfl, fun _ here => here⟩
  rw [lookup_insert_if] at here
  split at here
  · rename_i same
    cases here
    rw [same]
    exact free bound
  · exact ⟨later, here, rfl⟩

theorem Loosens.trans {first second third : Database} (earlier : first.Loosens second)
    (later : second.Loosens third) : first.Loosens third where
  passwords := by
    intro password last here bound
    obtain ⟨middle, there, same⟩ := later.passwords password last here bound
    obtain ⟨entry, found, still⟩ := earlier.passwords password middle there (same ▸ bound)
    exact ⟨entry, found, still.trans same⟩
  main := by
    obtain same | none := later.main
    · rw [same]
      exact earlier.main
    · exact .inr none
  devices := fun deviceId here => later.devices deviceId (earlier.devices deviceId here)

theorem Loosens.amendPassword (password : Text) {change : PasswordEntry → PasswordEntry}
    (loosens : ∀ entry, (change entry).deviceId ≠ [] → (change entry).deviceId = entry.deviceId) :
    db.Loosens (db.amendPassword password change) := by
  rw [Database.amendPassword]
  split
  · exact .refl db
  · rename_i entry here
    exact .insert fun bound => ⟨entry, here, (loosens entry bound).symm⟩

theorem Loosens.operate (db : Database) (now : Int) (operation : PanelOperation) :
    db.Loosens (db.operate now operation) := by
  have erased : ∀ password, db.Loosens { db with passwords := db.passwords.erase password } := by
    intro password
    refine .filter fun other entry here => ?_
    by_cases same : other = password
    · rw [same, lookup_erase] at here
      cases here
    · rwa [lookup_erase_ne same] at here
  cases operation with
  | create password expiresAt =>
    have kept : db.Loosens
        { db with passwords := db.passwords.retain fun _ entry => !isExpired now entry } := by
      refine .filter fun other entry here => ?_
      rw [lookup_retain, filter_eq_some_iff] at here
      exact here.1
    rw [Database.operate]
    split
    · exact kept
    · exact kept.trans (.insert fun bound => absurd rfl bound)
  | update password expiresAt | toggle password => exact .amendPassword password fun _ _ => rfl
  | unbind password =>
    rw [Database.operate]
    split
    · exact ⟨(Loosens.refl db).passwords, .inr rfl, fun _ here => here⟩
    · exact .amendPassword password fun _ bound => absurd rfl bound
  | delete password => exact erased password
  | expire password =>
    rw [Database.operate]
    split
    · exact erased password
    · exact .refl db
  | setMain password => exact ⟨(Loosens.refl db).passwords, .inl rfl, fun _ here => here⟩

theorem Loosens.creditDevice (db : Database) (deviceId : Text) (up down : Nat) :
    db.Loosens (db.creditDevice deviceId up down) := by
  have passwords : (db.creditDevice deviceId up down).passwords = db.passwords := by
    rw [Database.creditDevice]
    split
    · rfl
    · rfl
  have main : (db.creditDevice deviceId up down).mainDeviceId = db.mainDeviceId := by
    rw [Database.creditDevice]
    split
    · rfl
    · rfl
  refine ⟨?_, .inl main, fun other here => ?_⟩
  · rw [passwords]
    exact (Loosens.refl db).passwords
  · have same := congrArg Option.isSome (db.creditDevice_ip deviceId up down other)
    rw [isSome_map, isSome_map] at same
    rw [same]
    exact here

theorem Loosens.credit (db : Database) (session : Session) : db.Loosens (db.credit session) := by
  rw [Database.credit]
  split
  · rename_i entry here
    refine .trans (.insert ?_) (.creditDevice _ _ _ _)
    exact fun _ => ⟨entry, here, rfl⟩
  split
  · have counted : db.Loosens { db with
        mainUpBytes := addBytes db.mainUpBytes session.upBytes
        mainDownBytes := addBytes db.mainDownBytes session.downBytes } :=
      ⟨(Loosens.refl db).passwords, .inl rfl, fun _ here => here⟩
    split
    · exact counted
    · exact counted.trans (.creditDevice _ _ _ _)
  · exact .refl db

theorem place_isSome_iff (db : Database) (deviceId : Text) :
    ((db.place deviceId).1.devices.lookup deviceId).isSome ↔
      (db.devices.lookup deviceId).isSome ∨ (getNextIp db).isSome := by
  rw [place]
  split
  · rename_i here
    exact ⟨.inl, fun _ => here⟩
  rename_i missing
  split
  · rename_i none
    rw [none]
    exact ⟨.inl, fun either => either.resolve_right Bool.false_ne_true⟩
  · rename_i ip found
    rw [found, lookup_insert]
    exact iff_of_true rfl (.inr rfl)

theorem Loosens.place (db : Database) (deviceId : Text) : db.Loosens (db.place deviceId).1 := by
  refine ⟨?_, .inl (place_mainDeviceId deviceId), fun other here => ?_⟩
  · rw [place_passwords]
    exact (Loosens.refl db).passwords
  · by_cases same : other = deviceId
    · rw [same] at here ⊢
      exact (db.place_isSome_iff deviceId).mpr (.inl here)
    · rw [place_lookup_ne same]
      exact here

end Database

theorem NoneDangles.loosens (sound : NoneDangles ledger) (loosens : ledger.db.Loosens db) :
    NoneDangles ⟨db, ledger.mainMoved || db.mainDeviceId != ledger.db.mainDeviceId⟩ := by
  constructor
  · intro password later here bound
    obtain ⟨entry, there, same⟩ := loosens.passwords password later here bound
    rw [← same] at bound ⊢
    exact loosens.devices _ (sound.passwords password entry there bound)
  · intro moved bound
    have same := loosens.main.resolve_right bound
    rw [same] at bound moved ⊢
    rw [bne_self_eq_false, Bool.or_false] at moved
    exact loosens.devices _ (sound.main moved bound)

/-! ## Requests that bind -/

section

variable (sound : NoneDangles ledger)

include sound

/-- A credential is bound to a device that has a row then. -/
theorem NoneDangles.binds {bound : Database} {deviceId : Text}
    (devices : bound.devices = ledger.db.devices)
    (passwords : ∀ password later, bound.passwords.lookup password = some later → later.deviceId =
      deviceId ∨ ledger.db.passwords.lookup password = some later)
    (main : bound.mainDeviceId = deviceId ∨ bound.mainDeviceId = ledger.db.mainDeviceId)
    (row : ((bound.place deviceId).1.devices.lookup deviceId).isSome) :
    NoneDangles ⟨(bound.place deviceId).1,
      ledger.mainMoved || (bound.place deviceId).1.mainDeviceId != ledger.db.mainDeviceId⟩ := by
  have kept : ∀ other, (ledger.db.devices.lookup other).isSome →
      ((bound.place deviceId).1.devices.lookup other).isSome := by
    intro other here
    rw [← devices] at here
    exact (Database.Loosens.place bound deviceId).devices other here
  constructor
  · intro password later here named
    rw [place_passwords] at here
    obtain isDevice | old := passwords password later here
    · rw [isDevice]
      exact row
    · exact kept _ (sound.passwords password later old named)
  · intro moved named
    rw [place_mainDeviceId] at moved named ⊢
    obtain isDevice | old := main
    · rw [isDevice]
      exact row
    · rw [old] at moved named ⊢
      rw [bne_self_eq_false, Bool.or_false] at moved
      exact kept _ (sound.main moved named)

/-- A request that binds its credential leaves no dangling binding exactly if its device has a
row or there is an address for it. -/
theorem NoneDangles.granted_iff {dns : Text} {request : Getconf} {access : CredentialAccess}
    (granted : getconfCredentialAccess now ledger.db request.password request.epoch.deviceId =
      .ok access) (binds : ledger.db.Binds access) (named : request.epoch.deviceId ≠ []) :
    NoneDangles (ledger.serve (.getconf now dns request)).1 ↔
      (ledger.db.devices.lookup request.epoch.deviceId).isSome ∨ (getNextIp ledger.db).isSome := by
  have served : (ledger.serve (.getconf now dns request)).1 = _ :=
    congrArg (fun db => (⟨db, ledger.mainMoved || db.mainDeviceId != ledger.db.mainDeviceId⟩ : Ledger))
      (ledger.db.serve_granted granted)
  rw [served]
  have devices : (ledger.db.bind access request.password request.epoch.deviceId).1.devices =
      ledger.db.devices :=
    bind_devices access request.password request.epoch.deviceId
  have row := ((ledger.db.bind access request.password request.epoch.deviceId).1.place_isSome_iff
    request.epoch.deviceId)
  rw [devices, getNextIp_congr devices] at row
  rw [← row]
  obtain rfl | ⟨rfl, unbound⟩ := binds
  · obtain ⟨entry, here, -⟩ := unbound_of_access granted
    rw [Database.bind, here]
    constructor
    · intro after
      refine after.passwords request.password { entry with deviceId := request.epoch.deviceId } ?_ named
      rw [place_passwords]
      exact lookup_insert _
    · refine sound.binds rfl (fun password later found => ?_) (.inr rfl)
      rw [lookup_insert_if] at found
      split at found
      · cases found
        exact .inl rfl
      · exact .inr found
  · rw [Database.bind, if_pos unbound]
    constructor
    · intro after
      have main := after.main
      rw [place_mainDeviceId, unbound] at main
      refine main ?_ named
      rw [bne_iff_ne.mpr named, Bool.or_true]
    · exact sound.binds rfl (fun password later found => .inr found) (.inl rfl)

theorem NoneDangles.granted {dns : Text} {request : Getconf} {access : CredentialAccess}
    (granted : getconfCredentialAccess now ledger.db request.password request.epoch.deviceId =
      .ok access) (loose : ¬ ledger.db.Binds access) :
    NoneDangles (ledger.serve (.getconf now dns request)).1 := by
  have unchanged : (ledger.db.bind access request.password request.epoch.deviceId).1 = ledger.db := by
    cases access with
    | unbound => exact absurd (.inl rfl) loose
    | bound => rfl
    | main => rw [Database.bind, if_neg fun unbound => loose (.inr ⟨rfl, unbound⟩)]
  have loosens : ledger.db.Loosens (ledger.db.serve (.getconf now dns request)).1 := by
    rw [ledger.db.serve_granted granted, unchanged]
    exact .place _ _
  exact sound.loosens loosens

/-- One demand leaves no dangling binding exactly if it is placeable. -/
theorem NoneDangles.serve_iff (demand : Demand) (named : demand.Named) :
    NoneDangles (ledger.serve demand).1 ↔ Placeable ledger demand := by
  cases demand with
  | panel now operation => exact iff_of_true (sound.loosens (.operate _ now operation)) trivial
  | flush session => exact iff_of_true (sound.loosens (.credit _ session)) trivial
  | getconf now dns request =>
    rw [Placeable]
    cases decided : getconfCredentialAccess now ledger.db request.password
        request.epoch.deviceId with
    | error denial =>
      have loosens : ledger.db.Loosens (ledger.db.serve (.getconf now dns request)).1 := by
        rw [ledger.db.serve_refused decided]
        exact .refl _
      refine iff_of_true (sound.loosens loosens) fun access same => ?_
      cases same
    | ok access =>
      by_cases binds : ledger.db.Binds access
      · rw [sound.granted_iff decided binds named]
        constructor
        · intro either other same _
          exact either
        · exact fun placeable => placeable access rfl binds
      · refine iff_of_true (sound.granted decided binds) fun other same bindsToo => ?_
        cases same
        exact absurd bindsToo binds

end

end Csqtt.Control

/-! ## From a load on -/

namespace Csqtt.Storage

open ControlText Control List Runs Option Table AList

theorem loaded_repaired {directory : Directory} {db : Database}
    (loaded : (loadDatabase directory).1 = .ok db) :
    ∃ stored : Database, db = stored.repairStalePasswordBindings.1 := by
  rw [loadDatabase] at loaded
  split at loaded
  · cases loaded
    exact ⟨_, rfl⟩
  split at loaded
  · cases loaded
    exact ⟨.empty, rfl⟩
  split at loaded
  · cases loaded
  dsimp only at loaded
  split at loaded
  · cases loaded
  · cases loaded
    exact ⟨_, rfl⟩

theorem repaired_noneDangles (stored : Database) :
    NoneDangles ⟨stored.repairStalePasswordBindings.1.control, false⟩ := by
  constructor
  · intro password entry here named
    dsimp only [Database.control, Database.repairStalePasswordBindings] at here ⊢
    rw [lookup_mapRows, lookup_mapRows] at here
    obtain ⟨repaired, found, rfl⟩ := map_eq_some_iff.mp here
    obtain ⟨old, _, rfl⟩ := map_eq_some_iff.mp found
    rw [lookup_mapRows, isSome_map]
    rw [PasswordEntry.repaired] at named ⊢
    split at named
    · exact absurd rfl named
    rename_i fresh
    rw [if_neg fresh]
    rw [PasswordEntry.stale, Bool.and_eq_true, not_and, Bool.not_eq_true, Bool.not_eq_false'] at fresh
    exact fresh (bne_iff_ne.mpr named)
  · intro moved
    cases moved

/-- From a load on, all requests and all operations of the panel leave no dangling binding,
exactly if every request that binds its credential finds the row of its device or an
address for it. -/
theorem bindings_name_devices_iff (directory : Directory) (db : Database)
    (loaded : (loadDatabase directory).1 = .ok db) (demands : List Demand)
    (named : ∀ demand ∈ demands, demand.Named) :
    Throughout Ledger.serve NoneDangles ⟨db.control, false⟩ demands ↔
      Along Ledger.serve Placeable ⟨db.control, false⟩ demands := by
  obtain ⟨stored, rfl⟩ := loaded_repaired loaded
  exact throughout_iff_along Ledger.serve (fun _ => True) NoneDangles Demand.Named Placeable
    (fun _ _ _ _ _ _ => trivial) (fun ledger demand _ sound named => sound.serve_iff demand named)
    _ demands trivial (repaired_noneDangles stored) named

/-- A directory without anything in it. -/
def bare : Directory := ⟨none, fun _ => none⟩

/-- The main password is bound to a device that gets an address. -/
theorem first_device_is_bound : (loadDatabase bare).1 = .ok .empty ∧
      Throughout Ledger.serve NoneDangles ⟨Database.empty.control, false⟩
        [.panel 0 (.setMain [0x6d]), .getconf 0 [] (mainRequest [6])] := by
  refine ⟨rfl, (bindings_name_devices_iff bare .empty rfl _ ?_).mpr ⟨trivial, ?_, trivial⟩⟩
  · intro demand member
    rw [mem_cons, mem_singleton] at member
    obtain rfl | rfl := member
    · trivial
    · exact cons_ne_nil 6 []
  · intro access _ _
    exact .inr (by decide +kernel)

/-- After the visits of 249 devices the main password is bound to a device that gets no row. -/
theorem full_pool_leaves_dangling_binding : (loadDatabase bare).1 = .ok .empty ∧
      let ledger := final Ledger.serve ⟨Database.empty.control, false⟩
        (allVisits ++ [.getconf 0 [] (mainRequest [0, 0])])
      ledger.db.mainDeviceId = [0, 0] ∧ ledger.db.devices.lookup [0, 0] = none ∧
        ¬ NoneDangles ledger := by
  refine ⟨rfl, ?_⟩
  obtain ⟨devices, ends, absent, full⟩ := allVisits_run
  have before : (final Ledger.serve ⟨Database.empty.control, false⟩ allVisits).db =
      ⟨[0x6d], [], 0, 0, ∅, devices⟩ :=
    (Ledger.final_db allVisits _).trans ends
  rw [final_append]
  generalize final Ledger.serve ⟨Database.empty.control, false⟩ allVisits = ledger at before
  have after : (ledger.serve (.getconf 0 [] (mainRequest [0, 0]))).1 =
      ⟨⟨[0x6d], [0, 0], 0, 0, ∅, devices⟩, true⟩ := by
    rw [Ledger.serve, before, serve_without_address absent full]
    exact congrArg (Ledger.mk _) (Bool.or_true _)
  rw [final, final, after]
  refine ⟨rfl, absent, fun sound => ?_⟩
  have row := sound.main rfl (cons_ne_nil 0 [0])
  rw [absent] at row
  cases row

end Csqtt.Storage
