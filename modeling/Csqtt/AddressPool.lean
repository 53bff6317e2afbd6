import Csqtt.DatabaseRequests
import Csqtt.LegacyImport

/-!
# The addresses of the tunnel

There are 249 addresses. A device gets the first one that no other device has, and keeps it:
nothing removes the row of a device, not even when no credential is bound to it any more. So
an address is left exactly as long as fewer than 249 devices have ever been given one.

Allocation keeps the addresses of all devices apart if they are apart at the start. A database
that was put together from two older ones may give two devices one address, because their
rows are compared by the ids of the devices only.
-/

namespace Csqtt.Control

open ControlText Routes List Runs Table AList Database Option

variable {deviceId : Text}

/-! ## Pools in general -/

theorem find?_free_isSome_iff {α : Type} {pool used : List α} {free : α → Bool}
    (unused : ∀ value, free value = true ↔ value ∉ used) (distinct : pool.Nodup)
    (once : used.Nodup) (inside : used ⊆ pool) :
    (pool.find? free).isSome ↔ used.length < pool.length := by
  rw [find?_isSome]
  constructor
  · rintro ⟨value, member, isFree⟩
    have more : (value :: used).Nodup := nodup_cons.mpr ⟨(unused value).mp isFree, once⟩
    exact more.length_le_of_subset (cons_subset.mpr ⟨member, inside⟩)
  · intro fewer
    by_contra full
    have taken : pool ⊆ used := by
      intro value member
      by_contra isFree
      exact full ⟨value, member, (unused value).mpr isFree⟩
    exact absurd (distinct.length_le_of_subset taken) (Nat.not_le_of_lt fewer)

/-! ## Addresses of devices -/

/-- The addresses that devices get, in the order in which they are tried. -/
def tunnelAddresses : List Text :=
  (List.range' 2 249).map fun host => ipText ⟨10, 66, 67, UInt8.ofNat host⟩

theorem ofNat_inj {first second : Nat} (small : first < 256) (smallToo : second < 256)
    (same : UInt8.ofNat first = UInt8.ofNat second) : first = second := by
  have value := congrArg UInt8.toNat same
  rwa [UInt8.toNat_ofNat_of_lt' small, UInt8.toNat_ofNat_of_lt' smallToo] at value

theorem tunnelAddresses_nodup : tunnelAddresses.Nodup := by
  refine List.Nodup.map_on (fun first member second memberToo same => ?_) nodup_range'
  have small : first < 256 := by
    rw [mem_range'_1] at member
    omega
  have smallToo : second < 256 := by
    rw [mem_range'_1] at memberToo
    omega
  have texts := append_cancel_left same
  simp only [List.cons.injEq, true_and, append_cancel_left_eq] at texts
  have numbers := congrArg decimal texts
  rw [decimal_decimalText, decimal_decimalText] at numbers
  exact ofNat_inj small smallToo (UInt8.toNat_inj.mp numbers)

theorem tunnelAddresses_length : tunnelAddresses.length = 249 := by
  rw [tunnelAddresses, length_map, length_range']

variable {db : Database}

namespace Database

/-- A database without anything in it. -/
def empty : Database := ⟨[], [], 0, 0, ∅, ∅⟩

/-- How many passwords, and the main password, are bound to a device. -/
def boundCredentials (db : Database) : Nat :=
  (db.passwords.rows.filter fun row => row.2.deviceId ≠ []).length +
    if db.mainDeviceId = [] then 0 else 1

/-- Every device has the address it had. -/
def SameIps (before after : Database) : Prop :=
  ∀ deviceId, (after.devices.lookup deviceId).map ClientDevice.ip =
    (before.devices.lookup deviceId).map ClientDevice.ip

/-- Every device has an address of the tunnel. -/
def InTunnel (db : Database) : Prop :=
  ∀ deviceId device, db.devices.lookup deviceId = some device → device.ip ∈ tunnelAddresses

variable {other : Database}

theorem SameIps.refl (db : Database) : db.SameIps db := fun _ => rfl

theorem SameIps.of_devices (same : other.devices = db.devices) : db.SameIps other :=
  fun deviceId => by rw [same]

theorem SameIps.lookup (same : db.SameIps other) {device : ClientDevice}
    (here : other.devices.lookup deviceId = some device) :
    ∃ old, db.devices.lookup deviceId = some old ∧ old.ip = device.ip := by
  have alike := same deviceId
  rw [here, map_some] at alike
  exact map_eq_some_iff.mp alike.symm

theorem UniqueIps.of_sameIps (unique : db.UniqueIps) (same : db.SameIps other) : other.UniqueIps := by
  intro first second firstDevice secondDevice here there alike
  obtain ⟨oldFirst, wasHere, keptFirst⟩ := same.lookup here
  obtain ⟨oldSecond, wasThere, keptSecond⟩ := same.lookup there
  exact unique first second oldFirst oldSecond wasHere wasThere
    (keptFirst.trans (alike.trans keptSecond.symm))

theorem InTunnel.of_sameIps (inside : db.InTunnel) (same : db.SameIps other) : other.InTunnel := by
  intro deviceId device here
  obtain ⟨old, wasHere, kept⟩ := same.lookup here
  rw [← kept]
  exact inside deviceId old wasHere

theorem InTunnel.place (inside : db.InTunnel) (deviceId : Text) : (db.place deviceId).1.InTunnel := by
  rw [Database.place]
  split
  · exact inside
  split
  · exact inside
  rename_i ip found
  intro other device here
  rw [lookup_insert_if] at here
  split at here
  · cases here
    exact mem_of_find?_eq_some found
  · exact inside other device here

/-- Every demand keeps what is said about the addresses and is kept when one is given out. -/
theorem serve_addresses {P : Database → Prop}
    (ofSame : ∀ {before after : Database}, before.SameIps after → P before → P after)
    (place : ∀ {db : Database} deviceId, P db → P (db.place deviceId).1) (holds : P db)
    (demand : Demand) : P (db.serve demand).1 := by
  refine db.serve_keeps holds ?_ ?_ ?_ demand
  · exact fun access password deviceId =>
      place deviceId (ofSame (.of_devices (bind_devices _ _ _)) holds)
  · exact fun now operation => ofSame (.of_devices (db.operate_devices now operation)) holds
  · exact fun session => ofSame (db.credit_ip session) holds

theorem UniqueIps.serve : db.UniqueIps → ∀ demand, (db.serve demand).1.UniqueIps :=
  serve_addresses (fun same unique => unique.of_sameIps same) fun deviceId unique =>
    unique.place deviceId

theorem InTunnel.serve : db.InTunnel → ∀ demand, (db.serve demand).1.InTunnel :=
  serve_addresses (fun same inside => inside.of_sameIps same) fun deviceId inside =>
    inside.place deviceId

/-- An address is left exactly if fewer than 249 devices have one. -/
theorem getNextIp_isSome_iff (unique : db.UniqueIps) (inside : db.InTunnel) :
    (getNextIp db).isSome ↔ db.devices.size < 249 := by
  let used := db.devices.rows.map fun row => row.2.ip
  have member : ∀ row, row ∈ db.devices.rows → db.devices.lookup row.1 = some row.2 :=
    fun row => mem_rows.mp
  have once : used.Nodup := by
    refine List.Nodup.map_on ?_ (List.Nodup.of_map _ db.devices.nodup_rows)
    intro first here second there same
    have key := unique _ _ _ _ (member first here) (member second there) same
    have row := (member first here).symm.trans (key ▸ member second there)
    exact Prod.ext key (Option.some.inj row)
  have within : used ⊆ tunnelAddresses := by
    intro ip taken
    obtain ⟨row, here, rfl⟩ := mem_map.mp taken
    exact inside _ _ (member row here)
  have unused : ∀ ip, (!db.devices.entries.any fun device => device.2.ip == ip) = true ↔
      ip ∉ used := by
    intro ip
    rw [Bool.not_eq_true', List.any_eq_false]
    constructor
    · intro free taken
      obtain ⟨row, here, rfl⟩ := mem_map.mp taken
      exact free ⟨row.1, row.2⟩ (mem_lookup_iff.mp (member row here)) (beq_self_eq_true _)
    · intro free entry stored same
      refine free (mem_map.mpr ⟨(entry.1, entry.2), ?_, beq_iff_eq.mp same⟩)
      exact mem_rows.mpr (mem_lookup_iff.mpr stored)
  have count : used.length = db.devices.size := by
    rw [length_map, length_rows]
  have tried : getNextIp db = tunnelAddresses.find? fun ip =>
      !db.devices.entries.any fun device => device.2.ip == ip := rfl
  rw [tried, find?_free_isSome_iff unused tunnelAddresses_nodup once within, tunnelAddresses_length,
    count]

/-! ## The number of credentials -/

/-- There are at most twenty passwords. -/
def Few (db : Database) : Prop := db.passwords.size ≤ maxPasswords

section

variable (few : db.Few)

include few

theorem Few.of_insert {password : Text} {entry new : PasswordEntry}
    (here : db.passwords.lookup password = some entry) :
    Table.size (db.passwords.insert password new) ≤ maxPasswords := by
  have present : password ∈ db.passwords := lookup_isSome.mp (here ▸ rfl)
  rw [size_insert, if_pos present]
  exact few

theorem Few.amendPassword (password : Text) (change : PasswordEntry → PasswordEntry) :
    (db.amendPassword password change).Few := by
  rw [Database.amendPassword]
  split
  · exact few
  · exact few.of_insert ‹_›

theorem Few.operate (now : Int) (operation : PanelOperation) : (db.operate now operation).Few := by
  cases operation with
  | create password expiresAt =>
    have fewer := size_retain_le (fun _ entry => !isExpired now entry) db.passwords
    rw [Database.operate]
    split
    · exact fewer.trans few
    rename_i room
    rw [not_or, Nat.not_le] at room
    rw [Few, size_insert]
    split
    · exact fewer.trans few
    · exact room.1
  | update password expiresAt | toggle password => exact few.amendPassword _ _
  | unbind password =>
    rw [Database.operate]
    split
    · exact few
    · exact few.amendPassword _ _
  | delete password => exact (size_erase_le _ _).trans few
  | expire password =>
    rw [Database.operate]
    split
    · exact (size_erase_le _ _).trans few
    · exact few
  | setMain password => exact few

theorem Few.bind (access : CredentialAccess) (password deviceId : Text) :
    (db.bind access password deviceId).1.Few := by
  cases access with
  | main =>
    rw [Database.bind]
    split
    · exact few
    · exact few
  | bound => exact few
  | unbound =>
    rw [Database.bind]
    split
    · exact few
    · exact few.of_insert ‹_›

theorem Few.credit (session : Session) : (db.credit session).Few := by
  have passwords : ∀ (db : Database) deviceId up down,
      (db.creditDevice deviceId up down).passwords = db.passwords := by
    intro db deviceId up down
    rw [creditDevice]
    split
    · rfl
    · rfl
  rw [Database.credit]
  split
  · rw [Few, passwords]
    exact few.of_insert ‹_›
  split
  · dsimp only
    split
    · exact few
    · rw [Few, passwords]
      exact few
  · exact few

theorem Few.serve (demand : Demand) : (db.serve demand).1.Few := by
  refine db.serve_keeps few ?_ few.operate few.credit demand
  intro access password deviceId
  rw [Few, place_passwords]
  exact few.bind _ _ _

theorem Few.boundCredentials : db.boundCredentials < 249 := by
  have passwords : (db.passwords.rows.filter fun row => row.2.deviceId ≠ []).length ≤ maxPasswords :=
    (length_filter_le _ _).trans ((length_rows db.passwords).trans_le few)
  rw [Database.boundCredentials]
  split
  · exact Nat.lt_of_le_of_lt passwords (by decide)
  · exact Nat.lt_of_le_of_lt (Nat.succ_le_succ passwords) (by decide)

end

end Database

/-! ## Databases that were empty once -/

/-- What every database has that was empty once. -/
structure Database.Grown (db : Database) : Prop where
  unique : db.UniqueIps
  inside : db.InTunnel
  few : db.Few

theorem Database.Grown.run (grown : db.Grown) (demands : List Demand) :
    (final serve db demands).Grown := by
  induction demands generalizing db with
  | nil => exact grown
  | cons demand rest ih =>
    exact ih
      ⟨grown.unique.serve demand, grown.inside.serve demand, grown.few.serve demand⟩

theorem Database.grown_empty : Database.empty.Grown :=
  ⟨fun _ _ _ _ here => absurd here (by simp [Database.empty]),
    fun _ _ here => absurd here (by simp [Database.empty]), Nat.zero_le _⟩

/-- In every database that was empty once, a new device gets an address, while fewer than 249
credentials are bound to devices, exactly if fewer than 249 devices have one. -/
theorem address_left_iff (demands : List Demand) :
    let db := final serve .empty demands
    (db.boundCredentials < 249 → (getNextIp db).isSome) ↔ db.devices.size < 249 := by
  have grown := grown_empty.run demands
  intro db
  rw [← getNextIp_isSome_iff grown.unique grown.inside]
  exact ⟨fun left => left grown.few.boundCredentials, fun left _ => left⟩

/-! ## Devices keep their addresses -/

namespace Database

/-- Every device that has an address keeps it. -/
def KeepsIps (before after : Database) : Prop :=
  ∀ deviceId ip, (before.devices.lookup deviceId).map ClientDevice.ip = some ip →
    (after.devices.lookup deviceId).map ClientDevice.ip = some ip

theorem serve_keepsIps (db : Database) (demand : Demand) : db.KeepsIps (db.serve demand).1 := by
  intro deviceId ip here
  refine serve_addresses
    (P := fun later => (later.devices.lookup deviceId).map ClientDevice.ip = some ip)
    (fun same kept => (same deviceId).trans kept) ?_ here demand
  intro later placed kept
  by_cases same : deviceId = placed
  · obtain ⟨device, known, -⟩ := map_eq_some_iff.mp kept
    rw [place, if_pos (isSome_of_eq_some (same ▸ known))]
    exact kept
  · rw [place_lookup_ne same]
    exact kept

/-- Two devices with one address would still have it later. -/
theorem UniqueIps.of_keepsIps {later : Database} (unique : later.UniqueIps)
    (keeps : db.KeepsIps later) : db.UniqueIps := by
  intro first second firstDevice secondDevice here there alike
  have kept := keeps first firstDevice.ip (map_eq_some_iff.mpr ⟨_, here, rfl⟩)
  have keptToo := keeps second firstDevice.ip (map_eq_some_iff.mpr ⟨_, there, alike.symm⟩)
  obtain ⟨_, isHere, same⟩ := map_eq_some_iff.mp kept
  obtain ⟨_, isThere, sameToo⟩ := map_eq_some_iff.mp keptToo
  exact unique first second _ _ isHere isThere (same.trans sameToo.symm)

theorem run_keepsIps (db : Database) (demands : List Demand) :
    db.KeepsIps (final serve db demands) ∧ ((final serve db demands).UniqueIps ↔ db.UniqueIps) := by
  induction demands generalizing db with
  | nil => exact ⟨fun _ _ => id, Iff.rfl⟩
  | cons demand rest ih =>
    have once := db.serve_keepsIps demand
    obtain ⟨keeps, unique⟩ := ih (db.serve demand).1
    exact ⟨fun deviceId ip here => keeps deviceId ip (once deviceId ip here),
      unique.trans ⟨fun apart => apart.of_keepsIps once, fun apart => apart.serve demand⟩⟩

end Database

/-- Whatever handlers, the panel and the flush do at the same time, a device keeps its address for
ever, and the addresses of all devices are apart exactly if they were at the start. -/
theorem addresses_are_kept (db : Database) (dns : Text) (before after : List Occurrence) :
    let plane := before.foldl Plane.next (.new db dns)
    let later := after.foldl Plane.next plane
    plane.app.db.KeepsIps later.app.db ∧ (later.app.db.UniqueIps ↔ db.UniqueIps) := by
  intro plane later
  have was : plane.app.db = _ := Plane.run_db (.new db dns) before
  have became : later.app.db = _ := plane.run_db after
  rw [became]
  obtain ⟨keeps, unique⟩ := plane.app.db.run_keepsIps (plane.allDemands after)
  refine ⟨keeps, unique.trans ?_⟩
  rw [was]
  exact (db.run_keepsIps _).2

/-! ## Devices that come and go -/

/-- A request with the main password `m`. -/
def mainRequest (deviceId : Text) : Getconf := ⟨[], ⟨deviceId, 0, []⟩, [0x6d], 1, 1, true⟩

/-- A device uses the main password, and the administrator unbinds it. -/
def visit (deviceId : Text) : List Demand :=
  [.getconf 0 [] (mainRequest deviceId), .panel 0 (.unbind [0x6d])]

/-- A visit of a new device leaves its row behind, and nothing else. -/
theorem visit_run {ip : Text} (main : db.mainPassword = [0x6d])
    (unbound : db.mainDeviceId = []) (new : db.devices.lookup deviceId = none)
    (left : getNextIp db = some ip) : final serve db (visit deviceId) =
      { db with devices := db.devices.insert deviceId ⟨deviceId, ip, 0, 0⟩ } := by
  obtain ⟨mainPassword, mainDeviceId, up, down, passwords, devices⟩ := db
  subst main unbound
  have granted : getconfCredentialAccess 0 ⟨[0x6d], [], up, down, passwords, devices⟩
      (mainRequest deviceId).password (mainRequest deviceId).epoch.deviceId = .ok .main := rfl
  have placed : (Database.place ⟨[0x6d], deviceId, up, down, passwords, devices⟩ deviceId).1 =
      ⟨[0x6d], deviceId, up, down, passwords, devices.insert deviceId ⟨deviceId, ip, 0, 0⟩⟩ := by
    have same : getNextIp ⟨[0x6d], deviceId, up, down, passwords, devices⟩ = some ip := left
    rw [Database.place, same]
    rw [new]
    rfl
  rw [visit, final, serve_granted _ granted]
  have bound : ((Database.bind ⟨[0x6d], [], up, down, passwords, devices⟩ .main
      (mainRequest deviceId).password (mainRequest deviceId).epoch.deviceId).1.place
        (mainRequest deviceId).epoch.deviceId).1 = _ := placed
  rw [bound]
  rfl

/-- Visits of new devices, as long as there are addresses. -/
theorem visits_run {deviceIds : List Text} (distinct : deviceIds.Nodup) (grown : db.Grown)
    (main : db.mainPassword = [0x6d]) (unbound : db.mainDeviceId = [])
    (new : ∀ deviceId ∈ deviceIds, db.devices.lookup deviceId = none)
    (room : db.devices.size + deviceIds.length ≤ 249) : ∃ devices : Table Text ClientDevice,
      final serve db (deviceIds.flatMap visit) = { db with devices := devices } ∧
      devices.size = db.devices.size + deviceIds.length ∧
      ∀ other, other ∉ deviceIds → devices.lookup other = db.devices.lookup other := by
  induction deviceIds generalizing db with
  | nil => exact ⟨db.devices, rfl, rfl, fun _ _ => rfl⟩
  | cons deviceId rest ih =>
    rw [length_cons] at room
    have isSome := (getNextIp_isSome_iff grown.unique grown.inside).mpr (by omega)
    obtain ⟨ip, left⟩ := isSome_iff_exists.mp isSome
    have isNew := new deviceId mem_cons_self
    have visited := visit_run main unbound isNew left
    have after := grown.run (visit deviceId)
    rw [flatMap_cons, final_append]
    rw [visited] at after ⊢
    have more : Table.size (db.devices.insert deviceId ⟨deviceId, ip, 0, 0⟩) = db.devices.size + 1 := by
      rw [size_insert, if_neg (lookup_eq_none.mp isNew)]
    obtain ⟨first, others⟩ := nodup_cons.mp distinct
    have newRest : ∀ other ∈ rest,
        (db.devices.insert deviceId ⟨deviceId, ip, 0, 0⟩).lookup other = none := by
      intro other member
      have different : other ≠ deviceId := fun isFirst => first (isFirst ▸ member)
      rw [lookup_insert_ne different]
      exact new other (mem_cons_of_mem deviceId member)
    have roomRest : Table.size (db.devices.insert deviceId ⟨deviceId, ip, 0, 0⟩) + rest.length ≤ 249 := by
      omega
    obtain ⟨devices, same, size, untouched⟩ :=
      ih others after main unbound newRest roomRest
    refine ⟨devices, same, ?_, ?_⟩
    · rw [size, length_cons]
      dsimp only
      omega
    · intro other absent
      rw [mem_cons, not_or] at absent
      exact (untouched other absent.2).trans (lookup_insert_ne absent.1)

/-- 249 names of devices. -/
def visitors : List Text := (List.range 249).map fun number => [UInt8.ofNat number]

/-- The main password is set, and then all of them come and go. -/
def allVisits : List Demand := .panel 0 (.setMain [0x6d]) :: visitors.flatMap visit

/-- After all visits nothing is bound, and no address is left. -/
theorem allVisits_run : ∃ devices, final serve .empty allVisits = ⟨[0x6d], [], 0, 0, ∅, devices⟩ ∧
      devices.lookup [0, 0] = none ∧ ∀ mainDeviceId : Text,
        getNextIp ⟨[0x6d], mainDeviceId, 0, 0, ∅, devices⟩ = none := by
  have grown := grown_empty.run [.panel 0 (.setMain [0x6d])]
  have distinct : visitors.Nodup := by
    refine List.Nodup.map_on (fun first member second memberToo same => ?_) nodup_range
    rw [mem_range] at member memberToo
    exact ofNat_inj (by omega) (by omega) (head_eq_of_cons_eq same)
  have count : visitors.length = 249 := by rw [visitors, length_map, length_range]
  obtain ⟨devices, same, size, untouched⟩ := visits_run distinct grown rfl rfl
    (fun _ _ => rfl) (by rw [count]; rfl)
  have all := grown.run (visitors.flatMap visit)
  rw [same] at all
  have full : getNextIp { final serve .empty [.panel 0 (.setMain [0x6d])] with
      devices := devices } = none := by
    rw [← not_isSome_iff_eq_none, getNextIp_isSome_iff all.unique all.inside, size, count]
    decide
  have first : ∀ later, final serve .empty (.panel 0 (.setMain [0x6d]) :: later) =
      final serve (final serve .empty [.panel 0 (.setMain [0x6d])]) later :=
    fun _ => rfl
  exact ⟨devices, (first _).trans same, untouched [0, 0] (by decide +kernel), fun _ => full⟩

/-- A request of another device binds the main password, but the device gets no row. -/
theorem serve_without_address {devices : Table Text ClientDevice}
    (absent : devices.lookup [0, 0] = none)
    (full : ∀ mainDeviceId : Text, getNextIp ⟨[0x6d], mainDeviceId, 0, 0, ∅, devices⟩ = none) :
    serve ⟨[0x6d], [], 0, 0, ∅, devices⟩ (.getconf 0 [] (mainRequest [0, 0])) =
      (⟨[0x6d], [0, 0], 0, 0, ∅, devices⟩, some .noConfiguration) := by
  have unplaced : Database.place ⟨[0x6d], [0, 0], 0, 0, ∅, devices⟩ [0, 0] =
      (⟨[0x6d], [0, 0], 0, 0, ∅, devices⟩, false) := by
    rw [Database.place, full]
    rw [absent]
    rfl
  have served : serve ⟨[0x6d], [], 0, 0, ∅, devices⟩ (.getconf 0 [] (mainRequest [0, 0])) =
      ((Database.place ⟨[0x6d], [0, 0], 0, 0, ∅, devices⟩ [0, 0]).1, some (tunnelAnswer []
        (mainRequest [0, 0])
        ((Database.place ⟨[0x6d], [0, 0], 0, 0, ∅, devices⟩ [0, 0]).1.devices.lookup [0, 0]))) := rfl
  rw [served, unplaced, absent]
  rfl

/-- After the visits of 249 devices no credential is bound to a device, and a request of
another device with the main password is granted, but there is no address for it. -/
theorem visits_use_up_addresses :
    let db := final serve .empty allVisits
    db.boundCredentials = 0 ∧ db.devices.lookup [0, 0] = none ∧
      getconfCredentialAccess 0 db [0x6d] [0, 0] = .ok .main ∧ getNextIp db = none ∧
      (db.serve (.getconf 0 [] (mainRequest [0, 0]))).2 = some .noConfiguration := by
  obtain ⟨devices, final, absent, full⟩ := allVisits_run
  dsimp only
  rw [final, serve_without_address absent full]
  exact ⟨rfl, absent, rfl, full [], rfl⟩

end Csqtt.Control

/-! ## Databases that were put together -/

namespace Csqtt.Storage

open ControlText Control Runs Table AList Option

/-- No two devices of several databases have one address. -/
def DistinctIps (legacies : List Database) : Prop :=
  ∀ first ∈ legacies, ∀ second ∈ legacies, ∀ row ∈ first.devices.rows,
    ∀ other ∈ second.devices.rows, row.2.ip = other.2.ip → row.1 = other.1

instance (legacies : List Database) : Decidable (DistinctIps legacies) :=
  inferInstanceAs (Decidable (∀ _ ∈ _, ∀ _ ∈ _, ∀ _ ∈ _, ∀ _ ∈ _, _ → _))

variable {db : Database} {directory : Directory}

theorem uniqueIps_control_iff :
    db.control.UniqueIps ↔ ∀ row ∈ db.devices.rows, ∀ other ∈ db.devices.rows,
      row.2.ip = other.2.ip → row.1 = other.1 := by
  have found : ∀ deviceId, db.control.devices.lookup deviceId =
      (db.devices.lookup deviceId).map ClientDevice.control :=
    fun deviceId => lookup_mapRows _ _ _
  constructor
  · intro unique row stored other storedToo same
    refine unique row.1 other.1 row.2.control other.2.control ?_ ?_ same
    · rw [found, mem_rows.mp stored, map_some]
    · rw [found, mem_rows.mp storedToo, map_some]
  · intro unique first second firstDevice secondDevice here there same
    rw [found] at here there
    obtain ⟨firstFull, isHere, rfl⟩ := map_eq_some_iff.mp here
    obtain ⟨secondFull, isThere, rfl⟩ := map_eq_some_iff.mp there
    exact unique (first, firstFull) (mem_rows.mpr isHere) (second, secondFull)
      (mem_rows.mpr isThere) same

section

variable (missing : directory.database = none) (loaded : (loadDatabase directory).1 = .ok db)

include missing loaded

theorem loaded_devices (deviceId : Text) :
    db.devices.lookup deviceId = firstDevice directory.legacyDatabases deviceId := by
  rw [loadDatabase, missing] at loaded
  dsimp only at loaded
  split at loaded
  · rename_i paths
    cases loaded
    rw [Directory.legacyDatabases, paths]
    rfl
  obtain ⟨_, read⟩ | ⟨_, error, failed⟩ := readLegacy_mapM directory
  · rw [read] at loaded
    dsimp only at loaded
    split at loaded
    · cases loaded
    cases loaded
    refine (lookup_readDatabaseSnapshot_devices _ deviceId).trans ?_
    rw [lookup_imported_devices]
    rfl
  · rw [failed] at loaded
    cases loaded

theorem loaded_of_row {legacy : Database} (member : legacy ∈ directory.legacyDatabases)
    {row : Text × ClientDevice} (stored : row ∈ legacy.devices.rows) :
    row.2.deviceId = row.1 ∧ ∃ device, db.devices.lookup row.1 = some device ∧ device.ip = row.2.ip := by
  have covered := (safe_of_missing missing db loaded legacy member).devices row stored
  obtain ⟨device, here, alike⟩ := (any_eq_true _ _).mp covered
  simp only [legacyDeviceMatches, Bool.and_eq_true, beq_iff_eq] at alike
  obtain ⟨⟨⟨id, ip⟩, _⟩, _⟩ := alike
  have read := here
  rw [loaded_devices missing loaded] at read
  obtain ⟨columns, _, rfl⟩ := map_eq_some_iff.mp read
  exact ⟨id.symm, _, here, ip⟩

theorem loaded_row {device : ClientDevice} (here : db.devices.lookup deviceId = some device) :
    ∃ legacy ∈ directory.legacyDatabases, ∃ row ∈ legacy.devices.rows,
      row.1 = deviceId ∧ row.2.ip = device.ip := by
  rw [loaded_devices missing loaded, firstDevice] at here
  obtain ⟨columns, found, rfl⟩ := map_eq_some_iff.mp here
  obtain ⟨legacy, member, first⟩ := List.exists_of_findSome?_eq_some found
  obtain ⟨row, stored, same⟩ := List.mem_map.mp (firstRow_mem first)
  have id : row.2.deviceId = deviceId := congrArg Prod.fst same
  have own := (loaded_of_row missing loaded member stored).1
  exact ⟨legacy, member, row, stored, own.symm.trans id, congrArg (fun row => row.2.ip) same⟩

/-- A database that was put together has distinct addresses exactly if the old databases
together have. -/
theorem loaded_uniqueIps_iff : db.control.UniqueIps ↔ DistinctIps directory.legacyDatabases := by
  rw [uniqueIps_control_iff]
  constructor
  · intro unique first firstOld second secondOld row stored other storedToo same
    obtain ⟨_, device, here, ip⟩ := loaded_of_row missing loaded firstOld stored
    obtain ⟨_, deviceToo, there, ipToo⟩ := loaded_of_row missing loaded secondOld storedToo
    exact unique (row.1, device) (mem_rows.mpr here) (other.1, deviceToo)
      (mem_rows.mpr there) (ip.trans (same.trans ipToo.symm))
  · rintro distinct ⟨deviceId, device⟩ here ⟨otherId, other⟩ there same
    obtain ⟨legacy, member, row, stored, rfl, ip⟩ :=
      loaded_row missing loaded (mem_rows.mp here)
    obtain ⟨second, memberToo, rowToo, storedToo, rfl, ipToo⟩ :=
      loaded_row missing loaded (mem_rows.mp there)
    exact distinct legacy member second memberToo row stored rowToo storedToo
      (ip.trans (same.trans ipToo.symm))

end

/-- After a load from a directory whose file, if there is one, has distinct addresses, all
requests and all operations of the panel leave distinct addresses, exactly if there was such a
file or no two devices of the old databases had one address. -/
theorem tunnel_ips_exclusive_iff (directory : Directory) (db : Database)
    (loaded : (loadDatabase directory).1 = .ok db)
    (stored : ∀ file ∈ directory.database, (readDatabaseSnapshot file).control.UniqueIps)
    (demands : List Demand) :
    Throughout Control.Database.serve Control.Database.UniqueIps db.control demands ↔
      directory.database.isSome ∨ DistinctIps directory.legacyDatabases := by
  have start : db.control.UniqueIps ↔
      directory.database.isSome ∨ DistinctIps directory.legacyDatabases := by
    cases found : directory.database with
    | some file =>
      rw [loadDatabase, found] at loaded
      cases loaded
      exact iff_of_true (stored file found) (.inl rfl)
    | none =>
      rw [loaded_uniqueIps_iff found loaded]
      exact ⟨.inr, fun either => either.resolve_left Bool.false_ne_true⟩
  rw [← start]
  constructor
  · intro throughout
    exact (throughout_iff _ _ _ _).mp throughout [] demands rfl
  · intro unique
    exact throughout_of_step _ _ (fun _ => True) (fun _ demand unique _ => unique.serve demand)
      _ _ unique fun _ _ => trivial

/-- A client of an old database is joined by a new device. -/
theorem imported_client_and_new_device : ∃ db, (loadDatabase withClient).1 = .ok db ∧
      Throughout Control.Database.serve Control.Database.UniqueIps db.control
        [.panel 0 (.setMain [0x6d]), .getconf 0 [] (mainRequest [6])] := by
  cases loaded : (loadDatabase withClient).1 with
  | error error =>
    have succeeds : (loadDatabase withClient).1.toOption.isSome = true := by decide +kernel
    rw [loaded] at succeeds
    cases succeeds
  | ok db =>
    refine ⟨db, rfl, (tunnel_ips_exclusive_iff withClient db loaded ?_ _).mpr (.inr ?_)⟩
    · intro file stored
      cases stored
    · decide +kernel

/-- Two old databases, each with one device at the same address. -/
def twins : Directory where
  database := none
  legacy
    | .passwords =>
      some (.database { Database.empty with devices := AList.singleton [1] ⟨⟨[9], [], [], 0, 0⟩, [1]⟩ })
    | .imported =>
      some (.database { Database.empty with devices := AList.singleton [2] ⟨⟨[9], [], [], 0, 0⟩, [2]⟩ })

/-- Each of them has distinct addresses, and the database that is put together of them has
not. -/
theorem twins_share_address : (∀ legacy ∈ twins.legacyDatabases, legacy.control.UniqueIps) ∧
      ∃ db, (loadDatabase twins).1 = .ok db ∧ ¬ db.control.UniqueIps := by
  constructor
  · simp only [uniqueIps_control_iff]
    decide +kernel
  · cases loaded : (loadDatabase twins).1 with
    | error error =>
      have succeeds : (loadDatabase twins).1.toOption.isSome = true := by decide +kernel
      rw [loaded] at succeeds
      cases succeeds
    | ok db =>
      refine ⟨db, rfl, ?_⟩
      rw [loaded_uniqueIps_iff rfl loaded]
      decide +kernel

end Csqtt.Storage
