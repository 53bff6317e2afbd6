import Csqtt.ControlText
import Csqtt.RouteTable

/-!
# Passwords and devices

The database knows the passwords that clients may use and the devices that have a
tunnel address. A password is bound to the first device that uses it; one password, the
main one, stands outside of the table. `getconfCredentialAccess` decides whether a
password may be used by a device.

Addresses are stored as text. Reading one back accepts four numbers below 256 without
leading zeros, so no two texts stand for one address. Of the entries, only the fields
are kept that the control task reads or writes.
-/

namespace Csqtt.Control

open ControlText Routes List AList

/-- A password of a client. Empty text means that no device has used it yet. -/
structure PasswordEntry where
  deviceId : Text
  expiresAt : Int
  upBytes : Int
  downBytes : Int
  isDeactivated : Bool
deriving DecidableEq, Repr

/-- A device and its tunnel address. -/
structure ClientDevice where
  deviceId : Text
  ip : Text
  upBytes : Int
  downBytes : Int
deriving DecidableEq, Repr

structure Database where
  mainPassword : Text
  mainDeviceId : Text
  mainUpBytes : Int
  mainDownBytes : Int
  passwords : Table Text PasswordEntry
  devices : Table Text ClientDevice

/-- How a credential may be used. -/
inductive CredentialAccess
  | main
  | bound
  | unbound
deriving DecidableEq, Repr

/-- Why a request is refused. -/
inductive Denial
  | expired
  | deactivated
  | deviceMismatch
  | invalidEpoch
  | protocolMismatch
  | wrongPassword
  | invalidDevice
  | invalidPort
  | invalidWorker
  | invalidWorkerCount
  | notOwner
  | serverBusy
deriving DecidableEq, Repr

/-- The answer to a refused request: `DENIED:` and the reason, such as `expired` or
`device_mismatch`. -/
def Denial.text : Denial → Text
  | .expired => deniedPrefix ++ [0x65, 0x78, 0x70, 0x69, 0x72, 0x65, 0x64]
  | .deactivated =>
    deniedPrefix ++ [0x64, 0x65, 0x61, 0x63, 0x74, 0x69, 0x76, 0x61, 0x74, 0x65, 0x64]
  | .deviceMismatch =>
    deniedPrefix ++ [0x64, 0x65, 0x76, 0x69, 0x63, 0x65, 0x5f, 0x6d, 0x69, 0x73, 0x6d, 0x61, 0x74,
      0x63, 0x68]
  | .invalidEpoch =>
    deniedPrefix ++ [0x69, 0x6e, 0x76, 0x61, 0x6c, 0x69, 0x64, 0x5f, 0x65, 0x70, 0x6f, 0x63, 0x68]
  | .protocolMismatch =>
    deniedPrefix ++ [0x70, 0x72, 0x6f, 0x74, 0x6f, 0x63, 0x6f, 0x6c, 0x5f, 0x6d, 0x69, 0x73, 0x6d,
      0x61, 0x74, 0x63, 0x68]
  | .wrongPassword =>
    deniedPrefix ++ [0x77, 0x72, 0x6f, 0x6e, 0x67, 0x5f, 0x70, 0x61, 0x73, 0x73, 0x77, 0x6f, 0x72,
      0x64]
  | .invalidDevice =>
    deniedPrefix ++ [0x69, 0x6e, 0x76, 0x61, 0x6c, 0x69, 0x64, 0x5f, 0x64, 0x65, 0x76, 0x69, 0x63,
      0x65]
  | .invalidPort =>
    deniedPrefix ++ [0x69, 0x6e, 0x76, 0x61, 0x6c, 0x69, 0x64, 0x5f, 0x70, 0x6f, 0x72, 0x74]
  | .invalidWorker =>
    deniedPrefix ++ [0x69, 0x6e, 0x76, 0x61, 0x6c, 0x69, 0x64, 0x5f, 0x77, 0x6f, 0x72, 0x6b, 0x65,
      0x72]
  | .invalidWorkerCount =>
    deniedPrefix ++ [0x69, 0x6e, 0x76, 0x61, 0x6c, 0x69, 0x64, 0x5f, 0x77, 0x6f, 0x72, 0x6b, 0x65,
      0x72, 0x5f, 0x63, 0x6f, 0x75, 0x6e, 0x74]
  | .notOwner => deniedPrefix ++ [0x6e, 0x6f, 0x74, 0x5f, 0x6f, 0x77, 0x6e, 0x65, 0x72]
  | .serverBusy =>
    deniedPrefix ++ [0x73, 0x65, 0x72, 0x76, 0x65, 0x72, 0x5f, 0x62, 0x75, 0x73, 0x79]

/-- An entry without an expiry never expires. -/
def isExpired (now : Int) (entry : PasswordEntry) : Bool :=
  entry.expiresAt != 0 && decide (now > entry.expiresAt)

/-- Whether a device may use a password. -/
def getconfCredentialAccess (now : Int) (db : Database) (password deviceId : Text) :
    Except Denial CredentialAccess :=
  if db.mainPassword ≠ [] ∧ password = db.mainPassword then
    if db.mainDeviceId ≠ [] ∧ db.mainDeviceId ≠ deviceId then .error .deviceMismatch
    else .ok .main
  else
    match db.passwords.lookup password with
    | none => .error .expired
    | some entry =>
      if isExpired now entry then .error .expired
      else if entry.isDeactivated then .error .deactivated
      else if entry.deviceId ≠ [] ∧ entry.deviceId ≠ deviceId then .error .deviceMismatch
      else if entry.deviceId = [] then .ok .unbound
      else .ok .bound

/-- Whether a password may speak for a device that it is bound to. -/
def deviceControlAuthorized (now : Int) (db : Database) (password deviceId : Text) : Bool :=
  if deviceId = [] then false
  else if db.mainPassword ≠ [] ∧ password = db.mainPassword then
    if db.mainDeviceId ≠ [] ∧ db.mainDeviceId ≠ deviceId then false
    else (db.devices.lookup deviceId).isSome
  else
    ((db.passwords.lookup password).any fun entry =>
      !isExpired now entry && !entry.isDeactivated && !entry.deviceId.isEmpty &&
        entry.deviceId == deviceId) && (db.devices.lookup deviceId).isSome

/-! ## Addresses -/

/-- The decimal digits of a number. -/
def decimalText (number : Nat) : Text :=
  (Nat.toDigits 10 number).map fun digit => digit.toNat.toUInt8

theorem toUInt8_digit {number : Nat} {digit : Char} (member : digit ∈ Nat.toDigits 10 number) :
    digit.toNat.toUInt8.toNat = digit.toNat ∧ 0x30 ≤ digit.toNat ∧ digit.toNat ≤ 0x39 := by
  have isDigit := Nat.isDigit_of_mem_toDigits (by decide) (by decide) member
  obtain ⟨low, high⟩ := Char.isDigit_iff_toNat.mp isDigit
  have small : digit.toNat ≤ 0x39 := high
  exact ⟨UInt8.toNat_ofNat_of_lt' (Nat.lt_of_le_of_lt small (by decide)), low, small⟩

theorem decimalText_digit {number : Nat} {byte : UInt8} (member : byte ∈ decimalText number) :
    0x30 ≤ byte ∧ byte ≤ 0x39 := by
  obtain ⟨digit, isDigit, rfl⟩ := mem_map.mp member
  obtain ⟨same, low, high⟩ := toUInt8_digit isDigit
  rw [UInt8.le_iff_toNat_le, UInt8.le_iff_toNat_le, same]
  exact ⟨low, high⟩

theorem decimal_decimalText (number : Nat) : decimal (decimalText number) = number := by
  have digits : ∀ (digits : List Char) (value : Nat), digits ⊆ Nat.toDigits 10 number →
      (digits.map fun digit => digit.toNat.toUInt8).foldl
          (fun value digit => value * 10 + (digit.toNat - 0x30)) value =
        Nat.ofDigitChars 10 digits value := by
    intro digits
    induction digits with
    | nil => exact fun _ _ => rfl
    | cons digit rest ih =>
      intro value within
      obtain ⟨first, later⟩ := cons_subset.mp within
      rw [map_cons, foldl_cons, Nat.ofDigitChars_cons, ih _ later,
        (toUInt8_digit first).1, Nat.mul_comm]
      rfl
  exact (digits _ 0 (List.Subset.refl _)).trans (Nat.ofDigitChars_toDigits (by decide) (by decide))

/-- The text of an address. -/
def ipText (ip : Ipv4) : Text :=
  decimalText ip.a.toNat ++ 0x2e :: (decimalText ip.b.toNat ++ 0x2e ::
    (decimalText ip.c.toNat ++ 0x2e :: decimalText ip.host.toNat))

/-- A number below 256, without leading zeros. -/
def parseOctet (part : Text) : Option UInt8 :=
  ((List.range 256).find? fun number => decimalText number == part).map UInt8.ofNat

/-- Read an address. -/
def parseIpv4 (text : Text) : Option Ipv4 :=
  match text.splitOn 0x2e with
  | [a, b, c, host] => do
    return ⟨← parseOctet a, ← parseOctet b, ← parseOctet c, ← parseOctet host⟩
  | _ => none

/-- The first address of the subnet that no device has. -/
def getNextIp (db : Database) : Option Text :=
  ((List.range' 2 249).map fun host => ipText ⟨10, 66, 67, UInt8.ofNat host⟩).find? fun ip =>
    !db.devices.entries.any fun device => device.2.ip == ip

/-- The address of a session: that of its device, or that of the device its password is
bound to. -/
def resolveSessionIp (db : Database) (sessionPassword deviceId : Text) : Option Text :=
  match if deviceId ≠ [] then db.devices.lookup deviceId else none with
  | some device => some device.ip
  | none =>
    if sessionPassword ≠ db.mainPassword then
      match db.passwords.lookup sessionPassword with
      | none => none
      | some entry =>
        if entry.deviceId ≠ [] then (db.devices.lookup entry.deviceId).map ClientDevice.ip else none
    else none

/-! ## Changes -/

namespace Database

/-- Bind a credential to the device that uses it first. -/
def bind (db : Database) (access : CredentialAccess) (password deviceId : Text) : Database × Bool :=
  match access with
  | .unbound =>
    match db.passwords.lookup password with
    | none => (db, false)
    | some entry =>
      ({ db with passwords := db.passwords.insert password { entry with deviceId := deviceId } }, true)
  | .main => if db.mainDeviceId = [] then ({ db with mainDeviceId := deviceId }, true) else (db, false)
  | .bound => (db, false)

/-- Give a new device an address, if there is one left. -/
def place (db : Database) (deviceId : Text) : Database × Bool :=
  if (db.devices.lookup deviceId).isSome then (db, false)
  else
    match getNextIp db with
    | none => (db, false)
    | some ip => ({ db with devices := db.devices.insert deviceId ⟨deviceId, ip, 0, 0⟩ }, true)

/-- A counter of the database after more bytes: sixty-four bits with a sign, and no
overflow. -/
def addBytes (counter : Int) (bytes : Nat) : Int :=
  let added := if bytes % 2 ^ 64 < 2 ^ 63 then (bytes % 2 ^ 64 : Nat) else (bytes % 2 ^ 64 : Nat) - 2 ^ 64
  max (-2 ^ 63) (min (counter + added) (2 ^ 63 - 1))

/-- Add bytes to the counters of a device. -/
def creditDevice (db : Database) (deviceId : Text) (up down : Nat) : Database :=
  match db.devices.lookup deviceId with
  | none => db
  | some device =>
    { db with
      devices := db.devices.insert deviceId { device with
        upBytes := addBytes device.upBytes up
        downBytes := addBytes device.downBytes down } }

end Database

/-! ## What the functions guarantee -/

theorem decimalText_of_parseOctet {part : Text} {octet : UInt8} (read : parseOctet part = some octet) :
    decimalText octet.toNat = part := by
  obtain ⟨number, found, rfl⟩ := Option.map_eq_some_iff.mp read
  have small := mem_range.mp (mem_of_find?_eq_some found)
  have text := find?_some found
  rw [UInt8.toNat_ofNat_of_lt' small]
  exact beq_iff_eq.mp text

theorem ipText_of_parseIpv4 {text : Text} {ip : Ipv4} (read : parseIpv4 text = some ip) :
    ipText ip = text := by
  rw [parseIpv4] at read
  split at read
  · rename_i a b c host split
    simp only [Option.bind_eq_bind, Option.bind_eq_some_iff, Option.pure_def] at read
    obtain ⟨first, readFirst, second, readSecond, third, readThird, last, readLast, whole⟩ := read
    cases whole
    have joined : [(0x2e : UInt8)].intercalate (text.splitOn 0x2e) = text :=
      intercalate_splitOn 0x2e
    rw [split] at joined
    rw [ipText, decimalText_of_parseOctet readFirst, decimalText_of_parseOctet readSecond,
      decimalText_of_parseOctet readThird, decimalText_of_parseOctet readLast, ← joined]
    simp
  · cases read

variable {other deviceId password : Text} {now : Int} {entry : PasswordEntry}
  {access : CredentialAccess}

theorem getNextIp_unused {db : Database} {ip : Text} {device : ClientDevice}
    (found : getNextIp db = some ip) (here : db.devices.lookup deviceId = some device) :
    device.ip ≠ ip := by
  have unused := find?_some found
  rw [Bool.not_eq_true', any_eq_false] at unused
  intro same
  exact unused _ (mem_lookup_iff.mp here) (beq_iff_eq.mpr same)

example : getNextIp ⟨[], [], 0, 0, ∅, AList.insert [0x61] ⟨[0x61], ipText ⟨10, 66, 67, 2⟩, 0, 0⟩ ∅⟩ =
    some [0x31, 0x30, 0x2e, 0x36, 0x36, 0x2e, 0x36, 0x37, 0x2e, 0x33] := by
  decide +kernel

namespace Database

variable {db : Database}

/-- Every password that had a device before has the same device after. -/
structure KeepsBindings (before after : Database) : Prop where
  passwords : ∀ password entry, before.passwords.lookup password = some entry →
    entry.deviceId ≠ [] →
    ∃ later, after.passwords.lookup password = some later ∧ later.deviceId = entry.deviceId
  main : before.mainDeviceId ≠ [] → after.mainDeviceId = before.mainDeviceId

/-- No other device has the address of this one. -/
def OwnIp (db : Database) (first : Text) : Prop :=
  ∀ second firstDevice secondDevice, db.devices.lookup first = some firstDevice →
    db.devices.lookup second = some secondDevice → firstDevice.ip = secondDevice.ip →
    first = second

/-- No two devices have one address. -/
def UniqueIps (db : Database) : Prop :=
  ∀ first second firstDevice secondDevice, db.devices.lookup first = some firstDevice →
    db.devices.lookup second = some secondDevice → firstDevice.ip = secondDevice.ip →
    first = second

/-- Access is granted to the main password, to an unbound password, or to a password of the device. -/
theorem of_access (granted : getconfCredentialAccess now db password deviceId = .ok access) :
    access = .main ∧ password = db.mainPassword ∨
      ∃ entry, db.passwords.lookup password = some entry ∧
        (access = .unbound ∧ entry.deviceId = [] ∨ access = .bound ∧ entry.deviceId = deviceId) := by
  rw [getconfCredentialAccess] at granted
  split at granted
  · rename_i main
    split at granted
    · cases granted
    · cases granted
      exact .inl ⟨rfl, main.2⟩
  split at granted
  · cases granted
  rename_i entry here
  split at granted
  · cases granted
  split at granted
  · cases granted
  split at granted
  · cases granted
  rename_i matching
  split at granted
  · rename_i unbound
    cases granted
    exact .inr ⟨entry, here, .inl ⟨rfl, unbound⟩⟩
  · rename_i bound
    cases granted
    exact .inr ⟨entry, here, .inr ⟨rfl, not_not.mp fun other => matching ⟨bound, other⟩⟩⟩

/-- A password with the access of an unbound one has no device. -/
theorem unbound_of_access
    (granted : getconfCredentialAccess now db password deviceId = .ok .unbound) :
    ∃ entry, db.passwords.lookup password = some entry ∧ entry.deviceId = [] := by
  obtain ⟨main, -⟩ | ⟨entry, here, ⟨-, unbound⟩ | ⟨bound, -⟩⟩ := of_access granted
  · cases main
  · exact ⟨entry, here, unbound⟩
  · cases bound

/-- Binding changes an entry only if it is the one of an unbound password, and then only its device. -/
theorem bind_lookup_some (access : CredentialAccess) (password deviceId : Text)
    (here : db.passwords.lookup other = some entry) :
    ∃ bound, (db.bind access password deviceId).1.passwords.lookup other =
        some { entry with deviceId := bound } ∧
      (bound = entry.deviceId ∨ other = password ∧ access = .unbound ∧ bound = deviceId) := by
  cases access with
  | main =>
    rw [bind]
    split
    · exact ⟨_, here, .inl rfl⟩
    · exact ⟨_, here, .inl rfl⟩
  | bound => exact ⟨_, here, .inl rfl⟩
  | unbound =>
    rw [bind]
    split
    · exact ⟨_, here, .inl rfl⟩
    rename_i stored found
    by_cases same : other = password
    · rw [← same, here] at found
      cases found
      exact ⟨deviceId, same ▸ lookup_insert _, .inr ⟨same, rfl, rfl⟩⟩
    · exact ⟨_, (lookup_insert_ne same).trans here, .inl rfl⟩

/-- The entry of a password that has a device stays as it is. -/
theorem bind_lookup_of_bound
    (granted : getconfCredentialAccess now db password deviceId = .ok access)
    (here : db.passwords.lookup other = some entry) (bound : entry.deviceId ≠ []) :
    (db.bind access password deviceId).1.passwords.lookup other = some entry := by
  obtain ⟨device, there, rfl | ⟨rfl, rfl, -⟩⟩ := bind_lookup_some access password deviceId here
  · exact there
  · obtain ⟨found, isFound, unbound⟩ := unbound_of_access granted
    cases here.symm.trans isFound
    exact absurd unbound bound

theorem bind_lookup_none (missing : db.passwords.lookup other = none) :
    (db.bind access password deviceId).1.passwords.lookup other = none := by
  cases access with
  | main =>
    rw [bind]
    split
    · exact missing
    · exact missing
  | bound => exact missing
  | unbound =>
    rw [bind]
    split
    · exact missing
    rename_i stored found
    by_cases same : other = password
    · rw [same, found] at missing
      cases missing
    · exact (lookup_insert_ne same).trans missing

@[simp] theorem bind_devices (access : CredentialAccess) (password deviceId : Text) :
    (db.bind access password deviceId).1.devices = db.devices := by
  unfold bind
  split
  · split
    · rfl
    · rfl
  · split
    · rfl
    · rfl
  · rfl

@[simp] theorem bind_mainPassword (access : CredentialAccess) (password deviceId : Text) :
    (db.bind access password deviceId).1.mainPassword = db.mainPassword := by
  unfold bind
  split
  · split
    · rfl
    · rfl
  · split
    · rfl
    · rfl
  · rfl

theorem place_lookup_ne (different : other ≠ deviceId) :
    (db.place deviceId).1.devices.lookup other = db.devices.lookup other := by
  rw [place]
  split
  · rfl
  · split
    · rfl
    · exact lookup_insert_ne different

@[simp] theorem place_passwords (deviceId : Text) :
    (db.place deviceId).1.passwords = db.passwords := by
  rw [place]
  split
  · rfl
  · split
    · rfl
    · rfl

@[simp] theorem place_mainDeviceId (deviceId : Text) :
    (db.place deviceId).1.mainDeviceId = db.mainDeviceId := by
  rw [place]
  split
  · rfl
  · split
    · rfl
    · rfl

@[simp] theorem place_mainPassword (deviceId : Text) :
    (db.place deviceId).1.mainPassword = db.mainPassword := by
  rw [place]
  split
  · rfl
  · split
    · rfl
    · rfl

namespace KeepsBindings

variable {first second third : Database}

theorem refl (db : Database) : db.KeepsBindings db :=
  ⟨fun _ entry here _ => ⟨entry, here, rfl⟩, fun _ => rfl⟩

theorem trans (earlier : first.KeepsBindings second) (later : second.KeepsBindings third) :
    first.KeepsBindings third where
  passwords := by
    intro password entry here bound
    obtain ⟨middle, there, same⟩ := earlier.passwords password entry here bound
    obtain ⟨last, found, still⟩ := later.passwords password middle there (same ▸ bound)
    exact ⟨last, found, still.trans same⟩
  main := by
    intro bound
    have same := earlier.main bound
    exact (later.main (same ▸ bound)).trans same

theorem bind (granted : getconfCredentialAccess now db password deviceId = .ok access) :
    db.KeepsBindings (db.bind access password deviceId).1 where
  passwords := fun _ entry here bound => ⟨entry, bind_lookup_of_bound granted here bound, rfl⟩
  main := by
    intro bound
    cases access with
    | main =>
      rw [Database.bind, if_neg bound]
    | bound => rfl
    | unbound =>
      rw [Database.bind]
      split
      · rfl
      · rfl

theorem place (deviceId : Text) : db.KeepsBindings (db.place deviceId).1 where
  passwords := by
    intro password entry here _
    rw [place_passwords]
    exact ⟨entry, here, rfl⟩
  main := fun _ => place_mainDeviceId deviceId

theorem creditDevice (deviceId : Text) (up down : Nat) :
    db.KeepsBindings (db.creditDevice deviceId up down) := by
  rw [Database.creditDevice]
  split
  · exact refl db
  · exact ⟨(refl db).passwords, (refl db).main⟩

theorem insert {new : PasswordEntry} (here : db.passwords.lookup password = some entry)
    (same : new.deviceId = entry.deviceId) :
    db.KeepsBindings { db with passwords := db.passwords.insert password new } where
  passwords := by
    intro other stored found _
    by_cases this : other = password
    · rw [this, here] at found
      cases found
      exact ⟨new, this ▸ lookup_insert _, same⟩
    · exact ⟨stored, (lookup_insert_ne this).trans found, rfl⟩
  main := fun _ => rfl

end KeepsBindings

/-- A new device gets an address that no device has. -/
theorem OwnIp.place {first : Text} (own : db.OwnIp first) (deviceId : Text) :
    (db.place deviceId).1.OwnIp first := by
  rw [Database.place]
  split
  · exact own
  split
  · exact own
  rename_i ip found
  intro second firstDevice secondDevice here there same
  by_cases isFirst : first = deviceId
  · by_cases isSecond : second = deviceId
    · exact isFirst.trans isSecond.symm
    rw [isFirst, lookup_insert] at here
    rw [lookup_insert_ne isSecond] at there
    cases here
    exact absurd same.symm (getNextIp_unused found there)
  · by_cases isSecond : second = deviceId
    · rw [lookup_insert_ne isFirst] at here
      rw [isSecond, lookup_insert] at there
      cases there
      exact absurd same (getNextIp_unused found here)
    · rw [lookup_insert_ne isFirst] at here
      rw [lookup_insert_ne isSecond] at there
      exact own second firstDevice secondDevice here there same

/-- A new device leaves all addresses apart. -/
theorem UniqueIps.place (unique : db.UniqueIps) (deviceId : Text) :
    (db.place deviceId).1.UniqueIps :=
  fun first => OwnIp.place (unique first) deviceId

end Database

end Csqtt.Control
