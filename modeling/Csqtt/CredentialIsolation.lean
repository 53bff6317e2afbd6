import Csqtt.Confinement
import Csqtt.Runs
import Csqtt.WireRoundTrip

/-!
# Credentials and other people's devices

A client names the device it speaks for, and everything a request does is keyed by that
name: the binding, the address, the sessions that are dropped. What keeps clients apart
is that a password is bound to the first device it is used for.

So a client whose password is not bound to a device can do nothing to it, as long as the
client does not name the device while its password is free. It drops none of the sessions
of the device and is not bound to it, whatever requests it and all others send. It gets no
address of the device either, unless another device has the same one. A request may also
make the server pass the credentials on, and then the shards drop the sessions of passwords
that have expired; sessions of passwords in use stay.

A client that names a device while its password is free takes the device, also one that
another password is bound to.
-/

namespace Csqtt.Control

open ControlText Routes Engine List Runs Option Database

/-- A request on a session, and the circumstances in which it is handled. -/
structure Arrival where
  ambient : Ambient
  sessionId : Nat
  text : Text

/-- Handle a request, if its session is in the table. -/
def App.serve (app : App) (arrival : Arrival) : App × Unit :=
  match app.listed arrival.sessionId with
  | none => (app, ())
  | some session =>
    (app.handleGetconf arrival.ambient arrival.sessionId session.password arrival.text, ())

/-- A password that is in use. -/
def Database.Active (db : Database) (now : Int) (password : Text) : Prop :=
  db.mainPassword ≠ [] ∧ password = db.mainPassword ∨
    ∃ entry, db.passwords.lookup password = some entry ∧ entry.isDeactivated = false ∧
      isExpired now entry = false

/-- A password that is not bound to a device. -/
def Database.NotBound (db : Database) (password deviceId : Text) : Prop :=
  ∀ entry, db.passwords.lookup password = some entry → entry.deviceId ≠ deviceId

/-- A request with a password does not name a device while the password is free. -/
def Avoids (password deviceId : Text) (app : App) (arrival : Arrival) : Prop :=
  ∀ session, app.listed arrival.sessionId = some session → session.password = password →
    ∀ entry, app.db.passwords.lookup password = some entry → entry.deviceId = [] →
      ∀ request, readGetconf password arrival.text = .ok request → request.epoch.deviceId ≠ deviceId

/-- A command for a session that does nothing to a device. It drops no session of the device, and
it does not name the device's address unless another device shares it. New credentials include all
passwords in use. -/
def Spares (app : App) (now : Int) (deviceId : Text) (own : Nat) : ProtocolCommand → Prop
  | .sendPlain sessionId payload => sessionId = own ∧ ∃ answer : Answer, payload = answer.text ∧
    (app.db.OwnIp deviceId →
      ∀ device, app.db.devices.lookup deviceId = some device → answer.ip ≠ some device.ip)
  | .activateTunnel sessionId ip _ _ _ => sessionId = own ∧ (app.db.OwnIp deviceId →
    ∀ device, app.db.devices.lookup deviceId = some device → parseIpv4 device.ip ≠ some ip)
  | .dropSession sessionId => sessionId = own ∨
    ∀ session, app.records.lookup sessionId = some session → session.epoch.deviceId ≠ deviceId
  | .updateEpoch sessionId epoch => sessionId = own ∧ epoch.deviceId ≠ deviceId
  | .setDataFrames sessionId _ => sessionId = own
  | .setAuthoritativeEpoch epoch => epoch.deviceId ≠ deviceId
  | .replaceCredentials credentials => ∀ password, app.db.Active now password →
    ∃ credential ∈ credentials, credential.password = password
  | _ => False

/-- A request on a session did nothing to a device. -/
structure Spared (now : Int) (password deviceId : Text) (own : Nat) (before after : App) : Prop where
  commands : ∃ queued, after.commands = before.commands ++ queued ∧
    ∀ command ∈ queued, Spares before now deviceId own command
  sessions : ∀ sessionId ∈ before.sessions, sessionId ≠ own →
    (before.records.lookup sessionId).any (fun session => session.epoch.deviceId == deviceId) →
    sessionId ∈ after.sessions
  records : ∀ sessionId, sessionId ≠ own →
    after.records.lookup sessionId = before.records.lookup sessionId
  device : after.db.devices.lookup deviceId = before.db.devices.lookup deviceId
  binding : after.db.NotBound password deviceId

/-- What is assumed of the database. -/
structure Database.Guards (db : Database) (password deviceId : Text) : Prop where
  notMain : password ≠ db.mainPassword
  notBound : db.NotBound password deviceId

variable {deviceId password : Text}

namespace Database

variable {db : Database}

theorem buildCredentials_active {ambient : Ambient} (active : db.Active ambient.now password) :
    ∃ credential ∈ db.buildCredentials ambient, credential.password = password := by
  refine ⟨⟨password, ambient.ciphers password⟩, mem_map.mpr ⟨password, ?_, rfl⟩, rfl⟩
  rw [mem_append]
  cases active with
  | inl main =>
    rw [if_neg main.1]
    exact .inl (mem_singleton.mpr main.2)
  | inr known =>
    obtain ⟨entry, here, working, unexpired⟩ := known
    refine .inr (mem_map.mpr ⟨⟨password, entry⟩, ?_, rfl⟩)
    rw [mem_filter, working, unexpired]
    exact ⟨AList.mem_lookup_iff.mp here, rfl⟩

/-- A password that is not bound to a device gets no access to it, unless the password is free. -/
theorem Guards.access (guards : db.Guards password deviceId) {now : Int} {requested : Text}
    {access : CredentialAccess}
    (free : ∀ entry, db.passwords.lookup password = some entry → entry.deviceId = [] →
      requested ≠ deviceId)
    (granted : getconfCredentialAccess now db password requested = .ok access) :
    requested ≠ deviceId := by
  obtain ⟨-, main⟩ | ⟨entry, here, ⟨-, unbound⟩ | ⟨-, own⟩⟩ := of_access granted
  · exact absurd main guards.notMain
  · exact free entry here unbound
  · exact own ▸ guards.notBound entry here

/-- Binding leaves the passwords in use as they are. -/
theorem Active.bind {now : Int} (active : db.Active now password) (access : CredentialAccess)
    (other requested : Text) : (db.bind access other requested).1.Active now password := by
  obtain main | ⟨entry, here, working, unexpired⟩ := active
  · rw [Active, bind_mainPassword]
    exact .inl main
  · obtain ⟨bound, there, -⟩ := bind_lookup_some access other requested here
    exact .inr ⟨_, there, working, unexpired⟩

section

variable (dns : Text) (request : Getconf) (access : CredentialAccess)

include dns request access

theorem configure_eq : (db.configure dns request access).1 =
      ((db.bind access request.password request.epoch.deviceId).1.place request.epoch.deviceId).1 :=
  rfl

theorem configure_tunnelIp : (db.configure dns request access).2.tunnelIp =
      ((db.configure dns request access).1.devices.lookup request.epoch.deviceId).bind fun device =>
        parseIpv4 device.ip :=
  rfl

theorem configure_answer : (db.configure dns request access).2.answer = tunnelAnswer dns request
      ((db.configure dns request access).1.devices.lookup request.epoch.deviceId) :=
  rfl

end

/-- A granted request leaves the password unbound to the device, if it names another device or comes
with another password. -/
theorem Guards.configure (guards : db.Guards password deviceId) (dns : Text) {request : Getconf}
    (access : CredentialAccess)
    (apart : request.password = password → request.epoch.deviceId ≠ deviceId) :
    (db.configure dns request access).1.Guards password deviceId := by
  rw [configure_eq]
  constructor
  · rw [place_mainPassword, bind_mainPassword]
    exact guards.notMain
  · intro entry here
    rw [place_passwords] at here
    cases before : db.passwords.lookup password with
    | none =>
      rw [bind_lookup_none before] at here
      cases here
    | some stored =>
      obtain ⟨bound, there, which⟩ := bind_lookup_some access request.password
        request.epoch.deviceId before
      rw [there] at here
      cases here
      obtain rfl | ⟨isOwn, -, rfl⟩ := which
      · exact guards.notBound stored before
      · exact apart isOwn.symm

/-- A granted request leaves the address of a device to it. -/
theorem OwnIp.configure (own : db.OwnIp deviceId) (dns : Text) (request : Getconf)
    (access : CredentialAccess) : (db.configure dns request access).1.OwnIp deviceId := by
  rw [configure_eq]
  apply OwnIp.place
  rw [OwnIp, bind_devices]
  exact own

end Database

/-- Whatever is asked for changes the database only as a granted request does. -/
theorem App.serve_db (app : App) (arrival : Arrival) :
    (app.serve arrival).1.db = app.db ∨ ∃ session request access,
      app.listed arrival.sessionId = some session ∧
        Granted app.db arrival.ambient.now session.password arrival.text request access ∧
        (app.serve arrival).1.db = (app.db.configure app.dns request access).1 := by
  rw [App.serve]
  split
  · exact .inl rfl
  rename_i session listed
  have anything : ∀ request access, Granted app.db arrival.ambient.now session.password arrival.text
      request access → Limits.Grants ⟨arrival.sessionId, fun _ => True, fun _ => True, fun _ => True⟩
        app arrival.ambient request (app.db.configure app.dns request access) := by
    intro request access _
    constructor <;> simp
  obtain ⟨db, outcome, confined⟩ := App.handleGetconf_confined ⟨by simp, by simp⟩ session.password
    arrival.text anything
  have final : _ = db := confined.db
  rw [final]
  obtain same | ⟨request, access, granted, same⟩ := outcome
  · exact .inl same
  · exact .inr ⟨session, request, access, listed, granted, same⟩

/-- A granted request with the password names another device. -/
theorem Avoids.apart {app : App} {arrival : Arrival} (avoids : Avoids password deviceId app arrival)
    (guards : app.db.Guards password deviceId) {session : Session} {request : Getconf}
    {access : CredentialAccess} (listed : app.listed arrival.sessionId = some session)
    (granted : Granted app.db arrival.ambient.now session.password arrival.text request access)
    (held : session.password = password) : request.epoch.deviceId ≠ deviceId := by
  subst held
  have allowed := granted.access
  rw [readGetconf_password granted.read] at allowed
  exact guards.access (fun entry here free => avoids session listed rfl entry here free request
    granted.read) allowed

theorem App.serve_guards {app : App} {arrival : Arrival} (guards : app.db.Guards password deviceId)
    (avoids : Avoids password deviceId app arrival) :
    (app.serve arrival).1.db.Guards password deviceId := by
  obtain same | ⟨session, request, access, listed, granted, same⟩ := app.serve_db arrival
  · exact same ▸ guards
  · rw [same]
    refine guards.configure app.dns access ?_
    intro own
    exact avoids.apart guards listed granted ((readGetconf_password granted.read).symm.trans own)

theorem App.serve_ownIp {app : App} (own : app.db.OwnIp deviceId) (arrival : Arrival) :
    (app.serve arrival).1.db.OwnIp deviceId := by
  obtain same | ⟨session, request, access, -, -, same⟩ := app.serve_db arrival
  · exact same ▸ own
  · rw [same]
    exact own.configure app.dns request access

section Isolation

variable {app : App} {ambient : Ambient} {own : Nat}

/-- The limits of a client whose password is not bound to a device. -/
def isolation (app : App) (now : Int) (deviceId : Text) (own : Nat) : Limits where
  own := own
  may := Spares app now deviceId own
  gone sessionId := sessionId = own ∨
    ∀ session, app.records.lookup sessionId = some session → session.epoch.deviceId ≠ deviceId
  worker _ := True

theorem isolation_refuses : (isolation app ambient.now deviceId own).Refuses where
  answer denial := ⟨rfl, .denied denial, rfl, fun _ _ _ => nofun⟩
  drop := ⟨.inl rfl, .inl rfl⟩

/-- A request for another device does not find the address of this one. -/
theorem Database.OwnIp.configured_ip {db : Database} (own : db.OwnIp deviceId) {dns : Text}
    {request : Getconf} {access : CredentialAccess} {device other : ClientDevice}
    (different : request.epoch.deviceId ≠ deviceId)
    (here : db.devices.lookup deviceId = some device)
    (there : (db.configure dns request access).1.devices.lookup request.epoch.deviceId =
      some other) : other.ip ≠ device.ip := by
  have kept : (db.configure dns request access).1.devices.lookup deviceId = some device := by
    rw [configure_eq, place_lookup_ne different.symm, bind_devices]
    exact here
  intro same
  exact different (own.configure dns request access _ _ _ kept there same.symm).symm

/-- A granted request for another device stays within these limits. -/
theorem isolation_grants {request : Getconf} {access : CredentialAccess}
    (different : request.epoch.deviceId ≠ deviceId) :
    (isolation app ambient.now deviceId own).Grants app ambient request
      (app.db.configure app.dns request access) := by
  constructor
  · trivial
  · exact ⟨rfl, different⟩
  · exact rfl
  · exact different
  · intro ip found registrationId
    refine ⟨rfl, ?_⟩
    intro alone device here same
    rw [mem_def, configure_tunnelIp, bind_eq_some_iff] at found
    obtain ⟨other, there, parsed⟩ := found
    have sameIp := (ipText_of_parseIpv4 parsed).symm.trans (ipText_of_parseIpv4 same)
    exact alone.configured_ip different here there sameIp
  · refine ⟨rfl, _, rfl, ?_⟩
    intro alone device here
    rw [configure_answer]
    cases there : (app.db.configure app.dns request access).1.devices.lookup
        request.epoch.deviceId with
    | none => nofun
    | some other =>
      intro same
      exact alone.configured_ip different here there (Option.some.inj same)
  · intro _ other active
    apply buildCredentials_active
    rw [configure_eq, Database.Active, place_mainPassword, place_passwords]
    exact active.bind access request.password request.epoch.deviceId
  · intro sessionId _ _ sameDevice
    obtain ⟨session, here, requested⟩ := (any_eq_true _ _).mp sameDevice
    have foreign : ∀ stored, app.records.lookup sessionId = some stored →
        stored.epoch.deviceId ≠ deviceId := by
      intro stored found
      rw [here] at found
      cases found
      rw [beq_iff_eq.mp requested]
      exact different
    exact ⟨.inr foreign, .inr foreign⟩

/-- One request of a client whose granted requests are for other devices. -/
theorem handleGetconf_spared (guards : app.db.Guards password deviceId) (text : Text)
    (apart : ∀ request access, Granted app.db ambient.now password text request access →
      request.epoch.deviceId ≠ deviceId) :
    Spared ambient.now password deviceId own app (app.handleGetconf ambient own password text) := by
  have refuses : (isolation app ambient.now deviceId own).Refuses := isolation_refuses
  obtain ⟨db, outcome, confined⟩ := App.handleGetconf_confined refuses password text
    fun request access granted => isolation_grants (apart request access granted)
  have final : (app.handleGetconf ambient own password text).db = db := confined.db
  constructor
  · exact confined.commands
  · intro sessionId member other sameDevice
    cases confined.sessions sessionId member with
    | inl still => exact still
    | inr dropped =>
      obtain ⟨session, here, named⟩ := (any_eq_true _ _).mp sameDevice
      cases dropped.1 with
      | inl own => exact absurd own other
      | inr foreign => exact absurd (beq_iff_eq.mp named) (foreign session here)
  · exact confined.others
  · rw [final]
    obtain same | ⟨request, access, granted, same⟩ := outcome
    · rw [same]
    · rw [same, configure_eq, place_lookup_ne (apart request access granted).symm, bind_devices]
  · rw [final]
    obtain same | ⟨request, access, granted, same⟩ := outcome
    · rw [same]
      exact guards.notBound
    · rw [same]
      exact (guards.configure app.dns access fun _ => apart request access granted).notBound

end Isolation

/-- A client whose only password is not bound to a device, and who never names the device while the
password is free, does nothing to the device, whatever requests were handled before. If no other device
has the address of the device at the start, none has it later. -/
theorem credentials_are_isolated (app : App) (password deviceId : Text)
    (notMain : password ≠ app.db.mainPassword) (notBound : app.db.NotBound password deviceId)
    (earlier : List Arrival) (arrival : Arrival)
    (avoids : Along App.serve (Avoids password deviceId) app (earlier ++ [arrival]))
    (session : Session)
    (listed : (final App.serve app earlier).listed arrival.sessionId = some session)
    (held : session.password = password) :
    Spared arrival.ambient.now password deviceId arrival.sessionId (final App.serve app earlier)
        ((final App.serve app earlier).serve arrival).1 ∧
      (app.db.OwnIp deviceId → (final App.serve app earlier).db.OwnIp deviceId) := by
  obtain ⟨before, now, -⟩ := (along_append _ _ _ _ _).mp avoids
  have guards : (final App.serve app earlier).db.Guards password deviceId := by
    apply throughout_final App.serve (fun app => app.db.Guards password deviceId)
    refine throughout_of_along App.serve (fun app => app.db.Guards password deviceId) _ _ ?_
      (fun _ guards => guards) app earlier ⟨notMain, notBound⟩ before
    intro state input guards avoids
    exact App.serve_guards guards avoids
  constructor
  · subst held
    rw [App.serve, listed]
    exact handleGetconf_spared guards arrival.text fun request access granted =>
      now.apart guards listed granted rfl
  · intro alone
    apply throughout_final App.serve (fun app => app.db.OwnIp deviceId)
    apply throughout_of_step App.serve _ (fun _ => True)
    · intro state input own _
      exact App.serve_ownIp own input
    · exact alone
    · exact fun _ _ => trivial

/-! ## Two clients -/

/-- A quiet server: every command finds room and nothing is stale. -/
def quiet : Ambient where
  now := 100
  locked := true
  room _ := true
  stale _ := false
  ciphers _ := WireRoundTrip.plainCiphers

/-- The request `9000|d|p|7||1|1|CSQTT-WIRE-3` for a device `d` with a password `p`. -/
def getconfText (deviceId password : Text) : Text :=
  getconfPrefix ++ [0x39, 0x30, 0x30, 0x30, 0x7c] ++ deviceId ++ 0x7c :: password ++
    [0x7c, 0x37, 0x7c, 0x7c, 0x31, 0x7c, 0x31, 0x7c] ++ wireProtocolRevision

/-- The password `p` is bound to `home`, and `q` to the device `D`, which has an
address. Each of them has a session that has opened for `D`. -/
def tenants (home : Text) (expiresAt : Int) : App where
  db := {
    mainPassword := [0x6d]
    mainDeviceId := []
    mainUpBytes := 0
    mainDownBytes := 0
    passwords := ((∅ : Table Text PasswordEntry).insert [0x70] ⟨home, 0, 0, 0, false⟩).insert [0x71]
      ⟨[0x44], expiresAt, 0, 0, false⟩
    devices := (place ⟨[], [], 0, 0, ∅, ∅⟩ [0x44]).1.devices }
  dns := []
  records := ((∅ : Table Nat Session).insert 1 (.opened 1 [0x70] ⟨[0x44], 7, []⟩)).insert 2
    (.opened 2 [0x71] ⟨[0x44], 6, []⟩)
  sessions := [1, 2]
  epochs := ∅
  nextRegistration := 1
  commands := []

/-- The client with the password `p` asks for a device. -/
def request (deviceId : Text) : Arrival := ⟨quiet, 1, getconfText deviceId [0x70]⟩

/-- The only device of the tenants shares no address. -/
theorem tenants_unique (home : Text) (expiresAt : Int) : (tenants home expiresAt).db.UniqueIps := by
  have empty : Database.UniqueIps ⟨[], [], 0, 0, ∅, ∅⟩ := by
    intro first second firstDevice secondDevice here
    cases here
  exact empty.place [0x44]

/-- The free password asks for the device `E` and is bound to it. Then it asks for `D`, which is none
the worse for it and keeps its address to itself. -/
theorem request_for_foreign_device_spared :
    Spared 100 [0x70] [0x44] 1 ((tenants [] 0).serve (request [0x45])).1
        (((tenants [] 0).serve (request [0x45])).1.serve (request [0x44])).1 ∧
      ((tenants [] 0).serve (request [0x45])).1.db.OwnIp [0x44] := by
  have free : (tenants [] 0).db.passwords.lookup [0x70] = some ⟨[], 0, 0, 0, false⟩ := by
    decide +kernel
  have bound : ((tenants [] 0).serve (request [0x45])).1.db.passwords.lookup [0x70] =
      some ⟨[0x45], 0, 0, 0, false⟩ := by decide +kernel
  have named : readGetconf [0x70] (request [0x45]).text =
      .ok ⟨[0x39, 0x30, 0x30, 0x30], ⟨[0x45], 7, []⟩, [0x70], 1, 1, true⟩ := by decide +kernel
  have notBound : (tenants [] 0).db.NotBound [0x70] [0x44] := by
    intro entry here
    rw [free] at here
    cases here
    decide
  have first : Avoids [0x70] [0x44] (tenants [] 0) (request [0x45]) := by
    intro _ _ _ _ _ _ request read
    rw [named] at read
    cases read
    decide
  have second : Avoids [0x70] [0x44] ((tenants [] 0).serve (request [0x45])).1 (request [0x44]) := by
    intro _ _ _ entry here unbound
    rw [bound] at here
    cases here
    cases unbound
  obtain ⟨spared, alone⟩ := credentials_are_isolated (tenants [] 0) [0x70] [0x44] (by decide)
    notBound [request [0x45]] (request [0x44]) ⟨first, second, trivial⟩
    { Session.opened 1 [0x70] ⟨[0x45], 7, []⟩ with
      workerId := 1, desiredStreamCount := 1, tunnelIp := some ⟨10, 66, 67, 3⟩, hasTunnel := true }
    (by decide +kernel) rfl
  exact ⟨spared, alone (tenants_unique [] 0 [0x44])⟩

/-- The devices `D` and `E` share an address. -/
def roommates : App :=
  { tenants [0x45] 0 with
    db := { (tenants [0x45] 0).db with
      devices := (tenants [0x45] 0).db.devices.insert [0x45]
        ⟨[0x45], ipText ⟨10, 66, 67, 2⟩, 0, 0⟩ } }

/-- Whether a session was sent a text. -/
def App.sent (app : App) (sessionId : Nat) (payload : Text) : Bool :=
  app.commands.any fun command =>
    match command with
    | .sendPlain receiver text => receiver == sessionId && text == payload
    | _ => false

/-- Whether the shards were given credentials without a password. -/
def App.withdrawn (app : App) (password : Text) : Bool :=
  app.commands.any fun command =>
    match command with
    | .replaceCredentials credentials =>
      !credentials.any fun credential => credential.password == password
    | _ => false

/-- Three ways to reach another device. A password that names the device `D` while it is free takes
`D` from the password `q`: it gets the address, becomes bound, and the session is dropped.
A password bound to `E` gets the address of `D` if `E` has the same one in the database.
And a request that enters `E` in the database withdraws the expired password `q`, with
the session of `D`. -/
theorem unbound_password_takes_device : (((tenants [] 0).serve (request [0x44])).1.sent 1
        (Answer.text (.tunnel (ipText ⟨10, 66, 67, 2⟩) [] [0x39, 0x30, 0x30, 0x30] true)) ∧
      (((tenants [] 0).serve (request [0x44])).1.db.passwords.lookup [0x70]).map
        PasswordEntry.deviceId = some [0x44] ∧
      2 ∈ (tenants [] 0).sessions ∧ 2 ∉ ((tenants [] 0).serve (request [0x44])).1.sessions) ∧
    (roommates.serve (request [0x45])).1.sent 1
      (Answer.text (.tunnel (ipText ⟨10, 66, 67, 2⟩) [] [0x39, 0x30, 0x30, 0x30] true)) ∧
    ((tenants [0x45] 50).serve (request [0x45])).1.withdrawn [0x71] := by
  decide +kernel

end Csqtt.Control
