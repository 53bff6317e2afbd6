import Csqtt.Engine
import Csqtt.Getconf

/-!
# The control plane

The control task keeps the public records of all sessions and answers the requests that
come in on them. It reaches the shards by commands only, through a bounded queue: a
command that finds no room is lost, and whether the caller goes on then differs from
caller to caller.

Handlers run concurrently. A handler is a `Task` that is taken stage by stage, and each
stage is one access to the database under its lock, or one action after it. The state of
all handlers and of everything they share is `Plane`, and a run of it is a list of
occurrences in the order in which they take effect. What the engine may do to a record
and what the panel may do to the database are occurrences of their own.

A record lives as long as a handler or the engine knows it, so `records` has all of them
and `sessions` the ids of those in the table that handlers look into. Left out: the log,
the statistics, the database file and the lock that keeps handlers for one device apart,
so that the runs here include all of those with the lock. When a session counts as stale
is left open; so is which password a new client gets.
-/

namespace Csqtt.Control

open ControlText Routes Engine RtpWire Denial

/-- The generation and the salt that are current for a device. -/
structure DeviceEpochState where
  generationId : UInt64
  sessionSalt : Text
deriving DecidableEq, Repr

inductive DeviceEpochDecision
  | current
  | replaced
deriving DecidableEq, Repr

/-- Any other generation or salt replaces the current one. -/
def DeviceEpochState.admit (state : DeviceEpochState) (generationId : UInt64) (sessionSalt : Text) :
    DeviceEpochState × DeviceEpochDecision :=
  if generationId ≠ state.generationId ∨ sessionSalt ≠ state.sessionSalt then
    (⟨generationId, sessionSalt⟩, .replaced)
  else (state, .current)

def publicSessionLimit : Nat := maxActiveSessions + 256

/-- What the control tasks share. -/
structure App where
  db : Database
  dns : Text
  records : Table Nat Session
  sessions : List Nat
  epochs : Table Text DeviceEpochState
  nextRegistration : UInt64
  commands : List ProtocolCommand

/-- What a stage reads elsewhere: the time, whether it gets the lock of the database
within the time limit, whether the queue has room for a command, which records are
stale, and the ciphers that are derived from a password. -/
structure Ambient where
  now : Int
  locked : Bool
  room : ProtocolCommand → Bool
  stale : Session → Bool
  ciphers : Text → Ciphers

namespace Database

/-- Add the bytes of a session to the counters of its password and its device. -/
def credit (db : Database) (session : Session) : Database :=
  match db.passwords.lookup session.password with
  | some entry =>
    { db with
      passwords := db.passwords.insert session.password { entry with
        upBytes := addBytes entry.upBytes session.upBytes
        downBytes := addBytes entry.downBytes session.downBytes } }.creditDevice entry.deviceId
      session.upBytes session.downBytes
  | none =>
    if session.password = db.mainPassword then
      let db := { db with
        mainUpBytes := addBytes db.mainUpBytes session.upBytes
        mainDownBytes := addBytes db.mainDownBytes session.downBytes }
      if session.epoch.deviceId = [] then db
      else db.creditDevice session.epoch.deviceId session.upBytes session.downBytes
    else db

/-- The credentials of all passwords that may be used. -/
def buildCredentials (db : Database) (ambient : Ambient) : List Credential :=
  let passwords := (if db.mainPassword = [] then [] else [db.mainPassword]) ++
    (db.passwords.entries.filter fun entry =>
      !entry.2.isDeactivated && !isExpired ambient.now entry.2).map Sigma.fst
  passwords.map fun password => ⟨password, ambient.ciphers password⟩

end Database

/-! ## Commands and records -/

namespace App

variable (app : App) (ambient : Ambient)

/-- Queue a command. The answer is whether there was room. -/
def command (command : ProtocolCommand) : App × Bool :=
  if ambient.room command then ({ app with commands := app.commands ++ [command] }, true)
  else (app, false)

/-- Change a record. -/
def amend (sessionId : Nat) (change : Session → Session) : App :=
  match app.records.lookup sessionId with
  | none => app
  | some session => { app with records := app.records.insert sessionId (change session) }

/-- The record of a session that is in the table. -/
def listed (sessionId : Nat) : Option Session :=
  if sessionId ∈ app.sessions then app.records.lookup sessionId else none

/-- Take a session out of the table. -/
def unlist (sessionId : Nat) : App :=
  { app with sessions := app.sessions.filter fun other => other != sessionId }

/-- Ask the shards to drop a session, and take it out of the table whether or not the
command found room. -/
def dropExactSession (sessionId : Nat) : App :=
  (app.command ambient (.dropSession sessionId)).1.unlist sessionId

/-- Drop all sessions in the table whose record has a property. -/
def dropWhere (test : Session → Bool) : App :=
  (app.sessions.filter fun sessionId => (app.records.lookup sessionId).any test).foldl
    (fun app sessionId => app.dropExactSession ambient sessionId) app

/-- Drop the other sessions of a device with another epoch. -/
def purgeStaleDeviceSessions (epoch : Epoch) (currentSessionId : Nat) : App :=
  app.dropWhere ambient fun session => session.id != currentSessionId &&
    (session.epoch.deviceId == epoch.deviceId && decide (session.epoch ≠ epoch))

/-- Drop the other sessions of a device with the same epoch and worker. -/
def purgeReplacedWorkerSessions (epoch : Epoch) (workerId : UInt64) (currentSessionId : Nat) : App :=
  app.dropWhere ambient fun session => session.id != currentSessionId &&
    (session.workerId == workerId && decide (session.epoch = epoch))

/-- Drop stale sessions. -/
def prunePublicSessions : App := app.dropWhere ambient ambient.stale

/-- Ask the shards to drop the sessions of a password, and take them out of the table. -/
def dropPasswordSessions (password : Text) : App :=
  let app := (app.command ambient (.dropPassword password)).1
  { app with
    sessions := app.sessions.filter fun sessionId =>
      !(app.records.lookup sessionId).any fun session => session.password == password }

/-- A session was created: enter it in the table, if the table is not full. -/
def onSessionCreated (sessionId : Nat) : App :=
  let app := (app.prunePublicSessions ambient).unlist sessionId
  if app.sessions.length < publicSessionLimit then { app with sessions := sessionId :: app.sessions }
  else app

/-- What the engine writes to a record. -/
def onRecordWrite (sessionId : Nat) : RecordWrite → App
  | .opened password epoch =>
    match app.records.lookup sessionId with
    | none =>
      { app with records := app.records.insert sessionId (Session.opened sessionId password epoch) }
    | some _ => app
  | .epoch epoch => app.amend sessionId fun session => { session with epoch := epoch }
  | .activated ip desiredCount =>
    app.amend sessionId fun session => { session with
      tunnelIp := some ip
      desiredStreamCount := desiredCount.toUInt64
      hasTunnel := true }
  | .tunnel isOpen => app.amend sessionId fun session => { session with hasTunnel := isOpen }
  | .counters up down =>
    app.amend sessionId fun session => { session with
      upBytes := (session.upBytes + up) % 2 ^ 64
      downBytes := (session.downBytes + down) % 2 ^ 64 }

/-- Pass the credentials on to the shards. -/
def refreshCredentials : App :=
  if ambient.locked then
    (app.command ambient (.replaceCredentials (app.db.buildCredentials ambient))).1
  else app

/-- Move the bytes of one session from its record to the database. -/
def flushSession (sessionId : Nat) : App :=
  match app.records.lookup sessionId with
  | none => app
  | some session =>
    let app := { app with
      records := app.records.insert sessionId { session with upBytes := 0, downBytes := 0 } }
    if session.upBytes = 0 ∧ session.downBytes = 0 then app
    else { app with db := app.db.credit session }

/-- Move the bytes of all sessions in the table to the database. -/
def flushTraffic : App :=
  if ambient.locked then app.sessions.foldl flushSession app else app

end App

/-! ## Answering a request -/

/-- What a handler does after it released the database. An action that fails ends the
handler. -/
inductive Action
  | send (command : ProtocolCommand)
  | forgetEpoch (deviceId : Text)
  | noteTunnel (ip : Ipv4)
  | activate (ip : Ipv4) (workerId desiredCount : UInt16)
  | dropRejected (epoch : Epoch)
  | refreshCredentials

/-- What the database said to a request. -/
structure Verdict where
  answer : Answer
  rejected : Bool
  tunnelIp : Option Ipv4
  changed : Bool

/-- The answer to a request that may use its credential. -/
def tunnelAnswer (dns : Text) (request : Getconf) : Option ClientDevice → Answer
  | none => .noConfiguration
  | some device => .tunnel device.ip dns request.clientPort request.dataFrames

/-- Bind the credential of a request, give its device an address, and answer. -/
def Database.configure (db : Database) (dns : Text) (request : Getconf)
    (access : CredentialAccess) : Database × Verdict :=
  let (db, bound) := db.bind access request.password request.epoch.deviceId
  let (db, placed) := db.place request.epoch.deviceId
  let device := db.devices.lookup request.epoch.deviceId
  (db, ⟨tunnelAnswer dns request device, false, device.bind fun device => parseIpv4 device.ip,
    bound || placed⟩)

/-- The actions that follow a verdict. -/
def Verdict.actions (verdict : Verdict) (sessionId : Nat) (request : Getconf)
    (createdEpoch : Bool) : List Action :=
  (if verdict.rejected && createdEpoch then [.forgetEpoch request.epoch.deviceId] else []) ++
  (if verdict.rejected then [] else
    [.send (.updateEpoch sessionId request.epoch),
      .send (.setDataFrames sessionId request.dataFrames),
      .send (.setAuthoritativeEpoch request.epoch)] ++
    verdict.tunnelIp.elim [] fun ip =>
      [.noteTunnel ip, .activate ip request.workerId request.desiredCount]) ++
  [.send (.sendPlain sessionId verdict.answer.text)] ++
  (if verdict.rejected then [.dropRejected request.epoch] else []) ++
  (if verdict.changed then [.refreshCredentials] else [])

/-- The actions after a denial that did not need the lock of the device. -/
def rejection (sessionId : Nat) (denial : Denial) (epoch : Epoch) : List Action :=
  [.send (.sendPlain sessionId denial.text), .dropRejected epoch]

namespace App

variable (app : App) (ambient : Ambient)

/-- Take the next number of a registration. -/
def fetchRegistration : App × UInt64 :=
  ({ app with nextRegistration := app.nextRegistration + 1 }, app.nextRegistration)

/-- Whether a session has the epoch of a rejected request, or none at all. -/
def rejectedSessionIsRequest (sessionId : Nat) (epoch : Epoch) : Bool :=
  (app.records.lookup sessionId).any fun session =>
    session.epoch.deviceId == [] || decide (session.epoch = epoch)

/-- Do one action for a session. The answer is whether the handler goes on. -/
def perform (sessionId : Nat) : Action → App × Bool
  | .send command => app.command ambient command
  | .forgetEpoch deviceId => ({ app with epochs := app.epochs.erase deviceId }, true)
  | .noteTunnel ip =>
    (app.amend sessionId fun session => { session with tunnelIp := some ip }, true)
  | .activate ip workerId desiredCount =>
    let (app, registrationId) := app.fetchRegistration
    (app.amend sessionId fun session => { session with hasTunnel := true }).command ambient
      (.activateTunnel sessionId ip registrationId workerId desiredCount)
  | .dropRejected epoch =>
    (if app.rejectedSessionIsRequest sessionId epoch then app.dropExactSession ambient sessionId
      else app, true)
  | .refreshCredentials => (app.refreshCredentials ambient, true)

/-- Do actions until one fails. -/
def performAll (sessionId : Nat) : App → List Action → App
  | app, [] => app
  | app, action :: rest =>
    match app.perform ambient sessionId action with
    | (app, true) => performAll sessionId app rest
    | (app, false) => app

/-- Find the epoch of a device, or start one. The answer is whether it is new. -/
def lockDeviceEpoch (deviceId : Text) : App × Bool :=
  match app.epochs.lookup deviceId with
  | some _ => (app, false)
  | none => ({ app with epochs := app.epochs.insert deviceId ⟨0, []⟩ }, true)

/-- Admit the epoch of a request. -/
def admitEpoch (epoch : Epoch) : App :=
  let state := (app.epochs.lookup epoch.deviceId).getD ⟨0, []⟩
  let admitted := DeviceEpochState.admit state epoch.generationId epoch.sessionSalt
  { app with epochs := app.epochs.insert epoch.deviceId admitted.1 }

/-- Make a session the one its request describes, and drop those that it replaces. -/
def establish (sessionId : Nat) (request : Getconf) : App :=
  let app := (app.admitEpoch request.epoch).amend sessionId fun session => { session with
    epoch := request.epoch
    workerId := request.workerId.toUInt64
    desiredStreamCount := request.desiredCount.toUInt64 }
  (app.purgeStaleDeviceSessions ambient request.epoch sessionId).purgeReplacedWorkerSessions ambient
    request.epoch request.workerId.toUInt64 sessionId

/-- Grant a request. -/
def grant (sessionId : Nat) (request : Getconf) (access : CredentialAccess) : App × Verdict :=
  let app := app.establish ambient sessionId request
  let (db, verdict) := app.db.configure app.dns request access
  ({ app with db := db }, verdict)

/-- Decide about a request under the lock of the database. -/
def decideGetconf (sessionId : Nat) (request : Getconf) : App × Verdict :=
  match getconfCredentialAccess ambient.now app.db request.password request.epoch.deviceId with
  | .error denial => (app, ⟨.denied denial, true, none, false⟩)
  | .ok access => app.grant ambient sessionId request access

end App

/-! ## Tasks -/

/-- Where a handler stands. A `GETCONF` is read, checked against the database, locked on
its device, decided and acted upon; a `DISCONNECT` is read, checked, and carried out. A
packet on a session without a tunnel looks for the session's address, activates the
tunnel and passes the packet on. -/
inductive Task
  | payload (sessionId : Nat) (bytes : List UInt8)
  | asked (sessionId : Nat) (request : Getconf)
  | admitted (sessionId : Nat) (request : Getconf)
  | locked (sessionId : Nat) (request : Getconf) (createdEpoch : Bool)
  | acting (sessionId : Nat) (actions : List Action)
  | leaving (sessionId : Nat) (deviceId salt : Text)
  | parting (sessionId : Nat) (deviceId salt : Text)
  | ingress (sessionId : Nat) (bytes : List UInt8)
  | resolving (sessionId : Nat) (deviceId : Text) (bytes : List UInt8)
  | opening (sessionId : Nat) (ip : Ipv4) (bytes : List UInt8)
  | opened (sessionId : Nat) (bytes : List UInt8)
  | injecting (sessionId : Nat) (bytes : List UInt8)
  | failed (sessionId : Nat)

/-- The number of a session's worker, if a request has set it. -/
def validWorker (workerId : UInt64) : Option UInt16 :=
  if workerId < 65536 then
    some workerId.toUInt16 |>.filter fun worker => decide (1 ≤ worker ∧ worker ≤ maxStreamWorkersU16)
  else none

/-- The number of a session's workers, or zero if it does not fit. -/
def validCount (workerId : UInt16) (desired : UInt64) : UInt16 :=
  if desired < 65536 ∧ 1 ≤ desired.toUInt16 ∧ desired.toUInt16 ≤ maxStreamWorkersU16 ∧
      workerId ≤ desired.toUInt16 then desired.toUInt16
  else 0

namespace App

variable (app : App) (ambient : Ambient)

/-- Answer and end. -/
def respond (sessionId : Nat) (answer : Text) : App × Option Task :=
  (app, some (.acting sessionId [.send (.sendPlain sessionId answer)]))

/-- Read a payload on a session in the table. -/
def readPayload (sessionId : Nat) (bytes : List UInt8) : App × Option Task :=
  match app.listed sessionId with
  | none => (app, none)
  | some session =>
    if getconfPrefix.isPrefixOf bytes then
      if !fromUtf8 bytes then (app, none)
      else
        match readGetconf session.password bytes with
        | .error denial => app.respond sessionId denial.text
        | .ok request => (app, some (.asked sessionId request))
    else if disconnectPrefix.isPrefixOf bytes then
      if !fromUtf8 bytes then (app, none)
      else
        let parts := splitn 0x7c 2 (trim (bytes.drop disconnectPrefix.length))
        let deviceId := field parts 0 []
        let salt := field parts 1 []
        if deviceId.isEmpty ∨ deviceId.length > 128 then
          app.respond sessionId (text .invalidDevice)
        else if salt.isEmpty ∨ salt.length > 128 then
          app.respond sessionId (text .invalidEpoch)
        else (app, some (.leaving sessionId deviceId salt))
    else (app, none)

/-- The check before the lock of the device is taken. -/
def checkGetconf (sessionId : Nat) (request : Getconf) : App × Option Task :=
  if !ambient.locked then (app, none)
  else
    match getconfCredentialAccess ambient.now app.db request.password request.epoch.deviceId with
    | .error denial => (app, some (.acting sessionId (rejection sessionId denial request.epoch)))
    | .ok _ => (app, some (.admitted sessionId request))

/-- The check before the lock of a device that is to be disconnected. -/
def checkDisconnect (sessionId : Nat) (deviceId salt : Text) : App × Option Task :=
  if ambient.locked && (app.records.lookup sessionId).any fun session =>
      deviceControlAuthorized ambient.now app.db session.password deviceId &&
        session.epoch.deviceId == deviceId && session.epoch.sessionSalt == salt then
    (app, some (.parting sessionId deviceId salt))
  else app.respond sessionId (text .notOwner)

/-- Whether a session may disconnect its device: it has to belong to the current epoch. -/
def disconnectRequestAuthorized (session : Session) (deviceId salt : Text)
    (epoch : DeviceEpochState) : Bool :=
  !salt.isEmpty && session.epoch.deviceId == deviceId && session.epoch.sessionSalt == salt &&
    (epoch.generationId == session.epoch.generationId && epoch.sessionSalt == salt) &&
    deviceControlAuthorized ambient.now app.db session.password deviceId

/-- Disconnect a device. The table is changed only if the command found room. -/
def handleDisconnect (sessionId : Nat) (deviceId salt : Text) : App × Option Task :=
  match app.records.lookup sessionId, app.epochs.lookup deviceId with
  | some session, some epoch =>
    if !ambient.locked then app.respond sessionId (text .serverBusy)
    else if !app.disconnectRequestAuthorized ambient session deviceId salt epoch then
      app.respond sessionId (text .notOwner)
    else
      match app.command ambient (.disconnectDevice deviceId sessionId) with
      | (app, false) => app.respond sessionId (text .serverBusy)
      | (app, true) =>
        ({ app with
          sessions := app.sessions.filter fun other =>
            !(app.records.lookup other).any fun session =>
              session.id == sessionId || session.epoch.deviceId == deviceId }, none)
  | _, _ => app.respond sessionId (text .notOwner)

/-- A packet on a session: does the session have a tunnel, or at least an address? -/
def findTunnel (sessionId : Nat) (bytes : List UInt8) : App × Option Task :=
  match app.listed sessionId with
  | none => (app, none)
  | some session =>
    if session.hasTunnel then (app, some (.injecting sessionId bytes))
    else
      match session.tunnelIp with
      | some ip => (app, some (.opening sessionId ip bytes))
      | none => (app, some (.resolving sessionId session.epoch.deviceId bytes))

/-- Look the address of a session up. -/
def resolveTunnel (sessionId : Nat) (deviceId : Text) (bytes : List UInt8) : App × Option Task :=
  match (if ambient.locked then app.records.lookup sessionId else none).bind fun session =>
      (resolveSessionIp app.db session.password deviceId).bind parseIpv4 with
  | none => (app, some (.failed sessionId))
  | some ip =>
    (app.amend sessionId fun session => { session with tunnelIp := some ip },
      some (.opening sessionId ip bytes))

/-- Activate the tunnel of a session whose worker is known. -/
def openTunnel (sessionId : Nat) (ip : Ipv4) (bytes : List UInt8) : App × Option Task :=
  let (app, registrationId) := app.fetchRegistration
  match app.records.lookup sessionId with
  | none => (app, some (.failed sessionId))
  | some session =>
    match validWorker session.workerId with
    | none => (app, some (.failed sessionId))
    | some workerId =>
      match app.command ambient (.activateTunnel sessionId ip registrationId workerId
          (validCount workerId session.desiredStreamCount)) with
      | (app, true) => (app, some (.opened sessionId bytes))
      | (app, false) => (app, some (.failed sessionId))

end App

/-- The next stage of a task. -/
def Task.run (app : App) (ambient : Ambient) : Task → App × Option Task
  | .payload sessionId bytes => app.readPayload sessionId bytes
  | .asked sessionId request => app.checkGetconf ambient sessionId request
  | .admitted sessionId request =>
    let (app, createdEpoch) := app.lockDeviceEpoch request.epoch.deviceId
    (app, some (.locked sessionId request createdEpoch))
  | .locked sessionId request createdEpoch =>
    if !ambient.locked then (app, none)
    else
      let (app, verdict) := app.decideGetconf ambient sessionId request
      (app, some (.acting sessionId (verdict.actions sessionId request createdEpoch)))
  | .acting _ [] => (app, none)
  | .acting sessionId (action :: rest) =>
    match app.perform ambient sessionId action with
    | (app, true) => (app, some (.acting sessionId rest))
    | (app, false) => (app, none)
  | .leaving sessionId deviceId salt => app.checkDisconnect ambient sessionId deviceId salt
  | .parting sessionId deviceId salt => app.handleDisconnect ambient sessionId deviceId salt
  | .ingress sessionId bytes => app.findTunnel sessionId bytes
  | .resolving sessionId deviceId bytes => app.resolveTunnel ambient sessionId deviceId bytes
  | .opening sessionId ip bytes => app.openTunnel ambient sessionId ip bytes
  | .opened sessionId bytes =>
    (app.amend sessionId fun session => { session with hasTunnel := true },
      some (.injecting sessionId bytes))
  | .injecting sessionId bytes => ((app.command ambient (.injectTun sessionId bytes)).1, none)
  | .failed sessionId => (app.dropExactSession ambient sessionId, none)

/-- A `GETCONF` from the first to the last stage, with nothing in between. -/
def App.handleGetconf (app : App) (ambient : Ambient) (sessionId : Nat) (sessionPassword : Text)
    (text : Text) : App :=
  match readGetconf sessionPassword text with
  | .error denial => (app.command ambient (.sendPlain sessionId denial.text)).1
  | .ok request =>
    if !ambient.locked then app
    else
      match getconfCredentialAccess ambient.now app.db request.password request.epoch.deviceId with
      | .error denial =>
        app.performAll ambient sessionId (rejection sessionId denial request.epoch)
      | .ok _ =>
        let (app, createdEpoch) := app.lockDeviceEpoch request.epoch.deviceId
        let (app, verdict) := app.decideGetconf ambient sessionId request
        app.performAll ambient sessionId (verdict.actions sessionId request createdEpoch)

/-! ## The panel -/

/-- What an administrator does to the passwords, and what time does to them. -/
inductive PanelOperation
  | create (password : Text) (expiresAt : Int)
  | update (password : Text) (expiresAt : Int)
  | toggle (password : Text)
  | unbind (password : Text)
  | delete (password : Text)
  | expire (password : Text)
  | setMain (password : Text)

def maxPasswords : Nat := 20

/-- Change an entry, if there is one. -/
def Database.amendPassword (db : Database) (password : Text)
    (change : PasswordEntry → PasswordEntry) : Database :=
  match db.passwords.lookup password with
  | none => db
  | some entry => { db with passwords := db.passwords.insert password (change entry) }

/-- The database after an operation. A new client gets a password that is not in use. -/
def Database.operate (db : Database) (now : Int) : PanelOperation → Database
  | .create password expiresAt =>
    let db := { db with passwords := db.passwords.retain fun _ entry => !isExpired now entry }
    if db.passwords.size ≥ maxPasswords ∨ (db.passwords.lookup password).isSome then db
    else { db with passwords := db.passwords.insert password ⟨[], expiresAt, 0, 0, false⟩ }
  | .update password expiresAt =>
    db.amendPassword password fun entry => { entry with expiresAt := expiresAt }
  | .toggle password =>
    db.amendPassword password fun entry => { entry with isDeactivated := !entry.isDeactivated }
  | .unbind password =>
    if password = db.mainPassword then { db with mainDeviceId := [] }
    else db.amendPassword password fun entry => { entry with deviceId := [] }
  | .delete password => { db with passwords := db.passwords.erase password }
  | .expire password =>
    if (db.passwords.lookup password).any (isExpired now) then
      { db with passwords := db.passwords.erase password }
    else db
  | .setMain password => { db with mainPassword := password }

/-! ## Runs -/

/-- All handlers, and what they share. -/
structure Plane where
  app : App
  tasks : List Task

/-- What happens next: the control loop takes an event, a handler does its next stage,
the engine writes to a record, the panel changes the database, or one of the chores that
are done now and then. -/
inductive Occurrence
  | created (sessionId : Nat) (ambient : Ambient)
  | closed (sessionId : Nat)
  | payload (sessionId : Nat) (bytes : List UInt8)
  | ingress (sessionId : Nat) (bytes : List UInt8)
  | stage (index : Nat) (ambient : Ambient)
  | wrote (sessionId : Nat) (write : RecordWrite)
  | panel (operation : PanelOperation) (ambient : Ambient)
  | dropPassword (password : Text) (ambient : Ambient)
  | refresh (ambient : Ambient)
  | prune (ambient : Ambient)
  | flush (ambient : Ambient)

namespace Plane

/-- The state before the first session. -/
def new (db : Database) (dns : Text) : Plane where
  app := ⟨db, dns, ∅, [], ∅, 1, []⟩
  tasks := []

/-- The handler at an index does its next stage. -/
def stage (plane : Plane) (index : Nat) (ambient : Ambient) : Plane :=
  match plane.tasks[index]? with
  | none => plane
  | some task =>
    match task.run plane.app ambient with
    | (app, some next) => ⟨app, plane.tasks.set index next⟩
    | (app, none) => ⟨app, plane.tasks.eraseIdx index⟩

/-- The next state. -/
def next (plane : Plane) : Occurrence → Plane
  | .created sessionId ambient =>
    { plane with app := plane.app.onSessionCreated ambient sessionId }
  | .closed sessionId => { plane with app := plane.app.unlist sessionId }
  | .payload sessionId bytes =>
    { plane with tasks := plane.tasks ++ [.payload sessionId bytes] }
  | .ingress sessionId bytes =>
    { plane with tasks := plane.tasks ++ [.ingress sessionId bytes] }
  | .stage index ambient => plane.stage index ambient
  | .wrote sessionId write => { plane with app := plane.app.onRecordWrite sessionId write }
  | .panel operation ambient =>
    { plane with
      app := { plane.app with db := plane.app.db.operate ambient.now operation } }
  | .dropPassword password ambient =>
    { plane with app := plane.app.dropPasswordSessions ambient password }
  | .refresh ambient => { plane with app := plane.app.refreshCredentials ambient }
  | .prune ambient => { plane with app := plane.app.prunePublicSessions ambient }
  | .flush ambient => { plane with app := plane.app.flushTraffic ambient }

end Plane

end Csqtt.Control
