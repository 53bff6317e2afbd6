import Csqtt.ControlPlane
import Csqtt.TableIndex

/-!
# What a handler can do

A handler works for one session. Whatever it does to the state it shares with the
others, it does by queueing commands, by taking sessions out of the table, and by
changing the record of its own session. `Confined` says so for given limits: which
commands it may queue, which sessions it may take out, and which number of a worker it
may give its session. A session that it takes out is one it has asked the shards to
drop, if there was room for that.

The module finds the limits of each operation of the control plane. What the handlers
are allowed to do is then a question about the limits of their actions.
-/

namespace Csqtt.Control

open ControlText Routes Engine List Option

/-- The session a handler works for, and what it may do. -/
structure Limits where
  own : Nat
  may : ProtocolCommand → Prop
  gone : Nat → Prop
  worker : UInt64 → Prop

/-- A later state of the record of a handler's session. -/
structure Session.Follows (limits : Limits) (new session : Session) : Prop where
  password : new.password = session.password := by rfl
  workerId : new.workerId = session.workerId ∨ limits.worker new.workerId := by exact .inl rfl

/-- One state comes from another within the limits. -/
structure Confined (limits : Limits) (ambient : Ambient) (before after : App) : Prop where
  db : after.db = before.db
  dns : after.dns = before.dns
  commands : ∃ queued, after.commands = before.commands ++ queued ∧ ∀ command ∈ queued, limits.may command
  fewer : after.sessions.Sublist before.sessions
  sessions : ∀ sessionId ∈ before.sessions, sessionId ∈ after.sessions ∨ limits.gone sessionId ∧
    (ambient.room (.dropSession sessionId) → .dropSession sessionId ∈ after.commands)
  others : ∀ sessionId, sessionId ≠ limits.own →
    after.records.lookup sessionId = before.records.lookup sessionId
  own : Option.Rel (Session.Follows limits) (after.records.lookup limits.own)
    (before.records.lookup limits.own)

/-- What may become of an action. -/
def Action.Within (limits : Limits) (credentials : List Credential) : Action → Prop
  | .send command => limits.may command
  | .forgetEpoch _ => True
  | .noteTunnel _ => True
  | .activate ip workerId desiredCount => ∀ registrationId,
    limits.may (.activateTunnel limits.own ip registrationId workerId desiredCount)
  | .dropRejected _ => limits.may (.dropSession limits.own) ∧ limits.gone limits.own
  | .refreshCredentials => limits.may (.replaceCredentials credentials)

variable {limits : Limits} {ambient : Ambient} {app : App}

namespace Session.Follows

variable {first second third : Session}

theorem trans (later : third.Follows limits second) (earlier : second.Follows limits first) :
    third.Follows limits first where
  password := later.password.trans earlier.password
  workerId := by
    cases later.workerId with
    | inl same =>
      rw [same]
      exact earlier.workerId
    | inr set => exact .inr set

end Session.Follows

namespace Confined

variable {first second third : App}

theorem own_refl (stored : Option Session) : Option.Rel (Session.Follows limits) stored stored := by
  cases stored with
  | none => exact .none
  | some session => exact .some {}

theorem refl (app : App) : Confined limits ambient app app where
  db := rfl
  dns := rfl
  commands := ⟨[], (append_nil _).symm, forall_mem_nil _⟩
  fewer := .refl _
  sessions _ member := .inl member
  others _ _ := rfl
  own := own_refl _

theorem trans (earlier : Confined limits ambient first second)
    (later : Confined limits ambient second third) : Confined limits ambient first third where
  db := later.db.trans earlier.db
  dns := later.dns.trans earlier.dns
  commands := by
    obtain ⟨queued, after, allowed⟩ := earlier.commands
    obtain ⟨more, final, moreAllowed⟩ := later.commands
    refine ⟨queued ++ more, ?_, forall_mem_append.mpr ⟨allowed, moreAllowed⟩⟩
    rw [final, after, append_assoc]
  fewer := later.fewer.trans earlier.fewer
  sessions := by
    intro sessionId member
    cases earlier.sessions sessionId member with
    | inl still => exact later.sessions sessionId still
    | inr dropped =>
      refine .inr ⟨dropped.1, ?_⟩
      intro room
      obtain ⟨more, final, _⟩ := later.commands
      rw [final]
      exact mem_append_left _ (dropped.2 room)
  others := by
    intro sessionId other
    rw [later.others sessionId other, earlier.others sessionId other]
  own := by
    have after := later.own
    have before := earlier.own
    revert after before
    generalize third.records.lookup limits.own = last
    generalize second.records.lookup limits.own = middle
    generalize first.records.lookup limits.own = start
    intro after before
    cases before with
    | none =>
      cases after
      exact .none
    | some follows =>
      cases after with
      | some further => exact .some (further.trans follows)

/-- The database is given to both. -/
theorem withDb (confined : Confined limits ambient first second) (db : Database) :
    Confined limits ambient { first with db := db } { second with db := db } :=
  { confined with db := rfl }

theorem foldl {α : Type} {call : App → α → App} {items : List α}
    (each : ∀ app, ∀ item ∈ items, Confined limits ambient app (call app item)) (app : App) :
    Confined limits ambient app (items.foldl call app) :=
  List.foldlRecOn (motive := Confined limits ambient app) items call (refl app)
    fun after confined item member => confined.trans (each after item member)

end Confined

namespace App

variable (app : App) (ambient : Ambient)

theorem counters_confined (epochs : Table Text DeviceEpochState) (nextRegistration : UInt64) :
    Confined limits ambient app
      { app with epochs := epochs, nextRegistration := nextRegistration } where
  db := rfl
  dns := rfl
  commands := ⟨[], (append_nil _).symm, forall_mem_nil _⟩
  fewer := .refl _
  sessions _ member := .inl member
  others _ _ := rfl
  own := Confined.own_refl _

theorem command_confined {command : ProtocolCommand} (may : limits.may command) :
    Confined limits ambient app (app.command ambient command).1 := by
  rw [App.command]
  split
  · constructor
    · rfl
    · rfl
    · exact ⟨[command], rfl, forall_mem_singleton.mpr may⟩
    · exact .refl _
    · exact fun sessionId member => .inl member
    · exact fun _ _ => rfl
    · exact Confined.own_refl _
  · exact .refl app

theorem amend_confined {change : Session → Session}
    (follows : ∀ session, (change session).Follows limits session) :
    Confined limits ambient app (app.amend limits.own change) := by
  rw [amend]
  split
  · exact .refl app
  rename_i session here
  constructor
  · rfl
  · rfl
  · exact ⟨[], (append_nil _).symm, forall_mem_nil _⟩
  · exact .refl _
  · exact fun sessionId member => .inl member
  · exact fun sessionId other => AList.lookup_insert_ne other
  · dsimp only
    rw [AList.lookup_insert, here]
    exact .some (follows session)

theorem dropExactSession_confined {sessionId : Nat} (may : limits.may (.dropSession sessionId))
    (gone : limits.gone sessionId) :
    Confined limits ambient app (app.dropExactSession ambient sessionId) := by
  have queued := app.command_confined ambient may
  apply queued.trans
  constructor
  · rfl
  · rfl
  · exact ⟨[], (append_nil _).symm, forall_mem_nil _⟩
  · exact filter_sublist
  · intro other member
    by_cases same : other = sessionId
    · refine .inr ⟨same ▸ gone, ?_⟩
      intro room
      rw [dropExactSession, unlist, App.command, if_pos (same ▸ room), same]
      exact mem_append_right _ mem_cons_self
    · exact .inl (mem_filter.mpr ⟨member, bne_iff_ne.mpr same⟩)
  · exact fun _ _ => rfl
  · exact Confined.own_refl _

theorem dropWhere_confined {test : Session → Bool}
    (each : ∀ sessionId ∈ app.sessions, (app.records.lookup sessionId).any test →
      limits.may (.dropSession sessionId) ∧ limits.gone sessionId) :
    Confined limits ambient app (app.dropWhere ambient test) := by
  apply Confined.foldl
  intro current sessionId member
  obtain ⟨here, passed⟩ := mem_filter.mp member
  obtain ⟨may, gone⟩ := each sessionId here passed
  exact current.dropExactSession_confined ambient may gone

theorem refreshCredentials_confined
    (may : limits.may (.replaceCredentials (app.db.buildCredentials ambient))) :
    Confined limits ambient app (app.refreshCredentials ambient) := by
  rw [refreshCredentials]
  split
  · exact app.command_confined ambient may
  · exact .refl app

theorem perform_confined {action : Action}
    (within : action.Within limits (app.db.buildCredentials ambient)) :
    Confined limits ambient app (app.perform ambient limits.own action).1 := by
  cases action with
  | send command => exact app.command_confined ambient within
  | forgetEpoch deviceId => exact app.counters_confined ambient _ _
  | noteTunnel ip => exact app.amend_confined ambient fun _ => {}
  | activate ip workerId desiredCount =>
    exact ((app.counters_confined ambient _ _).trans (amend_confined _ ambient fun _ => {})).trans
      (command_confined _ ambient (within _))
  | dropRejected epoch =>
    simp only [perform]
    split
    · exact app.dropExactSession_confined ambient within.1 within.2
    · exact .refl app
  | refreshCredentials => exact app.refreshCredentials_confined ambient within

theorem performAll_confined {actions : List Action}
    (within : ∀ action ∈ actions, action.Within limits (app.db.buildCredentials ambient)) :
    Confined limits ambient app (app.performAll ambient limits.own actions) := by
  induction actions generalizing app with
  | nil => exact .refl app
  | cons action rest ih =>
    have first := app.perform_confined ambient (within action mem_cons_self)
    rw [performAll]
    split
    · rename_i next done
      rw [done] at first
      apply first.trans
      apply ih
      intro later member
      rw [first.db]
      exact within later (mem_cons_of_mem action member)
    · rename_i next failed
      rw [failed] at first
      exact first

theorem lockDeviceEpoch_confined (deviceId : Text) :
    Confined limits ambient app (app.lockDeviceEpoch deviceId).1 := by
  rw [lockDeviceEpoch]
  split
  · exact .refl app
  · exact app.counters_confined ambient _ _

/-- The sessions that a request replaces: other sessions of its device. -/
theorem establish_confined (request : Getconf) (worker : limits.worker request.workerId.toUInt64)
    (ownDrop : limits.may (.dropSession limits.own) ∧ limits.gone limits.own)
    (each : ∀ sessionId ∈ app.sessions, sessionId ≠ limits.own →
      (app.records.lookup sessionId).any (fun session =>
        session.epoch.deviceId == request.epoch.deviceId) →
      limits.may (.dropSession sessionId) ∧ limits.gone sessionId) :
    Confined limits ambient app (app.establish ambient limits.own request) := by
  have amended : Confined limits ambient app ((app.admitEpoch request.epoch).amend limits.own
      fun session => { session with
        epoch := request.epoch
        workerId := request.workerId.toUInt64
        desiredStreamCount := request.desiredCount.toUInt64 }) :=
    (app.counters_confined ambient _ _).trans (amend_confined _ ambient fun _ => { workerId := .inr worker })
  have purged : ∀ current : App, Confined limits ambient app current → ∀ test : Session → Bool,
      (∀ session, test session → session.epoch.deviceId = request.epoch.deviceId) →
      Confined limits ambient app (current.dropWhere ambient test) := by
    intro current reached test sameDevice
    apply reached.trans
    apply dropWhere_confined
    intro sessionId member passed
    by_cases own : sessionId = limits.own
    · rw [own]
      exact ownDrop
    refine each sessionId (reached.fewer.subset member) own ?_
    rw [← reached.others sessionId own]
    obtain ⟨session, here, holds⟩ := (any_eq_true _ _).mp passed
    exact (any_eq_true _ _).mpr ⟨session, here, beq_iff_eq.mpr (sameDevice session holds)⟩
  refine purged _ (purged _ amended _ ?_) _ ?_
  · intro session stale
    simp only [Bool.and_eq_true, beq_iff_eq] at stale
    exact stale.2.1
  · intro session replaced
    simp only [Bool.and_eq_true, decide_eq_true_eq] at replaced
    exact congrArg Epoch.deviceId replaced.2.2

end App

/-! ## The stages of a task -/

/-- The session a command activates. -/
def activated : ProtocolCommand → Option Nat
  | .activateTunnel sessionId _ _ _ _ => some sessionId
  | _ => none

/-- The session that a task works for. -/
def Task.session : Task → Nat
  | .payload sessionId _ | .asked sessionId _ | .admitted sessionId _ | .locked sessionId _ _
  | .acting sessionId _ | .leaving sessionId _ _ | .parting sessionId _ _ | .ingress sessionId _
  | .resolving sessionId _ _ | .opening sessionId _ _ | .opened sessionId _
  | .injecting sessionId _ | .failed sessionId => sessionId

/-- A task that has neither a payload nor a request nor actions. -/
def Task.plain : Task → Bool
  | .payload _ _ | .asked _ _ | .admitted _ _ | .locked _ _ _ | .acting _ _ => false
  | _ => true

/-- Which task a stage can leave, other than the decision about a request. -/
inductive Task.Next (app : App) (ambient : Ambient) : Task → Task → Prop
  | asks {sessionId : Nat} {bytes : List UInt8} {session : Session} {request : Getconf}
      (here : app.records.lookup sessionId = some session)
      (read : readGetconf session.password bytes = .ok request) :
      Next app ambient (.payload sessionId bytes) (.asked sessionId request)
  | responds {task : Task} (sessionId : Nat) (answer : Text) :
      Next app ambient task (.acting sessionId [.send (.sendPlain sessionId answer)])
  | rejects (sessionId : Nat) (request : Getconf) (denial : Denial) :
      Next app ambient (.asked sessionId request)
        (.acting sessionId (rejection sessionId denial request.epoch))
  | admits (sessionId : Nat) (request : Getconf) :
      Next app ambient (.asked sessionId request) (.admitted sessionId request)
  | locks (sessionId : Nat) (request : Getconf) (createdEpoch : Bool) :
      Next app ambient (.admitted sessionId request) (.locked sessionId request createdEpoch)
  | acts (sessionId : Nat) (action : Action) (rest : List Action) :
      Next app ambient (.acting sessionId (action :: rest)) (.acting sessionId rest)
  | goes {task next : Task} (plain : next.plain = true) : Next app ambient task next

/-- What a stage does. It stays within the limits, except that a disconnect takes all sessions
of its device out of the table. -/
structure Stage (limits : Limits) (app : App) (ambient : Ambient) (task : Task)
    (result : App × Option Task) : Prop where
  confined : ∃ sessions, Confined limits ambient app { result.1 with sessions := sessions }
  next : ∀ next ∈ result.2, task.Next app ambient next

/-- What a handler needs to be allowed for every stage: to queue commands that activate nothing,
to take sessions out, to do its actions, and to activate the tunnel of a session that has the
number of a worker. -/
structure Limits.Serves (limits : Limits) (app : App) (ambient : Ambient) (task : Task) : Prop where
  own : task.session = limits.own
  passive : ∀ command, activated command = none → limits.may command
  gone : ∀ sessionId, limits.gone sessionId
  actions : ∀ sessionId actions, task = .acting sessionId actions →
    ∀ action ∈ actions, action.Within limits (app.db.buildCredentials ambient)
  opening : ∀ session, app.records.lookup limits.own = some session →
    (validWorker session.workerId).isSome → ∀ ip registrationId workerId desiredCount,
      limits.may (.activateTunnel limits.own ip registrationId workerId desiredCount)

namespace Stage

variable {after : App} {task next : Task}

section

variable (confined : Confined limits ambient app after)

include confined

theorem ends : Stage limits app ambient task (after, none) :=
  ⟨⟨after.sessions, confined⟩, fun _ none => nomatch none⟩

theorem leaves (follows : task.Next app ambient next) :
    Stage limits app ambient task (after, some next) :=
  ⟨⟨after.sessions, confined⟩, fun _ same => Option.some.inj same ▸ follows⟩

theorem goes (plain : next.plain = true) : Stage limits app ambient task (after, some next) :=
  leaves confined (.goes plain)

theorem responds (sessionId : Nat) (answer : Text) :
    Stage limits app ambient task (after.respond sessionId answer) :=
  leaves confined (.responds sessionId answer)

end

end Stage

variable (sessionId : Nat)

section Run

theorem App.readPayload_stage (bytes : List UInt8) :
    Stage limits app ambient (.payload sessionId bytes) (app.readPayload sessionId bytes) := by
  rw [App.readPayload]
  split
  · exact .ends (.refl app)
  rename_i session listed
  split
  · split
    · exact .ends (.refl app)
    split
    · exact .responds (.refl app) _ _
    rename_i request read
    refine .leaves (.refl app) (.asks ?_ read)
    rw [App.listed] at listed
    split at listed
    · exact listed
    · cases listed
  split
  · split
    · exact .ends (.refl app)
    dsimp only
    split
    · exact .responds (.refl app) _ _
    split
    · exact .responds (.refl app) _ _
    · exact .goes (.refl app) rfl
  · exact .ends (.refl app)

theorem App.checkGetconf_stage (request : Getconf) :
    Stage limits app ambient (.asked sessionId request)
      (app.checkGetconf ambient sessionId request) := by
  rw [App.checkGetconf]
  split
  · exact .ends (.refl app)
  split
  · exact .leaves (.refl app) (.rejects sessionId request _)
  · exact .leaves (.refl app) (.admits sessionId request)

theorem App.checkDisconnect_stage (deviceId salt : Text) :
    Stage limits app ambient (.leaving sessionId deviceId salt)
      (app.checkDisconnect ambient sessionId deviceId salt) := by
  rw [App.checkDisconnect]
  split
  · exact .goes (.refl app) rfl
  · exact .responds (.refl app) _ _

theorem App.handleDisconnect_stage {sessionId : Nat} {deviceId salt : Text}
    (may : limits.may (.disconnectDevice deviceId sessionId)) :
    Stage limits app ambient (.parting sessionId deviceId salt)
      (app.handleDisconnect ambient sessionId deviceId salt) := by
  have queued := app.command_confined ambient may
  rw [App.handleDisconnect]
  split
  · split
    · exact .responds (.refl app) _ _
    split
    · exact .responds (.refl app) _ _
    split
    · rename_i refused
      rw [refused] at queued
      exact .responds queued _ _
    · rename_i done
      rw [done] at queued
      exact ⟨⟨_, queued⟩, fun _ none => nomatch none⟩
  · exact .responds (.refl app) _ _

theorem App.findTunnel_stage (bytes : List UInt8) :
    Stage limits app ambient (.ingress sessionId bytes) (app.findTunnel sessionId bytes) := by
  rw [App.findTunnel]
  split
  · exact .ends (.refl app)
  split
  · exact .goes (.refl app) rfl
  split
  · exact .goes (.refl app) rfl
  · exact .goes (.refl app) rfl

theorem App.resolveTunnel_stage (deviceId : Text) (bytes : List UInt8) :
    Stage limits app ambient (.resolving limits.own deviceId bytes)
      (app.resolveTunnel ambient limits.own deviceId bytes) := by
  rw [App.resolveTunnel]
  split
  · exact .goes (.refl app) rfl
  · exact .goes (app.amend_confined ambient fun _ => {}) rfl

theorem App.openTunnel_stage {ip : Ipv4} {bytes : List UInt8}
    (serves : limits.Serves app ambient (.opening limits.own ip bytes)) :
    Stage limits app ambient (.opening limits.own ip bytes)
      (app.openTunnel ambient limits.own ip bytes) := by
  have fetched : Confined limits ambient app app.fetchRegistration.1 :=
    app.counters_confined ambient _ _
  rw [App.openTunnel]
  dsimp only
  split
  · exact .goes fetched rfl
  rename_i session here
  split
  · exact .goes fetched rfl
  rename_i workerId valid
  have may := serves.opening session here (by rw [valid]; rfl) ip app.fetchRegistration.2 workerId
    (validCount workerId session.desiredStreamCount)
  have queued := fetched.trans (app.fetchRegistration.1.command_confined ambient may)
  split
  · rename_i done
    rw [done] at queued
    exact .goes queued rfl
  · rename_i refused
    rw [refused] at queued
    exact .goes queued rfl

/-- Every stage of every task, other than the decision about a request. -/
theorem Task.run_stage {task : Task} (serves : limits.Serves app ambient task)
    (undecided : ∀ sessionId request createdEpoch, task ≠ .locked sessionId request createdEpoch) :
    Stage limits app ambient task (task.run app ambient) := by
  have own := serves.own
  cases task with
  | payload sessionId bytes => exact app.readPayload_stage sessionId bytes
  | asked sessionId request => exact app.checkGetconf_stage sessionId request
  | admitted sessionId request =>
    exact .leaves (app.lockDeviceEpoch_confined ambient _) (.locks sessionId request _)
  | locked sessionId request createdEpoch => exact absurd rfl (undecided _ _ _)
  | acting sessionId actions =>
    cases own
    cases actions with
    | nil => exact .ends (.refl app)
    | cons action rest =>
      have performed := app.perform_confined ambient
        (serves.actions _ _ rfl action mem_cons_self)
      rw [Task.run]
      split
      · rename_i done
        rw [done] at performed
        exact .leaves performed (.acts _ action rest)
      · rename_i failed
        rw [failed] at performed
        exact .ends performed
  | leaving sessionId deviceId salt => exact app.checkDisconnect_stage sessionId deviceId salt
  | parting sessionId deviceId salt => exact app.handleDisconnect_stage (serves.passive _ rfl)
  | ingress sessionId bytes => exact app.findTunnel_stage sessionId bytes
  | resolving sessionId deviceId bytes =>
    cases own
    exact app.resolveTunnel_stage deviceId bytes
  | opening sessionId ip bytes =>
    cases own
    exact app.openTunnel_stage serves
  | opened sessionId bytes =>
    cases own
    exact .goes (app.amend_confined ambient fun _ => {}) rfl
  | injecting sessionId bytes => exact .ends (app.command_confined ambient (serves.passive _ rfl))
  | failed sessionId =>
    exact .ends (app.dropExactSession_confined ambient (serves.passive _ rfl) (serves.gone _))

end Run

/-! ## A whole request -/

/-- What a handler needs to be allowed for a request that the database refuses. -/
structure Limits.Refuses (limits : Limits) : Prop where
  answer : ∀ denial : Denial, limits.may (.sendPlain limits.own denial.text)
  drop : limits.may (.dropSession limits.own) ∧ limits.gone limits.own

/-- What a handler needs to be allowed for a request that the database grants: to set
the epoch of its session and of the device, to drop other sessions of the device, to
activate the tunnel, to answer, and to pass on the credentials if they have changed. -/
structure Limits.Grants (limits : Limits) (app : App) (ambient : Ambient) (request : Getconf)
    (result : Database × Verdict) : Prop where
  worker : limits.worker request.workerId.toUInt64
  updateEpoch : limits.may (.updateEpoch limits.own request.epoch)
  setDataFrames : limits.may (.setDataFrames limits.own request.dataFrames)
  setAuthoritativeEpoch : limits.may (.setAuthoritativeEpoch request.epoch)
  activate : ∀ ip ∈ result.2.tunnelIp, ∀ registrationId, limits.may (.activateTunnel limits.own ip
    registrationId request.workerId request.desiredCount)
  answer : limits.may (.sendPlain limits.own result.2.answer.text)
  refresh : result.2.changed → limits.may (.replaceCredentials (result.1.buildCredentials ambient))
  replaced : ∀ sessionId ∈ app.sessions, sessionId ≠ limits.own →
    (app.records.lookup sessionId).any (fun session =>
      session.epoch.deviceId == request.epoch.deviceId) →
    limits.may (.dropSession sessionId) ∧ limits.gone sessionId

section Request

variable {request : Getconf}

theorem rejection_within (refuses : limits.Refuses) (denial : Denial) (epoch : Epoch)
    (credentials : List Credential) :
    ∀ action ∈ rejection limits.own denial epoch, action.Within limits credentials := by
  rw [rejection]
  simp only [forall_mem_cons]
  exact ⟨refuses.answer denial, refuses.drop, forall_mem_nil _⟩

theorem granted_actions_within {result : Database × Verdict}
    (grants : limits.Grants app ambient request result) (accepted : result.2.rejected = false)
    (createdEpoch : Bool) : ∀ action ∈ result.2.actions limits.own request createdEpoch,
      action.Within limits (result.1.buildCredentials ambient) := by
  simp only [Verdict.actions, accepted, Bool.false_and, Bool.false_eq_true, if_false,
    nil_append, append_nil, forall_mem_append, forall_mem_cons]
  refine ⟨⟨⟨⟨grants.updateEpoch, grants.setDataFrames, grants.setAuthoritativeEpoch, ?_⟩, ?_⟩,
    grants.answer, ?_⟩, ?_⟩
  · exact forall_mem_nil _
  · cases found : result.2.tunnelIp with
    | none => exact forall_mem_nil _
    | some ip =>
      simp only [elim_some, forall_mem_cons]
      exact ⟨trivial, grants.activate ip found, forall_mem_nil _⟩
  · exact forall_mem_nil _
  · split
    · rename_i changed
      exact forall_mem_singleton.mpr (grants.refresh changed)
    · exact forall_mem_nil _

/-- A request that reaches the database and may use its credential. -/
structure Granted (db : Database) (now : Int) (sessionPassword text : Text) (request : Getconf)
    (access : CredentialAccess) : Prop where
  read : readGetconf sessionPassword text = .ok request
  access : getconfCredentialAccess now db request.password request.epoch.deviceId = .ok access

/-- A granted request, after the lock of its device was taken. -/
theorem App.grant_confined {access : CredentialAccess} {locked : App}
    (reached : Confined limits ambient app locked)
    (grants : limits.Grants app ambient request (app.db.configure app.dns request access))
    (refuses : limits.Refuses) (createdEpoch : Bool) :
    Confined limits ambient { app with db := (app.db.configure app.dns request access).1 }
      (performAll ambient limits.own (locked.grant ambient limits.own request access).1
        ((locked.grant ambient limits.own request access).2.actions limits.own request
          createdEpoch)) := by
  have established : Confined limits ambient app (locked.establish ambient limits.own request) := by
    apply reached.trans
    apply locked.establish_confined ambient request grants.worker refuses.drop
    intro sessionId member other sameDevice
    rw [reached.others sessionId other] at sameDevice
    exact grants.replaced sessionId (reached.fewer.subset member) other sameDevice
  have granted : locked.grant ambient limits.own request access =
      ({ locked.establish ambient limits.own request with
        db := (app.db.configure app.dns request access).1 },
        (app.db.configure app.dns request access).2) := by
    simp only [App.grant, established.db, established.dns]
  rw [granted]
  apply (established.withDb _).trans
  apply App.performAll_confined
  exact granted_actions_within grants rfl createdEpoch

/-- A whole request. The database is left as it was, or the request was granted. -/
theorem App.handleGetconf_confined (refuses : limits.Refuses) (sessionPassword text : Text)
    (grants : ∀ request access, Granted app.db ambient.now sessionPassword text request access →
      limits.Grants app ambient request (app.db.configure app.dns request access)) :
    ∃ db, (db = app.db ∨ ∃ request access,
        Granted app.db ambient.now sessionPassword text request access ∧
          db = (app.db.configure app.dns request access).1) ∧
      Confined limits ambient { app with db := db }
        (app.handleGetconf ambient limits.own sessionPassword text) := by
  rw [handleGetconf]
  split
  · exact ⟨app.db, .inl rfl, app.command_confined ambient (refuses.answer _)⟩
  rename_i request read
  split
  · exact ⟨app.db, .inl rfl, .refl app⟩
  split
  · exact ⟨app.db, .inl rfl, app.performAll_confined ambient (rejection_within refuses _ _ _)⟩
  rename_i access allowed
  have granted : Granted app.db ambient.now sessionPassword text request access := ⟨read, allowed⟩
  have reached : Confined limits ambient app (app.lockDeviceEpoch request.epoch.deviceId).1 :=
    app.lockDeviceEpoch_confined ambient _
  refine ⟨_, .inr ⟨request, access, granted, rfl⟩, ?_⟩
  dsimp only
  rw [decideGetconf, reached.db, allowed]
  exact grant_confined reached (grants request access granted) refuses _

end Request

end Csqtt.Control
