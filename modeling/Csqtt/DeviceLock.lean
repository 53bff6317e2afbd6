import Csqtt.Confinement
import Csqtt.CredentialIsolation
import Csqtt.Runs

/-!
# The device lock

Two ways lead to an activated tunnel. A `GETCONF` activates it after the database has
granted the request, and a packet on a session without a tunnel does so without asking
for a credential at all. What protects the second way is the number of the worker: a
record has a valid one only after a request on that session was granted.

Handlers run stage by stage and in any order, and the panel changes the database between
the stages. A run notes every grant, with the database as it was then, and every command
that was queued. In every run each activation comes after a grant on the same session,
with the session's own password. And no handler changes the device of a password that
has one; only the panel does.
-/

namespace Csqtt.Control

open ControlText Routes Engine List Runs Option AList

/-- What is noted in a run: that a request was granted access, when and by which
database, and that a command was queued. -/
inductive Note
  | granted (sessionId : Nat) (now : Int) (db : Database) (password deviceId : Text)
  | issued (command : ProtocolCommand)

/-- The grant at a stage of a task. -/
def Task.granted (app : App) (ambient : Ambient) : Task → List Note
  | .locked sessionId request _ =>
    if !ambient.locked then []
    else
      match getconfCredentialAccess ambient.now app.db request.password request.epoch.deviceId with
      | .error _ => []
      | .ok _ => [.granted sessionId ambient.now app.db request.password request.epoch.deviceId]
  | _ => []

namespace Plane

/-- The grant in an occurrence. -/
def granted (plane : Plane) : Occurrence → List Note
  | .stage index ambient => (plane.tasks[index]?).elim [] fun task => task.granted plane.app ambient
  | _ => []

/-- The next state, and what is noted. -/
def step (plane : Plane) (occurrence : Occurrence) : Plane × List Note :=
  let after := plane.next occurrence
  (after, plane.granted occurrence ++
    (after.app.commands.drop plane.app.commands.length).map .issued)

end Plane

/-- A request on a session was granted with a password. -/
def GrantedFor (history : List Note) (sessionId : Nat) (password : Text) : Prop :=
  ∃ now db deviceId access, .granted sessionId now db password deviceId ∈ history ∧
    getconfCredentialAccess now db password deviceId = .ok access

/-- A request on a session was granted with the session's own password. -/
def Licensed (history : List Note) (app : App) (sessionId : Nat) : Prop :=
  ∃ session, app.records.lookup sessionId = some session ∧
    GrantedFor history sessionId session.password

/-- An action that activates nothing, or may. -/
def Action.Backed (history : List Note) (app : App) (sessionId : Nat) : Action → Prop
  | .send command => activated command = none
  | .activate _ _ _ => Licensed history app sessionId
  | _ => True

/-- What is known about the stage of a task: a request has the password of its session,
and actions that activate are licensed. -/
def Task.Backed (history : List Note) (app : App) : Task → Prop
  | .asked sessionId request | .admitted sessionId request | .locked sessionId request _ =>
    ∃ session, app.records.lookup sessionId = some session ∧ session.password = request.password
  | .acting sessionId actions => ∀ action ∈ actions, action.Backed history app sessionId
  | _ => True

/-- Records with the number of a worker belong to sessions with a granted request. -/
def WorkersLicensed (history : List Note) (app : App) : Prop :=
  ∀ sessionId session, app.records.lookup sessionId = some session →
    (validWorker session.workerId).isSome → GrantedFor history sessionId session.password

/-- Records keep their passwords. -/
def KeepsPasswords (before after : App) : Prop :=
  ∀ sessionId session, before.records.lookup sessionId = some session →
    ∃ later, after.records.lookup sessionId = some later ∧ later.password = session.password

/-- What one occurrence does to the shared state. -/
structure Moves (history notes : List Note) (before after : App) : Prop where
  bindings : before.db.KeepsBindings after.db
  passwords : KeepsPasswords before after
  workers : WorkersLicensed (history ++ notes) after
  commands : ∃ queued, after.commands = before.commands ++ queued ∧
    ∀ command ∈ queued, ∀ sessionId, activated command = some sessionId →
      Licensed history before sessionId

/-- The invariant of a run. -/
structure Authorized (history : List Note) (plane : Plane) : Prop where
  workers : WorkersLicensed history plane.app
  tasks : ∀ task ∈ plane.tasks, task.Backed history plane.app
  preceded : ∀ index command sessionId, history[index]? = some (.issued command) →
    activated command = some sessionId → Licensed (history.take index) plane.app sessionId

/-! ## More history, later records -/

variable {sessionId : Nat} {task : Task} {history notes : List Note} {app : App} {request : Getconf}

section Later

variable {before after : App}

theorem GrantedFor.append {password : Text} (granted : GrantedFor history sessionId password)
    (notes : List Note) : GrantedFor (history ++ notes) sessionId password := by
  obtain ⟨now, db, deviceId, access, noted, allowed⟩ := granted
  exact ⟨now, db, deviceId, access, mem_append_left _ noted, allowed⟩

theorem Licensed.later (licensed : Licensed history before sessionId)
    (passwords : KeepsPasswords before after) (notes : List Note) :
    Licensed (history ++ notes) after sessionId := by
  obtain ⟨session, here, granted⟩ := licensed
  obtain ⟨later, there, same⟩ := passwords sessionId session here
  exact ⟨later, there, same ▸ granted.append notes⟩

theorem Action.Backed.later {action : Action} (backed : action.Backed history before sessionId)
    (passwords : KeepsPasswords before after) (notes : List Note) :
    action.Backed (history ++ notes) after sessionId := by
  cases action with
  | activate ip workerId desiredCount => exact Licensed.later backed passwords notes
  | send command => exact backed
  | forgetEpoch deviceId | noteTunnel ip | dropRejected epoch | refreshCredentials => trivial

theorem Task.Backed.later (backed : task.Backed history before)
    (passwords : KeepsPasswords before after) (notes : List Note) :
    task.Backed (history ++ notes) after := by
  have owned : ∀ (sessionId : Nat) (request : Getconf),
      (∃ session, before.records.lookup sessionId = some session ∧
        session.password = request.password) →
      ∃ session, after.records.lookup sessionId = some session ∧
        session.password = request.password := by
    intro sessionId request known
    obtain ⟨session, here, same⟩ := known
    obtain ⟨later, there, kept⟩ := passwords sessionId session here
    exact ⟨later, there, kept.trans same⟩
  cases task with
  | asked sessionId request | admitted sessionId request | locked sessionId request createdEpoch =>
    exact owned sessionId request backed
  | acting sessionId actions => exact fun action member => (backed action member).later passwords notes
  | _ => trivial

/-- A state that comes from another within limits that license activations. -/
theorem Moves.of_confined {limits : Limits} {ambient : Ambient}
    (confined : Confined limits ambient before after) (workers : WorkersLicensed history before)
    (commands : ∀ command, limits.may command → ∀ sessionId, activated command = some sessionId →
      Licensed history before sessionId) (granted : ∀ workerId session, limits.worker workerId →
      before.records.lookup limits.own = some session →
      GrantedFor (history ++ notes) limits.own session.password) :
    Moves history notes before after := by
  constructor
  · rw [confined.db]
    exact .refl _
  · intro sessionId session here
    by_cases own : sessionId = limits.own
    · have follows := confined.own
      rw [← own, here] at follows
      revert follows
      cases after.records.lookup sessionId with
      | none => nofun
      | some later =>
        intro follows
        cases follows with
        | some follows => exact ⟨later, rfl, follows.password⟩
    · exact ⟨session, (confined.others sessionId own).trans here, rfl⟩
  · intro sessionId session here valid
    by_cases own : sessionId = limits.own
    · have follows := confined.own
      rw [← own, here] at follows
      revert follows
      cases earlier : before.records.lookup sessionId with
      | none => nofun
      | some known =>
        intro follows
        cases follows with
        | some follows =>
          rw [follows.password]
          cases follows.workerId with
          | inl same =>
            rw [same] at valid
            exact (workers sessionId known earlier valid).append notes
          | inr set =>
            rw [own] at earlier ⊢
            exact granted _ known set earlier
    · rw [confined.others sessionId own] at here
      exact (workers sessionId session here valid).append notes
  · obtain ⟨queued, final, allowed⟩ := confined.commands
    exact ⟨queued, final, fun command member => commands command (allowed command member)⟩

/-- What is left of a record that counts here. -/
def standing (session : Session) : Text × UInt64 := (session.password, session.workerId)

/-- A state with the same passwords and workers, and commands that activate nothing. -/
theorem Moves.of_standing (bindings : before.db.KeepsBindings after.db)
    (records : ∀ sessionId, (after.records.lookup sessionId).map standing =
      (before.records.lookup sessionId).map standing)
    (commands : ∃ queued, after.commands = before.commands ++ queued ∧
      ∀ command ∈ queued, activated command = none)
    (workers : WorkersLicensed history before) : Moves history notes before after := by
  constructor
  · exact bindings
  · intro sessionId session here
    have same := records sessionId
    rw [here] at same
    obtain ⟨later, there, stands⟩ := map_eq_some_iff.mp same
    exact ⟨later, there, congrArg Prod.fst stands⟩
  · intro sessionId session here valid
    have same := records sessionId
    rw [here] at same
    obtain ⟨earlier, there, stands⟩ := map_eq_some_iff.mp same.symm
    have password : earlier.password = session.password := congrArg Prod.fst stands
    have workerId : earlier.workerId = session.workerId := congrArg Prod.snd stands
    rw [← workerId] at valid
    rw [← password]
    exact (workers sessionId earlier there valid).append notes
  · obtain ⟨queued, final, quiet⟩ := commands
    refine ⟨queued, final, ?_⟩
    intro command member sessionId activates
    rw [quiet command member] at activates
    cases activates

end Later

/-! ## The stages of a task -/

/-- What a stage does, and what is known about the next one. -/
structure Advance (history notes : List Note) (app : App) (result : App × Option Task) : Prop where
  moves : Moves history notes app result.1
  next : ∀ task ∈ result.2, task.Backed (history ++ notes) result.1

/-- The limits of a handler: it activates licensed sessions only, and sets the number of
the worker only at a grant. -/
def licence (history : List Note) (app : App) (own : Nat) (granting : Bool) : Limits where
  own := own
  may command := ∀ sessionId, activated command = some sessionId → Licensed history app sessionId
  gone _ := True
  worker _ := granting

section Stages

variable {after : App} {own : Nat} (ambient : Ambient)

theorem licence_may {granting : Bool} {command : ProtocolCommand}
    (passive : activated command = none) : (licence history app own granting).may command := by
  intro sessionId activates
  rw [passive] at activates
  cases activates

theorem Action.Backed.within {action : Action} (backed : action.Backed history app own)
    (credentials : List Credential) : action.Within (licence history app own false) credentials := by
  cases action with
  | send command => exact licence_may backed
  | forgetEpoch deviceId | noteTunnel ip => trivial
  | activate ip workerId desiredCount =>
    intro registrationId sessionId activates
    cases activates
    exact backed
  | dropRejected epoch => exact ⟨licence_may rfl, trivial⟩
  | refreshCredentials => exact licence_may rfl

variable {ambient} in
theorem Moves.of_licence (confined : Confined (licence history app own false) ambient app after)
    (workers : WorkersLicensed history app) : Moves history notes app after :=
  .of_confined confined workers (fun _ allowed => allowed) (fun _ _ set => nomatch set)

theorem Moves.refl (workers : WorkersLicensed history app) : Moves history notes app app :=
  .of_standing (.refl _) (fun _ => rfl) ⟨[], (append_nil _).symm, forall_mem_nil _⟩ workers

/-- A task whose actions are licensed may do its next stage: a tunnel is opened for a session with
the number of a worker, and such a session has a granted request. -/
theorem licence_serves (workers : WorkersLicensed history app) (backed : task.Backed history app) :
    (licence history app task.session false).Serves app ambient task where
  own := rfl
  passive _ quiet := licence_may quiet
  gone _ := trivial
  actions := by
    rintro sessionId actions rfl action member
    exact (backed action member).within _
  opening := by
    intro session here valid ip registrationId workerId desiredCount sessionId activates
    cases activates
    exact ⟨session, here, workers _ session here valid⟩

variable {ambient} in
/-- What is known about a task is known about the one that follows. A request that was read has
the password of its session, and answers and rejections activate nothing. -/
theorem Task.Next.backed {next : Task} (follows : task.Next app ambient next)
    (backed : task.Backed history app) (passwords : KeepsPasswords app after) :
    next.Backed (history ++ notes) after := by
  cases follows with
  | asks here read =>
    obtain ⟨later, there, same⟩ := passwords _ _ here
    exact ⟨later, there, same.trans (readGetconf_password read).symm⟩
  | responds sessionId answer => exact forall_mem_singleton.mpr rfl
  | rejects sessionId request denial =>
    exact forall_mem_cons.mpr ⟨rfl, forall_mem_singleton.mpr trivial⟩
  | admits sessionId request | locks sessionId request createdEpoch =>
    exact Task.Backed.later backed passwords notes
  | acts sessionId action rest =>
    intro later member
    exact (backed later (mem_cons_of_mem action member)).later passwords notes
  | goes plain =>
    cases next with
    | asked sessionId request | admitted sessionId request
    | locked sessionId request createdEpoch | acting sessionId actions => cases plain
    | _ => trivial

/-- The actions after a verdict activate only if the request was granted. -/
theorem actions_backed {verdict : Verdict}
    (licensed : verdict.rejected = false → Licensed history app sessionId) (request : Getconf)
    (createdEpoch : Bool) : ∀ action ∈ verdict.actions sessionId request createdEpoch,
      action.Backed history app sessionId := by
  rw [Verdict.actions]
  simp only [forall_mem_append]
  refine ⟨⟨⟨⟨?_, ?_⟩, forall_mem_singleton.mpr rfl⟩, ?_⟩, ?_⟩
  · split
    · exact forall_mem_singleton.mpr trivial
    · exact forall_mem_nil _
  · split
    · exact forall_mem_nil _
    rename_i accepted
    simp only [forall_mem_append, forall_mem_cons]
    refine ⟨⟨rfl, rfl, rfl, forall_mem_nil _⟩, ?_⟩
    cases verdict.tunnelIp with
    | none => exact forall_mem_nil _
    | some ip =>
      simp only [elim_some, forall_mem_cons]
      exact ⟨trivial, licensed (Bool.not_eq_true _ ▸ accepted), forall_mem_nil _⟩
  · split
    · exact forall_mem_singleton.mpr trivial
    · exact forall_mem_nil _
  · split
    · exact forall_mem_singleton.mpr trivial
    · exact forall_mem_nil _

/-- A grant sets the number of the worker, and is noted. -/
theorem grant_moves (workers : WorkersLicensed history app) {session : Session}
    (here : app.records.lookup sessionId = some session)
    (granted : GrantedFor (history ++ notes) sessionId session.password) {access : CredentialAccess}
    (allowed : getconfCredentialAccess ambient.now app.db request.password
      request.epoch.deviceId = .ok access) :
    Moves history notes app (app.grant ambient sessionId request access).1 := by
  have established : Confined (licence history app sessionId true) ambient app
      (app.establish ambient sessionId request) := by
    apply app.establish_confined ambient request rfl
    · exact ⟨@licence_may history app sessionId _ _ rfl, trivial⟩
    · exact fun _ _ _ _ => ⟨@licence_may history app sessionId _ _ rfl, trivial⟩
  have moves : Moves history notes app (app.establish ambient sessionId request) := by
    apply Moves.of_confined established workers
    · exact fun _ allowed => allowed
    · intro _ stored _ found
      cases here.symm.trans found
      exact granted
  refine ⟨?_, moves.passwords, moves.workers, moves.commands⟩
  have configured : (app.grant ambient sessionId request access).1.db =
      ((app.db.bind access request.password request.epoch.deviceId).1.place
        request.epoch.deviceId).1 := by
    rw [← established.db]
    rfl
  rw [configured]
  exact (Database.KeepsBindings.bind allowed).trans (.place request.epoch.deviceId)

theorem decide_advance (workers : WorkersLicensed history app) {createdEpoch : Bool}
    (backed : Task.Backed history app (.locked sessionId request createdEpoch)) :
    Advance history (Task.granted app ambient (.locked sessionId request createdEpoch)) app
      (Task.run app ambient (.locked sessionId request createdEpoch)) := by
  obtain ⟨session, here, same⟩ := backed
  rw [Task.run, Task.granted]
  split
  · refine ⟨.refl workers, fun _ none => ?_⟩
    cases none
  rw [App.decideGetconf]
  cases allowed : getconfCredentialAccess ambient.now app.db request.password
      request.epoch.deviceId with
  | error denial =>
    refine ⟨.refl workers, fun _ member => Option.some.inj member ▸ actions_backed ?_ request createdEpoch⟩
    intro accepted
    cases accepted
  | ok access =>
    have granted : GrantedFor (history ++ [.granted sessionId ambient.now app.db request.password
        request.epoch.deviceId]) sessionId session.password := by
      rw [same]
      exact ⟨_, _, _, access, mem_append_right _ mem_cons_self, allowed⟩
    have moves := grant_moves ambient workers here granted allowed
    refine ⟨moves, fun _ member => Option.some.inj member ▸ actions_backed ?_ request createdEpoch⟩
    intro _
    obtain ⟨later, there, kept⟩ := moves.passwords sessionId session here
    exact ⟨later, there, kept ▸ granted⟩

theorem run_advance (workers : WorkersLicensed history app) (backed : task.Backed history app) :
    Advance history (task.granted app ambient) app (task.run app ambient) := by
  by_cases decided : ∃ sessionId request createdEpoch, task = .locked sessionId request createdEpoch
  · obtain ⟨sessionId, request, createdEpoch, rfl⟩ := decided
    exact decide_advance ambient workers backed
  have stage := Task.run_stage (licence_serves ambient workers backed)
    fun _ _ _ same => decided ⟨_, _, _, same⟩
  obtain ⟨sessions, confined⟩ := stage.confined
  have within : Moves history (task.granted app ambient) app _ := .of_licence confined workers
  have moves : Moves history (task.granted app ambient) app (task.run app ambient).1 :=
    ⟨within.bindings, within.passwords, within.workers, within.commands⟩
  exact ⟨moves, fun next member => (stage.next next member).backed backed moves.passwords⟩

end Stages

/-! ## Runs -/

section Run

variable {plane : Plane}

theorem amend_standing (app : App) (sessionId : Nat) {change : Session → Session}
    (kept : ∀ session, standing (change session) = standing session) (other : Nat) :
    ((app.amend sessionId change).records.lookup other).map standing =
      (app.records.lookup other).map standing := by
  rw [App.amend]
  split
  · rfl
  rename_i session here
  by_cases same : other = sessionId
  · rw [same, lookup_insert, here, map_some, map_some, kept]
  · rw [lookup_insert_ne same]

theorem flushSession_standing (app : App) (sessionId other : Nat) :
    ((app.flushSession sessionId).records.lookup other).map standing =
      (app.records.lookup other).map standing := by
  rw [App.flushSession]
  split
  · rfl
  rename_i session here
  have emptied : ((app.records.insert sessionId
      { session with upBytes := 0, downBytes := 0 }).lookup other).map standing =
      (app.records.lookup other).map standing := by
    by_cases same : other = sessionId
    · rw [same, lookup_insert, here]
      rfl
    · rw [lookup_insert_ne same]
  split
  · exact emptied
  · exact emptied

theorem flushSession_bindings (app : App) (sessionId : Nat) :
    app.db.KeepsBindings (app.flushSession sessionId).db := by
  rw [App.flushSession]
  split
  · exact .refl _
  rename_i session here
  split
  · exact .refl _
  dsimp only
  rw [Database.credit]
  split
  · rename_i entry found
    refine .trans (.insert found ?_) (.creditDevice _ _ _)
    rfl
  split
  · dsimp only
    split
    · exact ⟨(Database.KeepsBindings.refl app.db).passwords, fun _ => rfl⟩
    · refine .trans ?_ (.creditDevice _ _ _)
      exact ⟨(Database.KeepsBindings.refl app.db).passwords, fun _ => rfl⟩
  · exact .refl _

theorem flushSession_commands (app : App) (sessionId : Nat) :
    (app.flushSession sessionId).commands = app.commands := by
  rw [App.flushSession]
  split
  · rfl
  dsimp only
  split
  · rfl
  · rfl

/-- The engine never sets the number of a worker. -/
theorem onRecordWrite_moves (workers : WorkersLicensed history app) (sessionId : Nat)
    (write : RecordWrite) : Moves history [] app (app.onRecordWrite sessionId write) := by
  have amended : ∀ change : Session → Session, (∀ session, standing (change session) = standing session) →
      Moves history [] app (app.amend sessionId change) := by
    intro change kept
    refine .of_standing ?_ (amend_standing app sessionId kept) ⟨[], ?_, forall_mem_nil _⟩ workers
    · rw [App.amend]
      split
      · exact .refl _
      · exact .refl _
    · rw [App.amend, append_nil]
      split
      · rfl
      · rfl
  cases write with
  | opened password epoch =>
    rw [App.onRecordWrite]
    split
    · rename_i unknown
      constructor
      · exact .refl _
      · intro other session here
        refine ⟨session, ?_, rfl⟩
        by_cases same : other = sessionId
        · rw [same, unknown] at here
          cases here
        · exact (lookup_insert_ne same).trans here
      · intro other session here valid
        by_cases same : other = sessionId
        · rw [same] at here
          cases here.symm.trans (lookup_insert _)
          cases valid
        · exact (workers other session ((lookup_insert_ne same).symm.trans here) valid).append []
      · exact ⟨[], (append_nil _).symm, forall_mem_nil _⟩
    · exact .refl workers
  | epoch epoch | activated ip desiredCount | tunnel isOpen | counters up down =>
    exact amended _ fun _ => rfl

theorem flushTraffic_moves (workers : WorkersLicensed history app) (ambient : Ambient) :
    Moves history [] app (app.flushTraffic ambient) := by
  rw [App.flushTraffic]
  split
  · obtain ⟨records, bindings, commands⟩ := List.foldlRecOn (motive := fun current : App =>
        (∀ other, (current.records.lookup other).map standing =
          (app.records.lookup other).map standing) ∧
        app.db.KeepsBindings current.db ∧ current.commands = app.commands) app.sessions
      App.flushSession ⟨fun _ => rfl, .refl _, rfl⟩ (by
        rintro current ⟨records, bindings, commands⟩ sessionId -
        refine ⟨fun other => ?_, ?_, ?_⟩
        · exact (flushSession_standing current sessionId other).trans (records other)
        · exact bindings.trans (flushSession_bindings current sessionId)
        · exact (flushSession_commands current sessionId).trans commands)
    exact .of_standing bindings records ⟨[], commands.trans (append_nil _).symm, forall_mem_nil _⟩
      workers
  · exact .refl workers

/-- The invariant after an occurrence. -/
theorem Authorized.after {next : Plane} (authorized : Authorized history plane)
    (moves : Moves history notes plane.app next.app) (passive : ∀ command, .issued command ∉ notes)
    (tasks : ∀ task ∈ next.tasks, task.Backed (history ++ notes) next.app) :
    Authorized (history ++ (notes ++
      (next.app.commands.drop plane.app.commands.length).map .issued)) next := by
  obtain ⟨queued, final, licensed⟩ := moves.commands
  have kept : KeepsPasswords next.app next.app := fun _ session here => ⟨session, here, rfl⟩
  rw [final, drop_left]
  constructor
  · intro sessionId session here valid
    rw [← append_assoc]
    exact (moves.workers sessionId session here valid).append _
  · intro task member
    rw [← append_assoc]
    exact (tasks task member).later kept _
  · intro index command sessionId noted activates
    rcases Nat.lt_or_ge index history.length with old | new
    · rw [getElem?_append_left old] at noted
      rw [take_append_of_le_length old.le]
      have before := (authorized.preceded index command sessionId noted activates).later
        moves.passwords []
      rw [append_nil] at before
      exact before
    · rw [getElem?_append_right new] at noted
      rw [take_append, take_of_length_le new]
      have member := mem_of_getElem? noted
      cases mem_append.mp member with
      | inl inNotes => exact absurd inNotes (passive command)
      | inr now =>
        obtain ⟨issued, here, same⟩ := mem_map.mp now
        cases same
        exact (licensed command here sessionId activates).later moves.passwords _

theorem Authorized.panel (authorized : Authorized history plane) (db : Database) :
    Authorized history { plane with app := { plane.app with db := db } } :=
  ⟨authorized.workers, authorized.tasks, authorized.preceded⟩

theorem Task.granted_passive (app : App) (ambient : Ambient) (task : Task)
    (command : ProtocolCommand) : .issued command ∉ task.granted app ambient := by
  cases task with
  | locked sessionId request createdEpoch =>
    rw [Task.granted]
    split
    · exact not_mem_nil
    split
    · exact not_mem_nil
    · intro member
      cases mem_singleton.mp member
  | _ => exact not_mem_nil

section

variable (authorized : Authorized history plane) (occurrence : Occurrence)
  (handler : ∀ operation ambient, occurrence ≠ .panel operation ambient)

include authorized occurrence handler

/-- What an occurrence does to the shared state, unless the panel is at work. -/
theorem next_moves :
    Moves history (plane.granted occurrence) plane.app (plane.next occurrence).app := by
  have workers := authorized.workers
  cases occurrence with
  | created sessionId ambient =>
    have pruned : Confined (licence history plane.app sessionId false) ambient plane.app
        (plane.app.prunePublicSessions ambient) :=
      plane.app.dropWhere_confined ambient fun _ _ _ => ⟨licence_may rfl, trivial⟩
    have moves : Moves history [] plane.app _ := .of_licence pruned workers
    rw [Plane.next, App.onSessionCreated]
    split
    · exact ⟨moves.bindings, moves.passwords, moves.workers, moves.commands⟩
    · exact ⟨moves.bindings, moves.passwords, moves.workers, moves.commands⟩
  | closed sessionId =>
    have moves : Moves history [] plane.app plane.app := .refl workers
    exact ⟨moves.bindings, moves.passwords, moves.workers, moves.commands⟩
  | payload sessionId bytes | ingress sessionId bytes => exact .refl workers
  | stage index ambient =>
    rw [Plane.next, Plane.stage, Plane.granted]
    cases found : plane.tasks[index]? with
    | none => exact .refl workers
    | some task =>
      have moves := (run_advance ambient workers
        (authorized.tasks task (mem_of_getElem? found))).moves
      dsimp only [elim_some]
      split
      · rename_i app next result
        rw [result] at moves
        exact moves
      · rename_i app result
        rw [result] at moves
        exact moves
  | wrote sessionId write => exact onRecordWrite_moves workers sessionId write
  | panel operation ambient => exact absurd rfl (handler operation ambient)
  | dropPassword password ambient =>
    have queued : Confined (licence history plane.app 0 false) ambient plane.app
        (plane.app.command ambient (.dropPassword password)).1 :=
      plane.app.command_confined ambient (licence_may rfl)
    have moves : Moves history [] plane.app _ := .of_licence queued workers
    exact ⟨moves.bindings, moves.passwords, moves.workers, moves.commands⟩
  | refresh ambient =>
    have queued : Confined (licence history plane.app 0 false) ambient plane.app
        (plane.app.refreshCredentials ambient) :=
      plane.app.refreshCredentials_confined ambient (licence_may rfl)
    exact .of_licence queued workers
  | prune ambient =>
    have pruned : Confined (licence history plane.app 0 false) ambient plane.app
        (plane.app.prunePublicSessions ambient) :=
      plane.app.dropWhere_confined ambient fun _ _ _ => ⟨licence_may rfl, trivial⟩
    exact .of_licence pruned workers
  | flush ambient => exact flushTraffic_moves workers ambient

/-- The tasks after an occurrence: the old ones, a new one that knows nothing yet, or
the next stage of one. -/
theorem next_tasks : ∀ task ∈ (plane.next occurrence).tasks,
      task.Backed (history ++ plane.granted occurrence) (plane.next occurrence).app := by
  have moves := next_moves authorized occurrence handler
  have old : ∀ task ∈ plane.tasks,
      task.Backed (history ++ plane.granted occurrence) (plane.next occurrence).app :=
    fun task member => (authorized.tasks task member).later moves.passwords _
  cases occurrence with
  | payload sessionId bytes | ingress sessionId bytes =>
    exact forall_mem_append.mpr ⟨old, forall_mem_singleton.mpr trivial⟩
  | stage index ambient =>
    revert old
    rw [Plane.next, Plane.stage, Plane.granted]
    cases found : plane.tasks[index]? with
    | none => exact id
    | some ran =>
      have next := (run_advance ambient authorized.workers
        (authorized.tasks ran (mem_of_getElem? found))).next
      dsimp only [elim_some]
      split
      · rename_i app task result
        rw [result] at next
        intro old other member
        cases mem_or_eq_of_mem_set member with
        | inl before => exact old other before
        | inr same => exact same ▸ next task rfl
      · intro old other member
        exact old other (mem_of_mem_eraseIdx member)
  | panel operation ambient => exact absurd rfl (handler operation ambient)
  | created sessionId ambient | closed sessionId | wrote sessionId write
  | dropPassword password ambient | refresh ambient | prune ambient | flush ambient => exact old

end

/-- Every occurrence keeps the invariant. -/
theorem step_authorized (authorized : Authorized history plane) (occurrence : Occurrence) :
    Authorized (history ++ (plane.step occurrence).2) (plane.step occurrence).1 := by
  by_cases handler : ∀ operation ambient, occurrence ≠ .panel operation ambient
  · apply authorized.after (next_moves authorized occurrence handler)
    · intro command member
      cases occurrence with
      | stage index ambient =>
        rw [Plane.granted] at member
        cases found : plane.tasks[index]? with
        | none =>
          rw [found] at member
          cases member
        | some task =>
          rw [found] at member
          exact task.granted_passive plane.app ambient command member
      | _ => cases member
    · exact next_tasks authorized occurrence handler
  · simp only [not_forall, not_not] at handler
    obtain ⟨operation, ambient, rfl⟩ := handler
    have quiet : (plane.step (.panel operation ambient)).2 = [] := by
      simp [Plane.step, Plane.next, Plane.granted]
    rw [quiet, append_nil]
    exact authorized.panel _

theorem run_authorized (db : Database) (dns : Text) (occurrences : List Occurrence) :
    Authorized (outputs Plane.step (.new db dns) occurrences).flatten
      (final Plane.step (.new db dns) occurrences) := by
  have start : Authorized [] (.new db dns) := by
    constructor
    · intro sessionId session here
      cases here
    · exact forall_mem_nil _
    · intro index command sessionId noted
      cases noted
  exact history_of_step Plane.step Authorized
    (fun _ _ occurrence authorized => step_authorized authorized occurrence) [] _ occurrences start

end Run

/-- The device lock, in every run from every database. No handler changes the device of
a password that has one, and every activation comes after a grant on its session with
the session's own password. -/
theorem device_lock (db : Database) (dns : Text) (occurrences : List Occurrence) :
    (∀ occurrence, (∀ operation ambient, occurrence ≠ .panel operation ambient) →
      (final Plane.step (.new db dns) occurrences).app.db.KeepsBindings
        ((final Plane.step (.new db dns) occurrences).next occurrence).app.db) ∧
    (∀ before after sessionId ip registrationId workerId desiredCount,
      (outputs Plane.step (.new db dns) occurrences).flatten = before ++ .issued
        (.activateTunnel sessionId ip registrationId workerId desiredCount) :: after →
      ∃ session now granting deviceId access,
        (final Plane.step (.new db dns) occurrences).app.records.lookup sessionId = some session ∧
        .granted sessionId now granting session.password deviceId ∈ before ∧
        getconfCredentialAccess now granting session.password deviceId = .ok access) := by
  have authorized := run_authorized db dns occurrences
  constructor
  · intro occurrence handler
    exact (next_moves authorized occurrence handler).bindings
  · intro before after sessionId ip registrationId workerId desiredCount split
    have noted : (before ++ .issued (.activateTunnel sessionId ip registrationId workerId
        desiredCount) :: after)[before.length]? = some (.issued (.activateTunnel sessionId ip
          registrationId workerId desiredCount)) := by
      rw [getElem?_append_right (Nat.le_refl _), Nat.sub_self]
      rfl
    rw [← split] at noted
    obtain ⟨session, here, granted⟩ := authorized.preceded before.length _ sessionId noted rfl
    rw [split, take_left] at granted
    obtain ⟨now, granting, deviceId, access, member, allowed⟩ := granted
    exact ⟨session, now, granting, deviceId, access, here, member, allowed⟩

/-- Whether a note is an activation of a session. -/
def Note.activates (sessionId : Nat) : Note → Bool
  | .issued command => activated command == some sessionId
  | .granted _ _ _ _ _ => false

theorem exists_activation (found : history.any (Note.activates sessionId)) :
    ∃ before after ip registrationId workerId desiredCount, history = before ++
      .issued (.activateTunnel sessionId ip registrationId workerId desiredCount) :: after := by
  obtain ⟨note, member, activates⟩ := any_eq_true.mp found
  obtain ⟨before, after, split⟩ := append_of_mem member
  cases note with
  | granted other now db password deviceId => cases activates
  | issued command =>
    cases command with
    | activateTunnel other ip registrationId workerId desiredCount =>
      cases Option.some.inj (beq_iff_eq.mp activates)
      exact ⟨before, after, ip, registrationId, workerId, desiredCount, split⟩
    | _ => cases activates

/-- A request for the device `D` with the password `p` is granted and activates the
tunnel. The engine closes the tunnel, and a packet on the session activates it again. -/
def lateActivation : List Occurrence :=
  [.wrote 1 (.opened [0x70] ⟨[0x44], 7, []⟩), .created 1 quiet,
    .payload 1 (getconfText [0x44] [0x70])] ++
  List.replicate 20 (.stage 0 quiet) ++
  [.wrote 1 (.tunnel false), .ingress 1 [0x45]] ++ List.replicate 4 (.stage 0 quiet)

/-- The activations come after the grant. -/
theorem late_activation_granted : ∃ before after ip registrationId workerId desiredCount,
      (outputs Plane.step (.new (tenants [0x44] 0).db []) lateActivation).flatten = before ++
        .issued (.activateTunnel 1 ip registrationId workerId desiredCount) :: after ∧
      ∃ session now granting deviceId access,
        (final Plane.step (.new (tenants [0x44] 0).db []) lateActivation).app.records.lookup 1 =
          some session ∧ .granted 1 now granting session.password deviceId ∈ before ∧
        getconfCredentialAccess now granting session.password deviceId = .ok access := by
  have found : (outputs Plane.step (.new (tenants [0x44] 0).db []) lateActivation).flatten.any
      (Note.activates 1) := by decide +kernel
  obtain ⟨before, after, ip, registrationId, workerId, desiredCount, split⟩ :=
    exists_activation found
  exact ⟨before, after, ip, registrationId, workerId, desiredCount, split,
    (device_lock (tenants [0x44] 0).db [] lateActivation).2 before after 1 ip registrationId workerId
      desiredCount split⟩

end Csqtt.Control
