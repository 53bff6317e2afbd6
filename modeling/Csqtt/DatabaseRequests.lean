import Csqtt.Confinement
import Csqtt.Runs

/-!
# What happens to the database

Handlers, the panel and the flush of the traffic change the database under its lock, one after
the other. A `GETCONF` that passed the checks changes it once, when it is decided; an operation
of the panel is one change; and so are the bytes of one session. These are the demands on the
database, and `serve` does one of them.

Every run of the control plane, whatever its handlers do at the same time, changes the
database as its demands do, one after the other: `Plane.demands` lists what the handler, the
panel or the flush demands at each occurrence. So what holds after every list of demands holds
in every state of the control plane.
-/

namespace Csqtt.Control

open ControlText Engine List Runs Database

inductive Demand
  | getconf (now : Int) (dns : Text) (request : Getconf)
  | panel (now : Int) (operation : PanelOperation)
  | flush (session : Session)

/-- The operation of the panel, with its time. -/
def Demand.operation : Demand → Option (Int × PanelOperation)
  | .panel now operation => some (now, operation)
  | _ => none

/-- The operation of the panel, with its time. -/
def Occurrence.operation : Occurrence → Option (Int × PanelOperation)
  | .panel operation ambient => some (ambient.now, operation)
  | _ => none

/-- A request that passed the checks names a device. -/
def Demand.Named : Demand → Prop
  | .getconf _ _ request => request.epoch.deviceId ≠ []
  | _ => True

namespace Database

/-- The database after a demand, and the answer to a request. -/
def serve (db : Database) : Demand → Database × Option Answer
  | .getconf now dns request =>
    match getconfCredentialAccess now db request.password request.epoch.deviceId with
    | .error denial => (db, some (.denied denial))
    | .ok access =>
      let (db, verdict) := db.configure dns request access
      (db, some verdict.answer)
  | .panel now operation => (db.operate now operation, none)
  | .flush session => (db.credit session, none)

variable (db : Database)

theorem serve_refused {now : Int} {dns : Text} {request : Getconf} {denial : Denial}
    (refused : getconfCredentialAccess now db request.password request.epoch.deviceId =
      .error denial) : (db.serve (.getconf now dns request)).1 = db := by
  rw [serve, refused]

theorem serve_granted {now : Int} {dns : Text} {request : Getconf} {access : CredentialAccess}
    (granted : getconfCredentialAccess now db request.password request.epoch.deviceId =
      .ok access) : (db.serve (.getconf now dns request)).1 =
      ((db.bind access request.password request.epoch.deviceId).1.place
        request.epoch.deviceId).1 := by
  rw [serve, granted]
  rfl

/-- What binding and placing, the panel and the traffic keep, every demand keeps. -/
theorem serve_keeps {P : Database → Prop} (same : P db)
    (granted : ∀ access password deviceId, P ((db.bind access password deviceId).1.place deviceId).1)
    (operated : ∀ now operation, P (db.operate now operation))
    (credited : ∀ session, P (db.credit session)) (demand : Demand) : P (db.serve demand).1 := by
  cases demand with
  | getconf now dns request =>
    cases decided : getconfCredentialAccess now db request.password request.epoch.deviceId with
    | error denial =>
      rw [db.serve_refused decided]
      exact same
    | ok access =>
      rw [db.serve_granted decided]
      exact granted _ _ _
  | panel now operation => exact operated now operation
  | flush session => exact credited session

@[simp] theorem operate_devices (now : Int) (operation : PanelOperation) :
    (db.operate now operation).devices = db.devices := by
  have amended : ∀ password change, (db.amendPassword password change).devices = db.devices := by
    intro password change
    rw [amendPassword]
    split
    · rfl
    · rfl
  cases operation with
  | create password expiresAt | expire password =>
    rw [operate]
    split
    · rfl
    · rfl
  | update password expiresAt | toggle password => exact amended _ _
  | unbind password =>
    rw [operate]
    split
    · rfl
    · exact amended _ _
  | delete password | setMain password => rfl

theorem creditDevice_ip (deviceId : Text) (up down : Nat) (other : Text) :
    ((db.creditDevice deviceId up down).devices.lookup other).map ClientDevice.ip =
      (db.devices.lookup other).map ClientDevice.ip := by
  rw [creditDevice]
  split
  · rfl
  rename_i device here
  by_cases same : other = deviceId
  · rw [same, AList.lookup_insert, here]
    rfl
  · rw [AList.lookup_insert_ne same]

theorem credit_ip (session : Session) (other : Text) :
    ((db.credit session).devices.lookup other).map ClientDevice.ip =
      (db.devices.lookup other).map ClientDevice.ip := by
  rw [credit]
  split
  · exact creditDevice_ip _ _ _ _ other
  split
  · dsimp only
    split
    · rfl
    · exact creditDevice_ip _ _ _ _ other
  · rfl

end Database

/-! ## Runs of the control plane -/

/-- A handler that may do everything. What it does within these limits leaves the database alone. -/
def Limits.free (own : Nat) : Limits where
  own := own
  may _ := True
  gone _ := True
  worker _ := True

theorem Limits.free_serves (app : App) (ambient : Ambient) (task : Task) :
    (Limits.free task.session).Serves app ambient task where
  own := rfl
  passive _ _ := trivial
  gone _ := trivial
  actions := by
    intro _ _ _ action _
    cases action with
    | activate ip workerId desiredCount => exact fun _ => trivial
    | dropRejected epoch => exact ⟨trivial, trivial⟩
    | _ => trivial
  opening _ _ _ _ _ _ _ := trivial

namespace App

variable (app : App) (ambient : Ambient) (sessionId : Nat)

theorem onSessionCreated_db : (app.onSessionCreated ambient sessionId).db = app.db := by
  have pruned : Confined (.free sessionId) ambient app (app.prunePublicSessions ambient) :=
    app.dropWhere_confined ambient fun _ _ _ => ⟨trivial, trivial⟩
  rw [onSessionCreated]
  split
  · exact pruned.db
  · exact pruned.db

theorem onRecordWrite_db (write : RecordWrite) :
    (app.onRecordWrite sessionId write).db = app.db := by
  have amended : ∀ change, (app.amend sessionId change).db = app.db := by
    intro change
    rw [amend]
    split
    · rfl
    · rfl
  cases write with
  | opened password epoch =>
    rw [onRecordWrite]
    split
    · rfl
    · rfl
  | epoch epoch | activated ip desiredCount | tunnel isOpen | counters up down => exact amended _

theorem establish_free (request : Getconf) :
    Confined (.free sessionId) ambient app (app.establish ambient sessionId request) :=
  app.establish_confined ambient request trivial ⟨trivial, trivial⟩ fun _ _ _ _ => ⟨trivial, trivial⟩

theorem decideGetconf_db (request : Getconf) : (app.decideGetconf ambient sessionId request).1.db =
      (app.db.serve (.getconf ambient.now app.dns request)).1 := by
  rw [decideGetconf]
  cases decided : getconfCredentialAccess ambient.now app.db request.password
      request.epoch.deviceId with
  | error denial => exact (app.db.serve_refused decided).symm
  | ok access =>
    rw [app.db.serve_granted decided]
    exact congrArg (fun db => (configure db app.dns request access).1)
      (app.establish_free ambient sessionId request).db

/-- A handler is told what the database answers. -/
theorem decideGetconf_answer (request : Getconf) :
    (app.db.serve (.getconf ambient.now app.dns request)).2 =
      some (app.decideGetconf ambient sessionId request).2.answer := by
  rw [decideGetconf, serve]
  cases getconfCredentialAccess ambient.now app.db request.password request.epoch.deviceId with
  | error denial => rfl
  | ok access =>
    have established := app.establish_free ambient sessionId request
    simp only [grant, established.db, established.dns]

/-- The sessions whose bytes a flush moves to the database. -/
def flushed (app : App) : List Nat → List Session
  | [] => []
  | sessionId :: rest =>
    ((app.records.lookup sessionId).filter fun session =>
      !decide (session.upBytes = 0 ∧ session.downBytes = 0)).toList ++
      (app.flushSession sessionId).flushed rest

/-- A flush moves the bytes of one session after the other. -/
theorem flushed_db (ids : List Nat) :
    (ids.foldl flushSession app).db = final serve app.db ((app.flushed ids).map Demand.flush) := by
  induction ids generalizing app with
  | nil => rfl
  | cons sessionId rest ih =>
    rw [foldl_cons, ih, flushed, map_append, final_append]
    congr 1
    rw [flushSession]
    cases app.records.lookup sessionId with
    | none => rfl
    | some session =>
      by_cases nothing : session.upBytes = 0 ∧ session.downBytes = 0
      · simp only [Option.filter_some, nothing, and_self, decide_true, Bool.not_true, if_true]
        rfl
      · simp only [Option.filter_some, nothing, decide_false, Bool.not_false, if_true, if_false]
        rfl

/-- A session in the table that has moved bytes since the last flush. -/
def Unflushed (session : Session) : Prop :=
  ∃ sessionId ∈ app.sessions, app.records.lookup sessionId = some session ∧
    ¬ (session.upBytes = 0 ∧ session.downBytes = 0)

/-- A flush of one session changes no other. -/
theorem flushSession_lookup (other : Nat) : (app.flushSession sessionId).records.lookup other =
    if other = sessionId then
      (app.records.lookup sessionId).map fun session => { session with upBytes := 0, downBytes := 0 }
    else app.records.lookup other := by
  rw [flushSession]
  cases here : app.records.lookup sessionId with
  | none =>
    dsimp only
    split
    · rename_i same
      rw [same, here, Option.map_none]
    · rfl
  | some session =>
    dsimp only
    rw [apply_ite App.records, ite_self]
    split
    · rename_i same
      rw [same, AList.lookup_insert, Option.map_some]
    · rename_i different
      rw [AList.lookup_insert_ne different]

/-- A flush moves the bytes of the sessions that have any; a session that comes twice has none left
the second time. -/
theorem mem_flushed {ids : List Nat} {session : Session} :
    session ∈ app.flushed ids ↔ ∃ sessionId ∈ ids, app.records.lookup sessionId = some session ∧
      ¬ (session.upBytes = 0 ∧ session.downBytes = 0) := by
  induction ids generalizing app with
  | nil => simp [flushed]
  | cons sessionId rest ih =>
    rw [flushed, mem_append, ih, Option.mem_toList, Option.filter_eq_some_iff, Bool.not_eq_true',
      decide_eq_false_iff_not]
    constructor
    · rintro (first | ⟨other, member, found, some⟩)
      · exact ⟨sessionId, mem_cons_self, first⟩
      · rw [flushSession_lookup] at found
        split at found
        · obtain ⟨_, _, rfl⟩ := Option.map_eq_some_iff.mp found
          exact absurd ⟨rfl, rfl⟩ some
        · exact ⟨other, mem_cons_of_mem _ member, found, some⟩
    · rintro ⟨other, member, found, some⟩
      by_cases same : other = sessionId
      · exact .inl ⟨same ▸ found, some⟩
      · refine .inr ⟨other, (mem_cons.mp member).resolve_left same, ?_, some⟩
        rw [flushSession_lookup, if_neg same, found]

end App

/-- What a handler demands at its next stage: the decision about the request it has locked the device
for, if the database can be locked. -/
def Task.demands (app : App) (ambient : Ambient) : Task → List Demand
  | .locked _ request _ =>
    if ambient.locked then [.getconf ambient.now app.dns request] else []
  | _ => []

/-- A stage of a handler does to the database what it demands. -/
theorem Task.run_db (app : App) (ambient : Ambient) (task : Task) :
    (task.run app ambient).1.db = final serve app.db (task.demands app ambient) := by
  have stage := Task.run_stage (Limits.free_serves app ambient task)
  cases task with
  | locked sessionId request createdEpoch =>
    rw [Task.run, Task.demands]
    cases ambient.locked with
    | false => rfl
    | true => exact app.decideGetconf_db ambient sessionId request
  | _ =>
    obtain ⟨_, confined⟩ := (stage fun _ _ _ same => by cases same).confined
    exact confined.db

/-- A request that was read from a payload. -/
def Requested (occurrences : List Occurrence) (request : Getconf) : Prop :=
  ∃ sessionId bytes password, .payload sessionId bytes ∈ occurrences ∧
    readGetconf password bytes = .ok request

/-- A handler works on a payload, or on a request that was read from one. -/
def Task.Asked (occurrences : List Occurrence) : Task → Prop
  | .payload sessionId bytes => .payload sessionId bytes ∈ occurrences
  | .asked _ request | .admitted _ request | .locked _ request _ => Requested occurrences request
  | _ => True

variable {occurrences : List Occurrence}

/-- No stage invents a request. -/
theorem Task.Asked.next {task next : Task} {app : App} {ambient : Ambient}
    (asked : task.Asked occurrences) (follows : task.Next app ambient next) :
    next.Asked occurrences := by
  cases follows with
  | asks here read => exact ⟨_, _, _, asked, read⟩
  | responds sessionId answer | rejects sessionId request denial | acts sessionId action rest =>
    trivial
  | admits sessionId request | locks sessionId request createdEpoch => exact asked
  | goes plain =>
    cases next with
    | payload sessionId bytes | asked sessionId request | admitted sessionId request
    | locked sessionId request createdEpoch => cases plain
    | _ => trivial

theorem Task.Asked.run {task : Task} (asked : task.Asked occurrences) (app : App)
    (ambient : Ambient) : ∀ next ∈ (task.run app ambient).2, next.Asked occurrences := by
  intro next member
  have stage := Task.run_stage (Limits.free_serves app ambient task)
  cases task with
  | locked sessionId request createdEpoch =>
    rw [Task.run] at member
    split at member
    · cases member
    · cases member
      trivial
  | _ => exact asked.next ((stage fun _ _ _ same => by cases same).next next member)

namespace Plane

/-- What is demanded of the database at an occurrence. -/
def demands (plane : Plane) : Occurrence → List Demand
  | .stage index ambient => plane.tasks[index]?.elim [] (Task.demands plane.app ambient)
  | .panel operation ambient => [.panel ambient.now operation]
  | .flush ambient =>
    if ambient.locked then (plane.app.flushed plane.app.sessions).map .flush else []
  | _ => []

/-- The next state, with what is demanded on the way there. -/
def demanding (plane : Plane) (occurrence : Occurrence) : Plane × List Demand :=
  (plane.next occurrence, plane.demands occurrence)

/-- All demands of a run, in the order of the occurrences. -/
def allDemands : Plane → List Occurrence → List Demand := collected demanding demands

/-- An occurrence does to the database what is demanded at it. -/
theorem next_db (plane : Plane) (occurrence : Occurrence) :
    (plane.next occurrence).app.db = final serve plane.app.db (plane.demands occurrence) := by
  cases occurrence with
  | created sessionId ambient => exact plane.app.onSessionCreated_db ambient sessionId
  | closed sessionId | payload sessionId bytes | ingress sessionId bytes
  | panel operation ambient => rfl
  | wrote sessionId write => exact plane.app.onRecordWrite_db sessionId write
  | dropPassword password ambient =>
    have queued : Confined (.free 0) ambient plane.app
        (plane.app.command ambient (.dropPassword password)).1 :=
      plane.app.command_confined ambient trivial
    exact queued.db
  | refresh ambient =>
    have queued : Confined (.free 0) ambient plane.app (plane.app.refreshCredentials ambient) :=
      plane.app.refreshCredentials_confined ambient trivial
    exact queued.db
  | prune ambient =>
    have pruned : Confined (.free 0) ambient plane.app (plane.app.prunePublicSessions ambient) :=
      plane.app.dropWhere_confined ambient fun _ _ _ => ⟨trivial, trivial⟩
    exact pruned.db
  | flush ambient =>
    rw [next, App.flushTraffic, demands]
    split
    · exact plane.app.flushed_db plane.app.sessions
    · rfl
  | stage index ambient =>
    rw [next, stage, demands]
    cases plane.tasks[index]? with
    | none => rfl
    | some task =>
      have changed := task.run_db plane.app ambient
      dsimp only [Option.elim_some]
      split
      · rename_i ran
        rw [ran] at changed
        exact changed
      · rename_i ran
        rw [ran] at changed
        exact changed

/-- Every run does to the database what is demanded in it. -/
theorem run_db (plane : Plane) (occurrences : List Occurrence) :
    (occurrences.foldl next plane).app.db =
      final serve plane.app.db (plane.allDemands occurrences) := by
  induction occurrences generalizing plane with
  | nil => rfl
  | cons occurrence rest ih =>
    rw [foldl_cons, ih, next_db, ← final_append]
    rfl

/-- All handlers work on payloads, or on requests that were read from them. -/
def Asked (plane : Plane) (occurrences : List Occurrence) : Prop :=
  ∀ task ∈ plane.tasks, task.Asked occurrences

theorem Asked.next {plane : Plane} (asked : plane.Asked occurrences) {occurrence : Occurrence}
    (member : occurrence ∈ occurrences) : (plane.next occurrence).Asked occurrences := by
  have started : ∀ {task : Task}, task.Asked occurrences →
      Asked { plane with tasks := plane.tasks ++ [task] } occurrences :=
    fun new => forall_mem_append.mpr ⟨asked, forall_mem_singleton.mpr new⟩
  cases occurrence with
  | payload sessionId bytes => exact started member
  | ingress sessionId bytes => exact started trivial
  | stage index ambient =>
    rw [Plane.next, stage]
    cases found : plane.tasks[index]? with
    | none => exact asked
    | some task =>
      have later := (asked task (mem_of_getElem? found)).run plane.app ambient
      dsimp only
      split
      · rename_i next ran
        rw [ran] at later
        intro other member
        obtain old | rfl := mem_or_eq_of_mem_set member
        · exact asked other old
        · exact later _ rfl
      · exact fun other member => asked other (mem_of_mem_eraseIdx member)
  | _ => exact asked

/-- The handlers of every state of a run work on what the run was asked. -/
theorem Asked.meets {plane reached : Plane} {rest : List Occurrence} {occurrence : Occurrence}
    (asked : plane.Asked occurrences) (within : rest ⊆ occurrences)
    (met : Meets demanding plane rest reached occurrence) : reached.Asked occurrences := by
  induction met with
  | here => exact asked
  | later met ih =>
    obtain ⟨member, within⟩ := cons_subset.mp within
    exact ih (asked.next member) within

/-- A handler that has locked the device of a request and holds the lock of the database goes on
with the answer of the database. -/
structure Decides (plane : Plane) (index : Nat) (ambient : Ambient) (request : Getconf) : Prop where
  locked : ambient.locked = true
  answered : ∃ sessionId createdEpoch, ∃ verdict : Verdict,
    plane.tasks[index]? = some (.locked sessionId request createdEpoch) ∧
    (plane.app.db.serve (.getconf ambient.now plane.app.dns request)).2 = some verdict.answer ∧
    (plane.next (.stage index ambient)).tasks[index]? =
      some (.acting sessionId (verdict.actions sessionId request createdEpoch))

theorem demands_operation (plane : Plane) (occurrence : Occurrence) :
    (plane.demands occurrence).filterMap Demand.operation = occurrence.operation.toList := by
  cases occurrence with
  | stage index ambient =>
    rw [demands]
    cases plane.tasks[index]? with
    | none => rfl
    | some task =>
      cases task with
      | locked sessionId request createdEpoch =>
        rw [Option.elim_some, Task.demands]
        split
        · rfl
        · rfl
      | _ => rfl
  | flush ambient =>
    rw [demands]
    split
    · rw [filterMap_map]
      exact filterMap_eq_nil_iff.mpr fun _ _ => rfl
    · rfl
  | _ => rfl

theorem allDemands_operation (plane : Plane) (occurrences : List Occurrence) :
    (plane.allDemands occurrences).filterMap Demand.operation =
      occurrences.filterMap Occurrence.operation := by
  induction occurrences generalizing plane with
  | nil => rfl
  | cons occurrence rest ih =>
    have later := ih (plane.next occurrence)
    rw [allDemands] at later ⊢
    rw [collected, filterMap_append, demands_operation, demanding, later, filterMap_cons]
    cases occurrence.operation with
    | none => rfl
    | some operation => rfl

/-- A stage of a handler demands that its request is decided, if it holds both locks. -/
theorem mem_demands_stage {plane : Plane} {index : Nat} {ambient : Ambient} {demand : Demand} :
    demand ∈ plane.demands (.stage index ambient) ↔ ∃ sessionId request createdEpoch,
      plane.tasks[index]? = some (.locked sessionId request createdEpoch) ∧ ambient.locked = true ∧
        demand = .getconf ambient.now plane.app.dns request := by
  rw [demands]
  constructor
  · intro demanded
    cases found : plane.tasks[index]? with
    | none =>
      rw [found] at demanded
      cases demanded
    | some task =>
      rw [found, Option.elim_some] at demanded
      cases task with
      | locked sessionId request createdEpoch =>
        rw [Task.demands] at demanded
        split at demanded
        · rename_i locked
          exact ⟨sessionId, request, createdEpoch, rfl, locked, mem_singleton.mp demanded⟩
        · cases demanded
      | _ => cases demanded
  · rintro ⟨sessionId, request, createdEpoch, waits, locked, rfl⟩
    rw [waits, Option.elim_some, Task.demands, if_pos locked]
    exact mem_singleton_self _

/-- A flush demands the bytes of the sessions in the table, if it gets the lock. -/
theorem mem_demands_flush {plane : Plane} {ambient : Ambient} {demand : Demand} :
    demand ∈ plane.demands (.flush ambient) ↔
      ambient.locked = true ∧ ∃ session, plane.app.Unflushed session ∧ demand = .flush session := by
  rw [demands]
  split
  · rename_i locked
    simp only [mem_map, App.mem_flushed, App.Unflushed, locked, true_and, eq_comm]
  · rename_i free
    exact iff_of_false not_mem_nil fun ⟨locked, _⟩ => free locked

/-- A handler that holds both locks decides, and goes on with the answer. -/
theorem decides {plane : Plane} {index sessionId : Nat} {ambient : Ambient} {request : Getconf}
    {createdEpoch : Bool} (waits : plane.tasks[index]? = some (.locked sessionId request createdEpoch))
    (locked : ambient.locked = true) : plane.Decides index ambient request := by
  refine ⟨locked, sessionId, createdEpoch, _, waits,
    plane.app.decideGetconf_answer ambient sessionId request, ?_⟩
  rw [next, stage, waits]
  simp only [Task.run, locked, Bool.not_true, Bool.false_eq_true, if_false]
  exact getElem?_set_self (List.getElem?_eq_some_iff.mp waits).1

/-- Every run of the control plane, whatever its handlers do at the same time, changes the database
exactly as what is demanded in it, served one after the other. The operations of the panel are
demanded once each and in their order. The bytes of a session are demanded exactly if it has some at
a flush that gets the lock of the database. A request is demanded exactly if a handler decides about
it, and the handler then goes on with the answer of the database; the request was read from a payload
of the run. -/
theorem database_is_serialized (db : Database) (dns : Text) (occurrences : List Occurrence) :
    let start := Plane.new db dns
    let demands := start.allDemands occurrences
    (occurrences.foldl next start).app.db = final serve db demands ∧
      demands.filterMap Demand.operation = occurrences.filterMap Occurrence.operation ∧
      (∀ session, .flush session ∈ demands ↔ ∃ plane ambient,
        Meets demanding start occurrences plane (.flush ambient) ∧ ambient.locked = true ∧
          plane.app.Unflushed session) ∧
      ∀ now servers request, .getconf now servers request ∈ demands ↔
        Requested occurrences request ∧ ∃ plane index ambient,
          Meets demanding start occurrences plane (.stage index ambient) ∧ now = ambient.now ∧
            servers = plane.app.dns ∧ plane.Decides index ambient request := by
  intro start demands
  refine ⟨run_db _ occurrences, allDemands_operation _ occurrences, ?_, ?_⟩
  · intro session
    refine mem_collected.trans ?_
    constructor
    · rintro ⟨plane, occurrence, met, demanded⟩
      cases occurrence with
      | flush ambient =>
        obtain ⟨locked, _, unflushed, ⟨⟩⟩ := mem_demands_flush.mp demanded
        exact ⟨plane, ambient, met, locked, unflushed⟩
      | stage index ambient =>
        obtain ⟨_, _, _, _, _, ⟨⟩⟩ := mem_demands_stage.mp demanded
      | panel operation ambient => cases mem_singleton.mp demanded
      | _ => cases demanded
    · rintro ⟨plane, ambient, met, locked, unflushed⟩
      exact ⟨plane, _, met, mem_demands_flush.mpr ⟨locked, session, unflushed, rfl⟩⟩
  · intro now servers request
    refine mem_collected.trans ?_
    constructor
    · rintro ⟨plane, occurrence, met, demanded⟩
      cases occurrence with
      | stage index ambient =>
        obtain ⟨sessionId, _, createdEpoch, waits, locked, ⟨⟩⟩ := mem_demands_stage.mp demanded
        have asked : start.Asked occurrences := forall_mem_nil _
        exact ⟨(asked.meets (Subset.refl _) met) _ (mem_of_getElem? waits),
          plane, index, ambient, met, rfl, rfl, decides waits locked⟩
      | flush ambient =>
        obtain ⟨_, _, _, ⟨⟩⟩ := mem_demands_flush.mp demanded
      | panel operation ambient => cases mem_singleton.mp demanded
      | _ => cases demanded
    · rintro ⟨-, plane, index, ambient, met, rfl, rfl, locked, _, _, _, waits, _⟩
      exact ⟨plane, _, met, mem_demands_stage.mpr ⟨_, _, _, waits, locked, rfl⟩⟩

end Plane

end Csqtt.Control
