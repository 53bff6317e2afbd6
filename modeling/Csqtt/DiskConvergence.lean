import Csqtt.DatabaseFile
import Csqtt.DatabaseRequests
import Csqtt.Persistence

/-!
# The database in memory and its file

Whoever changes the database in memory holds its lock and submits a snapshot before the lock
is released. A flush of the traffic holds the lock too while it moves the bytes of the
sessions to the counters and notes what the counters are then, but it releases the lock
before it submits what it has noted. Counters are submitted as they are, not as differences.

So a flush that was overtaken by another one submits counters that are out of date, and if
they are written last, the file stays behind the memory. If every flush submits counters that
are still current, or leaves it to a later flush to bring those that are not, the file equals
the database in memory whenever nothing is on its way.

All writes succeed here. Of a row, the columns are left out that no modeled function reads;
a snapshot writes them like the others, and the traffic never touches them. What is written
here is what a file with all columns gives back, and flushes and changes are those of the
control plane.
-/

namespace Csqtt.Persistence

open ControlText Control List Runs Option Table Bool Database TrafficSnapshot

/-! ## What is written -/

def withPasswordCounters (counters : TrafficCounters) (entry : PasswordEntry) : PasswordEntry :=
  { entry with upBytes := counters.upBytes, downBytes := counters.downBytes }

def withDeviceCounters (counters : TrafficCounters) (device : ClientDevice) : ClientDevice :=
  { device with upBytes := counters.upBytes, downBytes := counters.downBytes }

/-- Write a snapshot. Rows that are not in it are removed; a device is stored under the id in
its row. -/
def writeDatabaseSnapshot (disk db : Database) : Database where
  mainPassword := db.mainPassword
  mainDeviceId := db.mainDeviceId
  mainUpBytes := db.mainUpBytes
  mainDownBytes := db.mainDownBytes
  passwords := disk.passwords.rewrite db.passwords db.passwords.rows
  devices := disk.devices.rewrite db.devices
    (db.devices.rows.map fun row => (row.2.deviceId, row.2))

/-- Write counters. A password or device that is gone is not brought back. -/
def writeTraffic (disk : Database) (traffic : TrafficSnapshot) : Database :=
  { disk with
    mainUpBytes := traffic.main.elim disk.mainUpBytes TrafficCounters.upBytes
    mainDownBytes := traffic.main.elim disk.mainDownBytes TrafficCounters.downBytes
    passwords := disk.passwords.revise withPasswordCounters traffic.passwords.rows
    devices := disk.devices.revise withDeviceCounters traffic.devices.rows }

def persistDatabaseUpdate (disk : Database) : PersistenceUpdate → Database
  | .snapshot db => writeDatabaseSnapshot disk db
  | .traffic traffic => writeTraffic disk traffic

/-! ## Flushing the traffic -/

/-- Note the counters of a device after the bytes of a session. -/
def TrafficSnapshot.noteDevice (traffic : TrafficSnapshot) (db : Database) (deviceId : Text)
    (session : Session) : TrafficSnapshot :=
  match db.devices.lookup deviceId with
  | none => traffic
  | some device =>
    { traffic with
      devices := traffic.devices.insert deviceId
        ⟨addBytes device.upBytes session.upBytes, addBytes device.downBytes session.downBytes⟩ }

/-- Note the counters that change when the bytes of a session are moved to the database. -/
def TrafficSnapshot.note (traffic : TrafficSnapshot) (db : Database) (session : Session) :
    TrafficSnapshot :=
  match db.passwords.lookup session.password with
  | some entry =>
    { traffic with
      passwords := traffic.passwords.insert session.password
        ⟨addBytes entry.upBytes session.upBytes,
          addBytes entry.downBytes session.downBytes⟩ }.noteDevice db entry.deviceId session
  | none =>
    if session.password = db.mainPassword then
      let traffic := { traffic with
        main := some ⟨addBytes db.mainUpBytes session.upBytes,
          addBytes db.mainDownBytes session.downBytes⟩ }
      if session.epoch.deviceId = [] then traffic
      else traffic.noteDevice db session.epoch.deviceId session
    else traffic

/-- Move the bytes of sessions to the database. The answer is what the counters are then. -/
def flushTraffic (db : Database) (sessions : List Session) : Database × TrafficSnapshot :=
  sessions.foldl (fun (db, traffic) session =>
    if session.upBytes = 0 ∧ session.downBytes = 0 then (db, traffic)
    else (db.credit session, traffic.note db session)) (db, ⟨none, ∅, ∅⟩)

/-! ## Runs -/

/-- Every device stands under its own id. -/
def Keyed (db : Database) : Prop :=
  ∀ deviceId device, db.devices.lookup deviceId = some device → device.deviceId = deviceId

/-- The database in memory and in its file, and what is on its way. `unsaved` means that a
handler holds the lock, has changed the database and has not submitted it yet; `flushes` are
counters that were noted and not submitted yet. -/
structure Store where
  db : Database
  disk : Database
  persistence : DatabasePersistence
  unsaved : Bool
  flushes : List TrafficSnapshot

/-- What happens next: a handler changes the database or submits it, a flush notes the
counters of sessions or submits what it has noted, or the thread takes an update or has
written it. -/
inductive Happening
  | change (db : Database) (keyed : Keyed db)
  | submit
  | capture (sessions : List Session)
  | submitTraffic (index : Nat)
  | take
  | finish

namespace Store

/-- Nothing is on its way. -/
def new (db : Database) : Store := ⟨db, db, .new, false, []⟩

/-- The next state. A flush needs the lock to note the counters. -/
def step (store : Store) : Happening → Store × Unit
  | .change db _ => ({ store with db := db, unsaved := true }, ())
  | .submit =>
    ({ store with persistence := (store.persistence.submit store.db).1, unsaved := false }, ())
  | .capture sessions =>
    if store.unsaved then (store, ())
    else
      let (db, traffic) := flushTraffic store.db sessions
      ({ store with db := db, flushes := store.flushes ++ [traffic] }, ())
  | .submitTraffic index =>
    match store.flushes[index]? with
    | none => (store, ())
    | some traffic =>
      ({ store with
        persistence := (store.persistence.submitTraffic traffic).1
        flushes := store.flushes.eraseIdx index }, ())
  | .take => ({ store with persistence := store.persistence.take }, ())
  | .finish =>
    ({ store with
      persistence := store.persistence.finish none
      disk := store.persistence.current.elim store.disk fun update =>
        persistDatabaseUpdate store.disk update.2 }, ())

/-- All handlers and flushes are done, and the queue is drained. -/
structure Idle (store : Store) : Prop where
  saved : store.unsaved = false
  flushed : store.flushes = []
  drained : store.persistence.queue.pending = []
  written : store.persistence.current = none

end Store

/-- Two databases with the same passwords, devices and counters. -/
structure Same (disk db : Database) : Prop where
  mainPassword : disk.mainPassword = db.mainPassword
  mainDeviceId : disk.mainDeviceId = db.mainDeviceId
  mainUpBytes : disk.mainUpBytes = db.mainUpBytes
  mainDownBytes : disk.mainDownBytes = db.mainDownBytes
  passwords : ∀ password, disk.passwords.lookup password = db.passwords.lookup password
  devices : ∀ deviceId, disk.devices.lookup deviceId = db.devices.lookup deviceId

theorem Same.refl (db : Database) : Same db db :=
  ⟨rfl, rfl, rfl, rfl, fun _ => rfl, fun _ => rfl⟩

/-- Noted counters that the database still has, or that another flush brings later. -/
structure Timely (db : Database) (traffic : TrafficSnapshot) (others : List TrafficSnapshot) :
    Prop where
  main : ∀ counters ∈ traffic.main,
    counters = ⟨db.mainUpBytes, db.mainDownBytes⟩ ∨ ∃ other ∈ others, other.main.isSome
  passwords : ∀ row ∈ traffic.passwords.rows, ∀ entry ∈ db.passwords.lookup row.1,
    withPasswordCounters row.2 entry = entry ∨
      ∃ other ∈ others, (other.passwords.lookup row.1).isSome
  devices : ∀ row ∈ traffic.devices.rows, ∀ device ∈ db.devices.lookup row.1,
    withDeviceCounters row.2 device = device ∨ ∃ other ∈ others, (other.devices.lookup row.1).isSome

/-- A flush submits counters in time: nobody has changed them since it released the lock, or
whoever has will submit them. -/
def InTime (store : Store) : Happening → Prop
  | .submitTraffic index => ∀ traffic ∈ store.flushes[index]?,
    store.unsaved = true ∨ Timely store.db traffic (store.flushes.eraseIdx index)
  | _ => True

/-! ## How far the file is behind -/

/-- The file is right except for counters that flushes have noted. -/
structure Behind (flushes : List TrafficSnapshot) (disk db : Database) : Prop where
  mainPassword : disk.mainPassword = db.mainPassword
  mainDeviceId : disk.mainDeviceId = db.mainDeviceId
  main : (disk.mainUpBytes = db.mainUpBytes ∧ disk.mainDownBytes = db.mainDownBytes) ∨
    ∃ traffic ∈ flushes, traffic.main.isSome
  passwords : Table.Agrees withPasswordCounters disk.passwords db.passwords fun password =>
    ∃ traffic ∈ flushes, (traffic.passwords.lookup password).isSome
  devices : Table.Agrees withDeviceCounters disk.devices db.devices fun deviceId =>
    ∃ traffic ∈ flushes, (traffic.devices.lookup deviceId).isSome

/-- What was noted before is still noted. -/
structure Notes (traffic later : TrafficSnapshot) : Prop where
  main : traffic.main.isSome → later.main.isSome
  passwords : ∀ password, (traffic.passwords.lookup password).isSome →
    (later.passwords.lookup password).isSome
  devices : ∀ deviceId, (traffic.devices.lookup deviceId).isSome →
    (later.devices.lookup deviceId).isSome

variable {traffic : TrafficSnapshot} {db disk : Database} {flushes : List TrafficSnapshot}

namespace Notes

variable {later last : TrafficSnapshot}

theorem refl (traffic : TrafficSnapshot) : Notes traffic traffic :=
  ⟨id, fun _ => id, fun _ => id⟩

theorem trans (early : Notes traffic later) (late : Notes later last) : Notes traffic last :=
  ⟨fun noted => late.main (early.main noted),
    fun password noted => late.passwords password (early.passwords password noted),
    fun deviceId noted => late.devices deviceId (early.devices deviceId noted)⟩

theorem insert {table : Table Text TrafficCounters} {key other : Text} {counters : TrafficCounters}
    (noted : (table.lookup other).isSome) : ((table.insert key counters).lookup other).isSome := by
  rw [lookup_insert_if]
  split
  · rfl
  · exact noted

theorem noteDevice (traffic : TrafficSnapshot) (db : Database) (deviceId : Text) (session : Session) :
    Notes traffic (traffic.noteDevice db deviceId session) := by
  rw [TrafficSnapshot.noteDevice]
  split
  · exact refl traffic
  · exact ⟨id, fun _ => id, fun _ => insert⟩

theorem note (traffic : TrafficSnapshot) (db : Database) (session : Session) :
    Notes traffic (traffic.note db session) := by
  rw [TrafficSnapshot.note]
  split
  · refine Notes.trans ?_ (noteDevice _ db _ session)
    exact ⟨id, fun _ => insert, fun _ => id⟩
  split
  · have main : Notes traffic { traffic with
        main := some ⟨addBytes db.mainUpBytes session.upBytes,
          addBytes db.mainDownBytes session.downBytes⟩ } :=
      ⟨fun _ => rfl, fun _ => id, fun _ => id⟩
    split
    · exact main
    · exact main.trans (noteDevice _ db _ session)
  · exact refl traffic

end Notes

theorem Same.behind (same : Same disk db) (flushes : List TrafficSnapshot) :
    Behind flushes disk db :=
  ⟨same.mainPassword, same.mainDeviceId, .inl ⟨same.mainUpBytes, same.mainDownBytes⟩,
    .of_lookup same.passwords, .of_lookup same.devices⟩

namespace Behind

variable {earlier later : List TrafficSnapshot} {middle : Database}

theorem same (behind : Behind [] disk db) : Same disk db := by
  have none : ∀ {holds : TrafficSnapshot → Prop}, ¬ ∃ traffic ∈ ([] : List TrafficSnapshot),
      holds traffic := by
    rintro holds ⟨traffic, member, _⟩
    cases member
  obtain ⟨up, down⟩ := behind.main.resolve_right none
  exact ⟨behind.mainPassword, behind.mainDeviceId, up, down, behind.passwords.lookup fun _ => none,
    behind.devices.lookup fun _ => none⟩

theorem trans (before : Behind earlier disk middle) (after : Behind later middle db)
    (old : ∀ traffic ∈ earlier, ∃ other ∈ flushes, Notes traffic other)
    (new : ∀ traffic ∈ later, ∃ other ∈ flushes, Notes traffic other) : Behind flushes disk db := by
  have known : ∀ {some : List TrafficSnapshot} {holds : TrafficSnapshot → Prop},
      (∀ traffic ∈ some, ∃ other ∈ flushes, Notes traffic other) →
      (∀ traffic other, Notes traffic other → holds traffic → holds other) →
      (∃ traffic ∈ some, holds traffic) → ∃ traffic ∈ flushes, holds traffic := by
    rintro some holds covered kept ⟨traffic, member, held⟩
    obtain ⟨other, isFlush, notes⟩ := covered traffic member
    exact ⟨other, isFlush, kept traffic other notes held⟩
  refine ⟨before.mainPassword.trans after.mainPassword, before.mainDeviceId.trans after.mainDeviceId,
    ?_, before.passwords.trans after.passwords ?_ ?_, before.devices.trans after.devices ?_ ?_⟩
  · obtain ⟨up, down⟩ | noted := before.main
    · obtain ⟨upToo, downToo⟩ | noted := after.main
      · exact .inl ⟨up.trans upToo, down.trans downToo⟩
      · exact .inr (known new (fun _ _ notes => notes.main) noted)
    · exact .inr (known old (fun _ _ notes => notes.main) noted)
  · exact fun password => known old fun _ _ notes => notes.passwords password
  · exact fun password => known new fun _ _ notes => notes.passwords password
  · exact fun deviceId => known old fun _ _ notes => notes.devices deviceId
  · exact fun deviceId => known new fun _ _ notes => notes.devices deviceId

end Behind

/-! ## Snapshots -/

theorem writeDatabaseSnapshot_same (disk : Database) (keyed : Keyed db) :
    Same (writeDatabaseSnapshot disk db) db := by
  refine ⟨rfl, rfl, rfl, rfl, fun password => lookup_rewrite_rows _ _ password,
    fun deviceId => ?_⟩
  have own : ∀ row ∈ db.devices.rows, row.2.deviceId = row.1 :=
    fun row member => keyed row.1 row.2 (mem_rows.mp member)
  exact (lookup_rewrite _ _ _ own deviceId).trans map_id'

/-! ## Counters -/

theorem withPasswordCounters_replaces (counters other : TrafficCounters) (entry : PasswordEntry) :
    withPasswordCounters counters (withPasswordCounters other entry) =
      withPasswordCounters counters entry :=
  rfl

theorem withDeviceCounters_replaces (counters other : TrafficCounters) (device : ClientDevice) :
    withDeviceCounters counters (withDeviceCounters other device) =
      withDeviceCounters counters device :=
  rfl

theorem creditDevice_behind (db : Database) (traffic : TrafficSnapshot) (deviceId : Text)
    (session : Session) : Behind [traffic.noteDevice db deviceId session] db
      (db.creditDevice deviceId session.upBytes session.downBytes) := by
  rw [creditDevice, TrafficSnapshot.noteDevice]
  cases here : db.devices.lookup deviceId with
  | none => exact (Same.refl db).behind _
  | some device =>
    refine ⟨rfl, rfl, .inl ⟨rfl, rfl⟩, .of_lookup fun _ => rfl, .insert here (fun _ => rfl) ?_⟩
    refine ⟨_, mem_singleton_self _, ?_⟩
    exact isSome_of_eq_some (AList.lookup_insert _)

/-- What a flush does with the bytes of a session, and what it notes. -/
theorem credit_behind (db : Database) (traffic : TrafficSnapshot) (session : Session) :
    Behind [traffic.note db session] db (db.credit session) := by
  have both : ∀ {middle : Database} {noted : TrafficSnapshot} (deviceId : Text),
      Behind [noted] db middle → Behind [noted.noteDevice middle deviceId session] db
        (middle.creditDevice deviceId session.upBytes session.downBytes) := by
    intro middle noted deviceId first
    refine first.trans (creditDevice_behind middle noted deviceId session) ?_ ?_
    · exact forall_mem_singleton.mpr
        ⟨_, mem_singleton_self _, .noteDevice noted middle deviceId session⟩
    · exact forall_mem_singleton.mpr ⟨_, mem_singleton_self _, .refl _⟩
  rw [credit, TrafficSnapshot.note]
  cases here : db.passwords.lookup session.password with
  | some entry =>
    have password : Behind [{ traffic with
        passwords := traffic.passwords.insert session.password
          ⟨addBytes entry.upBytes session.upBytes, addBytes entry.downBytes session.downBytes⟩ }] db
        { db with
          passwords := db.passwords.insert session.password { entry with
            upBytes := addBytes entry.upBytes session.upBytes
            downBytes := addBytes entry.downBytes session.downBytes } } := by
      refine ⟨rfl, rfl, .inl ⟨rfl, rfl⟩, .insert here (fun _ => rfl) ?_, .of_lookup fun _ => rfl⟩
      exact ⟨_, mem_singleton_self _, isSome_of_eq_some (AList.lookup_insert _)⟩
    exact both entry.deviceId password
  | none =>
    dsimp only
    split
    · have main : Behind [{ traffic with
          main := some ⟨addBytes db.mainUpBytes session.upBytes,
            addBytes db.mainDownBytes session.downBytes⟩ }] db
          { db with
            mainUpBytes := addBytes db.mainUpBytes session.upBytes
            mainDownBytes := addBytes db.mainDownBytes session.downBytes } :=
        ⟨rfl, rfl, .inr ⟨_, mem_singleton_self _, rfl⟩, .of_lookup fun _ => rfl,
          .of_lookup fun _ => rfl⟩
      split
      · exact main
      · exact both session.epoch.deviceId main
    · exact (Same.refl db).behind _

/-- A flush notes all counters that it changes. -/
theorem flushTraffic_behind (db : Database) (sessions : List Session) :
    Behind [(flushTraffic db sessions).2] db (flushTraffic db sessions).1 := by
  refine List.foldlRecOn (motive := fun state : Database × TrafficSnapshot =>
    Behind [state.2] db state.1) sessions _
    ((Same.refl db).behind _) ?_
  rintro ⟨middle, traffic⟩ behind session -
  dsimp only
  split
  · exact behind
  refine behind.trans (credit_behind middle traffic session) ?_ ?_
  · exact forall_mem_singleton.mpr ⟨_, mem_singleton_self _, .note traffic middle session⟩
  · exact forall_mem_singleton.mpr ⟨_, mem_singleton_self _, .refl _⟩

theorem Behind.keyed {after : Database} (behind : Behind flushes db after) (keyed : Keyed db) :
    Keyed after := by
  intro deviceId device here
  have alike := (behind.devices deviceId).1 ⟨0, 0⟩
  rw [here, map_some] at alike
  obtain ⟨old, before, same⟩ := map_eq_some_iff.mp alike
  exact (congrArg ClientDevice.deviceId same).symm.trans (keyed deviceId old before)

/-- Counters that are in time bring the file closer. -/
theorem Behind.writeTraffic {others : List TrafficSnapshot} (behind : Behind flushes disk db)
    (split : ∀ other ∈ flushes, other = traffic ∨ other ∈ others)
    (timely : Timely db traffic others) : Behind others (writeTraffic disk traffic) db := by
  have left : ∀ {holds : TrafficSnapshot → Prop}, (∃ other ∈ flushes, holds other) →
      holds traffic ∨ ∃ other ∈ others, holds other := by
    rintro holds ⟨other, member, noted⟩
    obtain rfl | later := split other member
    · exact .inl noted
    · exact .inr ⟨other, later, noted⟩
  refine ⟨behind.mainPassword, behind.mainDeviceId, ?_,
    behind.passwords.revise withPasswordCounters_replaces traffic.passwords ?_ fun _ => left,
    behind.devices.revise withDeviceCounters_replaces traffic.devices ?_ fun _ => left⟩
  · rw [Persistence.writeTraffic]
    cases noted : traffic.main with
    | none =>
      refine behind.main.imp_right fun covered => (left covered).resolve_left ?_
      rw [noted]
      exact false_ne_true
    | some counters =>
      refine (timely.main counters noted).imp_left fun same => ?_
      rw [same]
      exact ⟨rfl, rfl⟩
  · intro password counters found entry here
    exact timely.passwords (password, counters) (mem_rows.mpr found) entry here
  · intro deviceId counters found device here
    exact timely.devices (deviceId, counters) (mem_rows.mpr found) device here

theorem writeTraffic_mergeFrom (disk : Database) (traffic newer : TrafficSnapshot) :
    Same (writeTraffic disk (traffic.mergeFrom newer))
      (writeTraffic (writeTraffic disk traffic) newer) := by
  refine ⟨rfl, rfl, ?_, ?_, ?_, ?_⟩
  · cases main : newer.main with
    | none => simp only [writeTraffic, mergeFrom, main, none_or, elim_none]
    | some counters =>
      simp [writeTraffic, mergeFrom, main]
  · cases main : newer.main with
    | none => simp only [writeTraffic, mergeFrom, main, none_or, elim_none]
    | some counters =>
      simp [writeTraffic, mergeFrom, main]
  · exact fun password => (lookup_revise_revise _ withPasswordCounters_replaces _ _ _ password).symm
  · exact fun deviceId => (lookup_revise_revise _ withDeviceCounters_replaces _ _ _ deviceId).symm

theorem writeTraffic_isEmpty (disk : Database) (empty : traffic.isEmpty = true) :
    Same disk (writeTraffic disk traffic) := by
  simp only [TrafficSnapshot.isEmpty, and_eq_true, isNone_iff_eq_none, List.isEmpty_iff] at empty
  obtain ⟨⟨main, passwords⟩, devices⟩ := empty
  simp only [writeTraffic, main, Table.rows, passwords, devices, map_nil, Table.revise,
    foldl_nil, elim_none]
  exact .refl disk

/-! ## The control plane and its file -/

theorem Keyed.place (keyed : Keyed db) (deviceId : Text) : Keyed (db.place deviceId).1 := by
  intro other device here
  rw [Database.place] at here
  split at here
  · exact keyed other device here
  split at here
  · exact keyed other device here
  rw [lookup_insert_if] at here
  split at here
  · rename_i same
    cases here
    exact same.symm
  · exact keyed other device here

/-- What is demanded of the database keeps every device under its own id. -/
theorem Keyed.serve (keyed : Keyed db) (demand : Demand) : Keyed (db.serve demand).1 := by
  refine db.serve_keeps keyed ?_ ?_ ?_ demand
  · intro access password deviceId
    refine Keyed.place ?_ _
    rw [Keyed, bind_devices]
    exact keyed
  · intro now operation
    rw [Keyed, operate_devices]
    exact keyed
  · exact fun session => (credit_behind db ⟨none, ∅, ∅⟩ session).keyed keyed

/-- In every run of the control plane the devices stand under their own ids, so whatever it makes of
its database may happen to a store. -/
theorem Keyed.run (keyed : Keyed db) (dns : Text) (occurrences : List Occurrence) :
    Keyed (occurrences.foldl Plane.next (.new db dns)).app.db := by
  rw [Plane.run_db]
  refine throughout_final _ Keyed _ _ (throughout_of_step _ Keyed (fun _ => True) ?_ _ _ keyed ?_)
  · exact fun _ demand keyed _ => keyed.serve demand
  · exact fun _ _ => trivial

/-- The flush of the control plane does to the database what a flush of the sessions with bytes does
here. -/
theorem flushTraffic_flushed (app : App) {ambient : Ambient} (locked : ambient.locked = true) :
    (app.flushTraffic ambient).db = (flushTraffic app.db (app.flushed app.sessions)).1 := by
  rw [App.flushTraffic, if_pos locked, flushTraffic]
  generalize (⟨none, ∅, ∅⟩ : TrafficSnapshot) = traffic
  induction app.sessions generalizing app traffic with
  | nil => rfl
  | cons sessionId rest ih =>
    rw [foldl_cons, App.flushed, foldl_append]
    have first : ∃ noted, ((app.records.lookup sessionId).filter fun session =>
        !decide (session.upBytes = 0 ∧ session.downBytes = 0)).toList.foldl (fun (db, traffic) session =>
          if session.upBytes = 0 ∧ session.downBytes = 0 then (db, traffic)
          else (db.credit session, traffic.note db session)) (app.db, traffic) =
        ((app.flushSession sessionId).db, noted) := by
      rw [App.flushSession]
      cases app.records.lookup sessionId with
      | none => exact ⟨traffic, rfl⟩
      | some session =>
        by_cases nothing : session.upBytes = 0 ∧ session.downBytes = 0
        · rw [filter_some, if_neg (by simp [nothing])]
          simp only [if_pos nothing]
          exact ⟨traffic, rfl⟩
        · rw [filter_some, if_pos (by simp only [nothing]; rfl)]
          simp only [if_neg nothing]
          exact ⟨traffic.note app.db session, if_neg nothing⟩
    obtain ⟨noted, moved⟩ := first
    rw [moved]
    exact ih _ noted

/-- Reading a file back that a snapshot was written to gives what the snapshot leaves here. -/
theorem writeDatabaseSnapshot_read (file : Storage.DatabaseFile) {full : Storage.Database}
    (keyed : full.Keyed) (disk : Database) :
    Same (Storage.readDatabaseSnapshot (Storage.writeDatabaseSnapshot file full)).control
      (writeDatabaseSnapshot disk full.control) := by
  have own : Keyed full.control := by
    intro deviceId device here
    obtain ⟨stored, found, rfl⟩ := map_eq_some_iff.mp ((lookup_mapRows _ _ _).symm.trans here)
    exact keyed deviceId stored found
  have written := writeDatabaseSnapshot_same disk own
  refine ⟨rfl, rfl, rfl, rfl, fun password => ?_, fun deviceId => ?_⟩
  · rw [written.passwords, Storage.Database.control, Storage.Database.control, lookup_mapRows,
      lookup_mapRows, Storage.read_write_passwords]
  · rw [written.devices, Storage.Database.control, Storage.Database.control, lookup_mapRows,
      lookup_mapRows, Storage.read_write_devices _ keyed]

/-! ## The queue -/

/-- Write updates one after the other. -/
def persistAll (disk : Database) (updates : List (Nat × PersistenceUpdate)) : Database :=
  updates.foldl (fun disk update => persistDatabaseUpdate disk update.2) disk

theorem persistAll_append (disk : Database) (first second : List (Nat × PersistenceUpdate)) :
    persistAll disk (first ++ second) = persistAll (persistAll disk first) second :=
  foldl_append

theorem persistAll_withTraffic (disk : Database) (pending : List (Nat × PersistenceUpdate))
    (revision : Nat) (traffic : TrafficSnapshot) :
    Same (persistAll disk (PersistenceQueue.withTraffic pending revision traffic))
      (writeTraffic (persistAll disk pending) traffic) := by
  rw [PersistenceQueue.withTraffic]
  split
  · rename_i before waiting last
    conv_rhs => rw [← dropLast_append_getLast? _ last, persistAll_append]
    rw [persistAll_append]
    exact writeTraffic_mergeFrom _ waiting traffic
  · rw [persistAll_append]
    exact .refl _

namespace Store

/-- What the file will be when the queue is drained. -/
def target (store : Store) : Database :=
  persistAll store.disk (store.persistence.current.toList ++ store.persistence.queue.pending)

/-- Devices stand under their ids, and the file will be right except for the counters that
flushes have noted. Nothing is said while a handler is about to submit a snapshot. -/
structure Sound (store : Store) : Prop where
  keyed : Keyed store.db
  behind : store.unsaved = false → Behind store.flushes store.target store.db

variable {store : Store}

section

variable (sound : store.Sound)

include sound

theorem Sound.submit : (store.step .submit).1.Sound := by
  refine ⟨sound.keyed, fun _ => Same.behind ?_ store.flushes⟩
  rw [target]
  rw [persistAll_append]
  exact writeDatabaseSnapshot_same _ sound.keyed

theorem Sound.capture (sessions : List Session) : (store.step (.capture sessions)).1.Sound := by
  rw [step]
  split
  · exact sound
  rename_i saved
  have noted := flushTraffic_behind store.db sessions
  refine ⟨noted.keyed sound.keyed, fun _ => ?_⟩
  refine (sound.behind (not_eq_true _ ▸ saved)).trans noted ?_ ?_
  · exact fun traffic member => ⟨traffic, mem_append_left _ member, .refl _⟩
  · exact fun traffic member => ⟨traffic, mem_append_right _ member, .refl _⟩

theorem Sound.submitTraffic (index : Nat) (inTime : InTime store (.submitTraffic index)) :
    (store.step (.submitTraffic index)).1.Sound := by
  rw [step]
  split
  · exact sound
  rename_i traffic found
  refine ⟨sound.keyed, fun saved => ?_⟩
  have timely := (inTime traffic found).resolve_left fun unsaved =>
    false_ne_true (saved.symm.trans unsaved)
  have split : ∀ other ∈ store.flushes, other = traffic ∨ other ∈ store.flushes.eraseIdx index := by
    intro other member
    obtain ⟨place, there⟩ := mem_iff_getElem?.mp member
    by_cases here : place = index
    · rw [here, found] at there
      exact .inl (Option.some.inj there).symm
    · exact .inr (mem_eraseIdx_iff_getElem?.mpr ⟨place, here, there⟩)
  have written := (sound.behind saved).writeTraffic split timely
  have target : Same (Store.target { store with
      persistence := (store.persistence.submitTraffic traffic).1
      flushes := store.flushes.eraseIdx index }) (Persistence.writeTraffic store.target traffic) := by
    rw [Store.target]
    dsimp only [DatabasePersistence.submitTraffic]
    split
    · exact writeTraffic_isEmpty _ ‹_›
    · dsimp only [PersistenceQueue.submitTraffic]
      rw [persistAll_append, Store.target, persistAll_append]
      exact persistAll_withTraffic _ _ _ traffic
  refine (target.behind []).trans written (forall_mem_nil _) ?_
  exact fun other member => ⟨other, member, .refl _⟩

theorem Sound.take : (store.step .take).1.Sound := by
  refine ⟨sound.keyed, fun saved => ?_⟩
  have same : (store.step .take).1.target = store.target := by
    rw [Store.target, Store.target]
    dsimp only [step]
    rw [DatabasePersistence.take]
    split
    · rename_i update rest idle waits
      rw [idle, waits]
      rfl
    · rfl
  rw [same]
  exact sound.behind saved

theorem Sound.finish : (store.step .finish).1.Sound := by
  refine ⟨sound.keyed, fun saved => ?_⟩
  have same : (store.step .finish).1.target = store.target := by
    rw [Store.target, Store.target]
    dsimp only [step]
    rw [DatabasePersistence.finish]
    cases working : store.persistence.current with
    | none =>
      rw [working]
      rfl
    | some update => rfl
  rw [same]
  exact sound.behind saved

theorem Sound.step (happening : Happening) (inTime : InTime store happening) :
    (store.step happening).1.Sound := by
  cases happening with
  | change db keyed => exact ⟨keyed, fun saved => absurd saved.symm false_ne_true⟩
  | submit => exact sound.submit
  | capture sessions => exact sound.capture sessions
  | submitTraffic index => exact sound.submitTraffic index inTime
  | take => exact sound.take
  | finish => exact sound.finish

theorem Sound.same (idle : store.Idle) : Same store.disk store.db := by
  have behind := sound.behind idle.saved
  rw [idle.flushed, target, idle.drained, idle.written] at behind
  exact behind.same

end

end Store

/-- In every run in which flushes submit their counters in time, the file has the passwords, the
devices and the counters that the memory has whenever all handlers and flushes are done and the
queue is drained. -/
theorem drained_file_equals_memory (db : Database) (keyed : Keyed db) (happenings : List Happening)
    (inTime : Along Store.step InTime (Store.new db) happenings) :
    Throughout Store.step (fun store => store.Idle → Same store.disk store.db) (Store.new db)
      happenings := by
  have start : (Store.new db).Sound :=
    ⟨keyed, fun _ => (Same.refl db).behind []⟩
  exact throughout_of_along _ Store.Sound _ InTime
    (fun store happening sound inTime => sound.step happening inTime)
    (fun store sound idle => sound.same idle) _ happenings start inTime

/-! ## Flushes that overtake each other -/

/-- One password, and nothing counted yet. -/
def onePassword : Database where
  mainPassword := []
  mainDeviceId := []
  mainUpBytes := 0
  mainDownBytes := 0
  passwords := AList.singleton [1] ⟨[], 0, 0, 0, false⟩
  devices := ∅

/-- A session of this password that has received bytes. -/
def received (bytes : Nat) : Session :=
  { Session.opened 0 [1] ⟨[2], 0, []⟩ with upBytes := bytes }

/-- Two flushes that submit their counters in some order, and the thread that writes what they
submit. -/
def twoFlushes (first second : Nat) : List Happening :=
  [.capture [received 10], .capture [received 5], .submitTraffic first, .submitTraffic second,
    .take, .finish]

instance (db : Database) (traffic : TrafficSnapshot) (others : List TrafficSnapshot) :
    Decidable (Timely db traffic others) :=
  decidable_of_iff (_ ∧ _ ∧ _) ⟨fun all => ⟨all.1, all.2.1, all.2.2⟩, fun all => ⟨all.1, all.2, all.3⟩⟩

instance (store : Store) : ∀ happening, Decidable (InTime store happening)
  | .change .. | .submit | .capture _ | .take | .finish => isTrue trivial
  | .submitTraffic _ => inferInstanceAs (Decidable (∀ _ ∈ _, _))

/-- In order, the counters of both flushes arrive. -/
theorem ordered_flushes_arrive :
    let store := final Store.step (Store.new onePassword) (twoFlushes 0 0)
    store.Idle ∧ Same store.disk store.db ∧
      store.disk.passwords.lookup [1] = some ⟨[], 0, 15, 0, false⟩ := by
  have keyed : Keyed onePassword := by
    intro deviceId device here
    cases here
  have idle : (final Store.step (Store.new onePassword) (twoFlushes 0 0)).Idle :=
    ⟨by decide +kernel, by decide +kernel, by decide +kernel, by decide +kernel⟩
  have always := drained_file_equals_memory onePassword keyed (twoFlushes 0 0) (by decide +kernel)
  exact ⟨idle, throughout_final _ _ _ _ always idle, by decide +kernel⟩

/-- A flush that is overtaken writes its counters last: the file says ten bytes where the
memory says fifteen. -/
theorem overtaken_flush_writes_old_counters :
    let store := final Store.step (Store.new onePassword) (twoFlushes 1 0)
    Keyed onePassword ∧ store.Idle ∧ ¬ Same store.disk store.db ∧
      store.disk.passwords.lookup [1] = some ⟨[], 0, 10, 0, false⟩ ∧
      store.db.passwords.lookup [1] = some ⟨[], 0, 15, 0, false⟩ := by
  have disk : (final Store.step (Store.new onePassword)
      (twoFlushes 1 0)).disk.passwords.lookup [1] = some ⟨[], 0, 10, 0, false⟩ := by
    decide +kernel
  have memory : (final Store.step (Store.new onePassword)
      (twoFlushes 1 0)).db.passwords.lookup [1] = some ⟨[], 0, 15, 0, false⟩ := by
    decide +kernel
  refine ⟨fun deviceId device here => ?_, ⟨?_, ?_, ?_, ?_⟩, fun same => ?_, disk, memory⟩
  · cases here
  · decide +kernel
  · decide +kernel
  · decide +kernel
  · decide +kernel
  · have alike := same.passwords [1]
    exact absurd alike (by decide)

end Csqtt.Persistence
