import Csqtt.ControlPlane
import Csqtt.Runs

/-!
# The lock of a device's epoch

Every device has a slot with its current epoch, behind a mutex. Slots are made on demand and
removed again: by a request that made one and was then refused, and by a sweeper that looks for
slots that nobody has used for an hour. A task may therefore wait for the mutex of a slot that
has left the map. It looks the slot up once more when it has the mutex, and begins again if the
map has another one.

Tasks and the sweeper take turns at single operations on the map, on a mutex and on the time of
the last use. While the sweeper decides about an entry the map keeps that entry locked, so that
no other operation on it happens in between. A task can end at any time, because an operation
on the database or a queue failed; its guard is released then.

In every run in which no guard is held for an hour, a task that admits an epoch or authorizes a
disconnect holds the guard of the slot in the map, and it is alone with that.
-/

namespace Csqtt.EpochLock

open ControlText Control List Runs Option AList Bool Nat

/-- How long a slot may be unused, in milliseconds. -/
def deviceEpochIdleTtl : Nat := 60 * 60 * 1000

/-- A slot. For the proofs it is noted which task has made it, until that task has put it into
the map. -/
structure Slot where
  lastUsed : Nat
  holder : Option Nat
  epoch : DeviceEpochState
  keeper : Option Nat
deriving DecidableEq, Repr

/-- What a task wants the lock for. -/
inductive Purpose
  | getconf (generationId : UInt64) (sessionSalt : Text)
  | disconnect (generationId : UInt64) (sessionSalt : Text)
deriving DecidableEq, Repr

/-- A guard: its slot, whether the task has made the slot, when the guard was acquired, and how
many tasks had admitted or authorized by then. -/
structure Hold where
  slot : Nat
  created : Bool
  since : Nat
  mark : Nat
deriving DecidableEq, Repr

/-- How far a task with a guard has come. -/
inductive Stage
  | locked
  | timed (reading : Nat)
  | stamped
  | stale
  | returned
  | settled
  | refused
  | leaving
deriving DecidableEq, Repr

/-- How far a task has come. -/
inductive Phase
  | seeking
  | missing
  | fresh (slot : Nat)
  | waiting (slot : Nat) (created : Bool)
  | holding (hold : Hold) (stage : Stage)
  | ended
deriving DecidableEq, Repr

structure Task where
  deviceId : Text
  purpose : Purpose
  phase : Phase
deriving DecidableEq, Repr

/-- The sweeper. It collects the devices whose slots are unused and then goes through them; an
entry of the map is locked from when it is entered until it is decided. -/
inductive Sweeper
  | resting
  | collecting (now : Nat) (candidates : List Text)
  | removing (now : Nat) (candidates : List Text)
  | entered (now : Nat) (deviceId : Text) (candidates : List Text)
  | idle (now : Nat) (deviceId : Text) (candidates : List Text)
deriving DecidableEq, Repr

/-- The state, with the tasks that have admitted or authorized, and for which devices. -/
structure Locks where
  clock : Nat
  slots : List Slot
  deviceEpochs : Table Text Nat
  tasks : List Task
  sweeper : Sweeper
  settled : List (Nat × Text)

/-- What happens: a request comes, a task goes on, a task ends early, time passes, the sweeper
goes on. A task that has got its guard learns whether the database grants what it wants. The
sweeper is told which entry it visits next while it collects, and whether there is a session of
the device that it decides about. -/
inductive Event
  | arrive (deviceId : Text) (purpose : Purpose)
  | run (task : Nat) (granted : Bool)
  | abandon (task : Nat)
  | tick (elapsed : Nat)
  | sweep (visited : Option Text) (present : Bool)
deriving DecidableEq, Repr

/-- The guards that a function has returned, with a task that may still admit or authorize, or
has done so. -/
def Stage.active : Stage → Bool
  | .returned | .settled => true
  | _ => false

def Phase.active : Phase → Bool
  | .holding _ stage => stage.active
  | _ => false

/-- The entry that the sweeper keeps locked. -/
def Sweeper.busy : Sweeper → Option Text
  | .entered _ deviceId _ | .idle _ deviceId _ => some deviceId
  | _ => none

/-- What the sweeper took for the time. -/
def Sweeper.now : Sweeper → Nat
  | .resting => 0
  | .collecting now _ | .removing now _ | .entered now _ _ | .idle now _ _ => now

namespace Locks

def start : Locks := ⟨0, [], ∅, [], .resting, []⟩

variable (locks : Locks)

/-- Let a task be in a phase. -/
def put (index : Nat) (phase : Phase) : Locks :=
  { locks with tasks := locks.tasks.modify index fun task => { task with phase := phase } }

/-- Change a slot. -/
def adjust (slot : Nat) (change : Slot → Slot) : Locks :=
  { locks with slots := locks.slots.modify slot change }

/-- Put a slot into the map. -/
def link (deviceId : Text) (slot : Nat) : Locks :=
  { locks with deviceEpochs := locks.deviceEpochs.insert deviceId slot }

/-- Remove the slot of a device from the map. -/
def unlink (deviceId : Text) : Locks :=
  { locks with deviceEpochs := locks.deviceEpochs.erase deviceId }

/-- Note that a task has admitted or authorized. -/
def note (index : Nat) (deviceId : Text) : Locks :=
  { locks with settled := locks.settled ++ [(index, deviceId)] }

/-- Add a slot. -/
def allocate (record : Slot) : Locks := { locks with slots := locks.slots ++ [record] }

/-- Release a guard. -/
def release (slot : Nat) : Locks := locks.adjust slot fun record => { record with holder := none }

/-- A task looks into the map. -/
def seek (index : Nat) (task : Task) : Locks :=
  match locks.deviceEpochs.lookup task.deviceId, task.purpose with
  | some slot, _ => locks.put index (.waiting slot false)
  | none, .getconf _ _ => locks.put index .missing
  | none, .disconnect _ _ => locks.put index .ended

/-- A task makes a slot. -/
def create (index : Nat) : Locks :=
  (locks.allocate ⟨locks.clock, none, ⟨0, []⟩, some index⟩).put index (.fresh locks.slots.length)

/-- A task puts its slot into the map, unless there is one. -/
def enter (index : Nat) (task : Task) (slot : Nat) : Locks :=
  match locks.deviceEpochs.lookup task.deviceId with
  | some existing => locks.put index (.waiting existing false)
  | none =>
    ((locks.link task.deviceId slot).adjust slot fun record => { record with keeper := none }).put
      index (.waiting slot true)

/-- A task acquires a mutex, if it is free. -/
def acquire (index slot : Nat) (created : Bool) : Locks :=
  if (locks.slots[slot]?).any fun record => record.holder.isNone then
    (locks.adjust slot fun record => { record with holder := some index }).put index
      (.holding ⟨slot, created, locks.clock, locks.settled.length⟩ .locked)
  else locks

/-- A task admits its epoch, or authorizes a disconnect, or neither. -/
def settle (index : Nat) (task : Task) (hold : Hold) (granted : Bool) : Locks :=
  match task.purpose with
  | .getconf generationId sessionSalt =>
    if granted then
      ((locks.note index task.deviceId).adjust hold.slot fun record =>
        let admitted := DeviceEpochState.admit record.epoch generationId sessionSalt
        { record with epoch := admitted.1 }).put index (.holding hold .settled)
    else locks.put index (.holding hold .refused)
  | .disconnect generationId sessionSalt =>
    if granted && (locks.slots[hold.slot]?).any fun record =>
        record.epoch == ⟨generationId, sessionSalt⟩ then
      (locks.note index task.deviceId).put index (.holding hold .settled)
    else locks.put index (.holding hold .leaving)

/-- A refused request removes the slot that it has made. -/
def withdraw (index : Nat) (task : Task) (hold : Hold) : Locks :=
  if hold.created && locks.deviceEpochs.lookup task.deviceId == some hold.slot then
    (locks.unlink task.deviceId).put index (.holding hold .leaving)
  else locks.put index (.holding hold .leaving)

/-- A task with a guard goes on. -/
def proceed (index : Nat) (task : Task) (hold : Hold) (granted : Bool) : Stage → Locks
  | .locked => locks.put index (.holding hold (.timed locks.clock))
  | .timed reading =>
    (locks.adjust hold.slot fun record => { record with lastUsed := reading }).put index
      (.holding hold .stamped)
  | .stamped =>
    if locks.sweeper.busy == some task.deviceId then locks
    else if locks.deviceEpochs.lookup task.deviceId == some hold.slot then
      locks.put index (.holding hold .returned)
    else locks.put index (.holding hold .stale)
  | .stale => (locks.release hold.slot).put index .seeking
  | .returned => locks.settle index task hold granted
  | .refused => if locks.sweeper.busy == some task.deviceId then locks else locks.withdraw index task hold
  | .settled | .leaving => (locks.release hold.slot).put index .ended

/-- A task goes on. -/
def advance (index : Nat) (task : Task) (granted : Bool) : Locks :=
  match task.phase with
  | .seeking => if locks.sweeper.busy == some task.deviceId then locks else locks.seek index task
  | .missing => locks.create index
  | .fresh slot =>
    if locks.sweeper.busy == some task.deviceId then locks else locks.enter index task slot
  | .waiting slot created => locks.acquire index slot created
  | .holding hold stage => locks.proceed index task hold granted stage
  | .ended => locks

/-- A task ends early. -/
def quit (index : Nat) (task : Task) : Locks :=
  match task.phase with
  | .holding hold _ => (locks.release hold.slot).put index .ended
  | _ => locks.put index .ended

/-- Whether the slot of a device was last used an hour or more before a time. -/
def unused (now : Nat) (deviceId : Text) : Bool :=
  ((locks.deviceEpochs.lookup deviceId).bind (locks.slots[·]?)).any fun record =>
    decide (now - record.lastUsed ≥ deviceEpochIdleTtl)

/-- The sweeper goes on. -/
def sweep (visited : Option Text) (present : Bool) : Locks :=
  match locks.sweeper with
  | .resting => { locks with sweeper := .collecting locks.clock [] }
  | .collecting now candidates =>
    match visited with
    | none => { locks with sweeper := .removing now candidates }
    | some deviceId =>
      if locks.unused now deviceId then
        { locks with sweeper := .collecting now (candidates ++ [deviceId]) }
      else locks
  | .removing _ [] => { locks with sweeper := .resting }
  | .removing now (deviceId :: candidates) =>
    if (locks.deviceEpochs.lookup deviceId).isNone then
      { locks with sweeper := .removing now candidates }
    else { locks with sweeper := .entered now deviceId candidates }
  | .entered now deviceId candidates =>
    if locks.unused now deviceId then { locks with sweeper := .idle now deviceId candidates }
    else { locks with sweeper := .removing now candidates }
  | .idle now deviceId candidates =>
    if present then { locks with sweeper := .removing now candidates }
    else { locks.unlink deviceId with sweeper := .removing now candidates }

def next : Event → Locks
  | .arrive deviceId purpose => { locks with tasks := locks.tasks ++ [⟨deviceId, purpose, .seeking⟩] }
  | .run index granted => (locks.tasks[index]?).elim locks fun task => locks.advance index task granted
  | .abandon index => (locks.tasks[index]?).elim locks fun task => locks.quit index task
  | .tick elapsed => { locks with clock := locks.clock + elapsed }
  | .sweep visited present => locks.sweep visited present

def step (event : Event) : Locks × Unit := (locks.next event, ())

/-- The task that admits or authorizes at an event. -/
def settling : Event → Option Nat
  | .run index granted =>
    (locks.tasks[index]?).bind fun task =>
      match task.phase, task.purpose with
      | .holding _ .returned, .getconf _ _ => if granted then some index else none
      | .holding hold .returned, .disconnect generationId sessionSalt =>
        if granted && (locks.slots[hold.slot]?).any fun record =>
          record.epoch == ⟨generationId, sessionSalt⟩ then some index else none
      | _, _ => none
  | _ => none

end Locks

/-- A guard has been held for less than an hour. -/
def Phase.Brief (clock : Nat) : Phase → Prop
  | .holding hold _ => clock < hold.since + deviceEpochIdleTtl
  | _ => True

instance Phase.decidableBrief (clock : Nat) : ∀ phase, Decidable (Phase.Brief clock phase)
  | .holding _ _ => inferInstanceAs (Decidable (_ < _))
  | .seeking | .missing | .fresh _ | .waiting _ _ | .ended => isTrue trivial

/-- No guard has been held for an hour. -/
def Locks.Brief (locks : Locks) : Prop := ∀ task ∈ locks.tasks, task.phase.Brief locks.clock

instance (locks : Locks) : Decidable locks.Brief :=
  inferInstanceAs (Decidable (∀ _ ∈ _, _))

/-! ## What holds in every state -/

/-- The last use of a slot is not before its guard, once the guard is stamped. -/
def Stage.Dated (since lastUsed : Nat) : Stage → Prop
  | .locked => True
  | .timed reading => since ≤ reading
  | _ => since ≤ lastUsed

/-- No task has a slot for itself. -/
def Locks.Known (locks : Locks) (slot : Nat) : Prop :=
  ∃ record, locks.slots[slot]? = some record ∧ record.keeper = none

/-- What is known about a guard. If its slot is in the map, then no other task has admitted or
authorized for the device since the guard was acquired. -/
structure Footing (locks : Locks) (index : Nat) (deviceId : Text) (hold : Hold) (stage : Stage)
    (record : Slot) : Prop where
  here : locks.slots[hold.slot]? = some record
  known : record.keeper = none
  holder : record.holder = some index
  since : hold.since ≤ locks.clock
  dated : stage.Dated hold.since record.lastUsed
  mark : hold.mark ≤ locks.settled.length
  current : stage.active = true → locks.deviceEpochs.lookup deviceId = some hold.slot
  alone : locks.deviceEpochs.lookup deviceId = some hold.slot →
    ∀ entry ∈ locks.settled.drop hold.mark, entry.2 = deviceId → entry.1 = index

/-- What is known about a phase of a task. -/
def Sound (locks : Locks) (index : Nat) (deviceId : Text) : Phase → Prop
  | .fresh slot => ∃ record, locks.slots[slot]? = some record ∧ record.keeper = some index
  | .waiting slot _ => locks.Known slot
  | .holding hold stage => ∃ record, Footing locks index deviceId hold stage record
  | _ => True

/-- The invariant. While the sweeper removes a slot no task has its guard returned. -/
structure Good (locks : Locks) : Prop where
  tasks : ∀ (index : Nat) (task : Task), locks.tasks[index]? = some task →
    Sound locks index task.deviceId task.phase
  linked : ∀ deviceId slot, locks.deviceEpochs.lookup deviceId = some slot → locks.Known slot
  timely : locks.sweeper.now ≤ locks.clock
  quiet : ∀ now deviceId candidates, locks.sweeper = .idle now deviceId candidates →
    ∀ (index : Nat) (task : Task), locks.tasks[index]? = some task → task.deviceId = deviceId →
      task.phase.active = false

theorem good_start : Good Locks.start where
  tasks := by
    intro index task here
    cases here
  linked := by
    intro deviceId slot here
    cases here
  timely := le_refl 0
  quiet := by
    intro now deviceId candidates idle
    cases idle

/-- What a step of one task leaves to the others. -/
structure Spares (before after : Locks) (own : Nat) : Prop where
  slots : ∀ (slot : Nat) (record : Slot), before.slots[slot]? = some record →
    ∃ later : Slot, after.slots[slot]? = some later ∧
      (record.keeper ≠ some own → later.keeper = record.keeper) ∧
      ∀ other, other ≠ own → record.holder = some other →
        later.holder = some other ∧ later.lastUsed = record.lastUsed
  clock : before.clock ≤ after.clock
  kept : ∀ (index : Nat) (task : Task), index ≠ own → before.tasks[index]? = some task →
    task.phase.active = true →
    after.deviceEpochs.lookup task.deviceId = before.deviceEpochs.lookup task.deviceId
  added : ∀ deviceId slot, after.deviceEpochs.lookup deviceId = some slot →
    before.deviceEpochs.lookup deviceId = some slot ∨
      ∃ record : Slot, before.slots[slot]? = some record ∧ record.keeper = some own
  settled : after.settled = before.settled ∨
    ∃ (deviceId : Text) (slot : Nat) (record : Slot), before.deviceEpochs.lookup deviceId = some slot ∧
      before.slots[slot]? = some record ∧ record.holder = some own ∧
      after.settled = before.settled ++ [(own, deviceId)]

variable {deviceId : Text} {slot index : Nat} {locks after before : Locks} {change : Slot → Slot}
  {task : Task} {stage : Stage} {record : Slot} {hold : Hold}

theorem Locks.lookup_of_unlink {removed : Text}
    (left : (locks.unlink removed).deviceEpochs.lookup deviceId = some slot) :
    locks.deviceEpochs.lookup deviceId = some slot := by
  by_cases same : deviceId = removed
  · rw [same, Locks.unlink, lookup_erase] at left
    cases left
  · rwa [Locks.unlink, lookup_erase_ne same] at left

namespace Spares

variable {own : Nat}

theorem same_slots (same : after.slots = before.slots) (slot : Nat) (record : Slot)
    (here : before.slots[slot]? = some record) : ∃ later : Slot, after.slots[slot]? = some later ∧
      (record.keeper ≠ some own → later.keeper = record.keeper) ∧
      ∀ other, other ≠ own → record.holder = some other →
        later.holder = some other ∧ later.lastUsed = record.lastUsed :=
  ⟨record, same ▸ here, fun _ => rfl, fun _ _ held => ⟨held, rfl⟩⟩

theorem of_same (slots : after.slots = before.slots) (clock : before.clock ≤ after.clock)
    (deviceEpochs : after.deviceEpochs = before.deviceEpochs)
    (settled : after.settled = before.settled) : Spares before after own where
  slots := same_slots slots
  clock := clock
  kept := fun _ _ _ _ _ => by rw [deviceEpochs]
  added := fun _ _ here => .inl (deviceEpochs ▸ here)
  settled := .inl settled

/-- A step may then change a slot, if it is the task's own. -/
theorem adjust (spares : Spares before after own) (same : after.slots = before.slots) {target : Nat}
    (keeper : ∀ record : Slot, before.slots[target]? = some record → record.keeper ≠ some own →
      (change record).keeper = record.keeper)
    (holder : ∀ record : Slot, before.slots[target]? = some record → ∀ other, other ≠ own →
      record.holder = some other →
      (change record).holder = some other ∧ (change record).lastUsed = record.lastUsed) :
    Spares before (after.adjust target change) own where
  slots := by
    intro slot record here
    have later : (after.adjust target change).slots[slot]? =
        some (if target = slot then change record else record) := by
      rw [Locks.adjust, same, getElem?_modify, here]
      rfl
    refine ⟨_, later, ?_⟩
    split
    · rename_i own
      subst own
      exact ⟨keeper record here, holder record here⟩
    · exact ⟨fun _ => rfl, fun _ _ held => ⟨held, rfl⟩⟩
  clock := spares.clock
  kept := spares.kept
  added := spares.added
  settled := spares.settled

theorem unlink {removed : Text}
    (none : ∀ (index : Nat) (task : Task), index ≠ own → locks.tasks[index]? = some task →
      task.phase.active = true → task.deviceId ≠ removed) :
    Spares locks (locks.unlink removed) own where
  slots := same_slots rfl
  clock := le_refl _
  kept := fun index task different there active =>
    lookup_erase_ne (none index task different there active)
  added := fun _ _ left => .inl (Locks.lookup_of_unlink left)
  settled := .inl rfl

end Spares

theorem Locks.Known.spared {own : Nat} (known : before.Known slot)
    (spares : Spares before after own) : after.Known slot := by
  obtain ⟨record, here, free⟩ := known
  obtain ⟨later, stays, same, -⟩ := spares.slots slot record here
  refine ⟨later, stays, (same ?_).trans free⟩
  rw [free]
  exact (some_ne_none own).symm

/-- The others are as sound as before. -/
theorem Sound.spared {own : Nat} (good : Good before) (spares : Spares before after own)
    (different : index ≠ own) (here : before.tasks[index]? = some task) :
    Sound after index task.deviceId task.phase := by
  have sound := good.tasks index task here
  cases task with
  | mk deviceId purpose phase =>
    cases phase with
    | seeking | missing | ended => trivial
    | fresh slot =>
      obtain ⟨record, at_slot, keeper⟩ := sound
      obtain ⟨later, stays, same, -⟩ := spares.slots slot record at_slot
      refine ⟨later, stays, (same ?_).trans keeper⟩
      rw [keeper]
      exact fun equal => different (Option.some.inj equal)
    | waiting slot created => exact Locks.Known.spared sound spares
    | holding hold stage =>
      obtain ⟨record, footing⟩ := sound
      obtain ⟨later, stays, same, held⟩ := spares.slots hold.slot record footing.here
      obtain ⟨holder, lastUsed⟩ := held index different footing.holder
      have still : ∀ slot, after.deviceEpochs.lookup deviceId = some slot → slot = hold.slot →
          before.deviceEpochs.lookup deviceId = some hold.slot := by
        rintro slot linked rfl
        obtain old | ⟨other, at_slot, keeper⟩ := spares.added deviceId hold.slot linked
        · exact old
        rw [footing.here] at at_slot
        cases at_slot
        rw [footing.known] at keeper
        cases keeper
      refine ⟨later, stays, ?_, holder, le_trans footing.since spares.clock, ?_, ?_, ?_, ?_⟩
      · refine (same ?_).trans footing.known
        rw [footing.known]
        exact (some_ne_none own).symm
      · rw [lastUsed]
        exact footing.dated
      · obtain equal | ⟨_, _, _, -, -, -, longer⟩ := spares.settled
        · rw [equal]
          exact footing.mark
        · rw [longer, length_append]
          exact le_trans footing.mark (le_add_right _ _)
      · intro active
        rw [spares.kept index _ different here active]
        exact footing.current active
      · intro linked entry member sameDevice
        have old := still _ linked rfl
        obtain equal | ⟨device, slot, other, there, at_slot, owned, longer⟩ := spares.settled
        · rw [equal] at member
          exact footing.alone old entry member sameDevice
        rw [longer, drop_append_of_le_length footing.mark, mem_append, mem_singleton] at member
        obtain member | rfl := member
        · exact footing.alone old entry member sameDevice
        dsimp only at sameDevice
        rw [sameDevice, old] at there
        cases there
        rw [footing.here] at at_slot
        cases at_slot
        rw [footing.holder] at owned
        exact (Option.some.inj owned).symm

theorem Sound.retask {phase : Phase} (sound : Sound locks index deviceId phase) (tasks : List Task) :
    Sound { locks with tasks := tasks } index deviceId phase := by
  cases phase with
  | holding hold stage =>
    obtain ⟨record, footing⟩ := sound
    exact ⟨record, footing.here, footing.known, footing.holder, footing.since, footing.dated,
      footing.mark, footing.current, footing.alone⟩
  | _ => exact sound

/-- A step of one task keeps the invariant if it spares the others, if what the task knows
afterwards is sound, and if its guard is not returned while the sweeper keeps the entry. -/
theorem Good.put {phase : Phase} (good : Good before) (here : before.tasks[index]? = some task)
    (spares : Spares before after index) (tasks : after.tasks = before.tasks)
    (sweeper : after.sweeper = before.sweeper) (sound : Sound after index task.deviceId phase)
    (linked : ∀ deviceId slot, after.deviceEpochs.lookup deviceId = some slot →
      before.deviceEpochs.lookup deviceId = some slot ∨ after.Known slot)
    (active : phase.active = true → task.phase.active = true ∨
      before.sweeper.busy ≠ some task.deviceId) : Good (after.put index phase) := by
  have moved : ∀ other changed, (after.put index phase).tasks[other]? = some changed →
      (other = index ∧ changed = { task with phase := phase }) ∨
        (other ≠ index ∧ before.tasks[other]? = some changed) := by
    intro other changed there
    rw [Locks.put, tasks, getElem?_modify] at there
    by_cases same : index = other
    · subst same
      rw [here] at there
      simp only [if_true, Option.map_eq_map, Option.map_some, Option.some.injEq] at there
      exact .inl ⟨rfl, there.symm⟩
    · simp only [if_neg same, Option.map_eq_map, Option.map_id'] at there
      exact .inr ⟨Ne.symm same, there⟩
  constructor
  · intro other changed there
    obtain ⟨rfl, rfl⟩ | ⟨different, there⟩ := moved other changed there
    · exact sound.retask _
    · exact (Sound.spared good spares different there).retask _
  · intro deviceId slot there
    show after.Known slot
    obtain old | known := linked deviceId slot there
    · exact (good.linked deviceId slot old).spared spares
    · exact known
  · show after.sweeper.now ≤ after.clock
    rw [sweeper]
    exact le_trans good.timely spares.clock
  · intro now deviceId candidates idle other changed there sameDevice
    replace idle : before.sweeper = .idle now deviceId candidates := sweeper ▸ idle
    obtain ⟨rfl, rfl⟩ | ⟨different, there⟩ := moved other changed there
    · refine eq_false_iff.mpr fun isActive => ?_
      obtain before_active | free := active isActive
      · rw [good.quiet now deviceId candidates idle other task here sameDevice] at before_active
        cases before_active
      · refine free ?_
        rw [idle]
        exact congrArg some sameDevice.symm
    · exact good.quiet now deviceId candidates idle other changed there sameDevice

theorem Stage.Dated.of_active {since lastUsed : Nat} (dated : stage.Dated since lastUsed)
    (active : stage.active = true) : since ≤ lastUsed := by
  cases stage with
  | locked | timed reading => cases active
  | _ => exact dated

/-! ## The steps of a task -/

theorem Footing.at {later : Stage} (footing : Footing locks index deviceId hold stage record)
    (dated : later.Dated hold.since record.lastUsed)
    (current : later.active = true → locks.deviceEpochs.lookup deviceId = some hold.slot) :
    Footing locks index deviceId hold later record :=
  { footing with dated := dated, current := current }

theorem Locks.adjust_here (there : locks.slots[slot]? = some record) (change : Slot → Slot) :
    (locks.adjust slot change).slots[slot]? = some (change record) := by
  rw [Locks.adjust, getElem?_modify, there]
  exact congrArg some (if_pos rfl)

section

variable (footing : Footing locks index deviceId hold stage record)

include footing

theorem Footing.adjust {later : Stage} (keeper : (change record).keeper = record.keeper)
    (holder : (change record).holder = record.holder)
    (dated : later.Dated hold.since (change record).lastUsed)
    (current : later.active = true → locks.deviceEpochs.lookup deviceId = some hold.slot) :
    Footing (locks.adjust hold.slot change) index deviceId hold later (change record) where
  here := Locks.adjust_here footing.here change
  known := keeper.trans footing.known
  holder := holder.trans footing.holder
  since := footing.since
  dated := dated
  mark := footing.mark
  current := current
  alone := footing.alone

theorem Footing.note : Footing (locks.note index deviceId) index deviceId hold stage record where
  here := footing.here
  known := footing.known
  holder := footing.holder
  since := footing.since
  dated := footing.dated
  mark := by
    rw [Locks.note, length_append]
    exact le_trans footing.mark (le_add_right _ _)
  current := footing.current
  alone := by
    intro linked entry member sameDevice
    rw [Locks.note, drop_append_of_le_length footing.mark, mem_append, mem_singleton] at member
    obtain member | rfl := member
    · exact footing.alone linked entry member sameDevice
    · rfl

theorem Footing.unique {other : Nat} {otherId : Text} {otherHold : Hold} {otherStage : Stage}
    {otherRecord : Slot} (its : Footing locks other otherId otherHold otherStage otherRecord)
    (same : hold.slot = otherHold.slot) : other = index := by
  have there := its.here
  rw [← same, footing.here] at there
  cases there
  have held := its.holder
  rw [footing.holder] at held
  exact (Option.some.inj held).symm

end

theorem Good.sound {phase : Phase} (good : Good locks) (here : locks.tasks[index]? = some task)
    (current : task.phase = phase) : Sound locks index task.deviceId phase :=
  current ▸ good.tasks index task here

theorem Good.guard (good : Good locks) (here : locks.tasks[index]? = some task)
    (active : task.phase.active = true) : ∃ hold stage record, task.phase = .holding hold stage ∧
      Footing locks index task.deviceId hold stage record ∧
      locks.deviceEpochs.lookup task.deviceId = some hold.slot := by
  have sound := good.tasks index task here
  revert sound active
  cases task.phase with
  | holding hold stage =>
    rintro active ⟨record, footing⟩
    exact ⟨hold, stage, record, rfl, footing, footing.current active⟩
  | _ => exact nofun

namespace Good

variable (good : Good locks) (here : locks.tasks[index]? = some task)

include good here

theorem phase {phase : Phase} (sound : Sound locks index task.deviceId phase)
    (active : phase.active = true → task.phase.active = true ∨
      locks.sweeper.busy ≠ some task.deviceId) : Good (locks.put index phase) :=
  good.put here (.of_same rfl (le_refl _) rfl rfl) rfl rfl sound (fun _ _ => .inl) active

theorem seek : Good (locks.seek index task) := by
  rw [Locks.seek]
  split
  · rename_i slot found
    exact good.phase here (good.linked _ _ found) nofun
  · exact good.phase here trivial nofun
  · exact good.phase here trivial nofun

theorem create : Good (locks.create index) := by
  have spares : ∀ record, Spares locks (locks.allocate record) index := by
    intro record
    refine ⟨?_, le_refl _, fun _ _ _ _ _ => rfl, fun _ _ there => .inl there, .inl rfl⟩
    intro slot found there
    have stays : (locks.allocate record).slots[slot]? = some found :=
      (getElem?_append_left (List.getElem?_eq_some_iff.mp there).1).trans there
    exact ⟨found, stays, fun _ => rfl, fun _ _ held => ⟨held, rfl⟩⟩
  exact good.put here (spares _) rfl rfl ⟨_, getElem?_concat_length, rfl⟩ (fun _ _ => .inl) nofun

theorem enter (fresh : task.phase = .fresh slot) : Good (locks.enter index task slot) := by
  obtain ⟨record, made, keeper⟩ := good.sound here fresh
  rw [Locks.enter]
  split
  · rename_i existing found
    exact good.phase here (good.linked _ existing found) nofun
  rename_i vacant
  have spares : Spares locks (locks.link task.deviceId slot) index := by
    refine ⟨Spares.same_slots rfl, le_refl _, ?_, ?_, .inl rfl⟩
    · intro other active different there isActive
      refine lookup_insert_ne fun same => ?_
      obtain ⟨_, _, _, -, -, current⟩ := good.guard there isActive
      rw [same, vacant] at current
      cases current
    · intro deviceId found there
      by_cases same : deviceId = task.deviceId
      · subst same
        rw [Locks.link, lookup_insert] at there
        cases there
        exact .inr ⟨record, made, keeper⟩
      · rw [Locks.link, lookup_insert_ne same] at there
        exact .inl there
  have sound : ((locks.link task.deviceId slot).adjust slot fun record =>
      { record with keeper := none }).Known slot := by
    exact ⟨{ record with keeper := none }, Locks.adjust_here made _, rfl⟩
  refine good.put here (spares.adjust rfl ?_ ?_) rfl rfl sound ?_ nofun
  · intro found there own
    rw [made] at there
    cases there
    exact absurd keeper own
  · exact fun _ _ _ _ held => ⟨held, rfl⟩
  · intro deviceId found there
    by_cases same : deviceId = task.deviceId
    · subst same
      cases (lookup_insert locks.deviceEpochs).symm.trans there
      exact .inr sound
    · exact .inl ((lookup_insert_ne same).symm.trans there)

theorem acquire {created : Bool} (waiting : task.phase = .waiting slot created) :
    Good (locks.acquire index slot created) := by
  obtain ⟨record, there, free⟩ := good.sound here waiting
  rw [Locks.acquire]
  split
  · rename_i unlocked
    rw [there, any_some, isNone_iff_eq_none] at unlocked
    refine good.put here (Spares.adjust (.of_same rfl (le_refl _) rfl rfl) rfl ?_ ?_) rfl rfl ?_
      (fun _ _ => .inl) nofun
    · exact fun _ _ _ => rfl
    · intro found known other _ held
      rw [there] at known
      cases known
      rw [unlocked] at held
      cases held
    · refine ⟨{ record with holder := some index }, Locks.adjust_here there _, free, rfl,
        le_refl _, trivial, le_refl _, nofun, ?_⟩
      intro _ entry member
      have none : entry ∈ locks.settled.drop locks.settled.length := member
      rw [drop_length] at none
      cases none
  · exact good

theorem own {phase : Phase} (footing : Footing locks index task.deviceId hold stage record)
    (keeper : ∀ record, (change record).keeper = record.keeper)
    (sound : Sound (locks.adjust hold.slot change) index task.deviceId phase)
    (active : phase.active = true → task.phase.active = true ∨
      locks.sweeper.busy ≠ some task.deviceId) :
    Good ((locks.adjust hold.slot change).put index phase) := by
  refine good.put here (Spares.adjust (.of_same rfl (le_refl _) rfl rfl) rfl ?_ ?_) rfl rfl sound
    (fun _ _ => .inl) active
  · exact fun found _ _ => keeper found
  · intro found known other different held
    rw [footing.here] at known
    cases known
    rw [footing.holder] at held
    exact absurd (Option.some.inj held).symm different

theorem release {phase : Phase} (footing : Footing locks index task.deviceId hold stage record)
    (sound : Sound (locks.release hold.slot) index task.deviceId phase)
    (inactive : phase.active = false) : Good ((locks.release hold.slot).put index phase) := by
  refine good.own here footing (fun _ => rfl) sound fun active => ?_
  rw [inactive] at active
  cases active

theorem settle (returned : task.phase = .holding hold .returned)
    (footing : Footing locks index task.deviceId hold .returned record) (granted : Bool) :
    Good (locks.settle index task hold granted) := by
  have current := footing.current rfl
  have wasActive : task.phase.active = true := by
    rw [returned]
    rfl
  have spares : Spares locks (locks.note index task.deviceId) index := by
    exact ⟨Spares.same_slots rfl, le_refl _, fun _ _ _ _ _ => rfl, fun _ _ linked => .inl linked,
      .inr ⟨task.deviceId, hold.slot, record, current, footing.here, footing.holder, rfl⟩⟩
  rw [Locks.settle]
  split
  · split
    · exact good.put here (spares.adjust rfl (fun _ _ _ => rfl) fun _ _ _ _ held => ⟨held, rfl⟩) rfl rfl
        ⟨_, footing.note.adjust rfl rfl footing.dated fun _ => current⟩ (fun _ _ => .inl)
        fun _ => .inl wasActive
    · exact good.phase here ⟨record, footing.at footing.dated nofun⟩ nofun
  · split
    · exact good.put here spares rfl rfl ⟨record, footing.note.at footing.dated fun _ => current⟩
        (fun _ _ => .inl) fun _ => .inl wasActive
    · exact good.phase here ⟨record, footing.at footing.dated nofun⟩ nofun

theorem withdraw (footing : Footing locks index task.deviceId hold .refused record) :
    Good (locks.withdraw index task hold) := by
  have leaving : Footing locks index task.deviceId hold .leaving record :=
    footing.at footing.dated nofun
  rw [Locks.withdraw]
  split
  · rename_i removes
    rw [and_eq_true, beq_iff_eq] at removes
    have spares : Spares locks (locks.unlink task.deviceId) index := by
      refine .unlink fun other active different there isActive same => ?_
      obtain ⟨_, _, _, -, its, current⟩ := good.guard there isActive
      rw [same, removes.2] at current
      exact different (footing.unique its (Option.some.inj current))
    refine good.put here spares rfl rfl ?_ (fun _ _ left => .inl (Locks.lookup_of_unlink left)) nofun
    exact ⟨record, leaving.here, leaving.known, leaving.holder, leaving.since, leaving.dated,
      leaving.mark, nofun, fun left => leaving.alone (Locks.lookup_of_unlink left)⟩
  · exact good.phase here ⟨record, leaving⟩ nofun

end Good

/-! ## A whole run -/

namespace Good

section

variable (good : Good locks)

include good

section

variable (here : locks.tasks[index]? = some task)
include here

theorem proceed (holding : task.phase = .holding hold stage) (granted : Bool) :
    Good (locks.proceed index task hold granted stage) := by
  obtain ⟨record, footing⟩ := good.sound here holding
  cases stage with
  | locked =>
    exact good.phase here ⟨record, footing.at footing.since nofun⟩ nofun
  | timed reading =>
    exact good.own here footing (fun _ => rfl)
      ⟨_, footing.adjust rfl rfl footing.dated nofun⟩ nofun
  | stamped =>
    rw [Locks.proceed]
    split
    · exact good
    rename_i free
    split
    · rename_i current
      exact good.phase here ⟨record, footing.at footing.dated fun _ => beq_iff_eq.mp current⟩
        fun _ => .inr fun busy => free (beq_iff_eq.mpr busy)
    · exact good.phase here ⟨record, footing.at footing.dated nofun⟩ nofun
  | stale | settled | leaving => exact good.release here footing trivial rfl
  | returned => exact good.settle here holding footing granted
  | refused =>
    rw [Locks.proceed]
    split
    · exact good
    · exact good.withdraw here footing

theorem advance (granted : Bool) : Good (locks.advance index task granted) := by
  rw [Locks.advance]
  split
  · split
    · exact good
    · exact good.seek here
  · exact good.create here
  · rename_i slot fresh
    split
    · exact good
    · exact good.enter here fresh
  · rename_i slot created waiting
    exact good.acquire here waiting
  · rename_i hold stage holding
    exact good.proceed here holding granted
  · exact good

theorem quit : Good (locks.quit index task) := by
  rw [Locks.quit]
  split
  · rename_i hold stage holding
    obtain ⟨record, footing⟩ := good.sound here holding
    exact good.release here footing trivial rfl
  · exact good.phase here trivial nofun

end

theorem outside (spares : Spares locks after locks.tasks.length) (tasks : after.tasks = locks.tasks)
    (linked : ∀ deviceId slot, after.deviceEpochs.lookup deviceId = some slot → after.Known slot)
    (timely : after.sweeper.now ≤ after.clock)
    (quiet : ∀ now deviceId candidates, after.sweeper = .idle now deviceId candidates →
      ∀ (index : Nat) (task : Task), locks.tasks[index]? = some task → task.deviceId = deviceId →
      task.phase.active = false) : Good after where
  tasks := by
    intro index task here
    rw [tasks] at here
    exact Sound.spared good spares (Nat.ne_of_lt (List.getElem?_eq_some_iff.mp here).1) here
  linked := linked
  timely := timely
  quiet := by
    rw [tasks]
    exact quiet

theorem sweeper {sweeper : Sweeper} (timely : sweeper.now ≤ locks.clock)
    (quiet : ∀ now deviceId candidates, sweeper = .idle now deviceId candidates →
      ∀ (index : Nat) (task : Task), locks.tasks[index]? = some task → task.deviceId = deviceId →
      task.phase.active = false) : Good { locks with sweeper := sweeper } :=
  good.outside (.of_same rfl (le_refl _) rfl rfl) rfl good.linked timely quiet

theorem tick (elapsed : Nat) : Good { locks with clock := locks.clock + elapsed } :=
  good.outside (.of_same rfl (le_add_right _ _) rfl rfl) rfl good.linked
    (le_trans good.timely (le_add_right _ _)) good.quiet

theorem arrive (deviceId : Text) (purpose : Purpose) :
    Good { locks with tasks := locks.tasks ++ [⟨deviceId, purpose, .seeking⟩] } := by
  have known : ∀ (index : Nat) (task : Task),
      (locks.tasks ++ [⟨deviceId, purpose, .seeking⟩])[index]? = some task →
      locks.tasks[index]? = some task ∨ task = ⟨deviceId, purpose, .seeking⟩ := by
    intro index task here
    rw [getElem?_append] at here
    split at here
    · exact .inl here
    · exact .inr (mem_singleton.mp (mem_of_getElem? here))
  constructor
  · intro index task here
    obtain here | rfl := known index task here
    · exact (good.tasks index task here).retask _
    · trivial
  · exact good.linked
  · exact good.timely
  · intro now device candidates idle index task here sameDevice
    obtain here | rfl := known index task here
    · exact good.quiet now device candidates idle index task here sameDevice
    · rfl

/-- The sweeper goes on. No slot with a returned guard is old enough for it, because such a
guard is stamped and was acquired less than an hour ago. -/
theorem sweep (brief : locks.Brief) (visited : Option Text) (present : Bool) :
    Good (locks.sweep visited present) := by
  have timely := good.timely
  have quiet := good.quiet
  rw [Locks.sweep]
  split
  · exact good.sweeper (le_refl _) nofun
  · rename_i now candidates collecting
    rw [collecting] at timely
    split
    · exact good.sweeper timely nofun
    · split
      · exact good.sweeper timely nofun
      · exact good
  · exact good.sweeper (zero_le _) nofun
  · rename_i now deviceId candidates removing
    rw [removing] at timely
    split
    · exact good.sweeper timely nofun
    · exact good.sweeper timely nofun
  · rename_i now deviceId candidates entered
    rw [entered] at timely
    split
    · rename_i unused
      refine good.sweeper timely ?_
      intro _ _ _ same index task here sameDevice
      cases same
      refine eq_false_iff.mpr fun active => ?_
      obtain ⟨hold, stage, record, holding, footing, current⟩ := good.guard here active
      rw [Locks.unused, ← sameDevice, current, bind_some, footing.here, any_some,
        decide_eq_true_eq] at unused
      have recent := brief task (mem_of_getElem? here)
      rw [holding] at recent active
      have dated := footing.dated.of_active active
      have timely : now ≤ locks.clock := timely
      simp only [Phase.Brief] at recent
      have ttl : deviceEpochIdleTtl = 3600000 := rfl
      omega
    · exact good.sweeper timely nofun
  · rename_i now deviceId candidates idle
    rw [idle] at timely
    split
    · exact good.sweeper timely nofun
    have spares : Spares locks (locks.unlink deviceId) locks.tasks.length := by
      refine .unlink fun index task _ there active same => ?_
      rw [quiet now deviceId candidates idle index task there same] at active
      cases active
    exact good.outside ⟨spares.slots, spares.clock, spares.kept, spares.added, spares.settled⟩ rfl
      (fun other slot left => good.linked other slot (Locks.lookup_of_unlink left)) timely nofun

theorem step (brief : locks.Brief) (event : Event) : Good (locks.step event).1 := by
  cases event with
  | arrive deviceId purpose => exact good.arrive deviceId purpose
  | run index granted =>
    rw [Locks.step, Locks.next]
    cases here : locks.tasks[index]? with
    | none => exact good
    | some task => exact good.advance here granted
  | abandon index =>
    rw [Locks.step, Locks.next]
    cases here : locks.tasks[index]? with
    | none => exact good
    | some task => exact good.quit here
  | tick elapsed => exact good.tick elapsed
  | sweep visited present => exact good.sweep brief visited present

end

end Good

/-- A task has the guard of the slot in the map, and no other task has got a guard for the same
device returned. -/
def Locks.Exclusive (locks : Locks) (index : Nat) : Prop :=
  ∃ task hold stage, locks.tasks[index]? = some task ∧ task.phase = .holding hold stage ∧
    locks.deviceEpochs.lookup task.deviceId = some hold.slot ∧
    ∀ (other : Nat) (rival : Task), locks.tasks[other]? = some rival →
      rival.deviceId = task.deviceId → rival.phase.active = true → other = index

/-- While a task had the guard that it has got returned, no other task has admitted or authorized
for the same device. -/
def Locks.Undisturbed (locks : Locks) : Prop :=
  ∀ (index : Nat) (task : Task) (hold : Hold) (stage : Stage), locks.tasks[index]? = some task →
    task.phase = .holding hold stage → stage.active = true →
    ∀ entry ∈ locks.settled.drop hold.mark, entry.2 = task.deviceId → entry.1 = index

theorem Good.exclusive (good : Good locks) (here : locks.tasks[index]? = some task)
    (active : task.phase.active = true) : locks.Exclusive index := by
  obtain ⟨hold, stage, record, holding, footing, current⟩ := good.guard here active
  refine ⟨task, hold, stage, here, holding, current, ?_⟩
  intro other rival there sameDevice rivals
  obtain ⟨_, _, _, -, its, linked⟩ := good.guard there rivals
  rw [sameDevice, current] at linked
  exact footing.unique its (Option.some.inj linked)

theorem Good.undisturbed (good : Good locks) : locks.Undisturbed := by
  intro index task hold stage here holding active
  obtain ⟨record, footing⟩ := good.sound here holding
  exact footing.alone (footing.current active)

theorem Locks.active_of_settling {event : Event} (settles : locks.settling event = some index) :
    ∃ task, locks.tasks[index]? = some task ∧ task.phase.active = true := by
  cases event with
  | run own granted =>
    rw [Locks.settling, bind_eq_some_iff] at settles
    obtain ⟨task, here, settles⟩ := settles
    have isOwn : own = index ∧ task.phase.active = true := by
      split at settles
      · rename_i holding _
        split at settles
        · exact ⟨Option.some.inj settles, by rw [holding]; rfl⟩
        · cases settles
      · rename_i holding _
        split at settles
        · exact ⟨Option.some.inj settles, by rw [holding]; rfl⟩
        · cases settles
      · cases settles
    exact ⟨task, isOwn.1 ▸ here, isOwn.2⟩
  | _ => cases settles

/-- In every run in which no guard is held for an hour, whoever admits an epoch or authorizes a
disconnect has the guard of the slot in the map. No other task that may still admit or authorize
has a guard for the device then: not one that it has got returned, and not one that it will get
returned later. -/
theorem settlements_are_exclusive (events : List Event)
    (brief : Throughout Locks.step Locks.Brief Locks.start events) :
    Along Locks.step (fun locks event =>
        ∀ index, locks.settling event = some index → locks.Exclusive index) Locks.start events ∧
      Throughout Locks.step Locks.Undisturbed Locks.start events := by
  have guarded := along_of_throughout brief
  constructor
  · refine along_of_step _ Good _ _ ?_ _ _ good_start guarded
    intro locks event good brief
    refine ⟨fun index settles => ?_, good.step brief event⟩
    obtain ⟨task, here, active⟩ := Locks.active_of_settling settles
    exact good.exclusive here active
  · exact throughout_of_along _ Good _ _ (fun _ event good brief => good.step brief event)
      (fun _ good => good.undisturbed) _ _ good_start guarded

/-- Two requests of the device `d`. The second one waits for the mutex of the slot that the first
one has made, and the first one is refused and removes the slot. The second one finds that out and
makes another slot; a disconnect then waits for the mutex of that one. -/
def Sample.events : List Event :=
  [.arrive [0x64] (.getconf 1 []), .run 0 true, .run 0 true, .run 0 true, .run 0 true,
    .arrive [0x64] (.getconf 2 []), .run 1 true, .run 0 true, .run 0 true, .run 0 true,
    .run 0 false, .run 0 true, .tick 1000, .run 0 true, .run 1 true, .run 1 true, .run 1 true,
    .run 1 true, .run 1 true, .run 1 true, .run 1 true, .run 1 true, .sweep none true,
    .arrive [0x64] (.disconnect 2 []), .run 2 true, .run 1 true, .run 1 true, .run 1 true,
    .run 1 true, .run 1 true, .run 1 true, .run 2 true, .run 2 true, .run 2 true, .run 2 true,
    .run 2 true, .run 2 true]

/-- Both the second request and the disconnect are served, each alone. -/
theorem sample_is_exclusive :
    ((final Locks.step Locks.start Sample.events).settled = [(1, [0x64]), (2, [0x64])]) ∧
      Along Locks.step (fun locks event =>
        ∀ index, locks.settling event = some index → locks.Exclusive index) Locks.start
        Sample.events ∧ Throughout Locks.step Locks.Undisturbed Locks.start Sample.events :=
  ⟨by decide +kernel, settlements_are_exclusive Sample.events (by decide +kernel)⟩

end Csqtt.EpochLock
