import Csqtt.StreamRounds
import Csqtt.TableVisits

/-!
# Repair of streams, from the server's ticks to the client's slots

At a tick the server counts the streams of every client that it has, and attends to the round of each
client: missing streams are reported to it, and so is that they are back. A client without any stream
is not attended to. Its round is kept for a minute if there is something left to say, and for ever if
there is not.

The client has a slot for each stream. It restarts a stream if the sequence number of the report is
larger than that of the last one, and ignores the report otherwise. So the server has to use larger and
larger numbers for one client. It does not if a round is dropped and the client comes back: the new
round begins with one again. If no round is dropped, every report is acted on when it comes for the
first time.

Sessions are what a tick reads of them. The time when the streams were counted last is kept, since they
are only counted again if something has changed or after a minute.
-/

namespace Csqtt.Streams

open Bytes ControlText List Runs Table Nat

/-! ## The streams of a client -/

def streamReconcileIntervalMs : Nat := 3000
def streamControlCarriers : Nat := 3
def streamRoundOrphanTtlMs : Nat := 60000
def streamInventoryResyncMs : Nat := 60000

/-- Streams belong together if they have the same device, generation and salt. -/
abbrev StreamIdentity := Epoch

/-- What a tick reads of a session. -/
structure StreamSession where
  id : Nat
  identity : StreamIdentity
  desiredStreamCount : UInt16
  registered : Bool
  workerId : Nat
deriving DecidableEq, Repr

/-- The session counts as a stream. -/
def StreamSession.counts (session : StreamSession) : Bool :=
  session.desiredStreamCount != 0 && decide (session.desiredStreamCount.toNat ≤ maxStreamWorkers) &&
    session.registered && session.workerId != 0 &&
    decide (session.workerId ≤ session.desiredStreamCount.toNat) &&
    decide (session.workerId ≤ maxStreamWorkers)

structure StreamInventory where
  desiredCount : UInt16 := 0
  desiredSessionId : Nat := 0
  present : List Bool := List.replicate (maxStreamWorkers + 1) false
  carriers : List Nat := []
  seen : Bool := false
deriving DecidableEq, Repr

namespace StreamInventory

/-- Count a stream. The newest session says how many there should be. -/
def observe (streams : StreamInventory) (slot : Nat) (session : StreamSession) : StreamInventory :=
  let streams :=
    if session.id ≥ streams.desiredSessionId then
      { streams with
        desiredCount := session.desiredStreamCount
        desiredSessionId := session.id }
    else streams
  { streams with
    present := streams.present.set session.workerId true
    seen := true
    carriers :=
      if streams.carriers.length < streamControlCarriers then streams.carriers ++ [slot]
      else streams.carriers }

/-- The streams that are not there. -/
def fillMissing (streams : StreamInventory) : List UInt16 :=
  ((List.range' 1 (min streams.desiredCount.toNat maxStreamWorkers)).filter fun worker =>
    !streams.present.getD worker false).map UInt16.ofNat

end StreamInventory

/-- Count the session in a slot if it is a stream. -/
def countSession (inventory : Table StreamIdentity StreamInventory) (entry : Nat × StreamSession) :
    Table StreamIdentity StreamInventory :=
  if entry.2.counts then
    inventory.insert entry.2.identity
      (((inventory.lookup entry.2.identity).getD {}).observe entry.1 entry.2)
  else inventory

/-- Count the streams again. -/
def rebuildInventory (inventory : Table StreamIdentity StreamInventory)
    (sessions : List (Nat × StreamSession)) : Table StreamIdentity StreamInventory :=
  (sessions.foldl countSession (inventory.mapRows fun _ _ => {})).retain fun _ streams => streams.seen

/-! ## Ticks -/

/-- What is logged about a repair. -/
structure StreamRepairLog where
  deviceId : Text
  generationId : UInt64
  desiredCount : UInt16
  sequence : UInt64
  missing : List UInt16
deriving DecidableEq, Repr

/-- A payload for the first of these carriers that take it. -/
structure StreamControlAction where
  carriers : List Nat
  payload : List UInt8
  repair : Option StreamRepairLog
deriving DecidableEq, Repr

/-- What an engine keeps about streams. -/
structure Reconciler where
  inventory : Table StreamIdentity StreamInventory := ∅
  repairs : Table StreamIdentity StreamRepairRound := ∅
  inventoryDirty : Bool := true
  lastReconcileMs : Nat := 0
  lastInventoryResyncMs : Nat := 0

/-- A tick: the time, whether sessions have changed since the last one, and the sessions. -/
structure Tick where
  now : Nat
  dirtied : Bool
  sessions : List (Nat × StreamSession)

/-- Attend to the round of a client. -/
def attend (now : Nat) (identity : StreamIdentity) (streams : StreamInventory)
    (round : Option StreamRepairRound) : StreamRepairRound × Option StreamControlAction :=
  let round := { round.getD {} with lastSeenMs := now }
  let missing := streams.fillMissing
  if missing = [] then
    let (round, payload) := (round.recovered streams.desiredCount now).alivePayload now
    (round, payload.map fun payload => ⟨streams.carriers, payload, none⟩)
  else
    let (round, payload) := round.repairPayload missing streams.desiredCount now
    (round, payload.map fun payload =>
      ⟨streams.carriers, payload, some ⟨identity.deviceId, identity.generationId, streams.desiredCount,
        round.sequence, missing⟩⟩)

namespace Reconciler

/-- Enough time has passed since the last tick. -/
def isDue (state : Reconciler) (tick : Tick) : Bool :=
  decide (streamReconcileIntervalMs ≤ tick.now - state.lastReconcileMs)

/-- The streams are counted again. -/
def rebuilds (state : Reconciler) (tick : Tick) : Bool :=
  (state.inventoryDirty || tick.dirtied) ||
    decide (streamInventoryResyncMs ≤ tick.now - state.lastInventoryResyncMs)

/-- The streams that a tick works with. -/
def counted (state : Reconciler) (tick : Tick) : Table StreamIdentity StreamInventory :=
  if state.rebuilds tick then rebuildInventory state.inventory tick.sessions else state.inventory

/-- Attend to all clients with streams and forget about some of the others. -/
def reconcileStreams (state : Reconciler) (tick : Tick) :
    Reconciler × List (StreamIdentity × StreamControlAction) :=
  if state.isDue tick then
    let inventory := state.counted tick
    let visited := Table.visit (fun entry => attend tick.now entry.1 entry.2)
      (inventory.rows.map fun row => (row.1, row)) state.repairs
    ({ inventory := inventory
       repairs := visited.1.retain fun identity round =>
        (inventory.lookup identity).isSome || !round.active ||
          decide (tick.now - round.lastSeenMs < streamRoundOrphanTtlMs)
       inventoryDirty := !state.rebuilds tick && (state.inventoryDirty || tick.dirtied)
       lastReconcileMs := tick.now
       lastInventoryResyncMs := if state.rebuilds tick then tick.now else state.lastInventoryResyncMs },
      visited.2)
  else ({ state with inventoryDirty := state.inventoryDirty || tick.dirtied }, [])

end Reconciler

/-- The reports of missing streams to a client, in the actions of a tick. -/
def repairsTo (identity : StreamIdentity) (actions : List (StreamIdentity × StreamControlAction)) :
    List (List UInt8) :=
  (actions.filterMap fun entry => if entry.1 = identity then some entry.2 else none).filterMap
    fun action => action.repair.map fun _ => action.payload

/-- All reports of missing streams to a client in a run. -/
def repairsOf (identity : StreamIdentity) (state : Reconciler) (ticks : List Tick) : List (List UInt8) :=
  (outputs Reconciler.reconcileStreams state ticks).flatMap (repairsTo identity)

/-! ## The client -/

structure StreamRepairCommand where
  sequence : UInt64
  desiredCount : UInt16
  workerIds : List UInt16
deriving DecidableEq, Repr

/-- Read a message about streams. -/
def parseStreamCommand (payload kind : List UInt8) : Option StreamRepairCommand :=
  if kind.isPrefixOf payload then
    let rest := payload.drop kind.length
    if rest.length < 11 then none
    else
      let sequence := UInt64.ofNat (fromBe (slice rest 0 8))
      let desiredCount := UInt16.ofNat (fromBe (slice rest 8 10))
      let count := (byteAt rest 10).toNat
      let ids := rest.drop 11
      if sequence = 0 ∨ desiredCount = 0 ∨ desiredCount.toNat > maxStreamWorkers ∨
          ids.length ≠ count * 2 then none
      else
        let workerIds := readWorkers ids
        if workerIds.any fun workerId => workerId == 0 || decide (workerId > desiredCount) then none
        else if workerIds = [] then none
        else some ⟨sequence, desiredCount, workerIds⟩
  else none

def parseStreamRepair (payload : List UInt8) : Option StreamRepairCommand :=
  parseStreamCommand payload streamRepairPrefix

def parseStreamAlive (payload : List UInt8) : Option StreamRepairCommand :=
  parseStreamCommand payload streamAlivePrefix

structure RepairSlot where
  restartGeneration : UInt64 := 0
  credentialGeneration : UInt64 := 0
  lastSequence : UInt64 := 0
  readySequence : UInt64 := 0
deriving DecidableEq, Repr

structure RepairApplyResult where
  restarts : Nat := 0
  credentialResets : Nat := 0
deriving DecidableEq, Repr

/-- The slots of the streams. The first one is not used. -/
structure RepairState where
  slots : List RepairSlot
deriving DecidableEq, Repr

/-- Restart a stream, with new credentials if the last restart did not help. -/
def RepairSlot.repaired (slot : RepairSlot) (sequence : UInt64) : RepairSlot × RepairApplyResult :=
  if sequence ≤ slot.lastSequence then (slot, {})
  else if slot.lastSequence ≠ 0 ∧ slot.readySequence < slot.lastSequence then
    ({ slot with
      lastSequence := sequence
      credentialGeneration := slot.credentialGeneration + 1
      restartGeneration := slot.restartGeneration + 1 }, ⟨1, 1⟩)
  else
    ({ slot with
      lastSequence := sequence
      restartGeneration := slot.restartGeneration + 1 }, ⟨1, 0⟩)

namespace RepairState

def new (desiredCount : Nat) : RepairState := ⟨List.replicate (desiredCount + 1) {}⟩

def slot (state : RepairState) (workerId : Nat) : Option RepairSlot :=
  if workerId ≠ 0 then state.slots[workerId]? else none

/-- Change the slot of a stream, if there is one. -/
def modify (state : RepairState) (workerId : Nat) (change : RepairSlot → RepairSlot) : RepairState :=
  if workerId ≠ 0 then ⟨state.slots.modify workerId change⟩ else state

def restartGeneration (state : RepairState) (workerId : Nat) : UInt64 :=
  ((state.slot workerId).map RepairSlot.restartGeneration).getD 0

def credentialGeneration (state : RepairState) (workerId : Nat) : UInt64 :=
  ((state.slot workerId).map RepairSlot.credentialGeneration).getD 0

def markReady (state : RepairState) (workerId : Nat) : RepairState :=
  state.modify workerId fun slot => { slot with readySequence := slot.lastSequence }

/-- Restart one of the streams that a report names, and count. -/
def repairWorker (sequence : UInt64) (done : RepairState × RepairApplyResult) (workerId : UInt16) :
    RepairState × RepairApplyResult :=
  match done.1.slot workerId.toNat with
  | none => done
  | some slot =>
    let result := (slot.repaired sequence).2
    (done.1.modify workerId.toNat fun slot => (slot.repaired sequence).1,
      ⟨done.2.restarts + result.restarts, done.2.credentialResets + result.credentialResets⟩)

/-- Restart the streams that a report names. -/
def applyRepair (state : RepairState) (command : StreamRepairCommand) :
    RepairState × RepairApplyResult :=
  command.workerIds.foldl (repairWorker command.sequence) (state, {})

/-- Streams are back. -/
def applyAlive (state : RepairState) (command : StreamRepairCommand) : RepairState :=
  command.workerIds.foldl (fun state workerId =>
    state.modify workerId.toNat fun slot =>
      { slot with readySequence := max slot.readySequence command.sequence }) state

end RepairState

/-- What happens to a client's slots: a message comes, or a stream is ready. -/
inductive RepairEvent
  | message (payload : List UInt8)
  | ready (workerId : Nat)

/-- The client acts on an event. -/
def RepairState.handle (state : RepairState) : RepairEvent → RepairState
  | .message payload =>
    match parseStreamRepair payload with
    | some command => (state.applyRepair command).1
    | none =>
      match parseStreamAlive payload with
      | some command => state.applyAlive command
      | none => state
  | .ready workerId => state.markReady workerId

/-! ## What is counted -/

/-- A client has streams at a tick: some session counts, or, if the streams are not counted again, one
did when they were. -/
def Reconciler.lists (state : Reconciler) (tick : Tick) (identity : StreamIdentity) : Bool :=
  if state.rebuilds tick then
    tick.sessions.any fun entry => entry.2.counts && entry.2.identity == identity
  else (state.inventory.lookup identity).isSome

/-- As many streams as a message can be about. -/
def IsStreamCount (desiredCount : UInt16) : Prop :=
  0 < desiredCount.toNat ∧ desiredCount.toNat ≤ maxStreamWorkers

/-- If streams were counted, it is known how many there should be. -/
structure StreamInventory.Sound (streams : StreamInventory) : Prop where
  desired : streams.seen = true → IsStreamCount streams.desiredCount
  unseen : streams.seen = false → streams.desiredSessionId = 0

theorem StreamInventory.Sound.initial : Sound {} := by
  refine ⟨?_, fun _ => rfl⟩
  intro seen
  cases seen

theorem StreamSession.isStreamCount {session : StreamSession} (counts : session.counts = true) :
    IsStreamCount session.desiredStreamCount := by
  simp only [StreamSession.counts, Bool.and_eq_true, bne_iff_ne, decide_eq_true_eq] at counts
  obtain ⟨⟨⟨⟨⟨nonzero, few⟩, -⟩, -⟩, -⟩, -⟩ := counts
  refine ⟨pos_of_ne_zero ?_, few⟩
  intro zero
  exact nonzero (UInt16.toNat_inj.mp zero)

theorem StreamInventory.seen_observe (streams : StreamInventory) (slot : Nat) (session : StreamSession) :
    (streams.observe slot session).seen = true := rfl

variable {streams : StreamInventory} {identity : StreamIdentity} {command : StreamRepairCommand}
  {now : Nat} {sent : List Nat}

theorem StreamInventory.Sound.observe (sound : streams.Sound) (slot : Nat) {session : StreamSession}
    (counts : session.counts = true) : (streams.observe slot session).Sound := by
  refine ⟨fun _ => ?_, fun unseen => ?_⟩
  · unfold StreamInventory.observe
    split
    · exact StreamSession.isStreamCount counts
    rename_i older
    cases seen : streams.seen with
    | true => exact sound.desired seen
    | false =>
      rw [sound.unseen seen] at older
      exact absurd (zero_le _) older
  · rw [seen_observe] at unseen
    cases unseen

/-- Counting a session says which client it belongs to. -/
theorem countSession_lookup {inventory : Table StreamIdentity StreamInventory}
    (sound : ((inventory.lookup identity).getD {}).Sound) (entry : Nat × StreamSession) :
    (((countSession inventory entry).lookup identity).getD {}).Sound ∧
      (((countSession inventory entry).lookup identity).getD {}).seen =
        ((entry.2.counts && entry.2.identity == identity) ||
          ((inventory.lookup identity).getD {}).seen) := by
  unfold countSession
  split
  · rename_i counts
    rw [lookup_insert_if]
    split
    · rename_i same
      subst same
      rw [Option.getD_some, counts, beq_self_eq_true]
      exact ⟨sound.observe entry.1 counts, StreamInventory.seen_observe ..⟩
    · rename_i other
      rw [beq_false_of_ne (Ne.symm other), Bool.and_false, Bool.false_or]
      exact ⟨sound, rfl⟩
  · rename_i ignored
    rw [Bool.eq_false_of_not_eq_true ignored, Bool.false_and, Bool.false_or]
    exact ⟨sound, rfl⟩

theorem foldl_countSession_lookup {inventory : Table StreamIdentity StreamInventory}
    (sound : ((inventory.lookup identity).getD {}).Sound) (sessions : List (Nat × StreamSession)) :
    (((sessions.foldl countSession inventory).lookup identity).getD {}).Sound ∧
      (((sessions.foldl countSession inventory).lookup identity).getD {}).seen =
        ((sessions.any fun entry => entry.2.counts && entry.2.identity == identity) ||
          ((inventory.lookup identity).getD {}).seen) := by
  induction sessions generalizing inventory with
  | nil => exact ⟨sound, rfl⟩
  | cons entry rest ih =>
    obtain ⟨next, seen⟩ := countSession_lookup sound entry
    obtain ⟨last, seenLast⟩ := ih next
    refine ⟨last, ?_⟩
    rw [foldl_cons, seenLast, seen, any_cons, ← Bool.or_assoc, Bool.or_comm (rest.any _)]

/-- After counting, exactly the clients with streams are listed, each with a number of streams. -/
theorem lookup_rebuildInventory (inventory : Table StreamIdentity StreamInventory)
    (sessions : List (Nat × StreamSession)) (identity : StreamIdentity) :
    ((rebuildInventory inventory sessions).lookup identity).isSome =
        (sessions.any fun entry => entry.2.counts && entry.2.identity == identity) ∧
      ∀ streams, (rebuildInventory inventory sessions).lookup identity = some streams →
        IsStreamCount streams.desiredCount := by
  have cleared : ((inventory.mapRows fun _ _ => ({} : StreamInventory)).lookup identity).getD {} = {} := by
    rw [lookup_mapRows]
    cases inventory.lookup identity with
    | none => rfl
    | some streams => rfl
  have empty : (((inventory.mapRows fun _ _ => ({} : StreamInventory)).lookup identity).getD {}).Sound := by
    rw [cleared]
    exact .initial
  obtain ⟨sound, seen⟩ := foldl_countSession_lookup empty sessions
  rw [cleared, Bool.or_false] at seen
  rw [rebuildInventory, lookup_retain, ← seen]
  generalize (sessions.foldl countSession (inventory.mapRows fun _ _ => {})).lookup identity = found
    at sound
  cases found with
  | none =>
    refine ⟨rfl, ?_⟩
    intro streams found
    cases found
  | some streams =>
    rw [Option.getD_some, Option.filter_some]
    split
    · rename_i counted
      refine ⟨counted.symm, ?_⟩
      rintro _ ⟨⟩
      exact sound.desired counted
    · rename_i uncounted
      refine ⟨(Bool.eq_false_of_not_eq_true uncounted).symm, ?_⟩
      intro _ found
      cases found

/-- The counted clients have a number of streams. -/
def Reconciler.Sound (state : Reconciler) : Prop :=
  ∀ identity streams, state.inventory.lookup identity = some streams → IsStreamCount streams.desiredCount

variable {state : Reconciler}

theorem Reconciler.Sound.counted (sound : state.Sound) (tick : Tick) (identity : StreamIdentity) :
    ((state.counted tick).lookup identity).isSome = state.lists tick identity ∧
      ∀ streams, (state.counted tick).lookup identity = some streams →
        IsStreamCount streams.desiredCount := by
  unfold Reconciler.counted Reconciler.lists
  split
  · exact lookup_rebuildInventory ..
  · exact ⟨rfl, sound identity⟩

theorem StreamInventory.mem_fillMissing {workerId : UInt16}
    (missing : workerId ∈ streams.fillMissing) :
    0 < workerId.toNat ∧ workerId.toNat ≤ streams.desiredCount.toNat := by
  obtain ⟨worker, member, rfl⟩ := mem_map.mp missing
  have range := mem_range'_1.mp (mem_filter.mp member).1
  have few : worker ≤ maxStreamWorkers := by omega
  rw [UInt16.toNat_ofNat_of_lt' (lt_of_le_of_lt few (by decide))]
  omega

theorem StreamInventory.length_fillMissing (streams : StreamInventory) :
    streams.fillMissing.length ≤ maxStreamWorkers := by
  calc streams.fillMissing.length
      ≤ (List.range' 1 (min streams.desiredCount.toNat maxStreamWorkers)).length := by
        rw [fillMissing, length_map]
        exact length_filter_le _ _
    _ ≤ maxStreamWorkers := by
        rw [length_range']
        exact min_le_right _ _

/-! ## Messages that can be read -/

/-- A report that makes sense. -/
structure StreamRepairCommand.Valid (command : StreamRepairCommand) : Prop where
  numbered : 0 < command.sequence.toNat
  desired : IsStreamCount command.desiredCount
  named : command.workerIds ≠ []
  few : command.workerIds.length ≤ maxStreamWorkers
  within : ∀ workerId ∈ command.workerIds,
    0 < workerId.toNat ∧ workerId.toNat ≤ command.desiredCount.toNat

/-- A message of a kind. -/
def StreamRepairCommand.message (command : StreamRepairCommand) (kind : Text) : List UInt8 :=
  streamControlPayload kind command.sequence command.desiredCount command.workerIds

/-- A report as it is sent. -/
def StreamRepairCommand.payload (command : StreamRepairCommand) : List UInt8 :=
  command.message streamRepairPrefix

/-- The parts of a message behind its kind. -/
theorem message_parts {first second : List UInt8} (count : UInt8) (ids : List UInt8)
    (eight : first.length = 8) (two : second.length = 2) :
    (first ++ (second ++ (count :: ids))).length = 11 + ids.length ∧
      slice (first ++ (second ++ (count :: ids))) 0 8 = first ∧
      slice (first ++ (second ++ (count :: ids))) 8 10 = second ∧
      byteAt (first ++ (second ++ (count :: ids))) 10 = count ∧
      (first ++ (second ++ (count :: ids))).drop 11 = ids := by
  have header : (first ++ second).length = 10 := by rw [length_append, eight, two]
  refine ⟨?_, ?_, ?_, ?_, ?_⟩
  · simp only [length_append, length_cons, eight, two]
    omega
  · exact slice_eq_middle _ [] first _ _ _ rfl rfl (by rw [eight]; rfl)
  · exact slice_eq_middle _ first second _ _ _ rfl eight.symm (by rw [eight, two])
  · rw [← append_assoc]
    exact byteAt_middle _ _ _ _ header.symm
  · rw [← append_assoc, drop_append, header, drop_eq_nil_of_le (by omega)]
    rfl

theorem length_written (workerIds : List UInt16) :
    (workerIds.flatMap fun workerId => toBe 2 workerId.toNat).length = workerIds.length * 2 := by
  induction workerIds with
  | nil => rfl
  | cons workerId rest ih =>
    rw [flatMap_cons, length_append, ih, toBe_length, length_cons]
    omega

/-- A client reads what was written. -/
theorem StreamRepairCommand.Valid.read (valid : command.Valid) (kind : Text) :
    parseStreamCommand (command.message kind) kind = some command := by
  obtain ⟨sequence, desiredCount, workerIds⟩ := command
  obtain ⟨numbered, ⟨desired, notMany⟩, named, few, within⟩ := valid
  dsimp only at numbered desired notMany named few within
  have opens : kind.isPrefixOf
      (streamControlPayload kind sequence desiredCount workerIds) = true :=
    isPrefixOf_iff_prefix.mpr (prefix_append _ _)
  have count : (UInt8.ofNat workerIds.length).toNat = workerIds.length :=
    UInt8.toNat_ofNat_of_lt' (lt_of_le_of_lt few (by decide))
  have rest : (streamControlPayload kind sequence desiredCount workerIds).drop
      kind.length = toBe 8 sequence.toNat ++ (toBe 2 desiredCount.toNat ++
        (UInt8.ofNat workerIds.length :: workerIds.flatMap fun workerId => toBe 2 workerId.toNat)) := by
    unfold streamControlPayload maxStreamWorkers at *
    rw [drop_left, min_eq_left (by omega), take_length]
  obtain ⟨long, sequenceRead, desiredRead, countRead, idsRead⟩ := message_parts
    (UInt8.ofNat workerIds.length) (workerIds.flatMap fun workerId => toBe 2 workerId.toNat)
    (toBe_length 8 sequence.toNat) (toBe_length 2 desiredCount.toNat)
  rw [StreamRepairCommand.message, parseStreamCommand, if_pos opens]
  dsimp only
  rw [rest, long, sequenceRead, desiredRead, countRead, idsRead, count, length_written,
    fromBe_u64, fromBe_u16, UInt64.ofNat_toNat, UInt16.ofNat_toNat, readWorkers_written]
  rw [if_neg (by omega), if_neg, if_neg, if_neg named]
  · rw [any_eq_true]
    rintro ⟨workerId, member, wrong⟩
    obtain ⟨positive, small⟩ := within workerId member
    rw [Bool.or_eq_true, beq_iff_eq, decide_eq_true_eq, gt_iff_lt, UInt16.lt_iff_toNat_lt] at wrong
    rcases wrong with rfl | large
    · exact absurd positive (by decide)
    · omega
  · rintro (rfl | rfl | large | odd)
    · exact absurd numbered (by decide)
    · exact absurd desired (by decide)
    · omega
    · exact odd rfl

theorem StreamRepairCommand.Valid.parse (valid : command.Valid) :
    parseStreamRepair command.payload = some command :=
  valid.read streamRepairPrefix

/-! ## Larger and larger numbers -/

/-- What a round keeps about the sequence numbers that were sent: none is larger than its own, and all
are smaller if it has not reported the missing streams yet. -/
structure Numbered (round : StreamRepairRound) (sent : List Nat) : Prop where
  reached : ∀ sequence ∈ sent, sequence ≤ round.sequence.toNat
  unsent : round.lastMissing ≠ [] → round.lastSentMs = 0 →
    ∀ sequence ∈ sent, sequence < round.sequence.toNat
  positive : round.lastMissing ≠ [] → 0 < round.sequence.toNat

namespace Numbered

variable {round : StreamRepairRound} {missing : List UInt16} {desiredCount : UInt16}

theorem initial : Numbered {} [] := by
  refine ⟨?_, ?_, ?_⟩
  · intro sequence member
    cases member
  · intro _ _ sequence member
    cases member
  · intro some
    exact absurd rfl some

section

variable (numbered : Numbered round sent)

include numbered

theorem seen (now : Nat) : Numbered { round with lastSeenMs := now } sent :=
  ⟨numbered.reached, numbered.unsent, numbered.positive⟩

theorem observed (countable : Countable round) : Numbered (round.observed missing now) sent := by
  unfold StreamRepairRound.observed
  split
  · exact numbered
  have larger := toNat_nextSequence countable
  refine ⟨?_, ?_, ?_⟩
  · intro sequence member
    have before := numbered.reached sequence member
    dsimp only
    omega
  · intro _ _ sequence member
    have before := numbered.reached sequence member
    dsimp only
    omega
  · intro _
    dsimp only
    omega

theorem recovered : Numbered (round.recovered desiredCount now) sent := by
  unfold StreamRepairRound.recovered
  split
  · exact numbered
  refine ⟨numbered.reached, ?_, ?_⟩
  · intro some
    exact absurd rfl some
  · intro some
    exact absurd rfl some

theorem alivePayload : Numbered (round.alivePayload now).1 sent := by
  unfold StreamRepairRound.alivePayload
  split
  · exact numbered
  · exact ⟨numbered.reached, numbered.unsent, numbered.positive⟩

end

end Numbered

/-- What may come of missing streams: nothing yet, or a report with a larger number than all before. -/
inductive Reported (missing : List UInt16) (desiredCount : UInt16) (sent : List Nat) :
    StreamRepairRound × Option (List UInt8) → Prop
  | silent {round : StreamRepairRound} (numbered : Numbered round sent) :
      Reported missing desiredCount sent (round, none)
  | report {round : StreamRepairRound} {sequence : UInt64} (positive : 0 < sequence.toNat)
      (larger : ∀ before ∈ sent, before < sequence.toNat)
      (numbered : Numbered round (sequence.toNat :: sent)) :
      Reported missing desiredCount sent
        (round, some (streamControlPayload streamRepairPrefix sequence desiredCount missing))

variable {round : StreamRepairRound}

theorem Numbered.report {sequence : UInt64}
    (positive : 0 < sequence.toNat) (larger : ∀ before ∈ sent, before < sequence.toNat)
    (late : 0 < now) :
    Numbered { round with sequence := sequence, lastSentMs := now } (sequence.toNat :: sent) := by
  refine ⟨?_, ?_, fun _ => positive⟩
  · intro before member
    rcases mem_cons.mp member with rfl | earlier
    · exact le_refl _
    · exact le_of_lt (larger before earlier)
  · intro _ unsent
    exact absurd unsent (ne_of_gt late)

theorem Numbered.repairPayload (numbered : Numbered round sent)
    (countable : Countable round) (late : 0 < now) {missing : List UInt16} (some : missing ≠ [])
    (desiredCount : UInt16) :
    Reported missing desiredCount sent (round.repairPayload missing desiredCount now) := by
  have here := round.lastMissing_observed missing now
  have countableToo := countable.observed missing now
  have current : Numbered (round.observed missing now) sent := numbered.observed countable
  unfold StreamRepairRound.repairPayload
  dsimp only
  generalize round.observed missing now = after at here countableToo current
  subst here
  have positive := current.positive some
  split
  · exact .silent current
  split
  · exact .silent current
  by_cases first : after.lastSentMs = 0
  · have larger := current.unsent some first
    rw [if_neg (not_not.mpr first)]
    exact .report positive larger (.report positive larger late)
  have next := toNat_nextSequence (countableToo first)
  have larger : ∀ before ∈ sent, before < (nextSequence after.sequence).toNat := by
    intro before member
    have notLarger := current.reached before member
    omega
  have positiveNext : 0 < (nextSequence after.sequence).toNat := by omega
  rw [if_pos first]
  exact .report positiveNext larger (.report positiveNext larger late)

/-! ## Ticks of the server -/

/-- The round of a client, which may be a new one. -/
def Reconciler.roundOf (state : Reconciler) (identity : StreamIdentity) : StreamRepairRound :=
  (state.repairs.lookup identity).getD {}

/-- The round of a client is not dropped at a tick: if there is something left to say, the client has
streams, or had some less than a minute ago. -/
def spares (identity : StreamIdentity) (state : Reconciler) (tick : Tick) : Bool :=
  !state.isDue tick || (state.lists tick identity || !(state.roundOf identity).active ||
    decide (tick.now - (state.roundOf identity).lastSeenMs < streamRoundOrphanTtlMs))

/-- A round has sent reports that the client can read, with larger numbers than all before. -/
structure Reporting (sent : List Nat) (round : StreamRepairRound) (payloads : List (List UInt8))
    (commands : List StreamRepairCommand) : Prop where
  numbered : Numbered round ((commands.map fun command => command.sequence.toNat) ++ sent)
  reports : payloads = commands.map StreamRepairCommand.payload
  valid : ∀ command ∈ commands, command.Valid
  single : commands.length ≤ 1
  larger : ∀ command ∈ commands, ∀ before ∈ sent, before < command.sequence.toNat

theorem Reporting.silent (numbered : Numbered round sent) : Reporting sent round [] [] := by
  refine ⟨numbered, rfl, ?_, zero_le _, ?_⟩
  · intro command member
    cases member
  · intro command member
    cases member

/-- What comes of attending to the round of a client. -/
theorem Numbered.attend {round : Option StreamRepairRound}
    (numbered : Numbered (round.getD {}) sent) (countable : Countable (round.getD {}))
    (late : 0 < now) (identity : StreamIdentity) (desired : IsStreamCount streams.desiredCount) :
    ∃ commands, Reporting sent (Streams.attend now identity streams round).1
      ((Streams.attend now identity streams round).2.toList.filterMap fun action =>
        action.repair.map fun _ => action.payload) commands := by
  unfold Streams.attend
  dsimp only
  split
  · refine ⟨[], ?_⟩
    have told : ∀ payload : Option (List UInt8), (payload.map fun payload =>
        (⟨streams.carriers, payload, none⟩ : StreamControlAction)).toList.filterMap (fun action =>
          action.repair.map fun _ => action.payload) = [] := by
      intro payload
      cases payload with
      | none => rfl
      | some payload => rfl
    rw [told]
    exact .silent ((numbered.seen now).recovered).alivePayload
  · rename_i some
    have reported := (numbered.seen now).repairPayload countable late some streams.desiredCount
    generalize StreamRepairRound.repairPayload _ streams.fillMissing streams.desiredCount now =
      result at reported
    cases reported with
    | silent numbered => exact ⟨[], .silent numbered⟩
    | @report _ sequence positive larger numbered =>
      refine ⟨[⟨sequence, streams.desiredCount, streams.fillMissing⟩], numbered, rfl, ?_,
        le_refl _, ?_⟩
      · intro command member
        obtain rfl := mem_singleton.mp member
        exact ⟨positive, desired, some, streams.length_fillMissing,
          fun workerId missing => StreamInventory.mem_fillMissing missing⟩
      · intro command member
        obtain rfl := mem_singleton.mp member
        exact larger

/-- A tick attends to a client with streams, and leaves the rounds of others alone. -/
theorem Reconciler.visit_lookup (state : Reconciler) (tick : Tick) (identity : StreamIdentity) :
    let visited := Table.visit (fun entry => attend tick.now entry.1 entry.2)
      ((state.counted tick).rows.map fun row => (row.1, row)) state.repairs
    match (state.counted tick).lookup identity with
    | some streams =>
      visited.1.lookup identity =
          some (attend tick.now identity streams (state.repairs.lookup identity)).1 ∧
        visited.2.filterMap (fun entry => if entry.1 = identity then some entry.2 else none) =
          (attend tick.now identity streams (state.repairs.lookup identity)).2.toList
    | none =>
      visited.1.lookup identity = state.repairs.lookup identity ∧
        visited.2.filterMap (fun entry => if entry.1 = identity then some entry.2 else none) = [] := by
  split
  · rename_i streams found
    have distinct : (((state.counted tick).rows.map fun row => (row.1, row)).map Prod.fst).Nodup := by
      rw [map_map]
      exact nodup_rows _
    have member : (identity, (identity, streams)) ∈
        (state.counted tick).rows.map fun row => (row.1, row) :=
      mem_map.mpr ⟨(identity, streams), mem_rows.mpr found, rfl⟩
    exact visit_present (fun entry => attend tick.now entry.1 entry.2) distinct member _
  · rename_i missing
    have absent : ∀ value ∈ (state.counted tick).rows.map fun row => (row.1, row),
        value.1 ≠ identity := by
      rintro value member rfl
      obtain ⟨row, listed, rfl⟩ := mem_map.mp member
      rw [mem_rows.mp listed] at missing
      cases missing
    obtain ⟨kept, noted⟩ := visit_absent (fun entry => attend tick.now entry.1 entry.2)
      absent state.repairs
    refine ⟨kept, ?_⟩
    rw [filterMap_eq_nil_iff]
    intro note member
    exact if_neg (noted note member)

/-- What comes of a tick that spares the round of a client. -/
theorem Reconciler.Sound.reconcileStreams (sound : state.Sound)
    (numbered : Numbered (state.roundOf identity) sent)
    (countable : Countable (state.roundOf identity)) {tick : Tick}
    (spared : spares identity state tick = true) : (state.reconcileStreams tick).1.Sound ∧
      ∃ commands, Reporting sent ((state.reconcileStreams tick).1.roundOf identity)
        (repairsTo identity (state.reconcileStreams tick).2) commands := by
  unfold Reconciler.reconcileStreams
  split
  · rename_i due
    have late : 0 < tick.now := by
      rw [Reconciler.isDue, decide_eq_true_eq] at due
      unfold streamReconcileIntervalMs at due
      omega
    refine ⟨fun name => (sound.counted tick name).2, ?_⟩
    obtain ⟨listed, desired⟩ := sound.counted tick identity
    have visited := state.visit_lookup tick identity
    dsimp only [Reconciler.roundOf, repairsTo] at *
    rw [lookup_retain]
    cases found : (state.counted tick).lookup identity with
    | some streams =>
      rw [found] at visited
      rw [visited.1, visited.2, Option.filter_some, Option.isSome_some, Bool.true_or, Bool.true_or,
        if_pos rfl, Option.getD_some]
      exact numbered.attend countable late identity (desired streams found)
    | none =>
      rw [found] at visited listed
      rw [spares, due, Bool.not_true, Bool.false_or, ← listed, Reconciler.roundOf] at spared
      rw [visited.1, visited.2]
      refine ⟨[], ?_⟩
      cases stored : state.repairs.lookup identity with
      | none =>
        rw [stored] at numbered
        exact .silent numbered
      | some round =>
        rw [stored, Option.getD_some] at numbered spared
        rw [Option.filter_some, if_pos spared]
        exact .silent numbered
  · exact ⟨sound, [], .silent numbered⟩

/-- The reports of a run: the client can read each, and their numbers get larger and larger. -/
theorem Reconciler.Sound.run (sound : state.Sound)
    (numbered : Numbered (state.roundOf identity) sent) {ticks : List Tick}
    (countable : Along Reconciler.reconcileStreams
      (fun state _ => Countable (state.roundOf identity)) state ticks)
    (spared : Along Reconciler.reconcileStreams
      (fun state tick => spares identity state tick = true) state ticks) :
    ∃ commands : List StreamRepairCommand,
      repairsOf identity state ticks = commands.map StreamRepairCommand.payload ∧
      (∀ command ∈ commands, command.Valid ∧ ∀ before ∈ sent, before < command.sequence.toNat) ∧
      commands.Pairwise fun first second => first.sequence.toNat < second.sequence.toNat := by
  induction ticks generalizing state sent with
  | nil =>
    refine ⟨[], rfl, ?_, .nil⟩
    intro command member
    cases member
  | cons tick rest ih =>
    obtain ⟨next, here, reporting⟩ := sound.reconcileStreams numbered countable.1 spared.1
    obtain ⟨later, reports, good, ordered⟩ := ih next reporting.numbered
      countable.2 spared.2
    refine ⟨here ++ later, ?_, ?_, ?_⟩
    · rw [repairsOf, outputs, flatMap_cons, reporting.reports, map_append, ← reports]
      rfl
    · intro command member
      rcases mem_append.mp member with now | afterwards
      · exact ⟨reporting.valid command now, reporting.larger command now⟩
      · obtain ⟨valid, larger⟩ := good command afterwards
        exact ⟨valid, fun before earlier => larger before (mem_append_right _ earlier)⟩
    · rw [pairwise_append]
      refine ⟨?_, ordered, ?_⟩
      · have single := reporting.single
        cases here with
        | nil => exact .nil
        | cons first others =>
          have alone : others = [] := eq_nil_of_length_eq_zero (le_zero.mp
            (le_of_succ_le_succ single))
          rw [alone]
          exact pairwise_singleton _ _
      · intro first now second afterwards
        exact (good second afterwards).2 _ (mem_append_left _ (mem_map_of_mem now))

/-! ## What the client does -/

variable (state : RepairState)

namespace RepairState

theorem slot_modify (workerId other : Nat) (change : RepairSlot → RepairSlot) :
    (state.modify workerId change).slot other =
      (state.slot other).map fun slot => if workerId = other then change slot else slot := by
  unfold modify slot
  by_cases zero : workerId = 0
  · subst zero
    rw [if_neg (not_not.mpr rfl)]
    split
    · rename_i nonzero
      simp only [if_neg (Ne.symm nonzero), Option.map_id_fun', id]
    · rfl
  · rw [if_pos zero]
    split
    · rw [getElem?_modify]
      rfl
    · rfl

end RepairState

theorem toNat_max (first second : UInt64) :
    (max first second).toNat = max first.toNat second.toNat := by
  change (if first ≤ second then second else first).toNat = _
  split
  · rename_i smaller
    exact (max_eq_right (UInt64.le_iff_toNat_le.mp smaller)).symm
  · rename_i larger
    exact (Nat.max_eq_left (Nat.le_of_not_le larger)).symm

theorem RepairSlot.repaired_again (slot : RepairSlot) (sequence : UInt64) :
    ((slot.repaired sequence).1.repaired sequence).1 = (slot.repaired sequence).1 := by
  have reached : sequence ≤ (slot.repaired sequence).1.lastSequence := by
    unfold RepairSlot.repaired
    split
    · assumption
    · split
      · exact UInt64.le_refl _
      · exact UInt64.le_refl _
  generalize (slot.repaired sequence).1 = after at reached
  rw [RepairSlot.repaired, if_pos reached]

namespace RepairState

theorem slot_repairWorker (sequence : UInt64) (done : RepairState × RepairApplyResult)
    (workerId : UInt16) (other : Nat) :
    (repairWorker sequence done workerId).1.slot other = (done.1.slot other).map fun slot =>
      if workerId.toNat = other then (slot.repaired sequence).1 else slot := by
  unfold repairWorker
  split
  · rename_i absent
    by_cases same : workerId.toNat = other
    · rw [← same, absent]
      rfl
    · simp only [if_neg same, Option.map_id_fun', id]
  · exact slot_modify ..

/-- A report restarts the streams that it names. -/
theorem slot_applyRepair (command : StreamRepairCommand) (other : Nat) :
    (state.applyRepair command).1.slot other = (state.slot other).map fun slot =>
      if other ∈ command.workerIds.map UInt16.toNat then (slot.repaired command.sequence).1
      else slot := by
  have fold : ∀ (workerIds : List UInt16) (done : RepairState × RepairApplyResult),
      (workerIds.foldl (repairWorker command.sequence) done).1.slot other =
        (done.1.slot other).map fun slot =>
          if other ∈ workerIds.map UInt16.toNat then (slot.repaired command.sequence).1 else slot := by
    intro workerIds
    induction workerIds with
    | nil =>
      intro done
      simp
    | cons workerId rest ih =>
      intro done
      rw [foldl_cons, ih, slot_repairWorker, Option.map_map]
      congr 1
      funext slot
      simp only [Function.comp_apply, map_cons, mem_cons]
      by_cases same : workerId.toNat = other
      · rw [if_pos same, if_pos (Or.inl same.symm), RepairSlot.repaired_again, ite_self]
      · simp [if_neg same, Ne.symm same]
  exact fold command.workerIds (state, {})

/-- Streams that are back are ready for the reports so far. -/
theorem slot_applyAlive (command : StreamRepairCommand) (other : Nat) :
    (state.applyAlive command).slot other = (state.slot other).map fun slot =>
      if other ∈ command.workerIds.map UInt16.toNat then
        { slot with readySequence := max slot.readySequence command.sequence }
      else slot := by
  unfold applyAlive
  generalize command.workerIds = workerIds
  induction workerIds generalizing state with
  | nil => simp
  | cons workerId rest ih =>
    rw [foldl_cons, ih, slot_modify, Option.map_map]
    congr 1
    funext slot
    simp only [Function.comp_apply, map_cons, mem_cons]
    by_cases same : workerId.toNat = other
    · have again : max (max slot.readySequence command.sequence) command.sequence =
          max slot.readySequence command.sequence := by
        rw [← UInt64.toNat_inj, toNat_max, toNat_max, max_assoc, max_self]
      rw [if_pos same, if_pos (Or.inl same.symm)]
      rw [again, ite_self]
    · simp [if_neg same, Ne.symm same]

/-- What an event may do to a slot: its number becomes that of a report, or stays. -/
theorem slot_handle (event : RepairEvent) (other : Nat) : ∃ change : RepairSlot → RepairSlot,
      (state.handle event).slot other = (state.slot other).map change ∧
      ∀ slot, (change slot).lastSequence = slot.lastSequence ∨
        ∃ payload command, event = .message payload ∧ parseStreamRepair payload = some command ∧
          (change slot).lastSequence = command.sequence := by
  cases event with
  | message payload =>
    unfold handle
    dsimp only
    split
    · rename_i command parsed
      refine ⟨_, slot_applyRepair .., ?_⟩
      intro slot
      split
      · unfold RepairSlot.repaired
        split
        · exact .inl rfl
        · split
          · exact .inr ⟨payload, command, rfl, parsed, rfl⟩
          · exact .inr ⟨payload, command, rfl, parsed, rfl⟩
      · exact .inl rfl
    · split
      · refine ⟨_, slot_applyAlive .., ?_⟩
        intro slot
        split
        · exact .inl rfl
        · exact .inl rfl
      · refine ⟨id, ?_, fun _ => .inl rfl⟩
        rw [Option.map_id]
        rfl
  | ready workerId =>
    refine ⟨_, slot_modify .., ?_⟩
    intro slot
    split
    · exact .inl rfl
    · exact .inl rfl

/-- The slot of a stream has only had reports with smaller numbers. -/
def Behind (state : RepairState) (workerId bound : Nat) : Prop :=
  ∃ slot, state.slot workerId = some slot ∧ slot.lastSequence.toNat < bound

theorem Behind.initial {desiredCount workerId bound : Nat} (positive : 0 < workerId)
    (small : workerId ≤ desiredCount) (some : 0 < bound) :
    (RepairState.new desiredCount).Behind workerId bound := by
  refine ⟨{}, ?_, some⟩
  rw [slot, if_pos (ne_of_gt positive)]
  exact getElem?_replicate_of_lt (lt_succ_of_le small)

theorem Behind.run {state : RepairState} {workerId bound : Nat} (behind : state.Behind workerId bound)
    (events : List RepairEvent) (earlier : ∀ payload command, .message payload ∈ events →
      parseStreamRepair payload = some command → command.sequence.toNat < bound) :
    (events.foldl handle state).Behind workerId bound := by
  refine List.foldlRecOn (motive := (Behind · workerId bound)) events _ behind ?_
  rintro state ⟨slot, found, small⟩ event member
  obtain ⟨change, changed, number⟩ := state.slot_handle event workerId
  rw [found] at changed
  refine ⟨_, changed, ?_⟩
  rcases number slot with kept | ⟨payload, command, rfl, parsed, new⟩
  · rw [kept]
    exact small
  · rw [new]
    exact earlier payload command member parsed

theorem Behind.restarts {state : RepairState} {workerId : UInt16}
    (behind : state.Behind workerId.toNat command.sequence.toNat)
    (named : workerId ∈ command.workerIds) :
    (state.applyRepair command).1.restartGeneration workerId.toNat =
      state.restartGeneration workerId.toNat + 1 := by
  obtain ⟨slot, found, small⟩ := behind
  have larger : ¬ command.sequence ≤ slot.lastSequence := by
    rw [UInt64.le_iff_toNat_le]
    omega
  rw [restartGeneration, restartGeneration, slot_applyRepair, found, Option.map_some,
    if_pos (mem_map_of_mem named), RepairSlot.repaired, if_neg larger]
  split
  · rfl
  · rfl

end RepairState

/-- In every run of ticks that spare the round of a client and in which its sequence number does not
wrap around, the numbers of the reports to the client get larger and larger. When a report comes for
the first time, and the reports that came before were sent before, the client restarts every stream
that it names. -/
theorem reports_are_acted_on (identity : StreamIdentity) (ticks : List Tick)
    (countable : Along Reconciler.reconcileStreams
      (fun state _ => Countable (state.roundOf identity)) {} ticks)
    (spared : Along Reconciler.reconcileStreams
      (fun state tick => spares identity state tick = true) {} ticks) :
    ((repairsOf identity {} ticks).map (sequenceOf streamRepairPrefix)).Pairwise (· < ·) ∧
      ∀ earlier payload later, repairsOf identity {} ticks = earlier ++ payload :: later →
        ∃ command, parseStreamRepair payload = some command ∧
          ∀ (desiredCount : Nat) (events : List RepairEvent),
            (∀ received, .message received ∈ events → parseStreamRepair received ≠ none →
              received ∈ earlier) → ∀ workerId ∈ command.workerIds, workerId.toNat ≤ desiredCount →
              ((events.foldl RepairState.handle (.new desiredCount)).handle
                  (.message payload)).restartGeneration workerId.toNat =
                (events.foldl RepairState.handle (.new desiredCount)).restartGeneration
                  workerId.toNat + 1 := by
  have sound : Reconciler.Sound {} := by
    intro name streams found
    cases found
  obtain ⟨commands, reports, good, ordered⟩ := sound.run (Numbered.initial) countable spared
  have numbers : ∀ command : StreamRepairCommand,
      sequenceOf streamRepairPrefix command.payload = command.sequence.toNat :=
    fun command => sequenceOf_payload ..
  rw [reports]
  refine ⟨?_, ?_⟩
  · rw [map_map, pairwise_map]
    simp only [Function.comp_apply, numbers]
    exact ordered
  · intro earlier payload later split
    obtain ⟨before, others, rfl, rfl, rest⟩ := map_eq_append_iff.mp split
    obtain ⟨command, afterwards, rfl, rfl, rfl⟩ := map_eq_cons_iff.mp rest
    have valid : command.Valid := (good command (by simp)).1
    refine ⟨command, valid.parse, ?_⟩
    intro desiredCount events received workerId named slot
    have behind : (events.foldl RepairState.handle (.new desiredCount)).Behind workerId.toNat
        command.sequence.toNat := by
      refine (RepairState.Behind.initial (valid.within workerId named).1 slot valid.numbered).run
        events ?_
      intro message other member parsed
      obtain ⟨sent, listed, rfl⟩ := mem_map.mp
        (received message member (by rw [parsed]; exact Option.some_ne_none _))
      have same := ((good sent (mem_append_left _ listed)).1.parse).symm.trans parsed
      rw [← Option.some.inj same]
      exact (pairwise_append.mp ordered).2.2 sent listed command mem_cons_self
    rw [RepairState.handle, valid.parse]
    exact behind.restarts named

/-! ## A client that is away -/

namespace Sample

def streamIdentity : StreamIdentity := ⟨[0x64], 1, [0x73]⟩

/-- A client that should have two streams and has one. -/
def halfStreams : List (Nat × StreamSession) := [(0, ⟨1, streamIdentity, 2, true, 1⟩)]

/-- The second stream is reported, and reported again after a minute. -/
def reportedTicks : List Tick :=
  [⟨3001, true, halfStreams⟩, ⟨33001, false, halfStreams⟩, ⟨93001, false, halfStreams⟩]

/-- The client goes away for less than a minute, and the stream is reported again. -/
def briefAbsence : List Tick :=
  reportedTicks ++ [⟨96001, true, []⟩, ⟨120001, true, halfStreams⟩, ⟨153001, false, halfStreams⟩]

/-- The client goes away for more than a minute, and the stream is reported again. -/
def longAbsence : List Tick :=
  reportedTicks ++ [⟨96001, true, []⟩, ⟨153001, false, []⟩, ⟨156001, true, halfStreams⟩,
    ⟨186001, false, halfStreams⟩]

/-- The client after all reports to it but the last. -/
def informedClient : RepairState :=
  ((repairsOf streamIdentity {} longAbsence).dropLast.map .message).foldl RepairState.handle (.new 2)

end Sample

open Sample

/-- A client that was away for less than a minute acts on every report. -/
theorem brief_absence_is_harmless :
    (repairsOf streamIdentity {} briefAbsence).map (sequenceOf streamRepairPrefix) = [1, 2, 3] ∧
      ∀ earlier payload later,
        repairsOf streamIdentity {} briefAbsence = earlier ++ payload :: later →
        ∃ command, parseStreamRepair payload = some command ∧
          ∀ (desiredCount : Nat) (events : List RepairEvent),
            (∀ received, .message received ∈ events → parseStreamRepair received ≠ none →
              received ∈ earlier) → ∀ workerId ∈ command.workerIds, workerId.toNat ≤ desiredCount →
              ((events.foldl RepairState.handle (.new desiredCount)).handle
                  (.message payload)).restartGeneration workerId.toNat =
                (events.foldl RepairState.handle (.new desiredCount)).restartGeneration
                  workerId.toNat + 1 := by
  refine ⟨by decide +kernel, (reports_are_acted_on streamIdentity briefAbsence ?_ ?_).2⟩
  · unfold Countable
    decide +kernel
  · decide +kernel

/-- After more than a minute the numbers begin again. The client ignores the report: the missing
stream is not restarted. -/
theorem long_absence_repeats_numbers :
    (repairsOf streamIdentity {} longAbsence).map (sequenceOf streamRepairPrefix) = [1, 2, 1] ∧
      (∀ payload ∈ (repairsOf streamIdentity {} longAbsence).getLast?,
        (parseStreamRepair payload).map StreamRepairCommand.workerIds = some [2] ∧
          informedClient.handle (.message payload) = informedClient ∧
          informedClient.restartGeneration 2 = 2) ∧ ¬ Along Reconciler.reconcileStreams
        (fun state tick => spares streamIdentity state tick = true) {} longAbsence := by
  refine ⟨by decide +kernel, by decide +kernel, by decide +kernel⟩

end Csqtt.Streams
