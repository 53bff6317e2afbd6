import Csqtt.Placement
import Csqtt.SessionIndexes

/-!
# The limit on the sessions of a shard

A shard that has as many sessions as it may have opens no further one. It counts the sessions in its
own slab, when a datagram of a new endpoint comes. Such datagrams come to the first shard, though, and
a session whose device belongs to another shard moves there at once. The shard that adopts it does not
count.

A call gives out an id for every session that it opens, so the slab never grows by more than the
counter of the ids does. An adoption is the only way to grow without an id, and it keeps the limit
precisely if there is a place left.
-/

namespace Csqtt.Engine

open ControlText Table AList Work SessionTables

/-- The number of sessions in the slab. -/
def Work.load (work : Work) : Nat := work.engine.tables.sessions.size

variable {before : Work} {session : HotSession} {slot : Nat} {rights : Rights}

theorem Work.load_stored {after : Work} {new : HotSession}
    (here : before.engine.tables.sessions.lookup slot = some session)
    (tables : after.engine.tables.sessions = before.engine.tables.sessions.insert slot new) :
    after.load = before.load := by
  have present : slot ∈ before.engine.tables.sessions := lookup_isSome.mp (by rw [here]; rfl)
  rw [Work.load, tables, size_insert, if_pos present, Work.load]

theorem Work.load_left {after : Work}
    (here : before.engine.tables.sessions.lookup slot = some session)
    (tables : after.engine.tables = before.engine.tables.leave slot session) :
    after.load + 1 = before.load := by
  rw [Work.load, tables]
  exact size_erase _ _ _ here

/-- A change makes the slab larger only if it gives out an id. -/
theorem Change.load {after : Work} (change : Change rights before after) :
    after.load + before.nextId ≤ before.load + after.nextId := by
  cases change with
  | quiet quiet => rw [Work.load, quiet.tables, quiet.nextId, Work.load]
  | stored keeps here sameId sameKey total tables | rebound keeps here sameId free total tables =>
    rw [Work.load_stored here (congrArg sessions tables), keeps.nextId]
  | moved keeps here vacant right tables =>
    have left := size_erase _ _ _ here
    rw [Work.load, tables, keeps.nextId, move, size_insert_absent _ _ _ vacant, left, Work.load]
  | left keeps here tables =>
    have left := Work.load_left here tables
    have same := keeps.nextId
    omega
  | departed here right nextId departures tables =>
    have left := Work.load_left here tables
    omega
  | entered vacant free right fresh zero nextId departures tables =>
    rw [Work.load, tables, nextId, enter, size_insert_absent _ _ _ vacant, Work.load]
    omega

theorem Steps.grown {after : Work} (steps : Steps rights before after) :
    after.load + before.nextId ≤ before.load + after.nextId := by
  induction steps with
  | refl => exact le_refl _
  | tail _ step ih =>
    have one := step.change.load
    omega

theorem Steps.load {after : Work} (steps : Steps rights before after)
    (none : ¬ rights.enter) : after.load ≤ before.load := by
  have grown := steps.grown
  have same := steps.nextId none
  omega

namespace Work

variable (work : Work) (outside : Outside)

theorem Placed.load {after : Work} (placed : before.Placed after)
    (steps : Steps rights before after) : after.load ≤ before.load + 1 := by
  have grown := steps.grown
  cases placed with
  | inl same => omega
  | inr next => omega

/-- A datagram for a session leaves at most as many sessions as there were. -/
theorem handleExisting_load {peer : SocketAddr}
    {localIp : Option IpAddr} {packet : List UInt8} {after : Work}
    (isFor : work.slotOf peer localIp = some slot)
    (datagram : Datagram outside peer localIp packet work after) : after.load ≤ work.load := by
  cases datagram with
  | dropped alike => rw [load, alike.tables, load]
  | @received engine slot session decoded plain alike found =>
    obtain ⟨here, free⟩ := found.tuned alike
    have steps : Steps .noEntry _ _ := acceptInbound_steps { work with engine := engine }
      outside here localIp free decoded.seq plain fun _ _ => trivial
    have kept := steps.load id
    rwa [load, load, alike.tables] at kept
  | @replaced engine slot session decoded plain epoch alike found parsed other =>
    obtain ⟨here, free⟩ := found.tuned alike
    have vacated := successor_free { work with engine := engine } outside here localIp free
      "epoch-replaced"
    have placed := openSession_placed _ outside (session.successor localIp decoded epoch) plain vacated
    have steps : Steps .all _ _ := openSession_steps _ outside
      (session.successor localIp decoded epoch) plain vacated trivial trivial
    have grown := placed.load steps
    have removed : (removeSlotWithReason { work with engine := engine } outside slot
        "epoch-replaced").load + 1 = work.load := by
      have engines := removeSlotWithReason_engine { work with engine := engine } outside
        "epoch-replaced" here
      rw [load, load, engines, ← alike.tables]
      exact size_erase _ _ _ here
    omega
  | opened alike unknown free setup =>
    rw [isFor] at unknown
    cases unknown

theorem onUdp_full {peer : SocketAddr} {localIp : Option IpAddr} {packet : List UInt8}
    (unknown : work.slotOf peer localIp = none) (full : maxActiveSessions ≤ work.load) :
    work.onUdp outside peer localIp packet = work := by
  obtain ⟨entry, other⟩ := Option.or_eq_none_iff.mp unknown
  rw [onUdp, entry]
  rw [other]
  dsimp only
  split
  · rfl
  · exact if_pos (.inl full)

theorem onUdp_load (named : work.engine.tables.Named) (peer : SocketAddr) (localIp : Option IpAddr)
    (packet : List UInt8) (within : work.load ≤ maxActiveSessions) :
    (work.onUdp outside peer localIp packet).load ≤ maxActiveSessions := by
  have datagram := work.onUdp_datagram outside named peer localIp packet
  cases isFor : work.slotOf peer localIp with
  | some slot => exact (work.handleExisting_load outside isFor datagram).trans within
  | none =>
    by_cases full : maxActiveSessions ≤ work.load
    · rw [work.onUdp_full outside isFor full]
      exact within
    · have grown := datagram.placed.load (datagram.steps (Rights.admits_all _ _ _ _ _))
      omega

end Work

theorem SessionTables.enter_leave (tables : SessionTables)
    (vacant : tables.sessions.lookup slot = none) (free : tables.byPeer.lookup session.key = none)
    (unused : tables.byId.lookup session.id = none) :
    (tables.enter slot session).leave slot session = tables := by
  rw [enter, leave, insert_erase _ _ _ vacant, insert_erase _ _ _ free, insert_erase _ _ _ unused]

/-- A new session that belongs to another shard is handed over, if the router has room. -/
theorem Work.openSession_handed (work : Work) (outside : Outside) (opening : Opening) (payload : List UInt8)
    (free : work.engine.tables.byPeer.lookup ⟨opening.peer, opening.localIp⟩ = none)
    (unused : work.engine.tables.byId.lookup work.nextId = none)
    {target : Nat} (isFor : shardForDevice opening.epoch.deviceId work.engine.shardCount = target)
    (foreign : target ≠ work.engine.shardIndex) (accepts : ∀ effect, outside.accepts effect = true) :
    ∃ session : HotSession, session.key = ⟨opening.peer, opening.localIp⟩ ∧
      work.openSession outside opening payload =
        ⟨{ work.engine with migratingEndpoints :=
            work.engine.migratingEndpoints.insert session.key work.engine.monotonicMs },
          work.nextId + 1,
          work.effects ++ [.record session.id (.opened session.password session.epoch)] ++
            [.router (.migrate session.key target session payload)]⟩ := by
  subst isFor
  have here := work.createLegacySession_here outside opening free
  refine ⟨HotSession.legacy work.nextId opening outside.counters work.engine.monotonicMs, rfl, ?_⟩
  rw [openSession]
  dsimp only
  rw [placeNewSession, here]
  rw [createLegacySession, work.replacePeer_of_free outside free]
  dsimp only
  rw [if_neg (by exact foreign), if_pos (accepts _)]
  have left := enter_leave work.engine.tables (outside.slots.vacant _)
    (by exact free : work.engine.tables.byPeer.lookup (HotSession.legacy work.nextId opening
      outside.counters work.engine.monotonicMs).key = none) (by exact unused)
  simp only [withTables, enterSession, markMigrating, note, freeSlot, left]
  rfl

end Csqtt.Engine

namespace Csqtt.Dataplane

open Engine List Runs Table AList Work WireRoundTrip ServerObfs

/-- No shard has more sessions than it may have. -/
def System.WithinLimit (system : System) : Prop :=
  ∀ engine ∈ system.engines, engine.tables.sessions.size ≤ maxActiveSessions

/-- A shard that adopts a session has fewer sessions than it may have. -/
def AdoptsBelow (system : System) (event : Event) : Prop :=
  ∀ adoption ∈ event.adoption system, adoption.1.engine.tables.sessions.size < maxActiveSessions

namespace System

variable {system : System} {index : Nat} {shard : Shard}

section

variable (within : system.WithinLimit) (here : system.shards[index]? = some shard)

include within here

theorem WithinLimit.commit (input : List WorkerInput) {after : Work} :
    (system.commit index shard input after).WithinLimit ↔ after.load ≤ maxActiveSessions := by
  obtain ⟨inside, _⟩ := List.getElem?_eq_some_iff.mp here
  rw [WithinLimit, engines, System.commit, map_set]
  constructor
  · intro all
    exact all after.engine (mem_set (by rwa [length_map]) _)
  · intro few engine member
    cases mem_or_eq_of_mem_set member with
    | inl old => exact within engine old
    | inr same =>
      rw [same]
      exact few

theorem WithinLimit.load : Work.load ⟨shard.engine, system.nextId, []⟩ ≤ maxActiveSessions :=
  within shard.engine (mem_map_of_mem (mem_of_getElem? here))

theorem WithinLimit.kept (input : List WorkerInput) {after : Work}
    (steps : Steps .noEntry ⟨shard.engine, system.nextId, []⟩ after) :
    (system.commit index shard input after).WithinLimit :=
  (within.commit here input).mpr ((steps.load id).trans (within.load here))

end

/-- A shard keeps the limit, unless it adopts a session and has no place left. -/
theorem WithinLimit.work (within : system.WithinLimit) (named : system.All fun _ => True) (index : Nat)
    (outside : Outside) :
    (system.work index outside).WithinLimit ↔ AdoptsBelow system (.work index outside) := by
  have works := system.work_works index outside
  rw [AdoptsBelow]
  generalize (Event.work index outside).adoption system = carried at works ⊢
  generalize system.work index outside = after at works ⊢
  cases works with
  | idle => exact iff_of_true within (of_no_adoption rfl)
  | @handled shard input rest here first own =>
    refine iff_of_true ?_ (of_no_adoption rfl)
    cases input with
    | udp peer localIp packet =>
      exact (within.commit here rest).mpr (onUdp_load _ outside (named.shard here).1 peer localIp
        packet (within.load here))
    | tun packet | ioCounters => exact within.kept here rest .refl
    | command command =>
      exact within.kept here rest (onCommand_noEntry _ outside (named.shard here).1 command own)
  | @adopted shard session payload rest here first =>
    have grown : (adoptSession ⟨shard.engine, system.nextId, []⟩ outside session payload).load =
        shard.engine.tables.sessions.size + 1 := by
      rw [Work.load, Work.adoptSession_engine]
      exact size_insert_absent _ _ _ (outside.slots.vacant _)
    rw [within.commit here rest, grown]
    simp only [Option.mem_some_iff, forall_eq']
    exact Nat.succ_le_iff

/-- Every event keeps the limit precisely if a shard that adopts a session has a place left. -/
theorem WithinLimit.step (within : system.WithinLimit) (named : system.All fun _ => True)
    (event : Event) : (system.step event).1.WithinLimit ↔ AdoptsBelow system event := by
  refine step_iff ?_ ?_ (within.work named) event
  · intro after passing
    rw [WithinLimit, Passing.engines passing]
    exact within
  · exact fun _ _ _ here steps => within.kept here _ steps

end System

/-- In every run, no shard ever has more sessions than it may have precisely if every shard that
adopts a session has a place left for it. -/
theorem sessions_limited_iff_adoptions_below (shardCount : Nat) (credentials : List Credential)
    (epochs : Table ControlText.Text Nat) (events : List Event) :
    (∀ done rest, done ++ rest = events →
        (final System.step (System.new shardCount credentials epochs) done).WithinLimit) ↔
      Along System.step AdoptsBelow (System.new shardCount credentials epochs) events := by
  have keeps : EngineInvariant fun _ => True := ⟨fun _ _ => trivial, fun _ _ _ _ => trivial⟩
  rw [← throughout_iff]
  refine throughout_iff_along System.step (System.All fun _ => True) System.WithinLimit
    (fun _ => True) AdoptsBelow ?_ ?_ _ events ?_ ?_ fun _ _ => trivial
  · intro system event named _ _ _
    exact named.step keeps event
  · intro system event named within _
    exact within.step named event
  · exact keeps.reached shardCount credentials epochs (fun _ => trivial) []
  · intro engine member
    rw [System.engines, System.new, map_map] at member
    obtain ⟨index, _, rfl⟩ := mem_map.mp member
    exact Nat.zero_le _

/-! ## A crowd of clients -/

section Crowd

open ControlText

/-- Another client. -/
def visitor (number : Nat) : SocketAddr := { client with port := UInt16.ofNat number }

/-- A client opens a session for the device `b`, and the second shard adopts it. -/
def visit (number : Nat) : List Event :=
  [.tick 0 (calm 0), .datagram (visitor number) none opening true] ++ handover 0

/-- The engine of the first shard. -/
def front (budget : Nat) (migrating : Table EndpointKey Nat) : ProtocolEngine :=
  { ProtocolEngine.new 0 2 [⟨[0x70], plainCiphers⟩] ∅ with
    setupBudget := budget
    migratingEndpoints := migrating }

theorem opening_short : (opening.length ≤ packetCapacity && true) = true := by decide +kernel

theorem opening_setup (peer : SocketAddr) : ∃ given payload,
    findSetup peer none opening [⟨[0x70], plainCiphers⟩] = some (given, payload) ∧
      given.peer = peer ∧ given.localIp = none ∧ given.epoch.deviceId = [0x62] := by
  have opens : ((unwrapLegacyInPlace plainCiphers opening none).toOption.bind
      fun read => (parseGetconfEpoch (read.1.plain read.2)).map Epoch.deviceId) = some [0x62] := by
    decide +kernel
  obtain ⟨⟨decoded, opened⟩, unwrapped, device⟩ := Option.bind_eq_some_iff.mp opens
  obtain ⟨epoch, parsed, isDevice⟩ := Option.map_eq_some_iff.mp device
  have read : unwrapLegacyInPlace plainCiphers opening none = .ok (decoded, opened) := by
    cases result : unwrapLegacyInPlace plainCiphers opening none with
    | error _ => rw [result] at unwrapped; cases unwrapped
    | ok found => rw [result] at unwrapped; cases unwrapped; rfl
  refine ⟨⟨peer, none, [0x70], plainCiphers, decoded.payloadType, decoded.isSrtp, epoch, decoded.seq⟩,
    decoded.plain opened, ?_, rfl, rfl, isDevice⟩
  simp only [findSetup, read, parsed]

/-- The first shard hands a new client's session over. -/
theorem front_opens (migrating : Table EndpointKey Nat) (nextId : Nat) (peer : SocketAddr)
    (arrived : migrating.lookup ⟨peer, none⟩ = none) : ∃ session record payload,
    onUdp ⟨front setupBudgetPerTick migrating, nextId, []⟩ (calm 0) peer none opening =
      ⟨front (setupBudgetPerTick - 1) (migrating.insert ⟨peer, none⟩ 1), nextId + 1,
        [.record session.id record, .router (.migrate ⟨peer, none⟩ 1 session payload)]⟩ := by
  obtain ⟨given, payload, setup, isPeer, isLocal, device⟩ := opening_setup peer
  have unknown : onUdp ⟨front setupBudgetPerTick migrating, nextId, []⟩ (calm 0) peer none opening =
      openSession ⟨front (setupBudgetPerTick - 1) migrating, nextId, []⟩ (calm 0) given payload := by
    have settled : endpointIsMigrating ⟨front setupBudgetPerTick migrating, nextId, []⟩ peer none =
        false := by
      rw [endpointIsMigrating]
      exact congrArg (fun found : Option Nat => found.isSome || false) arrived
    have admitted : ¬ (0 ≥ maxActiveSessions ∨ opening.length > packetCapacity ∨
        setupBudgetPerTick = 0) := by decide +kernel
    refine (if_neg (Bool.eq_false_iff.mp settled)).trans ?_
    rw [handleUnknownLegacy, if_neg (by exact admitted)]
    dsimp only [front, ProtocolEngine.new]
    rw [setup]
  have isSecond : shardForDevice [0x62] 2 = 1 := by decide
  obtain ⟨session, key, handed⟩ := openSession_handed
    ⟨front (setupBudgetPerTick - 1) migrating, nextId, []⟩ (calm 0) given payload (lookup_empty _)
    (lookup_empty _) (by rw [device]; exact isSecond) (Nat.succ_ne_zero 0) fun _ => rfl
  rw [isPeer, isLocal] at key
  rw [unknown, handed, key]
  exact ⟨session, _, payload, rfl⟩

/-- The state after a number of visits. -/
def Crowded (count : Nat) (system : System) : Prop :=
  ∃ budget migrating back endpoints tunnels nextId,
    system = ⟨[⟨front budget migrating, [], []⟩, back], endpoints, tunnels, [], nextId⟩ ∧
      back.input = [] ∧ back.engine.tables.sessions.size = count ∧
      ∀ number, count ≤ number → number < 65536 →
        migrating.lookup ⟨visitor number, none⟩ = none ∧ endpoints.lookup ⟨visitor number, none⟩ = none

theorem visitor_other {count number : Nat} (later : count < number) (few : number < 65536) :
    (⟨visitor number, none⟩ : EndpointKey) ≠ ⟨visitor count, none⟩ := by
  intro same
  have ports := congrArg (fun key : EndpointKey => key.peer.port.toNat) same
  simp only [visitor, UInt16.toNat_ofNat'] at ports
  omega

theorem Crowded.visit {count : Nat} {system : System} (crowded : Crowded count system)
    (few : count < 65536) : Crowded (count + 1) (final System.step system (visit count)) := by
  obtain ⟨budget, migrating, ⟨engine, _, output⟩, endpoints, tunnels, nextId, rfl, rfl, size, new⟩ := crowded
  obtain ⟨arrived, unbound⟩ := new count (le_refl count) few
  obtain ⟨session, record, payload, opens⟩ := front_opens migrating nextId (visitor count) arrived
  have received : (System.step ⟨[⟨front setupBudgetPerTick migrating, [], []⟩, ⟨engine, [], output⟩],
      endpoints, tunnels, [], nextId⟩ (.datagram (visitor count) none opening true)).1 =
      ⟨[⟨front setupBudgetPerTick migrating, [.udp (visitor count) none opening], []⟩,
        ⟨engine, [], output⟩], endpoints, tunnels, [], nextId⟩ := by
    rw [System.step]
    rw [unbound, opening_short]
    rfl
  have handed : System.work ⟨[⟨front setupBudgetPerTick migrating, [.udp (visitor count) none opening],
      []⟩, ⟨engine, [], output⟩], endpoints, tunnels, [], nextId⟩ 0 (calm 0) =
      ⟨[⟨front (setupBudgetPerTick - 1) (migrating.insert ⟨visitor count, none⟩ 1), [],
        [.migrate ⟨visitor count, none⟩ 1 session payload]⟩, ⟨engine, [], output⟩], endpoints, tunnels, [],
        nextId + 1⟩ := by
    rw [System.work]
    dsimp only [getElem?_cons_zero, System.handle]
    rw [opens]
    rfl
  have events : final System.step ⟨[⟨front budget migrating, [], []⟩, ⟨engine, [], output⟩],
      endpoints, tunnels, [], nextId⟩ (Dataplane.visit count) =
      ((((System.step ⟨[⟨front setupBudgetPerTick migrating, [], []⟩, ⟨engine, [], output⟩],
        endpoints, tunnels, [], nextId⟩ (.datagram (visitor count) none opening true)).1.work 0
          (calm 0)).collect 0).route true).work 1 (calm 0) := rfl
  rw [events, received, handed]
  refine ⟨_, _, ⟨(adoptSession ⟨engine, nextId + 1, []⟩ (calm 0) session payload).engine, [], _⟩, _, _,
    _, rfl, rfl, ?_, ?_⟩
  · dsimp only
    rw [Work.adoptSession_engine, ← size]
    exact size_insert_absent _ _ _ ((calm 0).slots.vacant _)
  · intro number later bounded
    obtain ⟨free, absent⟩ := new number (Nat.le_of_succ_le later) bounded
    have other := visitor_other later bounded
    exact ⟨(lookup_insert_ne other).trans free, (lookup_insert_ne other).trans absent⟩

/-- One client after the other. -/
def crowd (count : Nat) : List Event := (List.range count).flatMap visit

theorem crowded_crowd (count : Nat) (few : count ≤ 65536) :
    Crowded count (final System.step pair (crowd count)) := by
  induction count with
  | zero =>
    refine ⟨_, ∅, ⟨_, [], _⟩, ∅, _, _, rfl, rfl, rfl, ?_⟩
    intro number _ _
    exact ⟨lookup_empty _, lookup_empty _⟩
  | succ count ih =>
    have one : crowd (count + 1) = crowd count ++ visit count := by
      rw [crowd, range_succ, flatMap_append, flatMap_singleton, crowd]
    rw [one, final_append]
    exact (ih (Nat.le_of_succ_le few)).visit few

/-- The second shard has one session more than it may have. -/
theorem adopted_sessions_exceed_limit :
    ¬ ∀ done rest, done ++ rest = crowd (maxActiveSessions + 1) →
      (final System.step pair done).WithinLimit := by
  intro always
  obtain ⟨budget, migrating, back, endpoints, tunnels, nextId, isEnd, _, size, _⟩ :=
    crowded_crowd (maxActiveSessions + 1) (by decide)
  have within := always _ [] (append_nil _)
  rw [isEnd] at within
  have few := within back.engine (mem_cons_of_mem _ mem_cons_self)
  omega

end Crowd

end Csqtt.Dataplane
