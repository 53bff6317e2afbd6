import Csqtt.Engine
import Mathlib.Logic.Relation

/-!
# The basic operations of a call

Whatever a datagram, a command or a tick does to an engine, it does by a few basic
operations, any number of times. `Step` lists them with the conditions the code
establishes for each: a session is entered under a key that is free and under an id
that was never given out, a session gets another key only if that key is free, and a
session that is handed over has no route. `Steps` is a sequence of them.

The module finds the steps of each function of the engine. What every step preserves
is then preserved by every call, so an invariant of the engine is proved over the list
of operations and not over the functions. The adoption of a session is not among the
steps, because it checks nothing about the key. What a call may do at all is told by the
`Rights` of its steps.
-/

namespace Csqtt.Engine

open ControlText Routes ServerObfs ServerReplay List Table AList Bool HotSession SessionTables

/-- Every entry of an index names a session with that id or that key. -/
structure SessionTables.Named (tables : SessionTables) : Prop where
  byId : Table.Names HotSession.id tables.sessions tables.byId
  byPeer : Table.Names key tables.sessions tables.byPeer

/-- The session a message hands over. -/
def Effect.handover (effect : Effect) : Option HotSession :=
  effect.routed.bind RouterCommand.handover

/-- A later state of a session, with the same route. -/
structure HotSession.Continues (new session : HotSession) : Prop where
  id : new.id = session.id := by rfl
  tunnelIp : new.tunnelIp = session.tunnelIp := by rfl
  registrationId : new.registrationId = session.registrationId := by rfl

/-- Two engines that differ only in credentials, epochs and times. -/
structure ProtocolEngine.Alike (engine other : ProtocolEngine) : Prop where
  shardIndex : engine.shardIndex = other.shardIndex := by rfl
  shardCount : engine.shardCount = other.shardCount := by rfl
  tables : engine.tables = other.tables := by rfl
  routes : engine.routes = other.routes := by rfl
  ingressReassembler : engine.ingressReassembler = other.ingressReassembler := by rfl

/-- Where the routes point to after a session has moved to another slot. -/
def Work.followedRoutes (work : Work) (session : HotSession) (target : Nat) : RouteTable :=
  session.route.elim work.engine.routes fun route =>
    work.engine.routes.updateSlot route.1 session.id route.2 target

/-- A message that writes nothing to the tunnel, binds no endpoint and hands no session over. -/
def Effect.Inert : Effect → Prop
  | .tun _ => False
  | .router (.bindTunnel _ _) => True
  | .router _ => False
  | _ => True

/-- Which slots may get or lose a session otherwise than by its removal, whether a session may
be entered, and whether traffic from the clients may be counted. -/
structure Rights where
  slot : Nat → Prop
  enter : Prop
  up : Prop

/-- No restrictions. -/
def Rights.all : Rights := ⟨fun _ => True, True, True⟩

/-- The slots that a compaction names may be used. -/
def Rights.Compacts (rights : Rights) (outside : Outside) : Prop :=
  ∀ move ∈ outside.compaction, rights.slot move.1 ∧ rights.slot move.2

theorem Rights.compacts_all (outside : Outside) : Rights.all.Compacts outside :=
  fun _ _ => ⟨trivial, trivial⟩

/-- A payload that a session passes on to the tunnel. -/
def HotSession.tunnels (session : HotSession) (plain : List UInt8) : Bool :=
  plain != sessionLease && plain != ready && !isIdleKeepalive plain && !isControlPayload plain &&
    session.tunnelIp.isSome && session.registrationId.isSome

/-- Whether a command counts traffic from a client. -/
def ProtocolCommand.credits : ProtocolCommand → Bool
  | .injectTun _ _ => true
  | _ => false

/-- Whether a command closes the gaps in the slab. -/
def ProtocolCommand.compacts : ProtocolCommand → Bool
  | .compactMemory => true
  | _ => false

/-- One basic operation. -/
inductive Step (rights : Rights) : Work → Work → Prop
  | tuned {work : Work} {engine : ProtocolEngine} (alike : engine.Alike work.engine) :
      Step rights work { work with engine := engine }
  | sent {work : Work} {effect : Effect} (inert : effect.Inert) :
      Step rights work { work with effects := work.effects ++ [effect] }
  | bound {work : Work} {endpoint : EndpointKey} :
      Step rights work { work with
        effects := work.effects ++ [.router (.bindEndpoint endpoint work.engine.shardIndex)] }
  | held {work : Work} (push : Reassembler.Push IngressPacket) (right : rights.up) :
      Step rights work { work with
        engine := { work.engine with
          ingressReassembler := (Reassembler.pushAt work.engine.ingressReassembler push).1 } }
  | wrote {work : Work} (packet : List UInt8) (right : rights.up) :
      Step rights work { work with effects := work.effects ++ [.tun packet] }
  | stored {work : Work} {slot : Nat} {session new : HotSession}
      (here : work.engine.tables.sessions.lookup slot = some session)
      (continues : new.Continues session) (sameKey : new.key = session.key)
      (total : ¬ rights.up → new.upTotal = session.upTotal) :
      Step rights work (work.store slot new)
  | rebound {work : Work} {slot : Nat} {session new : HotSession}
      (here : work.engine.tables.sessions.lookup slot = some session)
      (continues : new.Continues session)
      (free : work.engine.tables.byPeer.lookup new.key = none)
      (total : new.upTotal = session.upTotal) :
      Step rights work (work.withTables (work.engine.tables.rebind slot session new))
  | moved {work : Work} {slot target : Nat} {session : HotSession}
      (here : work.engine.tables.sessions.lookup slot = some session)
      (vacant : (work.engine.tables.sessions.erase slot).lookup target = none)
      (right : rights.slot slot ∧ rights.slot target) :
      Step rights work ((work.withTables (work.engine.tables.move slot target session)).withRoutes
        (work.followedRoutes session target))
  | removed {work : Work} (outside : Outside) {slot : Nat} {session : HotSession} (reason : String)
      (here : work.engine.tables.sessions.lookup slot = some session) :
      Step rights work (work.removeSlotWithReason outside slot reason)
  | handed {work : Work} {slot : Nat} {session : HotSession} {payload : List UInt8}
      (here : work.engine.tables.sessions.lookup slot = some session)
      (unrouted : session.route = none) (right : rights.slot slot) :
      Step rights work { (work.withTables (work.engine.tables.leave slot session)).markMigrating
          session.key with
        effects := work.effects ++ [.router (.migrate session.key
          (shardForDevice session.epoch.deviceId work.engine.shardCount) session payload)] }
  | entered {work : Work} {slot : Nat} {session : HotSession} (fresh : session.id = work.nextId)
      (zero : session.upTotal = 0) (vacant : work.engine.tables.sessions.lookup slot = none)
      (free : work.engine.tables.byPeer.lookup session.key = none)
      (right : rights.enter ∧ rights.slot slot) :
      Step rights work { work.withTables (work.engine.tables.enter slot session) with
        nextId := work.nextId + 1 }
  | activated {work : Work} (outside : Outside) {slot : Nat} {session : HotSession} (ip : Ipv4)
      (registrationId : UInt64) (workerId desiredCount : UInt16)
      (here : work.engine.tables.sessions.lookup slot = some session) :
      Step rights work (work.activateSlot outside session.id slot session ip registrationId workerId
        desiredCount).1

/-- Any number of operations, one after the other. -/
abbrev Steps (rights : Rights) : Work → Work → Prop := Relation.ReflTransGen (Step rights)

/-- Between two states of a call, only such messages were sent. -/
def Sends (may : Effect → Prop) (before after : Work) : Prop :=
  ∃ more, after.effects = before.effects ++ more ∧ ∀ effect ∈ more, may effect

variable {may : Effect → Prop} {session new : HotSession} {slot : Nat} {rights : Rights}
  {payload : List UInt8}

namespace Sends

variable {first second third : Work}

theorem same (effects : second.effects = first.effects) : Sends may first second :=
  ⟨[], effects.trans (append_nil _).symm, forall_mem_nil _⟩

theorem one {effect : Effect} (effects : second.effects = first.effects ++ [effect])
    (allowed : may effect) : Sends may first second :=
  ⟨[effect], effects, forall_mem_singleton.mpr allowed⟩

theorem since (effects : second.effects = first.effects) (late : Sends may second third) :
    Sends may first third := by
  rw [Sends, ← effects]
  exact late

theorem trans (early : Sends may first second) (late : Sends may second third) :
    Sends may first third := by
  obtain ⟨some, middle, someAllowed⟩ := early
  obtain ⟨more, last, moreAllowed⟩ := late
  refine ⟨some ++ more, ?_, forall_mem_append.mpr ⟨someAllowed, moreAllowed⟩⟩
  rw [last, middle, append_assoc]

end Sends

variable (sessionId : Nat)

namespace Work

variable (work : Work) (outside : Outside)

/-! ## What the composite operations leave behind -/

@[simp] theorem send_engine (effect : Effect) : (work.send outside effect).engine = work.engine := by
  rw [send]
  split
  · rfl
  · rfl

@[simp] theorem send_nextId (effect : Effect) : (work.send outside effect).nextId = work.nextId := by
  rw [send]
  split
  · rfl
  · rfl

@[simp] theorem bindEndpoint_engine (endpoint : EndpointKey) :
    (work.bindEndpoint outside endpoint).engine = work.engine :=
  work.send_engine outside _

@[simp] theorem note_engine (write : RecordWrite) :
    (work.note sessionId write).engine = work.engine :=
  rfl

@[simp] theorem note_nextId (write : RecordWrite) :
    (work.note sessionId write).nextId = work.nextId :=
  rfl

@[simp] theorem syncDownlinkProfile_engine (ip : Ipv4) :
    (work.syncDownlinkProfile ip).engine = work.engine := by
  rw [syncDownlinkProfile]
  split
  · rfl
  · rfl

@[simp] theorem syncDownlinkProfile_nextId (ip : Ipv4) :
    (work.syncDownlinkProfile ip).nextId = work.nextId := by
  rw [syncDownlinkProfile]
  split
  · rfl
  · rfl

@[simp] theorem syncFormerRoute_engine (session : HotSession) :
    (work.syncFormerRoute session).engine = work.engine := by
  rw [syncFormerRoute]
  split
  · rfl
  · exact work.syncDownlinkProfile_engine _

@[simp] theorem syncFormerRoute_nextId (session : HotSession) :
    (work.syncFormerRoute session).nextId = work.nextId := by
  rw [syncFormerRoute]
  split
  · rfl
  · exact work.syncDownlinkProfile_nextId _

/-- The routes without that of a removed session: its endpoint is gone, and a session
of the same stream may have taken its place. -/
def droppedRoutes (work : Work) (outside : Outside) (session : HotSession) : RouteTable :=
  match session.route with
  | none => work.engine.routes
  | some (ip, registrationId) =>
    let routes := (work.engine.routes.unregister ip registrationId).1
    match work.fallback outside session ip with
    | none => routes
    | some entry =>
      if (work.engine.routes.unregister ip registrationId).2 &&
          decide (outside.workerId session.id < 65536) then
        (routes.register ip ⟨entry.2.id, entry.2.registrationId.getD 0,
          (outside.workerId session.id).toUInt16, entry.1⟩).1
      else routes

theorem dropRoute_engine (session : HotSession) : (work.dropRoute outside session).engine =
      { work.engine with routes := work.droppedRoutes outside session } := by
  rw [droppedRoutes, dropRoute]
  cases session.route with
  | none => rfl
  | some route =>
    simp only [syncDownlinkProfile_engine]
    cases work.fallback outside session route.1 with
    | none => rfl
    | some entry =>
      dsimp only
      split
      · rfl
      · rfl

theorem dropRoute_nextId (session : HotSession) :
    (work.dropRoute outside session).nextId = work.nextId := by
  rw [dropRoute]
  split
  · rfl
  dsimp only
  rw [syncDownlinkProfile_nextId]
  split
  · rfl
  · split
    · rfl
    · rfl

theorem removeSlotWithReason_engine (reason : String)
    (here : work.engine.tables.sessions.lookup slot = some session) :
    (work.removeSlotWithReason outside slot reason).engine = { work.engine with
        tables := work.engine.tables.leave slot session
        memoryCompactPending := true
        routes := (work.withTables (work.engine.tables.leave slot session)).droppedRoutes outside
          session } := by
  rw [removeSlotWithReason, here]
  simp only [send_engine, note_engine, dropRoute_engine]
  rfl

theorem removeSlotWithReason_nextId (slot : Nat) (reason : String) :
    (work.removeSlotWithReason outside slot reason).nextId = work.nextId := by
  rw [removeSlotWithReason]
  split
  · rfl
  · simp only [send_nextId, note_nextId, dropRoute_nextId]
    rfl

theorem note_sends {sessionId : Nat} {write : RecordWrite} (allowed : may (.record sessionId write)) :
    Sends may work (work.note sessionId write) :=
  .one rfl allowed

theorem send_sends {effect : Effect} (allowed : may effect) :
    Sends may work (work.send outside effect) := by
  rw [send]
  split
  · exact .one rfl allowed
  · exact .same rfl

theorem syncDownlinkProfile_sends (ip : Ipv4) (allowed : ∀ index paths, may (.downlink index paths)) :
    Sends may work (work.syncDownlinkProfile ip) := by
  rw [syncDownlinkProfile]
  split
  · exact .same rfl
  · exact .one rfl (allowed _ _)

theorem dropRoute_sends (session : HotSession) :
    Sends Effect.Inert work (work.dropRoute outside session) := by
  rw [dropRoute]
  split
  · exact .same rfl
  dsimp only
  refine Sends.trans ?_ (syncDownlinkProfile_sends _ _ fun _ _ => trivial)
  split
  · exact .same rfl
  · split
    · exact .one rfl trivial
    · exact .same rfl

/-- What a removal sends. -/
theorem removeSlotWithReason_sends (reason : String)
    (here : work.engine.tables.sessions.lookup slot = some session) :
    Sends Effect.Inert work (work.removeSlotWithReason outside slot reason) := by
  rw [removeSlotWithReason, here]
  refine Sends.since ?_ ((note_sends _ trivial).trans ((dropRoute_sends _ outside session).trans
    ((note_sends _ trivial).trans (send_sends _ outside trivial))))
  rfl

theorem syncFormerRoute_sends (session : HotSession)
    (allowed : ∀ index paths, may (.downlink index paths)) :
    Sends may work (work.syncFormerRoute session) := by
  rw [syncFormerRoute]
  split
  · exact .same rfl
  · exact work.syncDownlinkProfile_sends _ allowed

/-- What an activation sends. -/
theorem activateSlot_sends (slot : Nat) (session : HotSession) (ip : Ipv4)
    (registrationId : UInt64) (workerId desiredCount : UInt16) :
    Sends Effect.Inert work (work.activateSlot outside session.id slot session ip
      registrationId workerId desiredCount).1 := by
  rw [activateSlot]
  split
  · exact Sends.trans (.same rfl) (syncFormerRoute_sends _ session fun _ _ => trivial)
  refine Sends.since ?_ ((note_sends _ trivial).trans
    ((syncFormerRoute_sends _ session fun _ _ => trivial).trans
      ((syncDownlinkProfile_sends _ ip fun _ _ => trivial).trans (send_sends _ outside trivial))))
  rfl

theorem activateSlot_nextId (sessionId slot : Nat) (session : HotSession) (ip : Ipv4)
    (registrationId : UInt64) (workerId desiredCount : UInt16) :
    (work.activateSlot outside sessionId slot session ip registrationId workerId
      desiredCount).1.nextId = work.nextId := by
  rw [activateSlot]
  dsimp only
  split
  · exact syncFormerRoute_nextId _ _
  · rw [bindTunnel, send_nextId, syncDownlinkProfile_nextId, syncFormerRoute_nextId]
    rfl

/-- The engine after an activation, which the route table may refuse. -/
theorem activateSlot_engine (sessionId slot : Nat) (session : HotSession) (ip : Ipv4)
    (registrationId : UInt64) (workerId desiredCount : UInt16) :
    (work.activateSlot outside sessionId slot session ip registrationId workerId
        desiredCount).1.engine =
      let former := session.route.elim work.engine.routes fun former =>
        (work.engine.routes.unregister former.1 former.2).1
      let registered := former.register ip ⟨sessionId, registrationId, workerId, slot⟩
      { work.engine with
        routes := registered.1
        tables := if registered.2 then work.engine.tables.store slot { session with
            tunnelIp := some ip
            registrationId := some registrationId
            desiredStreamCount := desiredCount
            pendingTunnel := false }
          else work.engine.tables } := by
  rw [activateSlot]
  dsimp only
  split
  · rename_i routes refused
    rw [refused, syncFormerRoute_engine]
    rfl
  rename_i routes done
  rw [done]
  simp only [bindTunnel, send_engine, syncDownlinkProfile_engine, syncFormerRoute_engine,
    note_engine]
  rfl

end Work

/-! ## The entries of the indexes -/

namespace SessionTables.Named

variable {tables : SessionTables} {target : Nat}

section

variable (named : tables.Named) (here : tables.sessions.lookup slot = some session)

include named here

theorem store (sameId : new.id = session.id) (sameKey : new.key = session.key) :
    (tables.store slot new).Named :=
  ⟨named.byId.update here sameId, named.byPeer.update here sameKey⟩

theorem rebind (sameId : new.id = session.id) : (tables.rebind slot session new).Named :=
  ⟨named.byId.update here sameId, named.byPeer.rekey here⟩

theorem move (vacant : (tables.sessions.erase slot).lookup target = none) :
    (tables.move slot target session).Named :=
  ⟨named.byId.relocate here vacant, named.byPeer.relocate here vacant⟩

theorem leave : (tables.leave slot session).Named :=
  ⟨named.byId.erase here, named.byPeer.erase here⟩

end

theorem enter (named : tables.Named) (vacant : tables.sessions.lookup slot = none) :
    (tables.enter slot session).Named :=
  ⟨named.byId.insert vacant, named.byPeer.insert vacant⟩

end SessionTables.Named

/-! ## The steps of each function -/

theorem Steps.foldl {α : Type} {call : Work → α → Work} {items : List α}
    (each : ∀ work, ∀ item ∈ items, Steps rights work (call work item)) (work : Work) :
    Steps rights work (items.foldl call work) :=
  List.foldlRecOn (motive := Steps rights work) items call .refl
    fun after steps item member => steps.trans (each after item member)

namespace Work

variable (work : Work) (outside : Outside)

theorem send_steps (effect : Effect) (inert : effect.Inert) :
    Steps rights work (work.send outside effect) := by
  rw [send]
  split
  · exact .single (.sent inert)
  · exact .refl

theorem bindEndpoint_steps (endpoint : EndpointKey) :
    Steps rights work (work.bindEndpoint outside endpoint) := by
  rw [bindEndpoint, send]
  split
  · exact .single .bound
  · exact .refl

theorem publishCreatedSession_steps :
    Steps rights work (work.publishCreatedSession outside session payload) := by
  refine .trans (work.send_steps outside _ ?_) (send_steps _ outside _ ?_)
  · trivial
  · trivial

theorem removeSlotWithReason_steps (slot : Nat) (reason : String) :
    Steps rights work (work.removeSlotWithReason outside slot reason) := by
  cases here : work.engine.tables.sessions.lookup slot with
  | none => rw [removeSlotWithReason, here]
  | some session => exact .single (.removed outside reason here)

theorem replacePeer_of_free {endpointKey : EndpointKey}
    (free : work.engine.tables.byPeer.lookup endpointKey = none) :
    work.replacePeer outside endpointKey = work := by
  rw [replacePeer, free]

section

variable (opening : Opening)
  (free : work.engine.tables.byPeer.lookup ⟨opening.peer, opening.localIp⟩ = none)

include opening free

theorem createLegacySession_steps (enter : rights.enter)
    (own : rights.slot (work.freeSlot outside)) :
    Steps rights work (work.createLegacySession outside opening).1 := by
  rw [createLegacySession, work.replacePeer_of_free outside free]
  have entered : Step rights work { work.enterSession outside
      (legacy work.nextId opening outside.counters work.engine.monotonicMs) with
        nextId := work.nextId + 1 } :=
    .entered rfl rfl (outside.slots.vacant _) free ⟨enter, own⟩
  exact .head entered (.single (.sent trivial))

theorem createLegacySession_here :
    (work.createLegacySession outside opening).1.engine.tables.sessions.lookup
      (work.createLegacySession outside opening).2 =
      some (legacy work.nextId opening outside.counters work.engine.monotonicMs) := by
  rw [createLegacySession, work.replacePeer_of_free outside free]
  exact lookup_insert _

end

theorem leave_enter (tables : SessionTables) (slot target : Nat) (session : HotSession) :
    (tables.leave slot session).enter target session = tables.move slot target session := by
  rw [leave, enter, move, erase_insert, erase_insert]

theorem enterSession_returned (here : work.engine.tables.sessions.lookup slot = some session)
    (unrouted : session.route = none) (own : rights.slot slot)
    (back : rights.slot (outside.slots.choose (work.engine.tables.sessions.erase slot))) :
    Step rights work ((work.withTables (work.engine.tables.leave slot session)).enterSession outside
      session) := by
  have moved : Step rights work _ :=
    .moved here (outside.slots.vacant (work.engine.tables.leave slot session).sessions) ⟨own, back⟩
  rw [followedRoutes, unrouted, ← leave_enter] at moved
  exact moved

/-- A session is announced, handed over, or comes back. -/
theorem placeNewSession_steps (payload : List UInt8)
    (here : work.engine.tables.sessions.lookup slot = some session)
    (unrouted : session.route = none) (own : rights.slot slot)
    (back : rights.slot (outside.slots.choose (work.engine.tables.sessions.erase slot))) :
    Steps rights work (work.placeNewSession outside slot payload) := by
  simp only [placeNewSession, here]
  split
  · exact (work.bindEndpoint_steps outside _).trans (publishCreatedSession_steps _ outside)
  · split
    · exact .single (.handed here unrouted own)
    have tuned : ProtocolEngine.Alike { work.engine with
      migratingEndpoints := (work.engine.migratingEndpoints.insert session.key
        work.engine.monotonicMs).erase session.key } work.engine := ⟨rfl, rfl, rfl, rfl, rfl⟩
    refine .head (.tuned tuned) ?_
    refine .head (enterSession_returned _ outside (by exact here) unrouted own back) ?_
    exact (bindEndpoint_steps _ outside _).trans (publishCreatedSession_steps _ outside)

/-- A new session under a free key, which may leave at once. -/
theorem openSession_steps (opening : Opening) (payload : List UInt8)
    (free : work.engine.tables.byPeer.lookup ⟨opening.peer, opening.localIp⟩ = none)
    (enter : rights.enter) (own : rights.slot (work.freeSlot outside)) :
    Steps rights work (work.openSession outside opening payload) := by
  have here := work.createLegacySession_here outside opening free
  have created : Steps rights work (work.createLegacySession outside opening).1 :=
    work.createLegacySession_steps outside opening free enter own
  have slot : (work.createLegacySession outside opening).2 = work.freeSlot outside := by
    rw [createLegacySession, work.replacePeer_of_free outside free]
  have without : (work.createLegacySession outside opening).1.engine.tables.sessions.erase
      (work.freeSlot outside) = work.engine.tables.sessions := by
    rw [createLegacySession, work.replacePeer_of_free outside free]
    exact insert_erase _ _ _ (outside.slots.vacant _)
  rw [slot] at here
  have placed : Steps rights _ _ := placeNewSession_steps (work.createLegacySession outside opening).1
    outside payload here rfl own (by rw [without]; exact own)
  rw [openSession]
  dsimp only
  rw [slot]
  exact created.trans placed

section Stored

theorem store_step (here : work.engine.tables.sessions.lookup slot = some session)
    (total : ¬ rights.up → new.upTotal = session.upTotal := by exact fun _ => rfl)
    (continues : new.Continues session := by exact {}) (sameKey : new.key = session.key := by rfl) :
    Step rights work (work.store slot new) :=
  .stored here continues sameKey total

theorem rebind_step (here : work.engine.tables.sessions.lookup slot = some session)
    (free : work.engine.tables.byPeer.lookup new.key = none)
    (continues : new.Continues session := by exact {})
    (total : new.upTotal = session.upTotal := by rfl) :
    Step rights work (work.withTables (work.engine.tables.rebind slot session new)) :=
  .rebound here continues free total

theorem store_here (new : HotSession) :
    (work.store slot new).engine.tables.sessions.lookup slot = some new :=
  lookup_insert _

theorem sendPlain_steps (here : work.engine.tables.sessions.lookup slot = some session)
    (payload : List UInt8) : Steps rights work (work.sendPlain outside slot session payload) := by
  have stored : ∀ output, Step rights work (work.store slot { session with output := output }) := by
    intro output
    exact work.store_step here
  rw [sendPlain]
  split
  · dsimp only
    split
    · exact .single (stored _)
    · exact .head (stored _) (send_steps _ outside _ trivial)
  · exact .refl

theorem writeIngressPacket_steps (slot : Nat) (packet : List UInt8) (right : rights.up) :
    Steps rights work (work.writeIngressPacket outside slot packet) := by
  rw [writeIngressPacket]
  split
  · refine .head (.wrote packet right) ?_
    dsimp only
    split
    · exact .refl
    · rename_i session here
      exact .single (store_step _ (by exact here) fun silent => absurd right silent)
  · exact .refl

theorem creditDown_steps (slot bytes : Nat) : Steps rights work (work.creditDown slot bytes) := by
  rw [creditDown]
  split
  · exact .refl
  · rename_i session here
    exact .single (work.store_step here)

theorem ingress_steps (held : Nat) (plain : List UInt8) (right : rights.up) :
    Steps rights work (work.ingress outside held plain) := by
  rw [ingress]
  split
  · exact work.writeIngressPacket_steps outside held _ right
  split
  · exact .refl
  · rename_i header payload _ _
    exact .head (.held ⟨header, ⟨held, payload⟩, outside.nowMs⟩ right)
      (Steps.foldl (fun work held _ => work.writeIngressPacket_steps outside held.slot held.packet right) _)

theorem dispatchPlain_steps (here : work.engine.tables.sessions.lookup slot = some session)
    {plain : List UInt8} (up : session.tunnels plain → rights.up) :
    Steps rights work (work.dispatchPlain outside slot session plain) := by
  rw [dispatchPlain]
  split
  · exact .refl
  rename_i notLease
  split
  · exact work.sendPlain_steps outside here readyOk
  rename_i notReady
  split
  · exact .refl
  rename_i notIdle
  split
  · exact work.send_steps outside _ trivial
  rename_i notControl
  split
  · rename_i active
    refine work.ingress_steps outside slot plain (up ?_)
    simp only [and_eq_true] at active
    simp [tunnels, active, notLease, notReady, not_eq_true _ ▸ notIdle, not_eq_true _ ▸ notControl]
  split
  · exact .refl
  · exact .head (work.store_step here) (send_steps _ outside _ trivial)

/-- A session moves to another key only if that key is free. A payload for the tunnel is not
passed on if it is a replay. -/
theorem acceptInbound_steps (here : work.engine.tables.sessions.lookup slot = some session)
    (localIp : Option IpAddr) (free : localIp.isSome → session.localIp ≠ localIp →
      work.engine.tables.byPeer.lookup ⟨session.peer, localIp⟩ = none)
    (seq : UInt16) (plain : List UInt8)
    (up : (session.replay.accept seq).2 → session.tunnels plain → rights.up) :
    Steps rights work (work.acceptInbound outside slot session localIp seq plain) := by
  rw [acceptInbound]
  dsimp only
  split
  · exact .single (work.store_step here)
  rename_i accepted
  have passed := up (by simpa using accepted)
  split
  · rename_i other
    refine .trans (.head (work.rebind_step here (by exact free other.1 other.2))
      (bindEndpoint_steps _ outside _)) (dispatchPlain_steps _ outside ?_ passed)
    rw [bindEndpoint_engine]
    exact lookup_insert _
  · exact .head (work.store_step here) (dispatchPlain_steps _ outside (work.store_here _) passed)

end Stored

theorem onSession_steps (change : Nat → HotSession → Work)
    (each : ∀ slot session, work.engine.tables.sessions.lookup slot = some session →
      Steps rights work (change slot session)) :
    Steps rights work (work.onSession sessionId change) := by
  rw [onSession]
  split
  · exact .refl
  split
  · exact .refl
  · rename_i session here
    exact each _ session here

theorem activateTunnel_steps (named : work.engine.tables.Named) (sessionId : Nat) (ip : Ipv4)
    (registrationId : UInt64) (workerId desiredCount : UInt16) : Steps rights work
      (work.activateTunnel outside sessionId ip registrationId workerId desiredCount).1 := by
  rw [activateTunnel]
  split
  · exact .refl
  rename_i slot entry
  obtain ⟨session, here, same⟩ := named.byId _ _ entry
  rw [here, ← same]
  exact .single (.activated outside ip registrationId workerId desiredCount here)

theorem updateEpoch_steps (sessionId : Nat) (epoch : Epoch) :
    Steps rights work (work.updateEpoch sessionId epoch) := by
  apply work.onSession_steps
  intro slot session here
  have noted : Steps rights work ((work.store slot { session with epoch := epoch }).note session.id
      (.epoch epoch)) :=
    .head (work.store_step here) (.single (.sent trivial))
  dsimp only
  split
  · exact noted
  split
  · exact noted.tail (.sent trivial)
  · exact noted

theorem removeWhere_steps (stale : HotSession → Bool) (reason : Option HotSession → String) :
    Steps rights work (work.removeWhere outside stale reason) := by
  rw [removeWhere]
  induction work.slotsWhere stale with
  | nil => exact .refl
  | cons slot rest ih => exact ih.trans (removeSlotWithReason_steps _ outside slot _)

theorem moveSlot_steps {target : Nat} (right : rights.slot slot ∧ rights.slot target) :
    Steps rights work (work.moveSlot slot target) := by
  rw [moveSlot]
  split
  · rename_i session here vacant
    refine .single (.moved here ?_ right)
    rw [lookup_erase_if, vacant, ite_self]
  · exact .refl

theorem compactMemory_steps (force : Bool) (compacts : rights.Compacts outside) :
    Steps rights work (work.compactMemory outside force) := by
  rw [compactMemory]
  split
  · exact .single (.tuned ⟨rfl, rfl, rfl, rfl, rfl⟩)
  · refine .trans (Steps.foldl (fun work move member =>
      work.moveSlot_steps (compacts move member)) work) ?_
    exact .single (.tuned ⟨rfl, rfl, rfl, rfl, rfl⟩)

theorem broadcastPlain_steps (payload : List UInt8) :
    Steps rights work (work.broadcastPlain outside payload) := by
  refine Steps.foldl (fun work slot _ => ?_) _
  cases here : work.engine.tables.sessions.lookup slot with
  | none => exact .refl
  | some session => exact work.sendPlain_steps outside here payload

/-- A command other than an adoption. -/
theorem onCommand_steps (named : work.engine.tables.Named) (command : ProtocolCommand)
    (own : command.adopted = none) (up : command.credits → rights.up)
    (compacts : command.compacts → rights.Compacts outside) :
    Steps rights work (work.onCommand outside command) := by
  cases command with
  | adoptSession session initialPayload => cases own
  | sendPlain sessionId payload =>
    apply work.onSession_steps
    intro slot session here
    exact work.sendPlain_steps outside here payload
  | broadcastPlain payload => exact work.broadcastPlain_steps outside payload
  | activateTunnel sessionId ip registrationId workerId desiredCount =>
    exact work.activateTunnel_steps outside named sessionId ip registrationId workerId desiredCount
  | injectTun sessionId payload =>
    apply work.onSession_steps
    intro slot session here
    exact work.writeIngressPacket_steps outside slot payload (up rfl)
  | updateEpoch sessionId epoch => exact work.updateEpoch_steps sessionId epoch
  | setDataFrames sessionId enabled =>
    apply work.onSession_steps
    intro slot session here
    exact .single (work.store_step here)
  | setAuthoritativeEpoch epoch | replaceCredentials credentials =>
    exact .trans (work.removeWhere_steps outside _ _) (.single (.tuned ⟨rfl, rfl, rfl, rfl, rfl⟩))
  | disconnectDevice deviceId requesterSessionId =>
    refine .trans (work.onSession_steps requesterSessionId _ ?_) (removeWhere_steps _ outside _ _)
    intro slot session here
    exact work.sendPlain_steps outside here disconnected
  | dropSession sessionId =>
    apply work.onSession_steps
    intro slot session here
    exact work.removeSlotWithReason_steps outside slot _
  | dropPassword password => exact work.removeWhere_steps outside _ _
  | compactMemory => exact work.compactMemory_steps outside true (compacts rfl)

theorem sweepMigratingEndpoints_steps : Steps rights work work.sweepMigratingEndpoints := by
  rw [sweepMigratingEndpoints]
  split
  · exact .single (.tuned ⟨rfl, rfl, rfl, rfl, rfl⟩)
  · exact .refl

theorem publishAllCounters_steps : Steps rights work work.publishAllCounters := by
  refine Steps.foldl (fun work slot _ => ?_) _
  cases here : work.engine.tables.sessions.lookup slot with
  | none => exact .refl
  | some session => exact .head (work.store_step here) (.single (.sent trivial))

theorem maintainSessions_steps : Steps rights work (work.maintainSessions outside) := by
  rw [maintainSessions]
  split
  · exact .head (.tuned (by exact ⟨rfl, rfl, rfl, rfl, rfl⟩))
      ((publishAllCounters_steps _).trans (removeWhere_steps _ outside _ _))
  · exact .refl

theorem sweepIdleEpochs_steps : Steps rights work work.sweepIdleEpochs := by
  rw [sweepIdleEpochs]
  split
  · exact .refl
  · exact .single (.tuned ⟨rfl, rfl, rfl, rfl, rfl⟩)

theorem compactWhenDue_steps (compacts : rights.Compacts outside) :
    Steps rights work (work.compactWhenDue outside) := by
  rw [compactWhenDue]
  split
  · exact work.compactMemory_steps outside false compacts
  · exact .refl

theorem onTick_steps (compacts : rights.Compacts outside) :
    Steps rights work (work.onTick outside) := by
  have swept : ∀ work : Work, Steps rights work
      ((work.sweepMigratingEndpoints.maintainSessions outside).sweepIdleEpochs) := by
    intro work
    refine .trans work.sweepMigratingEndpoints_steps ?_
    exact .trans (maintainSessions_steps _ outside) (sweepIdleEpochs_steps _)
  rw [onTick]
  exact .head (.tuned (by exact ⟨rfl, rfl, rfl, rfl, rfl⟩))
    (.trans (swept _) (compactWhenDue_steps _ outside compacts))

theorem sendDownEndpoint_steps (endpoint : RouteEndpoint) (packet : List UInt8) :
    Steps rights work (work.sendDownEndpoint outside endpoint packet).1 := by
  rw [sendDownEndpoint]
  split
  · exact .refl
  rename_i session here
  split
  · exact .refl
  dsimp only
  generalize (if session.dataFrames then packet else FlowFrame.payload packet) = outgoing
  split
  · exact (work.sendPlain_steps outside here outgoing).trans (creditDown_steps _ _ _)
  · exact work.sendPlain_steps outside here outgoing

theorem sendDownWindow_steps (packet : List UInt8) (window : List RouteEndpoint) :
    Steps rights work (work.sendDownWindow outside packet window).1 := by
  induction window generalizing work with
  | nil => exact .refl
  | cons endpoint rest ih =>
    have first : Steps rights work _ := work.sendDownEndpoint_steps outside endpoint packet
    rw [sendDownWindow]
    split
    · rename_i after stale
      rw [stale] at first
      exact first.trans (ih after)
    · exact first

theorem sendDownKey_steps (key : UInt8) (start : Nat) (packet : List UInt8) :
    Steps rights work (work.sendDownKey outside key start packet).1 := by
  rw [sendDownKey]
  split
  · exact .refl
  · exact work.sendDownWindow_steps outside packet _

theorem adoptSession_engine (session : HotSession) (payload : List UInt8) :
    (work.adoptSession outside session payload).engine = (work.enterSession outside session).engine := by
  simp only [adoptSession, settle, publishCreatedSession, bindEndpoint, send_engine]

end Work

end Csqtt.Engine
