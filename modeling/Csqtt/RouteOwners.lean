import Csqtt.EngineInvariants
import Csqtt.SessionIndexes

/-!
# Every route leads to its session

A route remembers the slot of a session, and slots are freed, given out again and
renumbered by the compaction of the slab. Still, in every state of every run, each
endpoint stored under a tunnel address names a slot whose session has the endpoint's
session id and registration and was activated for that address. So a packet for an
address is sealed only for a session of that address, and no stored endpoint is found
stale.

The argument is local to a shard. A session changes its route, leaves its slot or moves
to another one only after its endpoint is gone or follows it, because an endpoint that
names its slot must stand in the group of its address under its registration, and that
group stores a registration once. Nothing depends on which registrations the control
task hands out.
-/

namespace Csqtt.Engine

open Routes List Option Table AList Bool RouteTable Work

/-- The slot of an endpoint holds the session it was registered for, activated for the
address with the host number. -/
def Serves (sessions : Table Nat HotSession) (index : UInt8) (endpoint : RouteEndpoint) : Prop :=
  ∃ session, sessions.lookup endpoint.slot = some session ∧ session.id = endpoint.sessionId ∧
    session.registrationId = some endpoint.registrationId ∧
    session.tunnelIp.bind routeIndex = some index

/-- Every stored endpoint leads to its session, and no group stores a registration
twice. -/
structure Routed (sessions : Table Nat HotSession) (routes : RouteTable) : Prop where
  serves : ∀ index, ∀ endpoint ∈ routes.stored index, Serves sessions index endpoint
  distinct : ∀ index, ((routes.stored index).map RouteEndpoint.registrationId).Nodup

/-- The routes without those of a session. -/
def formerRoutes (routes : RouteTable) (session : HotSession) : RouteTable :=
  session.route.elim routes fun former => (routes.unregister former.1 former.2).1

variable {index : UInt8} {session : HotSession} {ip : Ipv4} {endpoint : RouteEndpoint} {slot : Nat}

theorem HotSession.route_eq_some {registrationId : UInt64}
    (registered : session.registrationId = some registrationId)
    (addressed : session.tunnelIp.bind routeIndex = some index) :
    ∃ ip, session.route = some (ip, registrationId) ∧ routeIndex ip = some index := by
  obtain ⟨ip, known, found⟩ := bind_eq_some_iff.mp addressed
  refine ⟨ip, ?_, found⟩
  rw [HotSession.route, known, registered]
  rfl

theorem HotSession.of_route {registrationId : UInt64}
    (routed : session.route = some (ip, registrationId)) :
    session.tunnelIp = some ip ∧ session.registrationId = some registrationId := by
  rw [HotSession.route] at routed
  cases known : session.tunnelIp with
  | none =>
    rw [known] at routed
    cases routed
  | some found =>
    cases registered : session.registrationId with
    | none =>
      rw [known, registered] at routed
      cases routed
    | some number =>
      rw [known, registered] at routed
      cases routed
      exact ⟨rfl, rfl⟩

namespace Routed

variable {sessions : Table Nat HotSession} {routes : RouteTable}

section

variable (routed : Routed sessions routes)

include routed

theorem carry {after : Table Nat HotSession}
    (kept : ∀ index, ∀ endpoint ∈ routes.stored index, ∀ session, sessions.lookup endpoint.slot =
      some session → ∃ new, after.lookup endpoint.slot = some new ∧ new.id = session.id ∧
      new.registrationId = session.registrationId ∧ new.tunnelIp = session.tunnelIp) :
    Routed after routes where
  serves index endpoint stored := by
    obtain ⟨session, here, isSession, registered, addressed⟩ := routed.serves index endpoint stored
    obtain ⟨new, there, sameId, sameRegistration, sameIp⟩ := kept index endpoint stored session here
    exact ⟨new, there, sameId.trans isSession, sameRegistration.trans registered,
      by rw [sameIp]; exact addressed⟩
  distinct := routed.distinct

theorem store (here : sessions.lookup slot = some session) {new : HotSession}
    (sameId : new.id = session.id) (sameRegistration : new.registrationId = session.registrationId)
    (sameIp : new.tunnelIp = session.tunnelIp) : Routed (sessions.insert slot new) routes := by
  apply routed.carry
  intro index endpoint _ old there
  rw [lookup_insert_if]
  split
  · rename_i same
    rw [same, here] at there
    cases there
    exact ⟨new, rfl, sameId, sameRegistration, sameIp⟩
  · exact ⟨old, there, rfl, rfl, rfl⟩

theorem named (vacant : sessions.lookup slot = none) (stored : endpoint ∈ routes.stored index) :
    endpoint.slot ≠ slot := by
  rintro rfl
  obtain ⟨session, here, _⟩ := routed.serves index endpoint stored
  rw [vacant] at here
  cases here

theorem enter (vacant : sessions.lookup slot = none) (session : HotSession) :
    Routed (sessions.insert slot session) routes := by
  apply routed.carry
  intro index endpoint stored old there
  rw [lookup_insert_if, if_neg (routed.named vacant stored)]
  exact ⟨old, there, rfl, rfl, rfl⟩

theorem leave (unnamed : ∀ index, ∀ endpoint ∈ routes.stored index, endpoint.slot ≠ slot) :
    Routed (sessions.erase slot) routes := by
  apply routed.carry
  intro index endpoint stored old there
  rw [lookup_erase_if, if_neg (unnamed index endpoint stored)]
  exact ⟨old, there, rfl, rfl, rfl⟩

theorem owner (here : sessions.lookup slot = some session) (stored : endpoint ∈ routes.stored index)
    (names : endpoint.slot = slot) : endpoint.sessionId = session.id ∧
      ∃ ip, session.route = some (ip, endpoint.registrationId) ∧ routeIndex ip = some index := by
  obtain ⟨found, there, isSession, registered, addressed⟩ := routed.serves index endpoint stored
  rw [names, here] at there
  cases there
  exact ⟨isSession.symm, HotSession.route_eq_some registered addressed⟩

theorem unregister (ip : Ipv4) (registrationId : UInt64) :
    Routed sessions (routes.unregister ip registrationId).1 where
  serves index endpoint stored := by
    rw [stored_unregister] at stored
    split at stored
    · exact routed.serves index endpoint ((RouteGroup.mem_unregister _ _ _).mp stored).1
    · exact routed.serves index endpoint stored
  distinct index := by
    rw [stored_unregister]
    split
    · exact (routed.distinct index).sublist (filter_sublist.map _)
    · exact routed.distinct index

theorem register (ip : Ipv4) (endpoint : RouteEndpoint)
    (leads : ∀ index, routeIndex ip = some index → Serves sessions index endpoint) :
    Routed sessions (routes.register ip endpoint).1 where
  serves index other stored := by
    rw [stored_register] at stored
    split at stored
    · rename_i inside
      cases (RouteGroup.mem_register _ _ _).mp stored with
      | inl same =>
        rw [same]
        exact leads index inside
      | inr old => exact routed.serves index other old.1
    · exact routed.serves index other stored
  distinct index := by
    rw [stored_register]
    split
    · exact RouteGroup.register_distinct ⟨routes.stored index⟩ (routed.distinct index) endpoint
    · exact routed.distinct index

/-- Once a session's own route is removed, no endpoint names its slot. -/
theorem former (here : sessions.lookup slot = some session) :
    Routed sessions (formerRoutes routes session) ∧
      ∀ index, ∀ endpoint ∈ (formerRoutes routes session).stored index, endpoint.slot ≠ slot := by
  cases route : session.route with
  | none =>
    rw [formerRoutes, route]
    refine ⟨routed, ?_⟩
    intro index endpoint stored names
    obtain ⟨_, ip, known, _⟩ := routed.owner here stored names
    rw [route] at known
    cases known
  | some own =>
    rw [formerRoutes, route]
    refine ⟨routed.unregister own.1 own.2, ?_⟩
    intro index endpoint stored names
    rw [elim_some, stored_unregister] at stored
    split at stored
    · obtain ⟨old, other⟩ := (RouteGroup.mem_unregister _ _ _).mp stored
      obtain ⟨_, ip, known, _⟩ := routed.owner here old names
      rw [route] at known
      cases known
      exact other rfl
    · rename_i outside
      obtain ⟨_, ip, known, inside⟩ := routed.owner here stored names
      rw [route] at known
      cases known
      exact outside inside

end

end Routed

/-! ## The operations -/

namespace Work

variable (work : Work) (outside : Outside)

theorem fallback_serves {entry : Sigma fun _ : Nat => HotSession}
    (found : work.fallback outside session ip = some entry) (inside : routeIndex ip = some index)
    (workerId : UInt16) : Serves work.engine.tables.sessions index
      ⟨entry.2.id, entry.2.registrationId.getD 0, workerId, entry.1⟩ := by
  have member := argmax_mem (mem_def.mpr found)
  obtain ⟨stored, sameStream⟩ := mem_filter.mp member
  rw [and_eq_true, and_eq_true, and_eq_true, beq_iff_eq] at sameStream
  obtain ⟨registrationId, registered⟩ := isSome_iff_exists.mp sameStream.1.1.2
  refine ⟨entry.2, mem_lookup_iff.mpr stored, rfl, ?_, ?_⟩
  · rw [registered]
    rfl
  · rw [sameStream.1.1.1, bind_some, inside]

theorem droppedRoutes_routed
    (routed : Routed work.engine.tables.sessions (formerRoutes work.engine.routes session)) :
    Routed work.engine.tables.sessions (work.droppedRoutes outside session) := by
  rw [droppedRoutes]
  cases route : session.route with
  | none =>
    rw [formerRoutes, route] at routed
    exact routed
  | some own =>
    rw [formerRoutes, route] at routed
    dsimp only
    split
    · exact routed
    rename_i entry found
    split
    · apply routed.register
      intro index inside
      exact work.fallback_serves outside found inside _
    · exact routed

end Work

theorem Routed.elsewhere {sessions : Table Nat HotSession} {routes : RouteTable}
    (routed : Routed sessions routes) {target : Nat} (session : HotSession)
    (vacant : (sessions.erase slot).lookup target = none) (stored : endpoint ∈ routes.stored index)
    (apart : endpoint.slot ≠ slot) :
    Serves ((sessions.erase slot).insert target session) index endpoint := by
  obtain ⟨found, there, rest⟩ := routed.serves index endpoint stored
  have kept : (sessions.erase slot).lookup endpoint.slot = some found := by
    rw [lookup_erase_if, if_neg apart, there]
  refine ⟨found, ?_, rest⟩
  rw [lookup_insert_if, if_neg, kept]
  intro same
  rw [same, vacant] at kept
  cases kept

/-- The route of a session that moves to another slot follows it. -/
theorem Routed.moved {work : Work} {target : Nat}
    (routed : Routed work.engine.tables.sessions work.engine.routes)
    (here : work.engine.tables.sessions.lookup slot = some session)
    (vacant : (work.engine.tables.sessions.erase slot).lookup target = none) :
    Routed ((work.engine.tables.sessions.erase slot).insert target session)
      (work.followedRoutes session target) := by
  rw [followedRoutes]
  cases route : session.route with
  | none =>
    refine ⟨?_, routed.distinct⟩
    intro index endpoint stored
    apply routed.elsewhere session vacant stored
    intro names
    obtain ⟨_, ip, known, _⟩ := routed.owner here stored names
    rw [route] at known
    cases known
  | some own =>
    obtain ⟨addressed, registered⟩ := HotSession.of_route route
    constructor
    · intro index endpoint stored
      rw [elim_some, stored_updateSlot] at stored
      split at stored
      · rename_i inside
        rw [RouteGroup.updateSlot_endpoints ⟨work.engine.routes.stored index⟩
          (routed.distinct index)] at stored
        obtain ⟨old, member, rfl⟩ := mem_map.mp stored
        split
        · rename_i mine
          rw [and_eq_true, beq_iff_eq, beq_iff_eq] at mine
          refine ⟨session, lookup_insert _, mine.1.symm, ?_, ?_⟩
          · rw [registered, mine.2]
          · rw [addressed, bind_some, inside]
        · rename_i foreign
          apply routed.elsewhere session vacant member
          intro names
          obtain ⟨isSession, ip, known, _⟩ := routed.owner here member names
          rw [route] at known
          cases known
          apply foreign
          rw [and_eq_true, beq_iff_eq, beq_iff_eq]
          exact ⟨isSession, rfl⟩
      · rename_i outside
        apply routed.elsewhere session vacant stored
        intro names
        obtain ⟨_, ip, known, inside⟩ := routed.owner here stored names
        rw [route] at known
        cases known
        exact outside inside
    · intro index
      rw [elim_some, stored_updateSlot]
      split
      · exact RouteGroup.updateSlot_distinct ⟨work.engine.routes.stored index⟩
          (routed.distinct index) _ _ _
      · exact routed.distinct index

/-- Every operation keeps the routes of the sessions. -/
theorem Step.routed {rights : Rights} {before after : Work} (step : Step rights before after)
    (routed : Routed before.engine.tables.sessions before.engine.routes) :
    Routed after.engine.tables.sessions after.engine.routes := by
  cases step with
  | tuned alike =>
    rw [alike.tables, alike.routes]
    exact routed
  | sent inert | bound | held push right | wrote packet right => exact routed
  | stored here continues sameKey total | rebound here continues free total =>
    exact routed.store here continues.id continues.registrationId continues.tunnelIp
  | moved here vacant right => exact routed.moved here vacant
  | @removed outside slot session reason here =>
    rw [removeSlotWithReason_engine _ outside reason here]
    obtain ⟨remaining, unnamed⟩ := routed.former here
    exact droppedRoutes_routed
      (before.withTables (before.engine.tables.leave slot session)) outside (remaining.leave unnamed)
  | @handed slot session payload here unrouted right =>
    obtain ⟨remaining, unnamed⟩ := routed.former here
    rw [formerRoutes, unrouted] at remaining unnamed
    exact remaining.leave unnamed
  | entered fresh zero vacant free right => exact routed.enter vacant _
  | @activated outside slot session ip registrationId workerId desiredCount here =>
    rw [activateSlot_engine]
    obtain ⟨remaining, unnamed⟩ := routed.former here
    dsimp only
    split
    · have vacated : Routed (before.engine.tables.sessions.insert slot { session with
          tunnelIp := some ip
          registrationId := some registrationId
          desiredStreamCount := desiredCount
          pendingTunnel := false })
          (session.route.elim before.engine.routes fun former =>
            (before.engine.routes.unregister former.1 former.2).1) := by
        apply remaining.carry
        intro index endpoint stored old there
        rw [lookup_insert_if, if_neg (unnamed index endpoint stored)]
        exact ⟨old, there, rfl, rfl, rfl⟩
      apply vacated.register
      intro index inside
      exact ⟨_, lookup_insert _, rfl, rfl, inside⟩
    · rename_i refused
      rw [register] at refused ⊢
      cases foreign : routeIndex ip with
      | none => exact remaining
      | some index =>
        rw [foreign] at refused
        exact absurd rfl refused

/-! ## Packets from the tunnel -/

/-- What was sent between two states of a call was sealed for a session of a tunnel
address, and every session of another address is as it was. -/
structure SealedFor (ip : Ipv4) (before after : Work) : Prop where
  untouched : ∀ slot session, before.engine.tables.sessions.lookup slot = some session →
    session.tunnelIp ≠ some ip → after.engine.tables.sessions.lookup slot = some session
  sent : ∀ effect ∈ after.effects, effect ∈ before.effects ∨
    ∃ slot session plain elapsed draws packet,
      before.engine.tables.sessions.lookup slot = some session ∧ session.tunnelIp = some ip ∧
      (ServerObfs.wrapLegacyInto session.ciphers session.isSrtp session.output plain
        ServerObfs.PacketBuf.zeroed elapsed draws).2 = .ok packet ∧
      effect = .udp session.peer session.localIp packet.asSlice

theorem SealedFor.refl (ip : Ipv4) (work : Work) : SealedFor ip work work :=
  ⟨fun _ _ here _ => here, fun _ member => Or.inl member⟩

namespace Work

variable (work : Work) (outside : Outside)

/-- A payload is sealed for the session it is sent on. -/
theorem sendPlain_sealed (here : work.engine.tables.sessions.lookup slot = some session)
    (addressed : session.tunnelIp = some ip) (payload : List UInt8) :
    SealedFor ip work (work.sendPlain outside slot session payload) := by
  have stored : ∀ output, SealedFor ip work (work.store slot { session with output := output }) := by
    intro output
    refine ⟨?_, fun _ member => Or.inl member⟩
    intro other found there foreign
    dsimp only [store, withTables, SessionTables.store]
    rw [lookup_insert_if, if_neg, there]
    rintro rfl
    rw [here] at there
    cases there
    exact foreign addressed
  rw [sendPlain]
  split
  · dsimp only
    split
    · exact stored _
    rename_i packet wrapped
    rw [send]
    split
    · refine ⟨(stored _).untouched, ?_⟩
      intro effect member
      cases mem_append.mp member with
      | inl old => exact Or.inl old
      | inr new =>
        exact Or.inr ⟨slot, session, payload, outside.elapsed session.id,
          outside.draws session.id, packet, here, addressed, wrapped,
          mem_singleton.mp new⟩
    · exact stored _
  · exact SealedFor.refl ip work

theorem creditDown_sealed {before : Work} (sealed : SealedFor ip before work)
    (here : before.engine.tables.sessions.lookup slot = some session)
    (addressed : session.tunnelIp = some ip) (bytes : Nat) :
    SealedFor ip before (work.creditDown slot bytes) := by
  rw [creditDown]
  split
  · exact sealed
  refine ⟨?_, sealed.sent⟩
  intro other found there foreign
  dsimp only [store, withTables, SessionTables.store]
  rw [lookup_insert_if, if_neg, sealed.untouched other found there foreign]
  rintro rfl
  rw [here] at there
  cases there
  exact foreign addressed

/-- An endpoint that leads to its session is not stale, and the packet is sealed for
that session. -/
theorem sendDownEndpoint_sealed (inside : routeIndex ip = some index)
    (leads : Serves work.engine.tables.sessions index endpoint) (packet : List UInt8) :
    (work.sendDownEndpoint outside endpoint packet).2 ≠ .stale ∧
      SealedFor ip work (work.sendDownEndpoint outside endpoint packet).1 := by
  obtain ⟨session, here, isSession, registered, addressed⟩ := leads
  obtain ⟨own, known, found⟩ := bind_eq_some_iff.mp addressed
  rw [routeIndex_injective found inside] at known
  rw [sendDownEndpoint, here]
  dsimp only
  rw [if_neg (not_or.mpr ⟨not_not.mpr isSession, not_not.mpr registered⟩)]
  generalize (if session.dataFrames then packet else FlowFrame.payload packet) = outgoing
  have sealed := work.sendPlain_sealed outside here known outgoing
  split
  · refine ⟨?_, creditDown_sealed _ sealed here known _⟩
    intro stale
    cases stale
  · refine ⟨?_, sealed⟩
    intro stale
    cases stale

/-- A packet for an address is sealed for a session of that address. -/
theorem sendDownKey_sealed (inside : routeIndex ip = some index)
    (routed : Routed work.engine.tables.sessions work.engine.routes) (start : Nat)
    (packet : List UInt8) : SealedFor ip work (work.sendDownKey outside index start packet).1 := by
  rw [sendDownKey]
  cases group : work.engine.routes.lookup index with
  | none => exact SealedFor.refl ip work
  | some endpoints =>
    dsimp only
    cases window : endpoints.window start with
    | nil => exact SealedFor.refl ip work
    | cons endpoint rest =>
      have member : endpoint ∈ work.engine.routes.stored index := by
        have offered : endpoint ∈ endpoints.window start := by
          rw [window]
          exact mem_cons_self
        rw [stored, group]
        cases mem_append.mp offered with
        | inl late => exact mem_of_mem_drop late
        | inr early => exact mem_of_mem_take early
      obtain ⟨accepted, sealed⟩ := work.sendDownEndpoint_sealed outside inside
        (routed.serves index endpoint member) packet
      rw [sendDownWindow]
      split
      · rename_i after stale
        rw [stale] at accepted
        exact absurd rfl accepted
      · exact sealed

end Work

end Csqtt.Engine

namespace Csqtt.Dataplane

open Engine Routes List Option Table AList Bool Work

theorem routed_invariant :
    EngineInvariant fun engine => Routed engine.tables.sessions engine.routes where
  step := Step.routed
  enter _ outside session routed := routed.enter (outside.slots.vacant _) session

/-- In every state of every run and for every tunnel address, each endpoint stored
under the address names a slot whose session has its session id and its registration
and was activated for the address; no such endpoint is found stale; and a packet for
the address is sealed only for sessions that were activated for it. -/
theorem routes_lead_to_their_sessions (shardCount : Nat) (credentials : List Credential)
    (epochs : Table ControlText.Text Nat) (events : List Event) (shard : Shard) (member : shard ∈
      (Runs.final System.step (System.new shardCount credentials epochs) events).shards)
    (ip : Ipv4) (index : UInt8) (inside : routeIndex ip = some index) :
    (∀ endpoint ∈ shard.engine.routes.stored index,
      (∃ session, shard.engine.tables.sessions.lookup endpoint.slot = some session ∧
        session.id = endpoint.sessionId ∧
        session.registrationId = some endpoint.registrationId ∧ session.tunnelIp = some ip) ∧
      ∀ nextId effects outside packet,
        (sendDownEndpoint ⟨shard.engine, nextId, effects⟩ outside endpoint packet).2 ≠ .stale) ∧
    ∀ nextId effects outside start packet, SealedFor ip ⟨shard.engine, nextId, effects⟩
      (sendDownKey ⟨shard.engine, nextId, effects⟩ outside index start packet).1 := by
  have empty : ∀ number, Routed
      (ProtocolEngine.new number shardCount credentials epochs).tables.sessions
      (ProtocolEngine.new number shardCount credentials epochs).routes := by
    intro number
    exact ⟨fun _ _ stored => absurd stored (not_mem_nil), fun _ => nodup_nil⟩
  have reached := routed_invariant.reached shardCount credentials epochs empty events
  obtain ⟨_, routed⟩ := reached shard.engine (mem_map_of_mem member)
  constructor
  · intro endpoint stored
    have leads := routed.serves index endpoint stored
    constructor
    · obtain ⟨session, here, isSession, registered, addressed⟩ := leads
      obtain ⟨own, known, found⟩ := bind_eq_some_iff.mp addressed
      rw [routeIndex_injective found inside] at known
      exact ⟨session, here, isSession, registered, known⟩
    · intro nextId effects outside packet
      exact (sendDownEndpoint_sealed ⟨shard.engine, nextId, effects⟩ outside inside leads
        packet).1
  · intro nextId effects outside start packet
    exact sendDownKey_sealed ⟨shard.engine, nextId, effects⟩ outside inside routed start packet

/-- The session of the second shard is activated for the address 10.66.67.2. -/
def activation : List Event :=
  .datagram client none opening true :: handover 0 ++
    [.command ⟨.activateTunnel 1 ⟨10, 66, 67, 2⟩ 7 1 1, rfl⟩ fun _ => true,
      .work 0 (calm 0), .work 1 (calm 0)]

/-- Its route leads to it. -/
theorem activated_route_leads :
    ∃ shard, (Runs.final System.step pair activation).shards[1]? = some shard ∧
      ∃ endpoint ∈ shard.engine.routes.stored 2, ∃ session,
        shard.engine.tables.sessions.lookup endpoint.slot = some session ∧
        session.id = endpoint.sessionId ∧ session.tunnelIp = some ⟨10, 66, 67, 2⟩ := by
  have stored : (Runs.final System.step pair activation).shards[1]?.map (fun shard =>
      shard.engine.routes.stored 2) = some [⟨1, 7, 1, 0⟩] := by
    decide +kernel
  obtain ⟨shard, here, routes⟩ := map_eq_some_iff.mp stored
  have leads := routes_lead_to_their_sessions 2 [⟨[0x70], WireRoundTrip.plainCiphers⟩] ∅ activation
    shard (mem_of_getElem? here) ⟨10, 66, 67, 2⟩ 2 rfl
  have first : (⟨1, 7, 1, 0⟩ : RouteEndpoint) ∈ shard.engine.routes.stored 2 := by
    rw [routes]
    exact mem_cons_self
  obtain ⟨session, found, isSession, _, addressed⟩ := (leads.1 _ first).1
  exact ⟨shard, here, _, first, session, found, isSession, addressed⟩

end Csqtt.Dataplane
