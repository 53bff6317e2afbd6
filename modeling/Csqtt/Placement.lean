import Csqtt.Reception
import Csqtt.SessionSteps

/-!
# What a call asks of the router, and whom it places

A shard binds endpoints only to itself, and it hands sessions over only to shards that
exist. Both hold for every operation of a call, so they hold for every call.

A call gives out at most one id. The session that gets it is in the slab after the call, or
it was handed over: a session for which the router has no room comes back.
-/

namespace Csqtt.Engine

open ControlText Routes List Work

/-- What a shard may ask of the router: it binds endpoints only to itself, and it hands
sessions over only to shards that exist. -/
def RouterCommand.Proper (shardIndex shardCount : Nat) : RouterCommand → Prop
  | .bindEndpoint _ shard => shard = shardIndex
  | .bindTunnel _ _ => True
  | .migrate _ shard _ _ => shard < shardCount

/-- A message asks nothing else of the router. -/
def Effect.Proper (shardIndex shardCount : Nat) (effect : Effect) : Prop :=
  ∀ command ∈ effect.routed, command.Proper shardIndex shardCount

variable {effect : Effect} {after before : Work} {session : HotSession} {slot : Nat}
  {rights : Rights}

/-- An inert message asks for the route of a tunnel at most. -/
theorem Effect.Inert.proper (inert : effect.Inert) (shardIndex shardCount : Nat) :
    effect.Proper shardIndex shardCount := by
  intro command asked
  cases effect with
  | router given =>
    cases asked
    cases command with
    | bindTunnel ip shard => trivial
    | _ => exact inert.elim
  | _ => cases asked

/-- What may be sent may be sent under a weaker condition. -/
theorem Sends.mono {may other : Effect → Prop} (sends : Sends may before after)
    (weaker : ∀ effect, may effect → other effect) : Sends other before after := by
  obtain ⟨more, effects, allowed⟩ := sends
  exact ⟨more, effects, fun effect member => weaker effect (allowed effect member)⟩

/-- An engine stays that of its shard, and what it asks of the router is proper. -/
structure Work.Proper (before after : Work) : Prop where
  shardIndex : after.engine.shardIndex = before.engine.shardIndex
  shardCount : after.engine.shardCount = before.engine.shardCount
  sends : Sends (Effect.Proper before.engine.shardIndex before.engine.shardCount) before after

namespace Work

variable {first second third : Work} (work : Work) (outside : Outside)

/-- One call after another. -/
theorem Proper.trans (early : first.Proper second) (late : second.Proper third) :
    first.Proper third := by
  have sends := late.sends
  rw [early.shardIndex, early.shardCount] at sends
  exact ⟨late.shardIndex.trans early.shardIndex, late.shardCount.trans early.shardCount,
    early.sends.trans sends⟩

/-- A call that sends nothing. -/
theorem Proper.silent (effects : second.effects = first.effects)
    (shardIndex : second.engine.shardIndex = first.engine.shardIndex := by rfl)
    (shardCount : second.engine.shardCount = first.engine.shardCount := by rfl) :
    first.Proper second :=
  ⟨shardIndex, shardCount, .same effects⟩

/-- An adoption binds the endpoint of the session to the shard itself. -/
theorem adoptSession_proper (session : HotSession) (payload : List UInt8) :
    work.Proper (work.adoptSession outside session payload) := by
  have engine := work.adoptSession_engine outside session payload
  have silent : ∀ event, Effect.Proper work.engine.shardIndex work.engine.shardCount
      (.control event) := by
    intro event command asked
    cases asked
  refine ⟨by rw [engine]; rfl, by rw [engine]; rfl, ?_⟩
  refine Sends.since ?_ ((send_sends (work.enterSession outside session) outside ?_).trans
    ((send_sends _ outside (silent _)).trans (send_sends _ outside (silent _))))
  · rfl
  · intro command asked
    cases asked
    rfl

end Work

/-- An operation asks for nothing improper; a session goes to the shard of its device. -/
theorem Step.proper (step : Step rights before after) (some : 0 < before.engine.shardCount) :
    before.Proper after := by
  cases step with
  | tuned alike => exact .silent rfl alike.shardIndex alike.shardCount
  | sent inert => exact ⟨rfl, rfl, .one rfl (inert.proper _ _)⟩
  | bound =>
    refine ⟨rfl, rfl, .one rfl ?_⟩
    intro command asked
    cases asked
    rfl
  | wrote packet right =>
    refine ⟨rfl, rfl, .one rfl ?_⟩
    intro command asked
    cases asked
  | held push right | stored here continues sameKey total | rebound here continues free total
  | moved here vacant right | entered fresh zero vacant free right => exact .silent rfl
  | removed outside reason here =>
    have engine := before.removeSlotWithReason_engine outside reason here
    refine ⟨by rw [engine], by rw [engine], ?_⟩
    exact (before.removeSlotWithReason_sends outside reason here).mono
      fun effect inert => inert.proper _ _
  | handed here unrouted right =>
    refine ⟨rfl, rfl, .one rfl ?_⟩
    intro command asked
    cases asked
    exact shardForDevice_lt _ _ some
  | activated outside ip registrationId workerId desiredCount here =>
    refine ⟨by rw [activateSlot_engine], by rw [activateSlot_engine], ?_⟩
    exact (before.activateSlot_sends outside _ _ ip registrationId workerId desiredCount).mono
      fun effect inert => inert.proper _ _

/-- So do many operations. -/
theorem Steps.proper (steps : Steps rights before after) (some : 0 < before.engine.shardCount) :
    before.Proper after := by
  induction steps with
  | refl => exact .silent rfl
  | tail _ step ih =>
    refine ih.trans (step.proper ?_)
    rw [ih.shardCount]
    exact some

/-! ## New sessions -/

/-- No session is entered. -/
def Rights.noEntry : Rights := { Rights.all with enter := False }

/-- Without the right to enter a session no id is given out. -/
theorem Change.nextId (change : Change rights before after) (none : ¬ rights.enter) :
    after.nextId = before.nextId := by
  cases change with
  | quiet quiet => exact quiet.nextId
  | stored keeps here sameId sameKey total tables | rebound keeps here sameId free total tables
  | moved keeps here vacant right tables | left keeps here tables => exact keeps.nextId
  | departed here right nextId departures tables => exact nextId
  | entered vacant free right newId zero nextId departures tables => exact absurd right.1 none

/-- No id is given out in a whole call without that right. -/
theorem Steps.nextId (steps : Steps rights before after) (none : ¬ rights.enter) :
    after.nextId = before.nextId := by
  induction steps with
  | refl => rfl
  | tail _ step ih => exact (step.change.nextId none).trans ih

namespace Work

variable (work : Work) (outside : Outside)

/-- A command other than an adoption enters no session. -/
theorem onCommand_noEntry (named : work.engine.tables.Named) (command : ProtocolCommand)
    (own : command.adopted = none) : Steps .noEntry work (work.onCommand outside command) :=
  work.onCommand_steps outside named command own (fun _ => trivial) fun _ _ _ => ⟨trivial, trivial⟩

/-- A tick enters no session. -/
theorem onTick_noEntry : Steps .noEntry work (work.onTick outside) :=
  work.onTick_steps outside fun _ _ => ⟨trivial, trivial⟩

/-- A packet from the tunnel enters no session. -/
theorem sendDownKey_noEntry (key : UInt8) (start : Nat) (packet : List UInt8) :
    Steps .noEntry work (work.sendDownKey outside key start packet).1 :=
  work.sendDownKey_steps outside key start packet

/-- At most one id is given out, and its session is in the slab or was handed over. -/
def Placed (before after : Work) : Prop :=
  after.nextId = before.nextId ∨ (after.nextId = before.nextId + 1 ∧ before.nextId ∈ after.ids)

/-- The id of a session in the slab is in use. -/
theorem mem_ids (here : work.engine.tables.sessions.lookup slot = some session) :
    session.id ∈ work.ids :=
  mem_append_left _ (Table.mem_image HotSession.id _ _ _ here)

/-- A new session stays, is handed over, or comes back. -/
theorem placeNewSession_placed (payload : List UInt8)
    (here : work.engine.tables.sessions.lookup slot = some session) :
    (work.placeNewSession outside slot payload).nextId = work.nextId ∧
      session.id ∈ (work.placeNewSession outside slot payload).ids := by
  simp only [placeNewSession, here]
  split
  · constructor
    · rw [publishCreatedSession, send_nextId, send_nextId, bindEndpoint, send_nextId]
    · apply mem_ids
      rw [publishCreatedSession, send_engine, send_engine, bindEndpoint_engine]
      exact here
  · split
    · refine ⟨rfl, mem_append_right _ (mem_map_of_mem ?_)⟩
      rw [departures, filterMap_append]
      exact mem_append_right _ mem_cons_self
    constructor
    · rw [settle, publishCreatedSession, send_nextId, send_nextId, bindEndpoint, send_nextId]
      rfl
    · apply mem_ids
      rw [settle, publishCreatedSession, send_engine, send_engine, bindEndpoint_engine]
      exact AList.lookup_insert _

/-- The session that a datagram opens is placed. -/
theorem openSession_placed (opening : Opening) (payload : List UInt8)
    (free : work.engine.tables.byPeer.lookup ⟨opening.peer, opening.localIp⟩ = none) :
    work.Placed (work.openSession outside opening payload) := by
  have here := work.createLegacySession_here outside opening free
  obtain ⟨nextId, member⟩ := placeNewSession_placed _ outside payload here
  refine .inr ⟨nextId.trans ?_, member⟩
  rw [createLegacySession, work.replacePeer_of_free outside free]
  rfl

end Work

/-- A datagram opens at most one session, and places it. -/
theorem Datagram.placed {outside : Outside} {peer : SocketAddr} {localIp : Option IpAddr}
    {packet : List UInt8} (datagram : Datagram outside peer localIp packet before after) :
    before.Placed after := by
  cases datagram with
  | dropped alike => exact .inl rfl
  | @received engine slot session decoded plain alike found =>
    obtain ⟨here, free⟩ := found.tuned alike
    have steps : Steps .noEntry _ _ := acceptInbound_steps { before with engine := engine }
      outside here localIp free decoded.seq plain fun _ _ => trivial
    exact .inl (steps.nextId id)
  | @replaced engine slot session decoded plain epoch alike found parsed other =>
    obtain ⟨here, free⟩ := found.tuned alike
    have placed := openSession_placed _ outside (session.successor localIp decoded epoch) plain
      (successor_free { before with engine := engine } outside here localIp free
        "epoch-replaced")
    rw [Work.Placed, removeSlotWithReason_nextId] at placed
    exact placed
  | @opened engine opening plain alike unknown free setup =>
    rw [← alike.tables] at free
    exact openSession_placed { before with engine := engine } outside opening plain free

end Csqtt.Engine
