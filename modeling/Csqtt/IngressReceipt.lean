import Csqtt.HeldValues
import Csqtt.Placement

/-!
# Packets for the tunnel and who received them

A framed packet waits in the reassembler until its turn comes, together with the slot of the
session that received it. When it is written to the tunnel, it is credited to the session in
that slot.

To say whose packet it was, every packet is marked with the id of the session that received
it. The marked packets go through a reassembler of their own, which follows that of the
engine because reassembly does not look at the values. A mark is right if its session is in
the slot of the packet, or if the slot is vacant and the session is gone. As long as all
marks are right, writing credits every packet to the session that received it.
-/

namespace Csqtt.Engine

open ControlText Routes ServerObfs ServerReplay List Option Table Bool Work SessionTables

/-- A packet for the tunnel and the id of the session that received it. -/
structure Received where
  receiver : Nat
  held : IngressPacket

/-- The payload for the tunnel that a datagram brings, with the session that receives it and
the slot of the session. -/
def Work.receives (work : Work) (peer : SocketAddr) (localIp : Option IpAddr)
    (packet : List UInt8) : Option (Nat × HotSession × List UInt8) :=
  match work.slotOf peer localIp with
  | none => none
  | some slot =>
    match work.engine.tables.sessions.lookup slot with
    | none => none
    | some session =>
      match unwrapLegacyInPlace session.ciphers packet (some session.isSrtp) with
      | .error _ => none
      | .ok (decoded, opened) =>
        if (session.replay.accept decoded.seq).2 && session.tunnels (decoded.plain opened) then
          some (slot, session, decoded.plain opened)
        else none

/-- A payload for the tunnel enters a reassembler of marked packets. -/
def Received.push (marked : Reassembler.FlowReassembler Received) (nowMs receiver slot : Nat)
    (plain : List UInt8) : Reassembler.FlowReassembler Received × List Received :=
  match FlowFrame.FrameHeader.decode plain with
  | none => (marked, [⟨receiver, slot, FlowFrame.payload plain⟩])
  | some (header, payload) =>
    if payload.length > packetCapacity then (marked, [])
    else Reassembler.pushAt marked ⟨header, ⟨receiver, slot, payload⟩, nowMs⟩

/-- Whether a packet is written to the tunnel. -/
def Outside.writes (outside : Outside) (received : Received) : Bool :=
  received.held.packet.length ≤ packetCapacity && outside.accepts (.tun received.held.packet)

/-- The packet that a message writes to the tunnel. -/
def Effect.tunneled : Effect → Option (List UInt8)
  | .tun packet => some packet
  | _ => none

/-- A total after packets were credited. -/
def credited (total : Nat) (packets : List Received) : Nat :=
  packets.foldl (fun total received => min (total + received.held.packet.length) (2 ^ 64 - 1)) total

variable {after before work : Work} {session : HotSession} {slot : Nat} {rights : Rights}
  {others : List Nat} {localIp : Option IpAddr} {packet plain : List UInt8} {peer : SocketAddr}
  {received : Received}

namespace Work

/-- A session in the slab, or one that was handed over. -/
def Has (work : Work) (session : HotSession) : Prop :=
  (∃ slot, work.engine.tables.sessions.lookup slot = some session) ∨ session ∈ work.departures

/-- The totals after packets were written: each session is credited with the packets it has
received, and a new session with none. -/
def Counts (before after : Work) (packets : List Received) : Prop :=
  ∀ session, after.Has session →
    (∃ old, before.Has old ∧ old.id = session.id ∧ session.upTotal = credited old.upTotal
      (packets.filter fun received => received.receiver == session.id)) ∨
    (before.nextId ≤ session.id ∧ session.upTotal = 0)

/-- The session that a packet is marked with is in the slot of the packet, or the slot is
vacant and the session is gone. -/
structure Owns (work : Work) (others : List Nat) (received : Received) : Prop where
  given : received.receiver < work.nextId
  right : (work.engine.tables.sessions.lookup received.held.slot).map HotSession.id =
      some received.receiver ∨
    (work.engine.tables.sessions.lookup received.held.slot = none ∧
      received.receiver ∉ others ++ work.ids)

theorem has_ids (has : work.Has session) : session.id ∈ work.ids := by
  obtain ⟨slot, here⟩ | handed := has
  · exact work.mem_ids here
  · exact mem_append_right _ (mem_map_of_mem handed)

/-! ## Calls that write nothing -/

/-- No session is credited; sessions stay, leave or are new. -/
def Inherits (before after : Work) : Prop :=
  ∀ session, after.Has session →
    (∃ old, before.Has old ∧ old.id = session.id ∧ session.upTotal = old.upTotal) ∨
    (before.nextId ≤ session.id ∧ session.upTotal = 0)

section

variable (departures : after.departures = before.departures)

include departures

theorem Inherits.of_slots
    (slots : ∀ slot session, after.engine.tables.sessions.lookup slot = some session → ∃ other old,
      before.engine.tables.sessions.lookup other = some old ∧ old.id = session.id ∧
      session.upTotal = old.upTotal) : before.Inherits after := by
  intro session has
  obtain ⟨slot, here⟩ | handed := has
  · obtain ⟨other, old, there, same, total⟩ := slots slot session here
    exact .inl ⟨old, .inl ⟨other, there⟩, same, total⟩
  · rw [departures] at handed
    exact .inl ⟨session, .inr handed, rfl, rfl⟩

theorem Inherits.of_tables (tables : after.engine.tables = before.engine.tables) :
    before.Inherits after := by
  refine .of_slots departures ?_
  intro slot session here
  rw [tables] at here
  exact ⟨slot, session, here, rfl, rfl⟩

theorem Inherits.of_store {new : HotSession}
    (here : before.engine.tables.sessions.lookup slot = some session)
    (sessions : after.engine.tables.sessions = before.engine.tables.sessions.insert slot new)
    (id : new.id = session.id := by rfl) (upTotal : new.upTotal = session.upTotal := by rfl) :
    before.Inherits after := by
  refine .of_slots departures ?_
  intro other found there
  rw [sessions, lookup_insert_if] at there
  split at there
  · cases there
    exact ⟨slot, session, here, id.symm, upTotal⟩
  · exact ⟨other, found, there, rfl, rfl⟩

end

theorem Inherits.trans {first second third : Work} (grows : first.nextId ≤ second.nextId)
    (early : first.Inherits second) (late : second.Inherits third) : first.Inherits third := by
  intro session has
  obtain ⟨old, had, same, total⟩ | ⟨new, zero⟩ := late session has
  · obtain ⟨older, hadBefore, sameId, sameTotal⟩ | ⟨new, zero⟩ := early old had
    · exact .inl ⟨older, hadBefore, sameId.trans same, total.trans sameTotal⟩
    · rw [same] at new
      exact .inr ⟨new, total.trans zero⟩
  · exact .inr ⟨grows.trans new, zero⟩

end Work

/-- A change in a call that counts no traffic from clients. -/
theorem Change.inherits (change : Change rights before after) (none : ¬ rights.up) :
    before.Inherits after := by
  cases change with
  | quiet quiet => exact .of_tables quiet.departures quiet.tables
  | stored keeps here sameId sameKey total tables | rebound keeps here sameId free total tables =>
    exact .of_store keeps.departures here (congrArg sessions tables) sameId (total none)
  | @moved slot target session keeps here vacant right tables =>
    refine .of_slots keeps.departures ?_
    intro other found there
    rw [tables, move, lookup_insert_if] at there
    split at there
    · cases there
      exact ⟨slot, session, here, rfl, rfl⟩
    rw [lookup_erase_if] at there
    split at there
    · cases there
    · exact ⟨other, found, there, rfl, rfl⟩
  | left keeps here tables =>
    refine .of_slots keeps.departures ?_
    intro other found there
    rw [tables, leave, lookup_erase_if] at there
    split at there
    · cases there
    · exact ⟨other, found, there, rfl, rfl⟩
  | @departed slot session here right nextId departures tables =>
    intro found has
    obtain ⟨other, there⟩ | handed := has
    · rw [tables, leave, lookup_erase_if] at there
      split at there
      · cases there
      · exact .inl ⟨found, .inl ⟨other, there⟩, rfl, rfl⟩
    · rw [departures] at handed
      obtain old | new := mem_append.mp handed
      · exact .inl ⟨found, .inr old, rfl, rfl⟩
      · rw [mem_singleton.mp new]
        exact .inl ⟨session, .inl ⟨slot, here⟩, rfl, rfl⟩
  | entered vacant free right newId zero nextId departures tables =>
    intro found has
    obtain ⟨other, there⟩ | handed := has
    · rw [tables, enter, lookup_insert_if] at there
      split at there
      · cases there
        exact .inr ⟨ge_of_eq newId, zero⟩
      · exact .inl ⟨found, .inl ⟨other, there⟩, rfl, rfl⟩
    · rw [departures] at handed
      exact .inl ⟨found, .inr handed, rfl, rfl⟩

theorem Steps.inherits (steps : Steps rights before after) (none : ¬ rights.up) :
    before.Inherits after := by
  induction steps with
  | refl => exact .of_tables rfl rfl
  | tail early step ih => exact ih.trans (Steps.nextId_le early) (step.change.inherits none)

/-- What becomes of a slot that gets no other session: it is as it was, or its session was
removed and is gone. -/
theorem Change.at_slot (change : Change rights before after)
    (fresh : Fresh (others ++ before.ids) before.nextId) (spared : ¬ rights.slot slot) :
    (after.engine.tables.sessions.lookup slot).map HotSession.id =
        (before.engine.tables.sessions.lookup slot).map HotSession.id ∨
      (after.engine.tables.sessions.lookup slot = none ∧
        ∀ session, before.engine.tables.sessions.lookup slot = some session →
          session.id ∉ others ++ after.ids) := by
  have apart : ∀ {place}, rights.slot place → slot ≠ place := by
    rintro place right rfl
    exact spared right
  cases change with
  | quiet quiet =>
    rw [quiet.tables]
    exact .inl rfl
  | stored keeps here sameId sameKey total tables | rebound keeps here sameId free total tables =>
    have written : after.engine.tables.sessions = before.engine.tables.sessions.insert _ _ :=
      congrArg sessions tables
    left
    rw [written, lookup_insert_if]
    split
    · rename_i same
      rw [same, here, map_some, map_some, sameId]
    · rfl
  | moved keeps here vacant right tables =>
    rw [tables, move, lookup_insert_if, if_neg (apart right.2), lookup_erase_if,
      if_neg (apart right.1)]
    exact .inl rfl
  | left keeps here tables =>
    rw [ids, tables, keeps.departures, leave, lookup_erase_if]
    split
    · rename_i same
      refine .inr ⟨rfl, ?_⟩
      intro session there
      rw [same, here] at there
      cases there
      have together := fresh.perm
        (((image_erase _ _ _ _ here).symm.append_right _).append_left others)
      exact (nodup_cons.mp (together.perm perm_middle).distinct).1
    · exact .inl rfl
  | departed here right nextId departures tables =>
    rw [tables, leave, lookup_erase_if, if_neg (apart right)]
    exact .inl rfl
  | entered vacant free right newId zero nextId departures tables =>
    rw [tables, enter, lookup_insert_if, if_neg (apart right.2)]
    exact .inl rfl

variable (outside : Outside)

namespace Work

/-- A mark stays right as long as the slot of its packet gets no other session. -/
theorem Owns.change (owns : before.Owns others received) (change : Change rights before after)
    (fresh : Fresh (others ++ before.ids) before.nextId) (spared : ¬ rights.slot received.held.slot) :
    after.Owns others received := by
  have absent : received.receiver ∉ others ++ before.ids →
      received.receiver ∉ others ++ after.ids := by
    intro gone member
    have alone : Fresh ((received.receiver :: others) ++ before.ids) before.nextId :=
      ⟨nodup_cons.mpr ⟨gone, fresh.distinct⟩, forall_mem_cons.mpr ⟨owns.given, fresh.bounded⟩⟩
    exact (nodup_cons.mp (change.fresh alone).distinct).1 member
  constructor
  · exact owns.given.trans_le (change.nextId_le)
  · obtain same | ⟨vacant, gone⟩ := change.at_slot fresh spared
    · obtain present | ⟨vacant, gone⟩ := owns.right
      · exact .inl (same.trans present)
      · rw [vacant, map_none, map_eq_none_iff] at same
        exact .inr ⟨same, absent gone⟩
    · refine .inr ⟨vacant, ?_⟩
      obtain present | ⟨_, away⟩ := owns.right
      · obtain ⟨session, here, same⟩ := map_eq_some_iff.mp present
        rw [← same]
        exact gone session here
      · exact absent away

theorem Owns.steps (owns : before.Owns others received) (steps : Steps rights before after)
    (fresh : Fresh (others ++ before.ids) before.nextId) (spared : ¬ rights.slot received.held.slot) :
    after.Owns others received := by
  induction steps with
  | refl => exact owns
  | tail early step ih => exact ih.change step.change (Steps.fresh early fresh) spared

/-! ## Writing -/

/-- A marked packet is written to the tunnel. -/
def write (outside : Outside) (work : Work) (received : Received) : Work :=
  work.writeIngressPacket outside received.held.slot received.held.packet

/-- Writing moves no session and removes none. -/
def writing : Rights := { Rights.all with slot := fun _ => False }

theorem write_steps (work : Work) (received : Received) :
    Steps writing work (write outside work received) :=
  work.writeIngressPacket_steps outside received.held.slot received.held.packet trivial

theorem write_departures (work : Work) (received : Received) :
    (write outside work received).departures = work.departures := by
  rw [write, writeIngressPacket]
  split
  · dsimp only
    split
    · exact (work.effect_quiet (.tun received.held.packet) rfl).departures
    · exact (work.effect_quiet (.tun received.held.packet) rfl).departures
  · rfl

theorem Owns.slot_iff (owns : work.Owns others received) (tracked : work.Tracked others)
    (here : work.engine.tables.sessions.lookup slot = some session) :
    received.receiver = session.id ↔ slot = received.held.slot := by
  constructor
  · intro isReceiver
    obtain present | ⟨_, gone⟩ := owns.right
    · obtain ⟨stored, there, same⟩ := map_eq_some_iff.mp present
      exact tracked.byId.slot_unique here there (isReceiver.symm.trans same.symm)
    · rw [isReceiver] at gone
      exact absurd (mem_append_right others (work.mem_ids here)) gone
  · intro same
    have right := owns.right
    rw [← same, here] at right
    obtain present | ⟨vacant, _⟩ := right
    · exact (Option.some.inj present).symm
    · cases vacant

/-- What a session has after a packet with a right mark was written. -/
theorem write_slot (tracked : work.Tracked others) (owns : work.Owns others received)
    (here : (write outside work received).engine.tables.sessions.lookup slot = some session) :
    ∃ old, work.engine.tables.sessions.lookup slot = some old ∧ old.id = session.id ∧
      session.upTotal = credited old.upTotal
        (([received].filter outside.writes).filter fun received =>
          received.receiver == session.id) := by
  have foreign : work.engine.tables.sessions.lookup slot = some session →
      slot ≠ received.held.slot → session.upTotal = credited session.upTotal
        ([received].filter fun received => received.receiver == session.id) := by
    intro there apart
    have other : ¬(received.receiver == session.id) = true :=
      fun same => apart ((owns.slot_iff tracked there).mp (beq_iff_eq.mp same))
    rw [filter_cons_of_neg (by exact other)]
    rfl
  rw [write, writeIngressPacket] at here
  by_cases written : outside.writes received = true
  · rw [if_pos (by exact written)] at here
    dsimp only at here
    rw [filter_cons_of_pos written, filter_nil]
    split at here
    · rename_i vacant
      have apart : ¬ slot = received.held.slot := by
        intro same
        rw [same] at here
        rw [vacant] at here
        cases here
      exact ⟨session, here, rfl, foreign here apart⟩
    · rename_i stored there
      dsimp only [store, withTables, SessionTables.store] at here
      rw [lookup_insert_if] at here
      split at here
      · rename_i same
        cases here
        subst same
        have own : (received.receiver == stored.id) = true :=
          beq_iff_eq.mpr ((owns.slot_iff tracked there).mpr rfl)
        refine ⟨stored, there, rfl, ?_⟩
        rw [filter_cons_of_pos (by exact own)]
        rfl
      · rename_i apart
        exact ⟨session, here, rfl, foreign here apart⟩
  · rw [if_neg (by exact written)] at here
    refine ⟨session, here, rfl, ?_⟩
    rw [filter_cons_of_neg written]
    rfl

/-- Writing packets with right marks. -/
theorem writeAll_slot (tracked : work.Tracked others) {packets : List Received}
    (owns : ∀ received ∈ packets, work.Owns others received)
    (here : (packets.foldl (write outside) work).engine.tables.sessions.lookup slot = some session) :
    ∃ old, work.engine.tables.sessions.lookup slot = some old ∧ old.id = session.id ∧
      session.upTotal = credited old.upTotal
        ((packets.filter outside.writes).filter fun received => received.receiver == session.id) := by
  induction packets generalizing work with
  | nil => exact ⟨session, here, rfl, rfl⟩
  | cons received rest ih =>
    obtain ⟨first, later⟩ := forall_mem_cons.mp owns
    have steps := write_steps outside work received
    obtain ⟨middle, there, sameId, total⟩ := ih (steps.tracked tracked)
      (fun other member => (later other member).steps steps tracked.fresh id) here
    obtain ⟨old, before, same, earlier⟩ := write_slot outside tracked first there
    refine ⟨old, before, same.trans sameId, ?_⟩
    rw [total, earlier, sameId, credited, credited, ← foldl_append, ← filter_append, ← filter_append]
    rfl

theorem writeAll_steps (work : Work) (packets : List Received) :
    Steps writing work (packets.foldl (write outside) work) :=
  Steps.foldl (fun work received _ => write_steps outside work received) work

theorem writeAll_departures (work : Work) (packets : List Received) :
    (packets.foldl (write outside) work).departures = work.departures := by
  induction packets generalizing work with
  | nil => rfl
  | cons received rest ih =>
    rw [foldl_cons, ih, write_departures]

theorem Owns.not_departed (owns : work.Owns others received)
    (fresh : Fresh (others ++ work.ids) work.nextId) (handed : session ∈ work.departures) :
    received.receiver ≠ session.id := by
  intro isReceiver
  have member : session.id ∈ work.departures.map HotSession.id := mem_map_of_mem handed
  obtain present | ⟨_, gone⟩ := owns.right
  · obtain ⟨stored, there, same⟩ := map_eq_some_iff.mp present
    have inSlab := mem_image HotSession.id _ _ _ there
    rw [same, isReceiver] at inSlab
    have distinct := (nodup_append.mp fresh.distinct).2.1
    exact (nodup_append.mp distinct).2.2 _ inSlab _ member rfl
  · rw [isReceiver] at gone
    exact gone (mem_append_right _ (mem_append_right _ member))

theorem writeAll_counts (tracked : work.Tracked others) {packets : List Received}
    (owns : ∀ received ∈ packets, work.Owns others received) :
    work.Counts (packets.foldl (write outside) work) (packets.filter outside.writes) := by
  intro session has
  obtain ⟨slot, here⟩ | handed := has
  · obtain ⟨old, there, same, total⟩ := writeAll_slot outside tracked owns here
    exact .inl ⟨old, .inl ⟨slot, there⟩, same, total⟩
  rw [writeAll_departures] at handed
  refine .inl ⟨session, .inr handed, rfl, ?_⟩
  have foreign : (packets.filter outside.writes).filter
      (fun received => received.receiver == session.id) = [] := by
    rw [filter_eq_nil_iff]
    intro received member isReceiver
    exact (owns received (mem_of_mem_filter member)).not_departed tracked.fresh handed
      (beq_iff_eq.mp isReceiver)
  rw [foreign]
  rfl

theorem write_reassembler (work : Work) (received : Received) :
    (write outside work received).engine.ingressReassembler = work.engine.ingressReassembler := by
  rw [write, writeIngressPacket]
  split
  · dsimp only
    split
    · rfl
    · rfl
  · rfl

theorem writeAll_reassembler (work : Work) (packets : List Received) :
    (packets.foldl (write outside) work).engine.ingressReassembler =
      work.engine.ingressReassembler := by
  induction packets generalizing work with
  | nil => rfl
  | cons received rest ih =>
    rw [foldl_cons, ih, write_reassembler]

/-! ## Receiving -/

/-- A reassembler of marked packets follows that of the engine. -/
structure Follows (work : Work) (marked : Reassembler.FlowReassembler Received) : Prop where
  same : marked.map Received.held = work.engine.ingressReassembler
  accounted : Reassembler.Accounted marked

/-- The engine with the reassembler that marked packets stand for. -/
def holding (work : Work) (marked : Reassembler.FlowReassembler Received) : Work :=
  { work with engine := { work.engine with ingressReassembler := marked.map Received.held } }

variable {marked : Reassembler.FlowReassembler Received}

theorem ingress_eq (follows : work.Follows marked) (outside : Outside) (receiver slot : Nat)
    (plain : List UInt8) : work.ingress outside slot plain =
      (Received.push marked outside.nowMs receiver slot plain).2.foldl (write outside)
        (work.holding (Received.push marked outside.nowMs receiver slot plain).1) := by
  have still : work.holding marked = work := by
    rw [holding, follows.same]
  rw [ingress, Received.push]
  cases FlowFrame.FrameHeader.decode plain with
  | none =>
    rw [still]
    rfl
  | some frame =>
    dsimp only
    split
    · rw [still]
      rfl
    have pushed := Reassembler.pushAt_map Received.held marked
      ⟨frame.1, ⟨receiver, slot, frame.2⟩, outside.nowMs⟩
    rw [follows.same] at pushed
    rw [Reassembler.Push.map] at pushed
    rw [pushed, foldl_map]
    rfl

theorem push_source (follows : work.Follows marked) (nowMs receiver slot : Nat) (plain : List UInt8)
    (found : (Received.push marked nowMs receiver slot plain).1.Holds received ∨
      received ∈ (Received.push marked nowMs receiver slot plain).2) :
    marked.Holds received ∨ (received.receiver = receiver ∧ received.held.slot = slot) := by
  rw [Received.push] at found
  split at found
  · obtain waits | out := found
    · exact .inl waits
    · rw [mem_singleton.mp out]
      exact .inr ⟨rfl, rfl⟩
  · split at found
    · obtain waits | out := found
      · exact .inl waits
      · cases out
    obtain waits | same := Reassembler.pushAt_source follows.accounted _ found
    · exact .inl waits
    · rw [same]
      exact .inr ⟨rfl, rfl⟩

theorem push_accounted (follows : work.Follows marked) (nowMs receiver slot : Nat)
    (plain : List UInt8) :
    Reassembler.Accounted (Received.push marked nowMs receiver slot plain).1 := by
  rw [Received.push]
  split
  · exact follows.accounted
  · split
    · exact follows.accounted
    · exact Reassembler.pushAt_accounted marked _ follows.accounted

/-! ## Datagrams -/

/-- A payload for the tunnel that is no replay. -/
theorem acceptInbound_ingress (localIp : Option IpAddr) {seq : UInt16}
    (accepted : (session.replay.accept seq).2 = true) (tunnels : session.tunnels plain = true)
    (here : work.engine.tables.sessions.lookup slot = some session)
    (free : localIp.isSome → session.localIp ≠ localIp →
      work.engine.tables.byPeer.lookup ⟨session.peer, localIp⟩ = none)
    (rights : Rights) : ∃ middle heard, Steps rights work middle ∧
      middle.engine.tables.sessions.lookup slot = some heard ∧ heard.id = session.id ∧
      work.acceptInbound outside slot session localIp seq plain =
        middle.ingress outside slot plain := by
  have dispatched : ∀ (middle : Work) (heard : HotSession), heard.tunnelIp = session.tunnelIp →
      heard.registrationId = session.registrationId →
      middle.dispatchPlain outside slot heard plain = middle.ingress outside slot plain := by
    intro middle heard sameIp sameRegistration
    simp only [HotSession.tunnels, and_eq_true, bne_iff_ne, ne_eq, not_eq_true'] at tunnels
    obtain ⟨⟨⟨⟨⟨notLease, notReady⟩, notIdle⟩, notControl⟩, hasIp⟩, hasRegistration⟩ := tunnels
    simp [dispatchPlain, sameIp, sameRegistration, if_neg notLease, if_neg notReady, notIdle,
      notControl, hasIp, hasRegistration]
  rw [acceptInbound]
  simp only [accepted, Bool.not_true, Bool.false_eq_true, if_false]
  split
  · rename_i other
    refine ⟨_, { session with
      replay := (session.replay.accept seq).1
      lastInboundMs := work.engine.monotonicMs
      localIp := localIp }, .head (work.rebind_step here (by exact free other.1 other.2))
      (bindEndpoint_steps _ outside _), ?_, rfl, dispatched _ _ rfl rfl⟩
    rw [bindEndpoint_engine]
    exact AList.lookup_insert _
  · refine ⟨_, { session with
      replay := (session.replay.accept seq).1
      lastInboundMs := work.engine.monotonicMs }, .single (work.store_step here), work.store_here _,
      rfl, dispatched _ _ rfl rfl⟩

theorem receives_some (receives : work.receives peer localIp packet = some (slot, session, plain)) :
    work.slotOf peer localIp = some slot ∧ work.engine.tables.sessions.lookup slot = some session ∧
      ∃ decoded opened, unwrapLegacyInPlace session.ciphers packet (some session.isSrtp) =
        .ok (decoded, opened) ∧ plain = decoded.plain opened ∧
        (session.replay.accept decoded.seq).2 = true ∧ session.tunnels plain = true := by
  rw [Work.receives] at receives
  split at receives
  · cases receives
  rename_i found isFor
  split at receives
  · cases receives
  rename_i stored here
  split at receives
  · cases receives
  rename_i decoded opened opens
  split at receives
  · rename_i both
    cases receives
    obtain ⟨accepted, tunnels⟩ := and_eq_true_iff.mp both
    exact ⟨isFor, here, decoded, opened, opens, rfl, accepted, tunnels⟩
  · cases receives

theorem receives_of_finds {decoded : DecodedPacket}
    (found : work.Finds peer localIp packet slot session decoded plain)
    (accepted : (session.replay.accept decoded.seq).2 = true)
    (tunnels : session.tunnels plain = true) :
    work.receives peer localIp packet = some (slot, session, plain) := by
  obtain ⟨opened, opens, isPlain⟩ := found.opens
  rw [isPlain] at tunnels
  simp [Work.receives, found.isFor, found.here, opens, accepted, tunnels, isPlain]

/-- A datagram that brings a payload for the tunnel. -/
theorem onUdp_receives (named : work.engine.tables.Named)
    (receives : work.receives peer localIp packet = some (slot, session, plain)) (rights : Rights) :
    ∃ middle heard, Steps rights work middle ∧
      middle.engine.tables.sessions.lookup slot = some heard ∧ heard.id = session.id ∧
      work.onUdp outside peer localIp packet = middle.ingress outside slot plain := by
  obtain ⟨isFor, here, decoded, opened, opens, rfl, accepted, tunnels⟩ := receives_some receives
  have notOpening : getconfPrefix.isPrefixOf (decoded.plain opened) = false := by
    simp only [HotSession.tunnels, isControlPayload, and_eq_true, not_eq_true',
      or_eq_false_iff] at tunnels
    exact tunnels.1.1.2.1.1.1
  have handled : work.onUdp outside peer localIp packet =
      work.acceptInbound outside slot session localIp decoded.seq (decoded.plain opened) := by
    rw [work.onUdp_found outside isFor]
    simp [handleExisting, here, opens, notOpening]
  rw [handled]
  exact acceptInbound_ingress outside localIp accepted tunnels here
    (named.found isFor here) rights

/-- The slot that the slab hands out for the session a datagram opens, if it opens one. -/
def handedOut (work : Work) (outside : Outside) (peer : SocketAddr) (localIp : Option IpAddr)
    (packet : List UInt8) : List Nat :=
  match work.slotOf peer localIp with
  | none =>
    if (findSetup peer localIp packet work.engine.credentials).isSome then
      [outside.slots.choose work.engine.tables.sessions]
    else []
  | some slot =>
    match work.engine.tables.sessions.lookup slot with
    | none => []
    | some session =>
      match unwrapLegacyInPlace session.ciphers packet (some session.isSrtp) with
      | .error _ => []
      | .ok (decoded, opened) =>
        if (parseGetconfEpoch (decoded.plain opened)).any fun epoch => session.epoch ≠ epoch then
          [outside.slots.choose (work.engine.tables.sessions.erase slot)]
        else []

end Work

/-- Nothing is written to the tunnel, and only some slots get or lose a session otherwise than
by its removal. -/
def Rights.sparing (free : Nat → Prop) : Rights := { Rights.all with slot := free, up := False }

/-- Nothing is written to the tunnel, and no session comes, goes or moves. -/
def Rights.nothing : Rights := ⟨fun _ => False, False, False⟩

/-- A datagram that brings no payload for the tunnel. -/
theorem Rights.admits_sparing {free : Nat → Prop} {outside : Outside}
    (silent : work.receives peer localIp packet = none)
    (slots : ∀ slot ∈ work.handedOut outside peer localIp packet, free slot) :
    (Rights.sparing free).Admits work outside peer localIp packet := by
  refine ⟨?_, trivial, ?_, ?_⟩
  · intro slot session decoded plain found accepted tunnels
    rw [receives_of_finds found accepted tunnels] at silent
    cases silent
  · intro opening plain unknown setup
    apply slots
    simp [handedOut, unknown, setup]
  · intro slot session decoded plain epoch found parsed other
    obtain ⟨opened, opens, isPlain⟩ := found.opens
    rw [isPlain] at parsed
    apply slots
    simp [handedOut, found.isFor, found.here, opens, parsed, other]

/-- Nothing enters the reassembler, and nothing is written to the tunnel. -/
structure Work.Dry (before after : Work) : Prop where
  reassembler : after.engine.ingressReassembler = before.engine.ingressReassembler
  sends : Sends (fun effect => effect.tunneled = none) before after

theorem Work.Dry.trans {first second third : Work} (early : first.Dry second)
    (late : second.Dry third) : first.Dry third :=
  ⟨late.reassembler.trans early.reassembler, early.sends.trans late.sends⟩

theorem Effect.Inert.tunneled {effect : Effect} (inert : effect.Inert) : effect.tunneled = none := by
  cases effect with
  | tun packet => exact inert.elim
  | _ => rfl

/-- An operation that counts no traffic from clients writes nothing to the tunnel. -/
theorem Step.dry (step : Step rights before after) (none : ¬ rights.up) : before.Dry after := by
  cases step with
  | tuned alike => exact ⟨alike.ingressReassembler, .same rfl⟩
  | sent inert => exact ⟨rfl, .one rfl inert.tunneled⟩
  | bound | handed here unrouted right => exact ⟨rfl, .one rfl rfl⟩
  | held push right | wrote packet right => exact absurd right none
  | stored here continues sameKey total | rebound here continues free total
  | moved here vacant right | entered fresh zero vacant free right => exact ⟨rfl, .same rfl⟩
  | removed outside reason here =>
    refine ⟨by rw [before.removeSlotWithReason_engine outside reason here], ?_⟩
    exact (before.removeSlotWithReason_sends outside reason here).mono fun _ inert => inert.tunneled
  | activated outside ip registrationId workerId desiredCount here =>
    refine ⟨by rw [activateSlot_engine], ?_⟩
    exact (before.activateSlot_sends outside _ _ ip registrationId workerId desiredCount).mono
      fun _ inert => inert.tunneled

theorem Steps.dry (steps : Steps rights before after) (none : ¬ rights.up) : before.Dry after := by
  induction steps with
  | refl => exact ⟨rfl, .same rfl⟩
  | tail _ step ih => exact ih.trans (step.dry none)

namespace Work

variable {middle : Work} {written : List Received}
variable {marked rest : Reassembler.FlowReassembler Received}

/-! ## Attribution -/

/-- A call after which all marks are right, and which credits every packet that it writes to
the session that received it. -/
structure Attributes (others : List Nat) (before after : Work)
    (rest : Reassembler.FlowReassembler Received) (written : List Received) : Prop where
  follows : after.Follows rest
  owned : ∀ received, rest.Holds received → after.Owns others received
  tunneled : after.effects.filterMap Effect.tunneled =
    before.effects.filterMap Effect.tunneled ++ written.map fun received => received.held.packet
  own : ∀ received ∈ written, received.receiver ∉ others
  counts : before.Counts after written

theorem write_tunneled (work : Work) (received : Received) :
    (write outside work received).effects.filterMap Effect.tunneled =
      work.effects.filterMap Effect.tunneled ++
        ([received].filter outside.writes).map fun received => received.held.packet := by
  rw [write, writeIngressPacket]
  by_cases writes : outside.writes received = true
  · rw [if_pos (by exact writes), filter_cons_of_pos writes]
    dsimp only
    split
    · exact filterMap_append
    · exact filterMap_append
  · rw [if_neg (by exact writes), filter_cons_of_neg writes]
    exact (append_nil _).symm

theorem writeAll_tunneled (work : Work) (packets : List Received) :
    (packets.foldl (write outside) work).effects.filterMap Effect.tunneled =
      work.effects.filterMap Effect.tunneled ++
        (packets.filter outside.writes).map fun received => received.held.packet := by
  induction packets generalizing work with
  | nil => exact (append_nil _).symm
  | cons received rest ih =>
    rw [foldl_cons, ih, write_tunneled, append_assoc, ← map_append, ← filter_append]
    rfl

theorem Owns.not_elsewhere (owns : work.Owns others received)
    (fresh : Fresh (others ++ work.ids) work.nextId) : received.receiver ∉ others := by
  intro member
  obtain present | ⟨_, gone⟩ := owns.right
  · obtain ⟨session, here, same⟩ := map_eq_some_iff.mp present
    have inSlab := work.mem_ids here
    rw [same] at inSlab
    exact (nodup_append.mp fresh.distinct).2.2 _ member _ inSlab rfl
  · exact gone (mem_append_left _ member)

theorem attributes_silent (free : Nat → Prop) (steps : Steps (Rights.sparing free) before after)
    (tracked : before.Tracked others) (follows : before.Follows marked)
    (owned : ∀ received, marked.Holds received → before.Owns others received)
    (spared : ∀ received, marked.Holds received → ¬ free received.held.slot) :
    Attributes others before after marked [] := by
  have dry := steps.dry id
  have inherits := Steps.inherits steps id
  refine ⟨⟨follows.same.trans dry.reassembler.symm, follows.accounted⟩, ?_, ?_,
    forall_mem_nil _, inherits⟩
  · intro received waits
    exact (owned received waits).steps steps tracked.fresh (spared received waits)
  · obtain ⟨more, effects, silent⟩ := dry.sends
    rw [effects, filterMap_append, filterMap_eq_nil_iff.mpr silent]
    rfl

theorem attributes_written (tracked : before.Tracked others) (packets : List Received)
    (owns : ∀ received ∈ packets, before.Owns others received) (follows : before.Follows marked)
    (owned : ∀ received, marked.Holds received → before.Owns others received) :
    Attributes others before (packets.foldl (write outside) before) marked
      (packets.filter outside.writes) := by
  refine ⟨⟨?_, follows.accounted⟩, ?_, writeAll_tunneled outside before packets, ?_,
    writeAll_counts outside tracked owns⟩
  · rw [writeAll_reassembler]
    exact follows.same
  · intro received waits
    exact (owned received waits).steps (writeAll_steps outside _ _) tracked.fresh id
  · intro received member
    exact (owns received (mem_of_mem_filter member)).not_elsewhere tracked.fresh

/-- A payload for the tunnel is received by a session. What is released with it was received
by others, and by sessions that are gone. -/
theorem attributes_ingress (tracked : work.Tracked others) (follows : work.Follows marked)
    (owned : ∀ received, marked.Holds received → work.Owns others received) (outside : Outside)
    (here : work.engine.tables.sessions.lookup slot = some session) (plain : List UInt8) :
    Attributes others work (work.ingress outside slot plain)
      (Received.push marked outside.nowMs session.id slot plain).1
      ((Received.push marked outside.nowMs session.id slot plain).2.filter outside.writes) := by
  have owns : ∀ received, (Received.push marked outside.nowMs session.id slot plain).1.Holds
      received ∨ received ∈ (Received.push marked outside.nowMs session.id slot plain).2 →
      (work.holding (Received.push marked outside.nowMs session.id slot plain).1).Owns others
        received := by
    intro received found
    obtain waits | ⟨isReceiver, inSlot⟩ := push_source follows _ _ _ _ found
    · exact ⟨(owned received waits).given, (owned received waits).right⟩
    refine ⟨?_, .inl ?_⟩
    · rw [isReceiver]
      exact tracked.fresh.bounded _ (mem_append_right _ (work.mem_ids here))
    · rw [inSlot, isReceiver]
      exact congrArg (Option.map HotSession.id) here
  have later : (work.holding (Received.push marked outside.nowMs session.id slot
      plain).1).Tracked others :=
    ⟨tracked.byId, tracked.fresh⟩
  have written := attributes_written outside later _
    (fun received member => owns received (.inr member)) ⟨rfl, push_accounted follows _ _ _ _⟩
    fun received waits => owns received (.inl waits)
  rw [ingress_eq follows outside session.id]
  exact ⟨written.follows, written.owned, written.tunneled, written.own, written.counts⟩

/-- A silent part of a call, which opens no session, before the rest. -/
theorem Attributes.since (steps : Steps rights before middle) (silent : ¬ rights.up)
    (closed : ¬ rights.enter) (tracked : before.Tracked others)
    (late : Attributes others middle after rest written) :
    Attributes others before after rest written := by
  have dry := steps.dry silent
  have inherits := Steps.inherits steps silent
  have sameId := Steps.nextId steps closed
  have fresh := (Steps.tracked steps tracked).fresh
  obtain ⟨more, effects, unwritten⟩ := dry.sends
  refine ⟨late.follows, late.owned, ?_, late.own, ?_⟩
  · rw [late.tunneled, effects, filterMap_append, filterMap_eq_nil_iff.mpr unwritten, append_nil]
  · intro session has
    obtain ⟨old, had, same, total⟩ | ⟨new, zero⟩ := late.counts session has
    · obtain ⟨older, hadBefore, alike, sameTotal⟩ | ⟨new, _⟩ := inherits old had
      · rw [sameTotal] at total
        exact .inl ⟨older, hadBefore, alike.trans same, total⟩
      have given := fresh.bounded _ (mem_append_right others (has_ids had))
      rw [sameId] at given
      exact absurd new (Nat.not_le.mpr given)
    · rw [sameId] at new
      exact .inr ⟨new, zero⟩

/-- What a datagram adds to the marked packets, and what it releases. -/
def receipt (work : Work) (outside : Outside) (marked : Reassembler.FlowReassembler Received)
    (peer : SocketAddr) (localIp : Option IpAddr) (packet : List UInt8) :
    Reassembler.FlowReassembler Received × List Received :=
  match work.receives peer localIp packet with
  | none => (marked, [])
  | some (slot, session, plain) => Received.push marked outside.nowMs session.id slot plain

theorem attributes_onUdp (named : work.engine.tables.Named) (tracked : work.Tracked others)
    (follows : work.Follows marked)
    (owned : ∀ received, marked.Holds received → work.Owns others received) (peer : SocketAddr)
    (localIp : Option IpAddr) (packet : List UInt8) (spared : ∀ received, marked.Holds received →
      received.held.slot ∉ work.handedOut outside peer localIp packet) :
    Attributes others work (work.onUdp outside peer localIp packet)
      (work.receipt outside marked peer localIp packet).1
      ((work.receipt outside marked peer localIp packet).2.filter outside.writes) := by
  cases receives : work.receives peer localIp packet with
  | none =>
    rw [receipt, receives]
    refine attributes_silent _ (work.onUdp_steps outside named peer localIp packet
      (Rights.admits_sparing receives fun _ member => member)) tracked follows owned ?_
    exact spared
  | some found =>
    obtain ⟨slot, session, plain⟩ := found
    rw [receipt, receives]
    obtain ⟨middle, heard, steps, here, same, handled⟩ := onUdp_receives outside named receives
      .nothing
    have later : middle.Tracked others := Steps.tracked steps tracked
    have dry := Steps.dry steps id
    dsimp only
    rw [handled, ← same]
    refine Attributes.since steps id id tracked (attributes_ingress later
      ⟨follows.same.trans dry.reassembler.symm, follows.accounted⟩ ?_ outside here plain)
    intro received waits
    exact (owned received waits).steps steps tracked.fresh id

/-- What the control task injects for a session. -/
def injection (work : Work) (sessionId : Nat) (payload : List UInt8) : List Received :=
  match work.engine.tables.byId.lookup sessionId with
  | none => []
  | some slot => [⟨sessionId, slot, payload⟩]

theorem attributes_injection (named : work.engine.tables.Named) (tracked : work.Tracked others)
    (follows : work.Follows marked)
    (owned : ∀ received, marked.Holds received → work.Owns others received) (sessionId : Nat)
    (payload : List UInt8) :
    Attributes others work (work.onCommand outside (.injectTun sessionId payload)) marked
      ((work.injection sessionId payload).filter outside.writes) := by
  rw [onCommand, onSession, injection]
  cases entry : work.engine.tables.byId.lookup sessionId with
  | none => exact attributes_silent (fun _ => False) .refl tracked follows owned fun _ _ => id
  | some slot =>
    obtain ⟨session, here, same⟩ := named.byId _ _ entry
    dsimp only
    rw [here]
    refine attributes_written outside tracked [⟨sessionId, slot, payload⟩] ?_ follows owned
    rw [forall_mem_singleton]
    refine ⟨?_, .inl ?_⟩
    · rw [← same]
      exact tracked.fresh.bounded _ (mem_append_right _ (work.mem_ids here))
    · rw [← same]
      exact congrArg (Option.map HotSession.id) here

end Work

end Csqtt.Engine
