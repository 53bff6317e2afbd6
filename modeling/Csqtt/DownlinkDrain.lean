import Csqtt.DownlinkTurns
import Csqtt.EngineSteps
import Csqtt.ServerWire
import Csqtt.SessionIndexes
import Mathlib.Algebra.BigOperators.Group.List.Basic

/-!
# Sending the packets that wait

At the end of each round of its loop the engine sends up to 128 of the packets that wait,
the small ones first. A packet is offered to the endpoints of its address, as the cursor of
its class says. It is put back, and the engine stops, if the session takes it and the packet
cannot be sent then; a packet without a session is dropped.

A packet from the tunnel is at most 1300 bytes long, and everything around it fits into what
is left of a buffer: the header of a frame, the header of a datagram, the tag and the longest
padding, in both modes. So as long as there are buffers, no packet is put back, and the
engine sends as many as it may or all there are.
-/

namespace Csqtt.Downlink

open Engine Routes List Runs Option Station DownlinkQueue
open ServerObfs (packetCapacity)
open FlowFrame (frameLen)

def downlinkDrainPacketLimit : Nat := 128

/-- The largest packet of the tunnel. -/
def tunMtu : Nat := 1300

/-- The parts of an engine that packets from the tunnel go through. -/
structure Egress where
  work : Work
  table : StripedTable
  queue : DownlinkQueue

/-- The sink of the packets: whether it has a place for a datagram before each attempt, and
what a call reads outside of the engine for each packet. -/
structure Sink where
  hasUdpTxSlot : PacketClass → Nat → Bool
  outside : Nat → Outside

/-- Offer a packet to the endpoints at the offsets of a selection, until one is not stale. -/
def sendDownOffsets (table : StripedTable) (outside : Outside) (key : UInt8)
    (selection : RouteSelection) (packet : List UInt8) : List Nat → Work → Work × DownlinkSend
  | [], work => (work, .stale)
  | offset :: rest, work =>
    match table.endpointAt key selection offset with
    | none => (work, .stale)
    | some endpoint =>
      match work.sendDownEndpoint outside endpoint packet with
      | (work, .stale) => sendDownOffsets table outside key selection packet rest work
      | result => result

/-- Send a packet of a class to an endpoint of its address. -/
def sendDownKey (work : Work) (table : StripedTable) (outside : Outside) (key : UInt8)
    (kind : PacketClass) (packet : List UInt8) : Work × StripedTable × DownlinkSend :=
  match table.selectKeyWindow key kind with
  | (table, none) => (work, table, .stale)
  | (table, some selection) =>
    let (work, outcome) := sendDownOffsets table outside key selection packet
      (List.range selection.len) work
    (work, table, outcome)

/-- Why the engine stops to send packets of a class. -/
inductive DrainEnd
  | drained
  | noSlot
  | backpressured
deriving DecidableEq, Repr

/-- Send packets of a class, as many as may still be sent. -/
def drainClass (sink : Sink) (kind : PacketClass) : Nat → Egress → Nat × Egress × DrainEnd
  | 0, egress => (0, egress, .drained)
  | remaining + 1, egress =>
    if sink.hasUdpTxSlot kind (remaining + 1) then
      match egress.queue.dequeue kind with
      | (queue, none) => (remaining + 1, { egress with queue := queue }, .drained)
      | (queue, some (key, packet)) =>
        match sendDownKey egress.work egress.table (sink.outside (remaining + 1)) key kind
            packet.slice with
        | (work, table, .backpressured) =>
          (remaining + 1, ⟨work, table, queue.requeueFront key kind packet⟩, .backpressured)
        | (work, table, _) =>
          drainClass sink kind remaining ⟨work, table, queue.recycle key kind packet⟩
    else (remaining + 1, egress, .noSlot)

/-- One class after the other, until the engine has to stop. -/
def drainClasses (sink : Sink) : List PacketClass → Nat → Egress → Nat × Egress × DrainEnd
  | [], remaining, egress => (remaining, egress, .drained)
  | kind :: rest, remaining, egress =>
    match drainClass sink kind remaining egress with
    | (remaining, egress, .drained) => drainClasses sink rest remaining egress
    | stopped => stopped

def drainDownlink (sink : Sink) (egress : Egress) : Nat × Egress × DrainEnd :=
  drainClasses sink [.small, .medium, .bulk] downlinkDrainPacketLimit egress

/-! ## The window of a packet -/

/-- Offsets that lead to the endpoints of a window offer the packet to them. -/
theorem sendDownOffsets_eq (table : StripedTable) (outside : Outside) (key : UInt8)
    (selection : RouteSelection) (packet : List UInt8) {offsets : List Nat}
    {endpoints : List RouteEndpoint}
    (leads : offsets.map (table.endpointAt key selection) = endpoints.map some) (work : Work) :
    sendDownOffsets table outside key selection packet offsets work =
      work.sendDownWindow outside packet endpoints := by
  induction offsets generalizing endpoints work with
  | nil =>
    cases map_eq_nil_iff.mp leads.symm
    rfl
  | cons offset rest ih =>
    cases endpoints with
    | nil => cases leads
    | cons endpoint others =>
      obtain ⟨here, later⟩ := List.cons.inj leads
      rw [sendDownOffsets, here, Work.sendDownWindow]
      dsimp only
      obtain ⟨after, outcome⟩ := work.sendDownEndpoint outside endpoint packet
      cases outcome with
      | stale => exact ih later after
      | _ => rfl

variable {work : Work} {session : HotSession} {kind : PacketClass}

/-- With its cursors, a packet is sent as the engine is modeled to send it from the position
where the cursor of its class stands. -/
theorem sendDownKey_refines {table : StripedTable} (tidy : table.Tidy)
    (agrees : table.Agrees work.engine.routes) (outside : Outside) (key : UInt8)
    (kind : PacketClass) (packet : List UInt8) :
    ∃ start, ((sendDownKey work table outside key kind packet).1,
        (sendDownKey work table outside key kind packet).2.2) =
      work.sendDownKey outside key start packet := by
  have stored := agrees key
  cases here : table.groups key with
  | none =>
    rw [here] at stored
    refine ⟨0, ?_⟩
    rw [sendDownKey, StripedTable.selectKeyWindow, here, Work.sendDownKey, ← stored]
    rfl
  | some group =>
    obtain ⟨_, start, bound, selected⟩ := (tidy key group here).selectWindow kind
    rw [here] at stored
    refine ⟨start, ?_⟩
    have window : table.selectKeyWindow key kind = (table.setGroup key (some
        (group.selectWindow kind).1), some ⟨start, group.endpoints.length⟩) := by
      rw [StripedTable.selectKeyWindow, here, ← selected]
    have leads : (List.range group.endpoints.length).map ((table.setGroup key (some
        (group.selectWindow kind).1)).endpointAt key ⟨start, group.endpoints.length⟩) =
          (group.window start).map some := by
      rw [← StripedGroup.map_endpointAt bound]
      refine map_congr_left ?_
      intro offset _
      rw [StripedTable.endpointAt, StripedTable.groups_setGroup, if_pos rfl]
      rfl
    rw [sendDownKey, window, Work.sendDownKey, ← stored]
    exact congrArg (fun result => (result.1, result.2))
      (sendDownOffsets_eq _ outside key _ packet leads work)

/-- After any calls and selections on both tables, the one with cursors sends every packet as the
one without them does from some position. -/
theorem striped_routes_refine_routes (calls : List RouteCall) (work : Work) (outside : Outside)
    (key : UInt8) (kind : PacketClass) (packet : List UInt8) :
    let table := final StripedTable.step {} calls
    let work := work.withRoutes (calls.foldl RouteTable.after ∅)
    ∃ start, ((sendDownKey work table outside key kind packet).1,
        (sendDownKey work table outside key kind packet).2.2) =
      work.sendDownKey outside key start packet := by
  have empty : StripedTable.Agrees {} ∅ := fun _ => rfl
  exact sendDownKey_refines (.run calls) (empty.run calls) outside key kind packet

/-! ## A packet that fits is sent -/

/-- The sink always has a buffer and always has room for a datagram. -/
structure Willing (outside : Outside) : Prop where
  hasBuffer : ∀ sessionId, outside.hasBuffer sessionId = true
  accepts : ∀ peer sourceIp packet, outside.accepts (.udp peer sourceIp packet) = true

/-- The ciphers of all sessions are lawful. -/
def Keyed (work : Work) : Prop :=
  ∀ slot session, work.engine.tables.sessions.lookup slot = some session → session.ciphers.Lawful

theorem payload_length_le (packet : List UInt8) :
    (FlowFrame.payload packet).length ≤ packet.length := by
  rw [FlowFrame.payload, FlowFrame.FrameHeader.decode]
  split
  · exact Nat.le_refl _
  · rw [map_some, getD_some, length_drop]
    omega

theorem takesPlain_of_short {outside : Outside} (willing : Willing outside)
    (lawful : session.ciphers.Lawful) {payload : List UInt8}
    (short : payload.length + 100 ≤ packetCapacity) :
    Work.takesPlain outside session payload = true := by
  have fits : ServerObfs.wrappedLen session.isSrtp session.output.payloadType
      (outside.draws session.id) payload ≤ packetCapacity :=
    Nat.le_trans (ServerObfs.wrappedLen_le _ _ _ _) short
  obtain ⟨wrapped, done, _⟩ := ServerObfs.wrapLegacyInto_carries lawful session.isSrtp session.output
    payload ServerObfs.PacketBuf.zeroed (outside.elapsed session.id) (outside.draws session.id) fits
  rw [Work.takesPlain, done, willing.hasBuffer]
  exact willing.accepts _ _ _

theorem stale_ne_backpressured : DownlinkSend.stale ≠ .backpressured := by decide

section Sending

variable {outside : Outside}

section

variable (keyed : Keyed work)

include keyed

theorem Keyed.store {slot : Nat} (lawful : session.ciphers.Lawful) :
    Keyed (work.store slot session) := by
  intro other found there
  dsimp only [Work.store, Work.withTables, SessionTables.store] at there
  rw [Table.lookup_insert_if] at there
  split at there
  · cases there
    exact lawful
  · exact keyed other found there

theorem Keyed.sendPlain {slot : Nat} (lawful : session.ciphers.Lawful) (payload : List UInt8) :
    Keyed (work.sendPlain outside slot session payload) := by
  have stored : ∀ output, Keyed (work.store slot { session with output := output }) :=
    fun output => keyed.store lawful
  rw [Work.sendPlain]
  split
  · dsimp only
    split
    · exact stored _
    · rw [Keyed, Work.send_engine]
      exact stored _
  · exact keyed

theorem Keyed.creditDown (slot bytes : Nat) : Keyed (work.creditDown slot bytes) := by
  rw [Work.creditDown]
  split
  · exact keyed
  · rename_i session here
    exact keyed.store (keyed slot session here)

variable {packet : List UInt8}

theorem Keyed.sendDownEndpoint (willing : Willing outside) (endpoint : RouteEndpoint)
    (short : packet.length + 100 ≤ packetCapacity) :
    (work.sendDownEndpoint outside endpoint packet).2 ≠ .backpressured ∧
      Keyed (work.sendDownEndpoint outside endpoint packet).1 := by
  rw [Work.sendDownEndpoint]
  split
  · exact ⟨stale_ne_backpressured, keyed⟩
  rename_i session here
  have lawful := keyed endpoint.slot session here
  split
  · exact ⟨stale_ne_backpressured, keyed⟩
  have outgoing : (if session.dataFrames then packet else FlowFrame.payload packet).length + 100 ≤
      packetCapacity := by
    have shorter := payload_length_le packet
    split
    · exact short
    · omega
  rw [if_pos (takesPlain_of_short willing lawful outgoing)]
  exact ⟨DownlinkSend.noConfusion, (keyed.sendPlain lawful _).creditDown _ _⟩

theorem Keyed.sendDownOffsets (willing : Willing outside) (table : StripedTable) (key : UInt8)
    (selection : RouteSelection)
    (short : packet.length + 100 ≤ packetCapacity) (offsets : List Nat) :
    (sendDownOffsets table outside key selection packet offsets work).2 ≠ .backpressured ∧
      Keyed (sendDownOffsets table outside key selection packet offsets work).1 := by
  induction offsets generalizing work with
  | nil => exact ⟨stale_ne_backpressured, keyed⟩
  | cons offset rest ih =>
    rw [Downlink.sendDownOffsets]
    split
    · exact ⟨stale_ne_backpressured, keyed⟩
    rename_i endpoint _
    have sent := keyed.sendDownEndpoint willing endpoint short
    split
    · rename_i after stale
      rw [stale] at sent
      exact ih sent.2
    · exact sent

theorem Keyed.sendDownKey (willing : Willing outside) (table : StripedTable) (key : UInt8)
    (kind : PacketClass) (short : packet.length + 100 ≤ packetCapacity) :
    (sendDownKey work table outside key kind packet).2.2 ≠ .backpressured ∧
      Keyed (sendDownKey work table outside key kind packet).1 := by
  rw [Downlink.sendDownKey]
  split
  · exact ⟨stale_ne_backpressured, keyed⟩
  · exact keyed.sendDownOffsets willing _ key _ short _

end

end Sending

/-! ## How many packets wait -/

namespace DownlinkQueue

variable (queue : DownlinkQueue)

/-- The number of packets of a class that wait. -/
def pendingCount (kind : PacketClass) : Nat :=
  (laneKeys.map fun key => (queue.slots key kind).pending.length).sum

/-- The number of packets that wait. -/
def pendingTotal : Nat :=
  queue.pendingCount .small + queue.pendingCount .medium + queue.pendingCount .bulk

variable {queue}

/-- If one lane has a packet less, there is one less. -/
theorem pendingCount_of_taken {after : DownlinkQueue} (key : UInt8)
    (here : (queue.slots key kind).pending.length = (after.slots key kind).pending.length + 1)
    (elsewhere : ∀ other ≠ key, (after.slots other kind).pending = (queue.slots other kind).pending) :
    after.pendingCount kind + 1 = queue.pendingCount kind := by
  have member := mem_laneKeys key
  have others : (laneKeys.erase key).map (fun other => (after.slots other kind).pending.length) =
      (laneKeys.erase key).map fun other => (queue.slots other kind).pending.length := by
    refine map_congr_left ?_
    intro other inside
    have differs : other ≠ key := by
      intro same
      rw [same] at inside
      exact laneKeys_nodup.not_mem_erase inside
    rw [elsewhere other differs]
  rw [pendingCount, pendingCount, ← sum_map_erase _ member,
    ← sum_map_erase (fun other => (queue.slots other kind).pending.length) member, others, here]
  omega

theorem pendingCount_eq_zero (empty : ∀ key, (queue.slots key kind).pending = []) :
    queue.pendingCount kind = 0 := by
  refine sum_eq_zero ?_
  intro count member
  obtain ⟨key, _, rfl⟩ := mem_map.mp member
  rw [empty, length_nil]

variable (queue) in
theorem recycle_pending (ring : RoundRobin.KeyRing UInt8) (kind otherKind : PacketClass)
    (key other : UInt8) (slots : PacketSlots) (packet : PacketBuffer) :
    ((((queue.setRing kind ring).setSlots key kind slots).recycle key kind packet).slots other
        otherKind).pending =
      if other = key ∧ otherKind = kind then slots.pending else (queue.slots other otherKind).pending := by
  rw [recycle, slots_setSlots]
  split
  · rw [slots_setSlots, if_pos ⟨rfl, rfl⟩]
    rfl
  · rename_i elsewhere
    rw [slots_setSlots, if_neg elsewhere, DownlinkQueue.slots, lanes_setRing]
    rfl

end DownlinkQueue

/-- A packet waits that everything around it leaves room for, the buffers and the rings are as
they should be, and the ciphers are lawful. -/
structure Egress.Ready (egress : Egress) : Prop where
  sound : Station.Sound ⟨egress.queue, none⟩
  short : ∀ key kind, ∀ packet ∈ (egress.queue.slots key kind).pending,
    packet.slice.length + 100 ≤ packetCapacity
  keyed : Keyed egress.work

namespace Egress.Ready

variable {egress : Egress}

theorem taken (ready : egress.Ready) {queue : DownlinkQueue} {key : UInt8} {packet : PacketBuffer}
    (found : egress.queue.dequeue kind = (queue, some (key, packet))) (keyed : Keyed work)
    (table : StripedTable) : (⟨work, table, queue.recycle key kind packet⟩ : Egress).Ready ∧
      packet.slice.length + 100 ≤ packetCapacity ∧
      (queue.recycle key kind packet).pendingCount kind + 1 = egress.queue.pendingCount kind ∧
      ∀ other ≠ kind, (queue.recycle key kind packet).pendingCount other =
        egress.queue.pendingCount other := by
  have sound : Station.Sound ⟨queue.recycle key kind packet, none⟩ := by
    have first := ready.sound.step (.dequeue kind) rfl
    rw [step, found] at first
    exact first.step .recycle rfl
  obtain ⟨ring, _, _, result⟩ := egress.queue.dequeue_cases kind
  cases result with
  | inl failed =>
    rw [failed] at found
    cases found
  | inr some =>
    obtain ⟨lane, first, slots, head, same⟩ := some
    rw [same] at found
    cases found
    obtain ⟨waiting, _⟩ := PacketSlots.dequeue_eq_some _ head
    have pending := fun other otherKind =>
      egress.queue.recycle_pending ring kind otherKind key other slots packet
    refine ⟨⟨sound, ?_, keyed⟩, ?_, ?_, ?_⟩
    · intro other otherKind left member
      rw [pending] at member
      split at member
      · rename_i here
        exact ready.short key kind left (by rw [waiting]; exact mem_cons_of_mem _ member)
      · exact ready.short other otherKind left member
    · exact ready.short key kind packet (by rw [waiting]; exact mem_cons_self)
    · refine pendingCount_of_taken key ?_ ?_
      · rw [pending, if_pos ⟨rfl, rfl⟩, waiting, length_cons]
      · intro other differs
        rw [pending, if_neg fun here => differs here.1]
    · intro other differs
      rw [pendingCount, pendingCount]
      simp [pending, differs]

/-- Without a packet of the class, only turns are given. -/
theorem failed (ready : egress.Ready) {queue : DownlinkQueue}
    (nothing : egress.queue.dequeue kind = (queue, none)) :
    (⟨egress.work, egress.table, queue⟩ : Egress).Ready ∧ egress.queue.pendingCount kind = 0 ∧
      ∀ other, queue.pendingCount other = egress.queue.pendingCount other := by
  have sound : Station.Sound ⟨queue, none⟩ := by
    have after := ready.sound.step (.dequeue kind) rfl
    rwa [step, nothing] at after
  have empty : ∀ key, (egress.queue.slots key kind).pending = [] := by
    intro key
    have complete := (ready.sound.built.dequeue_eq_none_iff kind).mp (by rw [nothing])
    by_cases unused : (egress.queue.lanes key).activePaths = 0
    · exact ready.sound.idle unused kind
    · exact complete key unused
  have same : ∀ key other, queue.slots key other = egress.queue.slots key other := by
    intro key other
    obtain ⟨ring, _, _, result⟩ := egress.queue.dequeue_cases kind
    cases result with
    | inl turned =>
      rw [turned] at nothing
      cases nothing
      rw [DownlinkQueue.slots, DownlinkQueue.lanes_setRing]
      rfl
    | inr found =>
      obtain ⟨_, _, _, _, taken⟩ := found
      rw [taken] at nothing
      cases nothing
  refine ⟨⟨sound, ?_, ready.keyed⟩, pendingCount_eq_zero empty, ?_⟩
  · intro key other packet member
    rw [same] at member
    exact ready.short key other packet member
  · intro other
    simp only [pendingCount, same]

/-- A class is drained: as many of its packets are gone as may still be sent, or all of them,
and the other classes are as they were. -/
structure Drained (kind : PacketClass) (remaining : Nat) (before : Egress)
    (result : Nat × Egress × DrainEnd) : Prop where
  ended : result.2.2 = .drained
  ready : result.2.1.Ready
  counted : result.1 + min remaining (before.queue.pendingCount kind) = remaining
  gone : result.2.1.queue.pendingCount kind + min remaining (before.queue.pendingCount kind) =
    before.queue.pendingCount kind
  others : ∀ other ≠ kind, result.2.1.queue.pendingCount other = before.queue.pendingCount other

variable {sink : Sink} (slots : ∀ kind remaining, sink.hasUdpTxSlot kind remaining = true)
  (willing : ∀ remaining, Willing (sink.outside remaining))

include slots willing

/-- The loop over one class, by induction on how many packets may still be sent. -/
theorem drainClass (kind : PacketClass) (remaining : Nat) (ready : egress.Ready) :
    Drained kind remaining egress (Downlink.drainClass sink kind remaining egress) := by
  induction remaining generalizing egress with
  | zero =>
    rw [Downlink.drainClass]
    refine ⟨rfl, ready, ?_, ?_, fun _ _ => rfl⟩
    · rw [Nat.zero_min]
    · rw [Nat.zero_min, Nat.add_zero]
  | succ remaining ih =>
    rw [Downlink.drainClass, if_pos (slots kind _)]
    split
    · rename_i queue nothing
      obtain ⟨after, none, same⟩ := ready.failed nothing
      refine ⟨rfl, after, ?_, ?_, fun other _ => same other⟩
      · rw [none, Nat.min_zero]
      · rw [none, Nat.min_zero, Nat.add_zero, same, none]
    · rename_i queue key packet found
      have outcome := ready.keyed.sendDownKey (willing (remaining + 1)) egress.table key kind
        (ready.taken found ready.keyed egress.table).2.1
      split
      · rename_i stuck
        rw [stuck] at outcome
        exact absurd rfl outcome.1
      rename_i work table last _ sent
      rw [sent] at outcome
      obtain ⟨after, _, less, unchanged⟩ := ready.taken found outcome.2 table
      have rest := ih after
      have counted := rest.counted
      have gone := rest.gone
      dsimp only at counted gone
      refine ⟨rest.ended, rest.ready, ?_, ?_, ?_⟩
      · omega
      · omega
      · intro other differs
        exact (rest.others other differs).trans (unchanged other differs)

/-- All classes are drained, as far as the limit goes. -/
theorem drainDownlink (ready : egress.Ready) : (Downlink.drainDownlink sink egress).2.2 = .drained ∧
      (Downlink.drainDownlink sink egress).2.1.queue.pendingTotal +
        min downlinkDrainPacketLimit egress.queue.pendingTotal = egress.queue.pendingTotal := by
  have goesOn : ∀ {kind rest remaining before} {result : Nat × Egress × DrainEnd},
      Downlink.drainClass sink kind remaining before = result → result.2.2 = .drained →
        drainClasses sink (kind :: rest) remaining before = drainClasses sink rest result.1 result.2.1 := by
    intro kind rest remaining before result same ended
    obtain ⟨left, after, last⟩ := result
    cases ended
    rw [drainClasses, same]
  have small := ready.drainClass slots willing .small downlinkDrainPacketLimit
  have medium := small.ready.drainClass slots willing .medium
    (Downlink.drainClass sink .small downlinkDrainPacketLimit egress).1
  generalize firstResult : Downlink.drainClass sink .small downlinkDrainPacketLimit egress = first at *
  have bulk := medium.ready.drainClass slots willing .bulk
    (Downlink.drainClass sink .medium first.1 first.2.1).1
  generalize secondResult : Downlink.drainClass sink .medium first.1 first.2.1 = second at *
  rw [Downlink.drainDownlink, goesOn firstResult small.ended, goesOn secondResult medium.ended,
    goesOn rfl bulk.ended, drainClasses]
  generalize Downlink.drainClass sink .bulk second.1 second.2.1 = third at *
  refine ⟨rfl, ?_⟩
  have smallFirst := medium.others .small (by decide)
  have smallThen := bulk.others .small (by decide)
  have mediumFirst := small.others .medium (by decide)
  have mediumThen := bulk.others .medium (by decide)
  have bulkFirst := small.others .bulk (by decide)
  have bulkThen := medium.others .bulk (by decide)
  have smallCount := small.counted
  have smallGone := small.gone
  have mediumCount := medium.counted
  have mediumGone := medium.gone
  have bulkGone := bulk.gone
  simp only [pendingTotal]
  omega

end Egress.Ready

/-! ## Packets from the tunnel -/

/-- A packet that is let in comes from the tunnel. -/
def Call.FromTun : Call → Prop
  | .enqueue _ _ packet | .enqueueFramed _ _ _ packet => packet.length ≤ tunMtu
  | _ => True

/-- What is let into a queue is at most a packet of the tunnel with the header of a frame. -/
theorem arrivals_short {station : Station} {call : Call} (fromTun : call.FromTun) {key : UInt8}
    {bytes : List UInt8} (member : bytes ∈ (station.step call).2.arrivals key kind) :
    bytes.length ≤ tunMtu + frameLen := by
  have accepted : ∀ {other otherKind} {stored : Bool} {packet : List UInt8},
      packet.length ≤ tunMtu + frameLen → bytes ∈ Report.arrivals key kind
        (if stored then .accepted other otherKind packet else .quiet) →
          bytes.length ≤ tunMtu + frameLen := by
    intro other otherKind stored packet short inside
    cases stored with
    | false => cases inside
    | true =>
      rw [if_pos rfl, Report.arrivals] at inside
      split at inside
      · rw [mem_singleton.mp inside]
        exact short
      · cases inside
  cases call with
  | enqueue other otherKind packet => exact accepted (Nat.le_add_right_of_le fromTun) member
  | enqueueFramed other otherKind header packet =>
    refine accepted ?_ member
    rw [length_append, header.bytes_length, Nat.add_comm]
    exact Nat.add_le_add_right fromTun _
  | configure _ _ | clear _ => cases member
  | dequeue _ | requeueFront | recycle =>
    rw [step] at member
    split at member
    · cases member
    · cases member

theorem run_short {calls : List Call} (fromTun : ∀ call ∈ calls, call.FromTun) (key : UInt8)
    (kind : PacketClass) (packet : PacketBuffer)
    (waits : packet ∈ ((final step {} calls).queue.slots key kind).pending) :
    packet.slice.length + 100 ≤ packetCapacity := by
  have inside : packet.slice ∈ packets key kind (final step {} calls) :=
    mem_append_right _ (mem_map_of_mem waits)
  have arrived := (run_packets key kind calls).subset (mem_append_right _ inside)
  rw [← collected_outputs] at arrived
  obtain ⟨station, call, meets, observed⟩ := mem_collected.mp arrived
  have short := arrivals_short (fromTun call meets.mem) observed
  have sizes : tunMtu + frameLen + 100 ≤ packetCapacity := by decide
  omega

/-- In every state of the engine, with any packets of the tunnel in its queues: if the sink
always has a place and fails only if a packet cannot be wrapped, the engine puts no packet
back, and as many packets are gone as its limit allows, or all of them. -/
theorem drain_is_never_blocked (calls : List Call) (permitted : Along step Permitted {} calls)
    (fromTun : ∀ call ∈ calls, call.FromTun)
    (idle : (final step {} calls).flight = none) (work : Work) (keyed : Keyed work)
    (table : StripedTable) (sink : Sink)
    (slots : ∀ kind remaining, sink.hasUdpTxSlot kind remaining = true)
    (willing : ∀ remaining, Willing (sink.outside remaining)) :
    let queue := (final step {} calls).queue
    let result := drainDownlink sink ⟨work, table, queue⟩
    result.2.2 ≠ .backpressured ∧
      result.2.1.queue.pendingTotal + min 128 queue.pendingTotal = queue.pendingTotal := by
  intro queue result
  have sound : Station.Sound ⟨queue, none⟩ := by
    have reached := Station.Sound.run calls permitted
    have same : final step {} calls = ⟨queue, none⟩ :=
      congrArg (Station.mk queue) idle
    rwa [same] at reached
  have ready : (⟨work, table, queue⟩ : Egress).Ready := ⟨sound, run_short fromTun, keyed⟩
  obtain ⟨ended, gone⟩ := ready.drainDownlink slots willing
  refine ⟨?_, gone⟩
  rw [ended]
  decide

namespace Sample

/-- The session of the second client of the tunnel. -/
def tunnelSession : HotSession where
  id := 1
  peer := Dataplane.client
  localIp := none
  password := [0x70]
  epoch := ⟨[0x62], 1, []⟩
  ciphers := WireRoundTrip.plainCiphers
  output := (Dataplane.calm 0).counters
  replay := .new
  tunnelIp := some ⟨10, 66, 67, 2⟩
  registrationId := some 7
  desiredStreamCount := 1
  lastInboundMs := 0
  upTotal := 0
  downTotal := 0
  reportedUp := 0
  reportedDown := 0
  isSrtp := false
  pendingTunnel := false
  dataFrames := true

/-- An engine with this session. -/
def tunnelWork : Work :=
  { engine := { ProtocolEngine.new 0 1 [] ∅ with tables := SessionTables.enter ⟨∅, ∅, ∅⟩ 0 tunnelSession }
    nextId := 1
    effects := [] }

/-- The route to it. -/
def tunnelTable : StripedTable := (StripedTable.register {} ⟨10, 66, 67, 2⟩ ⟨1, 7, 1, 0⟩).1

/-- A framed packet waits for the client, and a packet for another client whose session is
gone. -/
def tunnelPackets : List Call :=
  [.configure 2 1, .configure 3 1, .enqueueFramed 2 .bulk ⟨7, 8, 9⟩ [1, 2, 3],
    .enqueue 3 .small [4]]

/-- A sink with room. -/
def calmSink : Sink := ⟨fun _ _ => true, fun _ => Dataplane.calm 0⟩

theorem tunnelWork_keyed : Keyed tunnelWork := by
  intro slot session here
  dsimp only [tunnelWork, SessionTables.enter] at here
  rw [Table.lookup_insert_if] at here
  split at here
  · cases here
    exact WireRoundTrip.plainCiphers_lawful
  · cases here

end Sample

open Sample

/-- Both packets are gone, and the first one was sent. -/
theorem both_packets_are_gone : (drainDownlink calmSink ⟨tunnelWork, tunnelTable,
        (final step {} tunnelPackets).queue⟩).2.1.work.effects.length = 1 ∧
      (drainDownlink calmSink ⟨tunnelWork, tunnelTable,
        (final step {} tunnelPackets).queue⟩).2.1.queue.pendingTotal +
          min 128 (final step {} tunnelPackets).queue.pendingTotal =
        (final step {} tunnelPackets).queue.pendingTotal ∧
      (final step {} tunnelPackets).queue.pendingTotal = 2 := by
  have fromTun : ∀ call ∈ tunnelPackets, call.FromTun := by
    intro call member
    simp only [tunnelPackets, mem_cons, not_mem_nil, or_false] at member
    rcases member with rfl | rfl | rfl | rfl
    · trivial
    · trivial
    · show 3 ≤ 1300
      decide
    · show 1 ≤ 1300
      decide
  refine ⟨by decide +kernel, ?_, by decide +kernel⟩
  exact (drain_is_never_blocked tunnelPackets (by decide +kernel) fromTun
    (isNone_iff_eq_none.mp (by decide +kernel)) tunnelWork tunnelWork_keyed
    tunnelTable calmSink (fun _ _ => rfl)
    (fun _ => ⟨fun _ => rfl, fun _ _ _ => rfl⟩)).2

end Csqtt.Downlink
