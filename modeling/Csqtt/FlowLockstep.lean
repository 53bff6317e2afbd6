import Csqtt.Departure

/-!
# Sequencer and reassembler in lockstep

A link feeds every packet to one sequencer and hands each framed packet, in send
order and without loss, to one reassembler. The reassembler then never waits: it
remembers exactly the flows the sequencer remembers, under the sequencer's
current identity, and each of them expects the number the sequencer will use
next.

Both tables forget everything at the same packet. When the sequencer runs full it
changes its identity; whether the new identity is a new one or repeats the old
one, the packet's key is not among the remembered ones, so the reassembler, which
is equally full, forgets its flows as well. Numbers may wrap, and the clock plays
no part because no gap ever opens.
-/

namespace Csqtt.FlowLockstep

open FlowFrame Reassembler Runs

universe u
variable {α : Type u}

/-- A packet, the value it delivers and the receiver's clock on arrival. -/
structure Send (α : Type u) where
  packet : List UInt8
  value : α
  nowMs : Nat

/-- Both ends of a lossless link that keeps the order of packets. -/
structure Link (α : Type u) where
  sequencer : FlowSequencer
  reassembler : FlowReassembler α

/-- Number a packet and push it if it got a header. The output of the push is
observed; an unframed packet is not pushed. -/
def transmit (link : Link α) (send : Send α) : Link α × Option (List α) :=
  match link.sequencer.next send.packet with
  | (sequencer, none) => ({ link with sequencer := sequencer }, none)
  | (sequencer, some header) =>
    let (reassembler, output) := pushAt link.reassembler ⟨header, send.value, send.nowMs⟩
    (⟨sequencer, reassembler⟩, some output)

/-- A link whose sequencer has the given identity and whose reassembler is fresh. -/
def start (senderId : UInt64) : Link α := ⟨FlowSequencer.withSenderId senderId, new⟩

/-- A flow with nothing pending that expects the given number. -/
def idle (expected : UInt32) : FlowState α := ⟨expected, none, []⟩

/-- The reassembler remembers the flows of the sequencer under its identity, each
of them idle at the number that is sent next. -/
structure Lockstep (link : Link α) : Prop where
  flows : ∀ flow : ReassemblyKey, link.reassembler.flows.lookup flow =
    if flow.senderId = link.sequencer.senderId then
      (link.sequencer.sequences.lookup flow.flowId).map idle
    else none
  size : link.reassembler.flows.size = link.sequencer.sequences.size
  total : link.reassembler.pendingTotal = 0

theorem lockstep_start (senderId : UInt64) : Lockstep (start senderId : Link α) :=
  ⟨fun _ => by split <;> rfl, rfl, rfl⟩

variable {link : Link α}

theorem Lockstep.nothing_pending (lockstep : Lockstep link) :
    EveryFlow (fun _ state => state.pending = []) link.reassembler := by
  intro flow state stored
  rw [lockstep.flows flow] at stored
  split at stored
  · obtain ⟨expected, _, rfl⟩ := Option.map_eq_some_iff.mp stored
    rfl
  · cases stored

theorem Lockstep.mem (lockstep : Lockstep link) (flow : ReassemblyKey) :
    flow ∈ link.reassembler.flows ↔
      flow.senderId = link.sequencer.senderId ∧ flow.flowId ∈ link.sequencer.sequences := by
  rw [← AList.lookup_isSome, ← AList.lookup_isSome, lockstep.flows flow]
  split
  next same => simp [same]
  next different => simp [different]

/-- Admission of the next flow keeps the link in lockstep, whatever identity a
full sequencer changes to. -/
theorem Lockstep.makeRoom (lockstep : Lockstep link) (flowId : UInt64) :
    Lockstep (⟨link.sequencer.makeRoom flowId, Reassembler.makeRoom link.reassembler
      ⟨(link.sequencer.makeRoom flowId).senderId, flowId⟩⟩ : Link α) := by
  unfold FlowSequencer.makeRoom Reassembler.makeRoom clears
  by_cases full : link.sequencer.sequences.size = maxTrackedFlows ∧
      flowId ∉ link.sequencer.sequences
  · have both : link.reassembler.flows.size = maxTrackedFlows := lockstep.size.trans full.1
    have absent : (⟨max (mix64 (link.sequencer.senderId + 0x9e3779b97f4a7c15)) 1, flowId⟩ :
        ReassemblyKey) ∉ link.reassembler.flows := fun member =>
      full.2 ((lockstep.mem _).mp member).2
    rw [if_pos full]
    simp only [both, absent, not_false_eq_true, and_self, decide_true, if_true]
    exact ⟨by intro flow; simp [new], rfl, rfl⟩
  · rw [if_neg full]
    have kept : ¬(link.reassembler.flows.size = maxTrackedFlows ∧
        (⟨link.sequencer.senderId, flowId⟩ : ReassemblyKey) ∉ link.reassembler.flows) := by
      rintro ⟨size, absent⟩
      exact full ⟨lockstep.size.symm.trans size, fun member =>
        absent ((lockstep.mem _).mpr ⟨rfl, member⟩)⟩
    simp only [kept, decide_false, Bool.false_eq_true, if_false]
    exact lockstep

theorem push_idle (expected : UInt32) (value : α) (nowMs : Nat) :
    (⟨0, idle expected, []⟩ : Work α).push expected value nowMs =
      ⟨0, idle (expected + 1), [value]⟩ := by
  simp [Work.push, Work.release, Work.deliver, releaseExpired, gapExpired, drainContiguous,
    drainRounds, idle]

/-- Numbering and pushing one packet of an admitted flow. -/
theorem Lockstep.advance (lockstep : Lockstep link) (flowId : UInt64) (value : α) (nowMs : Nat) :
    let header := (link.sequencer.advance flowId).2
    let work := (begin link.reassembler (key header)).push header.sequence value nowMs
    work.output = [value] ∧ Lockstep (⟨(link.sequencer.advance flowId).1,
        ⟨link.reassembler.flows.insert (key header) work.flow, work.total⟩⟩ : Link α) := by
  intro header work
  have state : flowState link.reassembler (key header) = idle header.sequence := by
    simp only [flowState, lockstep.flows, header, key, FlowSequencer.advance, if_true]
    cases link.sequencer.sequences.lookup flowId <;> rfl
  have pushed : work = ⟨0, idle (header.sequence + 1), [value]⟩ := by
    simp only [work, begin, state, lockstep.total]
    exact push_idle header.sequence value nowMs
  rw [pushed]
  refine ⟨rfl, ?_, ?_, rfl⟩
  · intro flow
    simp only [Table.lookup_insert_if, FlowSequencer.advance, lockstep.flows flow]
    have own : flow = key header ↔
        flow.senderId = link.sequencer.senderId ∧ flow.flowId = flowId := by
      obtain ⟨sender, identity⟩ := flow
      simp [header, key, FlowSequencer.advance]
    by_cases sender : flow.senderId = link.sequencer.senderId
    · by_cases same : flow.flowId = flowId
      · rw [if_pos (own.mpr ⟨sender, same⟩), if_pos sender, if_pos same]
        rfl
      · simp [own, sender, same]
    · simp [own, sender]
  · have member : key header ∈ link.reassembler.flows ↔ flowId ∈ link.sequencer.sequences := by
      rw [lockstep.mem]
      simp [header, key, FlowSequencer.advance]
    simp only [FlowSequencer.advance, Table.size_insert, member, lockstep.size]

theorem transmit_framed (link : Link α) (send : Send α) (flowId : UInt64)
    (framed : tcpFlowId send.packet = some flowId) :
    let sequencer := link.sequencer.makeRoom flowId
    let reassembler := Reassembler.makeRoom link.reassembler ⟨sequencer.senderId, flowId⟩
    let header := (sequencer.advance flowId).2
    let work := (begin reassembler (key header)).push header.sequence send.value send.nowMs
    transmit link send = (⟨(sequencer.advance flowId).1,
        ⟨reassembler.flows.insert (key header) work.flow, work.total⟩⟩, some work.output) := by
  simp only [transmit, FlowSequencer.next, framed]
  rfl

theorem Lockstep.transmit (lockstep : Lockstep link) (send : Send α) :
    Lockstep (transmit link send).1 ∧ (FlowLockstep.transmit link send).2 =
        if (tcpFlowId send.packet).isSome then some [send.value] else none := by
  cases framed : tcpFlowId send.packet with
  | none =>
    simp only [FlowLockstep.transmit, FlowSequencer.next, framed]
    exact ⟨lockstep, rfl⟩
  | some flowId =>
    obtain ⟨output, next⟩ := (lockstep.makeRoom flowId).advance flowId send.value send.nowMs
    rw [transmit_framed link send flowId framed]
    exact ⟨next, by rw [output]; rfl⟩

/-- Along every run of packets, whatever flows they belong to and whenever they
arrive, each framed packet is output by its own push and by itself, and no state
holds a packet. -/
theorem framed_packets_pass_at_once (senderId : UInt64) (sends : List (Send α)) :
    outputs transmit (start senderId) sends = sends.map (fun send =>
          if (tcpFlowId send.packet).isSome then some [send.value] else none) ∧
      ∀ done rest, done ++ rest = sends →
        (final transmit (start senderId : Link α) done).reassembler.pendingTotal = 0 ∧
          EveryFlow (fun _ state => state.pending = [])
            (final transmit (start senderId : Link α) done).reassembler := by
  constructor
  · exact outputs_eq_map transmit Lockstep _ (fun _ send lockstep => lockstep.transmit send)
      (start senderId) sends (lockstep_start senderId)
  · have throughout := throughout_of_step transmit Lockstep (fun _ : Send α => True)
      (fun link send lockstep _ => (lockstep.transmit send).1) (start senderId) sends
      (lockstep_start senderId) (fun _ _ => trivial)
    intro done rest split
    have lockstep := (throughout_iff _ _ _ _).mp throughout done rest split
    exact ⟨lockstep.total, lockstep.nothing_pending⟩

end Csqtt.FlowLockstep
