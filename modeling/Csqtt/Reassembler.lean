import Csqtt.FlowFrame
import Csqtt.VecOps

/-!
# Bounded in-order reassembly

A reassembler keeps, for each sender and flow, the next expected sequence number
and the packets that arrived ahead of it. A packet leaves when it is expected,
when the twelve-millisecond gap timer expires, or when a bound on held packets
forces the lowest one out; every departure also drains the contiguous packets
behind it.

The definitions follow the source's order of effects. Sequence numbers wrap at
32 bits, the pending list is an unordered vector, and the running total is
updated by the difference of lengths around each release. A step returns the
values it appends to the output queue. Clock readings are natural numbers; the
only clock arithmetic in the source is a saturating subtraction.
-/

namespace Csqtt.Reassembler

open FlowFrame

universe u
variable {α : Type u}

/-- Packets held ahead of a gap in one flow before the lowest one is released. -/
def maxPendingPerFlow : Nat := 96

/-- Packets held in all flows together. -/
def maxPendingTotal : Nat := 4096

/-- Age in milliseconds at which a gap is given up. -/
def gapReleaseAfterMs : Nat := 12

/-- The identity of a reassembled flow. -/
structure ReassemblyKey where
  senderId : UInt64
  flowId : UInt64
deriving DecidableEq, Repr

/-- A packet held ahead of a gap. -/
structure Pending (α : Type u) where
  sequence : UInt32
  value : α
deriving DecidableEq, Repr

/-- One flow: what it expects, since when a gap is open, what it holds. -/
structure FlowState (α : Type u) where
  expected : UInt32
  gapStartedMs : Option Nat
  pending : List (Pending α)
deriving DecidableEq, Repr

/-- All flows and the number of packets they hold together. -/
structure FlowReassembler (α : Type u) where
  flows : Table ReassemblyKey (FlowState α)
  pendingTotal : Nat

/-- The flow a header belongs to. -/
def key (header : FrameHeader) : ReassemblyKey := ⟨header.senderId, header.flowId⟩

/-- Ahead of the expected number by less than half of the sequence space. -/
def isForward (sequence expected : UInt32) : Bool :=
  sequence != expected && decide (sequence - expected < 0x80000000)

/-- The state of a flow before its first packet. -/
def freshFlow : FlowState α := ⟨0, none, []⟩

/-- A reassembler that tracks nothing. -/
def new : FlowReassembler α := ⟨∅, 0⟩

/-- Release held packets as long as the expected one is among them. Each round
removes a packet, so the number of held packets bounds the rounds. -/
def drainRounds : Nat → FlowState α → FlowState α × List α
  | 0, state => (state, [])
  | rounds + 1, state =>
    match VecOps.removeFirst (fun held => held.sequence == state.expected) state.pending with
    | none => (state, [])
    | some (held, rest) =>
      let (state, output) :=
        drainRounds rounds { state with pending := rest, expected := state.expected + 1 }
      (state, held.value :: output)

/-- Release the contiguous packets that start at the expected number. -/
def drainContiguous (state : FlowState α) : FlowState α × List α :=
  drainRounds state.pending.length state

/-- The distance of a held packet that is still ahead of the expected number. -/
def distance (state : FlowState α) (held : Pending α) : Option UInt32 :=
  if isForward held.sequence state.expected then some (held.sequence - state.expected) else none

/-- Give up the gap: release the nearest packet ahead and what follows it. The
gap timer restarts when packets remain. -/
def releaseLowest (state : FlowState α) (nowMs : Nat) : FlowState α × List α :=
  match VecOps.removeLeast (distance state) state.pending with
  | none => ({ state with gapStartedMs := none }, [])
  | some (held, rest) =>
    let (state, output) := drainContiguous
      { expected := held.sequence + 1, gapStartedMs := none, pending := rest }
    let state := if state.pending.isEmpty then state else { state with gapStartedMs := some nowMs }
    (state, held.value :: output)

/-- The gap has been open for at least the release age. -/
def gapExpired (state : FlowState α) (nowMs : Nat) : Bool :=
  state.gapStartedMs.any fun started => decide (gapReleaseAfterMs ≤ nowMs - started)

/-- Give up the gap once its timer has expired. -/
def releaseExpired (state : FlowState α) (nowMs : Nat) : FlowState α × List α :=
  if gapExpired state nowMs then releaseLowest state nowMs else (state, [])

/-- A flow in the middle of a push: the global total, the flow and the output. -/
structure Work (α : Type u) where
  total : Nat
  flow : FlowState α
  output : List α

namespace Work

/-- Apply a release to the flow, append its output and take the released packets
off the global total. -/
def release (work : Work α) (release : FlowState α → FlowState α × List α) : Work α :=
  let (flow, output) := release work.flow
  { total := work.total - (work.flow.pending.length - flow.pending.length)
    flow := flow
    output := work.output ++ output }

/-- Deliver the expected packet and the contiguous packets behind it. -/
def deliver (work : Work α) (value : α) : Work α :=
  { work with
    flow := { work.flow with expected := work.flow.expected + 1, gapStartedMs := none }
    output := work.output ++ [value] }.release drainContiguous

/-- The flow bound: a full flow gives up its gap before it holds another packet. -/
def enforceFlowBound (work : Work α) (nowMs : Nat) : Work α :=
  if work.flow.pending.length = maxPendingPerFlow then
    work.release (releaseLowest · nowMs)
  else work

/-- The global bound, met by a flow that holds nothing: the packet passes at once
and the gap before it is given up. -/
def bypass (work : Work α) (sequence : UInt32) (value : α) : Work α :=
  { work with
    flow := { work.flow with expected := sequence + 1, gapStartedMs := none }
    output := work.output ++ [value] }

/-- The global bound, met by a flow that holds packets: it gives up its gap. -/
def enforceGlobalBound (work : Work α) (nowMs : Nat) : Work α :=
  if work.total = maxPendingTotal then work.release (releaseLowest · nowMs) else work

/-- Hold a packet ahead of the gap. -/
def hold (work : Work α) (sequence : UInt32) (value : α) : Work α :=
  { work with
    total := work.total + 1
    flow := { work.flow with pending := work.flow.pending ++ [⟨sequence, value⟩] } }

/-- Release once more when holding the packet passed the global bound. -/
def correctOverflow (work : Work α) (nowMs : Nat) : Work α :=
  if work.total > maxPendingTotal then work.release (releaseLowest · nowMs) else work

/-- Start the gap timer unless it runs. -/
def armGap (work : Work α) (nowMs : Nat) : Work α :=
  if work.flow.gapStartedMs.isNone then
    { work with flow := { work.flow with gapStartedMs := some nowMs } }
  else work

/-- A packet ahead of the gap that is not yet held. -/
def holdAhead (work : Work α) (sequence : UInt32) (value : α) (nowMs : Nat) : Work α :=
  let work := work.enforceFlowBound nowMs
  if work.total = maxPendingTotal ∧ work.flow.pending.isEmpty then
    work.bypass sequence value
  else
    ((((work.enforceGlobalBound nowMs).hold sequence value).correctOverflow nowMs).armGap
      nowMs).release (releaseExpired · nowMs)

/-- One push into an admitted flow. -/
def push (work : Work α) (sequence : UInt32) (value : α) (nowMs : Nat) : Work α :=
  let work := work.release (releaseExpired · nowMs)
  if sequence = work.flow.expected then work.deliver value
  else if !isForward sequence work.flow.expected ||
      work.flow.pending.any (fun held => held.sequence == sequence) then work
  else work.holdAhead sequence value nowMs

end Work

/-- Whether a push of this flow would forget every flow first. -/
def clears (reassembler : FlowReassembler α) (flow : ReassemblyKey) : Bool :=
  decide (reassembler.flows.size = maxTrackedFlows ∧ flow ∉ reassembler.flows)

/-- Forget every flow when a further one does not fit. -/
def makeRoom (reassembler : FlowReassembler α) (flow : ReassemblyKey) : FlowReassembler α :=
  if clears reassembler flow then new else reassembler

/-- The state of a tracked flow, or the initial state of a new one. -/
def flowState (reassembler : FlowReassembler α) (flow : ReassemblyKey) : FlowState α :=
  (reassembler.flows.lookup flow).getD freshFlow

/-- The argument of one push: header, value and clock reading. -/
structure Push (α : Type u) where
  header : FrameHeader
  value : α
  nowMs : Nat

/-- Push one packet; the second component is what is appended to the output. -/
def pushAt (reassembler : FlowReassembler α) (push : Push α) : FlowReassembler α × List α :=
  let flow := key push.header
  let reassembler := makeRoom reassembler flow
  let work := Work.push ⟨reassembler.pendingTotal, flowState reassembler flow, []⟩
    push.header.sequence push.value push.nowMs
  ({ flows := reassembler.flows.insert flow work.flow, pendingTotal := work.total }, work.output)

end Csqtt.Reassembler
