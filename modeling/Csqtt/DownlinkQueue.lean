import Csqtt.FlowFrame
import Csqtt.RoundRobin
import Csqtt.RouteWindows
import Csqtt.ServerObfs

/-!
# Packets from the tunnel that wait for their client

Each tunnel address has a lane with three queues, one for each class of packets. A queue
owns a fixed number of buffers, which are free or hold a waiting packet; how many depends
on the number of paths to the client. A ring for each class gives the lanes with paths
their turns: one in each round, or one for each path if the packets are bulk.

A packet that is taken out of its queue comes back to it, either as a free buffer or, if
it could not be sent, in front of the others. `Station` is the queue with the packet that
is on its way, and `Station.step` the calls of the engine. `Station.Sound` says where all
buffers are and what the rings hold, and is kept by all calls in the order in which the
engine makes them.
-/

namespace Csqtt.Downlink

open List Runs Function

open Routes (PacketClass)
open RoundRobin (KeyRing)
open FlowFrame (FrameHeader frameLen)
open ServerObfs (packetCapacity)

def latencySlots : Nat := 16
def priorityMinSlots : Nat := 32
def priorityMaxSlots : Nat := 252
def prioritySlotsPerPath : Nat := 2
def bulkMinSlots : Nat := 72
def bulkMaxSlots : Nat := 1008
def bulkSlotsPerPath : Nat := 8

/-- The number of paths that are counted. -/
def maxActivePaths : Nat := priorityMaxSlots / prioritySlotsPerPath

/-- The nearest number in a range. -/
def clamp (value low high : Nat) : Nat := max low (min value high)

/-- The number of buffers of each queue of a lane. -/
structure ClientQueueProfile where
  latencySlots : Nat
  prioritySlots : Nat
  bulkSlots : Nat
deriving DecidableEq, Repr

def profileForActivePaths (activePaths : Nat) : ClientQueueProfile :=
  let activePaths := min activePaths maxActivePaths
  if activePaths = 0 then ⟨0, 0, 0⟩
  else
    ⟨latencySlots, clamp (activePaths * prioritySlotsPerPath) priorityMinSlots priorityMaxSlots,
      clamp (activePaths * bulkSlotsPerPath) bulkMinSlots bulkMaxSlots⟩

def ClientQueueProfile.slots (profile : ClientQueueProfile) : PacketClass → Nat
  | .small => profile.latencySlots
  | .medium => profile.prioritySlots
  | .bulk => profile.bulkSlots

/-- A buffer with the bytes it shows. -/
structure PacketBuffer where
  slice : List UInt8
  fits : slice.length ≤ packetCapacity
deriving DecidableEq, Repr

namespace PacketBuffer

/-- A buffer that shows nothing. -/
def new : PacketBuffer := ⟨[], Nat.zero_le _⟩

/-- A buffer with a packet, if it fits. -/
def copyFrom (packet : List UInt8) : Option PacketBuffer :=
  if fits : packet.length ≤ packetCapacity then some ⟨packet, fits⟩ else none

/-- A buffer with a packet behind its header. -/
def framed (header : FrameHeader) (packet : List UInt8) : Option PacketBuffer :=
  copyFrom (header.bytes ++ packet)

end PacketBuffer

/-- The buffers of one queue. The one that was freed last is used first. -/
structure PacketSlots where
  free : List PacketBuffer := []
  pending : List PacketBuffer := []
deriving DecidableEq, Repr

namespace PacketSlots

/-- The number of buffers. -/
def total (slots : PacketSlots) : Nat := slots.free.length + slots.pending.length

/-- One more buffer. -/
def addOne (slots : PacketSlots) : PacketSlots := { slots with free := .new :: slots.free }

/-- One buffer less: a free one, or else the packet that came last. -/
def removeOne (slots : PacketSlots) : PacketSlots :=
  match slots.free with
  | _ :: rest => { slots with free := rest }
  | [] => { slots with pending := slots.pending.dropLast }

/-- Add buffers while there are too few and remove some while there are too many. -/
def resize (slots : PacketSlots) (capacity : Nat) : PacketSlots :=
  let grown := addOne^[capacity - slots.total] slots
  let shrunk := removeOne^[grown.total - capacity] grown
  if capacity = 0 then {} else shrunk

/-- Let a packet wait in a free buffer. Without one, or if the packet did not fit, it is
refused. -/
def store (slots : PacketSlots) (filled : Option PacketBuffer) : PacketSlots × Bool :=
  match slots.free with
  | [] => (slots, false)
  | _ :: rest =>
    match filled with
    | none => (slots, false)
    | some buffer => (⟨rest, slots.pending ++ [buffer]⟩, true)

def enqueue (slots : PacketSlots) (packet : List UInt8) : PacketSlots × Bool :=
  slots.store (PacketBuffer.copyFrom packet)

def enqueueFramed (slots : PacketSlots) (header : FrameHeader) (packet : List UInt8) :
    PacketSlots × Bool :=
  slots.store (PacketBuffer.framed header packet)

/-- Take the packet that has waited longest. -/
def dequeue (slots : PacketSlots) : Option (PacketBuffer × PacketSlots) :=
  match slots.pending with
  | [] => none
  | packet :: rest => some (packet, { slots with pending := rest })

def requeueFront (slots : PacketSlots) (packet : PacketBuffer) : PacketSlots :=
  { slots with pending := packet :: slots.pending }

def recycle (slots : PacketSlots) (packet : PacketBuffer) : PacketSlots :=
  { slots with free := packet :: slots.free }

/-- Free the buffers of all packets. -/
def clearPending (slots : PacketSlots) : PacketSlots :=
  { free := slots.pending.reverse ++ slots.free }

end PacketSlots

/-- The queues of one tunnel address. -/
structure ClientEgressLane where
  activePaths : Nat := 0
  latency : PacketSlots := {}
  priority : PacketSlots := {}
  bulk : PacketSlots := {}
deriving DecidableEq, Repr

namespace ClientEgressLane

def configure (lane : ClientEgressLane) (activePaths : Nat) : ClientEgressLane :=
  let activePaths := min activePaths maxActivePaths
  let profile := profileForActivePaths activePaths
  { activePaths := activePaths
    latency := lane.latency.resize profile.latencySlots
    priority := lane.priority.resize profile.prioritySlots
    bulk := lane.bulk.resize profile.bulkSlots }

def queue (lane : ClientEgressLane) : PacketClass → PacketSlots
  | .small => lane.latency
  | .medium => lane.priority
  | .bulk => lane.bulk

def setQueue (lane : ClientEgressLane) (kind : PacketClass) (slots : PacketSlots) :
    ClientEgressLane :=
  match kind with
  | .small => { lane with latency := slots }
  | .medium => { lane with priority := slots }
  | .bulk => { lane with bulk := slots }

def clearPending (lane : ClientEgressLane) : ClientEgressLane :=
  { lane with
    latency := lane.latency.clearPending
    priority := lane.priority.clearPending
    bulk := lane.bulk.clearPending }

end ClientEgressLane

/-- A lane for each host number, and a ring for each class. -/
structure DownlinkQueue where
  lanes : UInt8 → ClientEgressLane := fun _ => {}
  latencyRing : KeyRing UInt8 := {}
  priorityRing : KeyRing UInt8 := {}
  bulkRing : KeyRing UInt8 := {}

/-- All host numbers, in their order. -/
def laneKeys : List UInt8 := (List.range 256).map UInt8.ofNat

namespace DownlinkQueue

def setLane (queue : DownlinkQueue) (key : UInt8) (lane : ClientEgressLane) : DownlinkQueue :=
  { queue with lanes := update queue.lanes key lane }

/-- The buffers of a lane for a class. -/
def slots (queue : DownlinkQueue) (key : UInt8) (kind : PacketClass) : PacketSlots :=
  (queue.lanes key).queue kind

def setSlots (queue : DownlinkQueue) (key : UInt8) (kind : PacketClass) (slots : PacketSlots) :
    DownlinkQueue :=
  queue.setLane key ((queue.lanes key).setQueue kind slots)

def ring (queue : DownlinkQueue) : PacketClass → KeyRing UInt8
  | .small => queue.latencyRing
  | .medium => queue.priorityRing
  | .bulk => queue.bulkRing

def setRing (queue : DownlinkQueue) (kind : PacketClass) (ring : KeyRing UInt8) : DownlinkQueue :=
  match kind with
  | .small => { queue with latencyRing := ring }
  | .medium => { queue with priorityRing := ring }
  | .bulk => { queue with bulkRing := ring }

/-- The lanes with paths. -/
def activeKeys (queue : DownlinkQueue) : List UInt8 :=
  laneKeys.filter fun key => (queue.lanes key).activePaths != 0

/-- The lanes with paths, each once for each path. -/
def weightedKeys (queue : DownlinkQueue) : List UInt8 :=
  queue.activeKeys.flatMap fun key => List.replicate (queue.lanes key).activePaths key

def rebuildRings (queue : DownlinkQueue) : DownlinkQueue :=
  { queue with
    latencyRing := queue.latencyRing.rebuild queue.activeKeys
    priorityRing := queue.priorityRing.rebuild queue.activeKeys
    bulkRing := queue.bulkRing.rebuild queue.weightedKeys }

/-- Set the number of paths of a lane, if it has changed. -/
def configure (queue : DownlinkQueue) (key : UInt8) (activePaths : Nat) : DownlinkQueue :=
  if (queue.lanes key).activePaths = min activePaths maxActivePaths then queue
  else (queue.setLane key ((queue.lanes key).configure activePaths)).rebuildRings

/-- Let a packet wait in a lane, if it has paths. -/
def store (queue : DownlinkQueue) (key : UInt8) (kind : PacketClass)
    (enter : PacketSlots → PacketSlots × Bool) : DownlinkQueue × Bool :=
  if (queue.lanes key).activePaths ≠ 0 then
    let (slots, accepted) := enter (queue.slots key kind)
    (queue.setSlots key kind slots, accepted)
  else (queue, false)

def enqueue (queue : DownlinkQueue) (key : UInt8) (kind : PacketClass) (packet : List UInt8) :
    DownlinkQueue × Bool :=
  queue.store key kind fun slots => slots.enqueue packet

def enqueueFramed (queue : DownlinkQueue) (key : UInt8) (kind : PacketClass) (header : FrameHeader)
    (packet : List UInt8) : DownlinkQueue × Bool :=
  queue.store key kind fun slots => slots.enqueueFramed header packet

/-- Take a packet of a class from the next lane that has one. -/
def dequeue (queue : DownlinkQueue) (kind : PacketClass) :
    DownlinkQueue × Option (UInt8 × PacketBuffer) :=
  let ring := queue.ring kind
  match ring.seek (fun key => (queue.slots key kind).dequeue) ring.keys.length with
  | (ring, none) => (queue.setRing kind ring, none)
  | (ring, some (key, packet, slots)) =>
    ((queue.setRing kind ring).setSlots key kind slots, some (key, packet))

def requeueFront (queue : DownlinkQueue) (key : UInt8) (kind : PacketClass)
    (packet : PacketBuffer) : DownlinkQueue :=
  queue.setSlots key kind ((queue.slots key kind).requeueFront packet)

def recycle (queue : DownlinkQueue) (key : UInt8) (kind : PacketClass) (packet : PacketBuffer) :
    DownlinkQueue :=
  queue.setSlots key kind ((queue.slots key kind).recycle packet)

/-- Drop the packets of a lane. -/
def clear (queue : DownlinkQueue) (key : UInt8) : DownlinkQueue :=
  queue.setLane key (queue.lanes key).clearPending

end DownlinkQueue

/-! ## The calls of the engine -/

/-- The calls. The last two are about the packet that was taken. -/
inductive Call
  | configure (key : UInt8) (activePaths : Nat)
  | enqueue (key : UInt8) (kind : PacketClass) (packet : List UInt8)
  | enqueueFramed (key : UInt8) (kind : PacketClass) (header : FrameHeader) (packet : List UInt8)
  | clear (key : UInt8)
  | dequeue (kind : PacketClass)
  | requeueFront
  | recycle

/-- A packet that was taken, with its lane and its class. -/
structure Flight where
  key : UInt8
  kind : PacketClass
  packet : PacketBuffer

/-- The queue and the packet on its way. -/
structure Station where
  queue : DownlinkQueue := {}
  flight : Option Flight := none

/-- What a call shows: a packet that was let in, the lane that was served, or a packet that
is gone. -/
inductive Report
  | quiet
  | accepted (key : UInt8) (kind : PacketClass) (packet : List UInt8)
  | served (kind : PacketClass) (key : UInt8)
  | gone (key : UInt8) (kind : PacketClass) (packet : List UInt8)

namespace Report

/-- The packet that was let into a queue. -/
def arrivals (key : UInt8) (kind : PacketClass) : Report → List (List UInt8)
  | .accepted other otherKind packet => if other = key ∧ otherKind = kind then [packet] else []
  | _ => []

/-- The packet of a queue that is gone. -/
def departures (key : UInt8) (kind : PacketClass) : Report → List (List UInt8)
  | .gone other otherKind packet => if other = key ∧ otherKind = kind then [packet] else []
  | _ => []

theorem departures_quiet (key : UInt8) (kind : PacketClass) : departures key kind .quiet = [] := rfl

/-- The lane that was served a turn of a class. -/
def turns (kind : PacketClass) : Report → List UInt8
  | .served other key => if other = kind then [key] else []
  | _ => []

end Report

/-- One call. -/
def Station.step (station : Station) : Call → Station × Report
  | .configure key activePaths =>
    ({ station with queue := station.queue.configure key activePaths }, .quiet)
  | .enqueue key kind packet =>
    let (queue, accepted) := station.queue.enqueue key kind packet
    ({ station with queue := queue }, if accepted then .accepted key kind packet else .quiet)
  | .enqueueFramed key kind header packet =>
    let (queue, accepted) := station.queue.enqueueFramed key kind header packet
    ({ station with queue := queue },
      if accepted then .accepted key kind (header.bytes ++ packet) else .quiet)
  | .clear key => ({ station with queue := station.queue.clear key }, .quiet)
  | .dequeue kind =>
    match station.queue.dequeue kind with
    | (queue, none) => ({ station with queue := queue }, .quiet)
    | (queue, some (key, packet)) => (⟨queue, some ⟨key, kind, packet⟩⟩, .served kind key)
  | .requeueFront =>
    match station.flight with
    | none => (station, .quiet)
    | some flight =>
      (⟨station.queue.requeueFront flight.key flight.kind flight.packet, none⟩, .quiet)
  | .recycle =>
    match station.flight with
    | none => (station, .quiet)
    | some flight =>
      (⟨station.queue.recycle flight.key flight.kind flight.packet, none⟩,
        .gone flight.key flight.kind flight.packet.slice)

/-- The engine brings back the packet it has taken before it makes another call. -/
def Permitted (station : Station) : Call → Prop
  | .requeueFront | .recycle => station.flight.isSome
  | _ => station.flight = none

instance Permitted.decidable (station : Station) : ∀ call, Decidable (Permitted station call)
  | .requeueFront | .recycle => inferInstanceAs (Decidable (station.flight.isSome = true))
  | .configure _ _ | .enqueue _ _ _ | .enqueueFramed _ _ _ _ | .clear _ | .dequeue _ =>
    decidable_of_iff (station.flight.isNone = true) Option.isNone_iff_eq_none

/-! ## Buffers of one queue -/

namespace PacketSlots

variable (slots : PacketSlots) (count : Nat)

theorem addOne_iterate_total : (addOne^[count] slots).total = slots.total + count := by
  induction count generalizing slots with
  | zero => rfl
  | succ count ih =>
    have one : slots.addOne.total = slots.total + 1 := by
      rw [addOne, total, total, length_cons]
      dsimp only
      omega
    rw [iterate_succ_apply, ih, one]
    omega

theorem addOne_iterate_pending : (addOne^[count] slots).pending = slots.pending := by
  induction count generalizing slots with
  | zero => rfl
  | succ count ih => rw [iterate_succ_apply, ih, addOne]

theorem removeOne_total : slots.removeOne.total = slots.total - 1 := by
  rw [removeOne, total, total]
  split
  · rename_i free
    rw [free, length_cons]
    dsimp only
    omega
  · rename_i free
    rw [free, length_dropLast, length_nil]
    omega

theorem removeOne_pending : slots.removeOne.pending.Sublist slots.pending := by
  rw [removeOne]
  split
  · exact List.Sublist.refl _
  · exact dropLast_sublist _

theorem removeOne_iterate_total : (removeOne^[count] slots).total = slots.total - count := by
  induction count generalizing slots with
  | zero => rfl
  | succ count ih =>
    rw [iterate_succ_apply, ih, removeOne_total]
    omega

theorem removeOne_iterate_pending : (removeOne^[count] slots).pending.Sublist slots.pending := by
  induction count generalizing slots with
  | zero => exact List.Sublist.refl _
  | succ count ih =>
    rw [iterate_succ_apply]
    exact (ih _).trans slots.removeOne_pending

theorem resize_total (capacity : Nat) : (slots.resize capacity).total = capacity := by
  rw [resize]
  split
  · rename_i none
    rw [none]
    rfl
  · rw [removeOne_iterate_total, addOne_iterate_total]
    omega

theorem resize_pending (capacity : Nat) : (slots.resize capacity).pending.Sublist slots.pending := by
  rw [resize]
  split
  · exact nil_sublist _
  · have kept := removeOne_iterate_pending (addOne^[capacity - slots.total] slots)
      ((addOne^[capacity - slots.total] slots).total - capacity)
    rwa [addOne_iterate_pending] at kept

theorem store_cases (filled : Option PacketBuffer) :
    slots.store filled = (slots, false) ∨ ∃ buffer, filled = some buffer ∧
      (slots.store filled).2 = true ∧ (slots.store filled).1.total = slots.total ∧
      (slots.store filled).1.pending = slots.pending ++ [buffer] := by
  rw [store]
  split
  · exact Or.inl rfl
  rename_i free
  split
  · exact Or.inl rfl
  · refine Or.inr ⟨_, rfl, rfl, ?_, rfl⟩
    simp only [total, free, length_append, length_cons, length_nil]
    omega

theorem dequeue_eq_none_iff : slots.dequeue = none ↔ slots.pending = [] := by
  rw [dequeue]
  split
  · rename_i empty
    exact ⟨fun _ => empty, fun _ => rfl⟩
  rename_i waiting
  constructor
  · intro found
    cases found
  · intro empty
    rw [empty] at waiting
    cases waiting

theorem dequeue_eq_some {packet : PacketBuffer} {after : PacketSlots}
    (taken : slots.dequeue = some (packet, after)) :
    slots.pending = packet :: after.pending ∧ after.free = slots.free := by
  rw [dequeue] at taken
  split at taken
  · cases taken
  · rename_i waiting
    cases taken
    exact ⟨waiting, rfl⟩

theorem clearPending_total : slots.clearPending.total = slots.total := by
  rw [clearPending, total, total, length_append, length_reverse, length_nil]
  omega

end PacketSlots

namespace ClientEgressLane

variable (lane : ClientEgressLane)

@[simp] theorem queue_setQueue (kind other : PacketClass) (slots : PacketSlots) :
    (lane.setQueue kind slots).queue other = if other = kind then slots else lane.queue other := by
  cases kind <;> cases other <;> rfl

@[simp] theorem setQueue_activePaths (kind : PacketClass) (slots : PacketSlots) :
    (lane.setQueue kind slots).activePaths = lane.activePaths := by
  cases kind <;> rfl

theorem queue_configure (activePaths : Nat) (kind : PacketClass) :
    (lane.configure activePaths).queue kind =
      (lane.queue kind).resize ((profileForActivePaths (min activePaths maxActivePaths)).slots kind) := by
  cases kind <;> rfl

theorem queue_clearPending (kind : PacketClass) :
    lane.clearPending.queue kind = (lane.queue kind).clearPending := by
  cases kind <;> rfl

end ClientEgressLane

/-! ## Lanes and rings -/

variable {key : UInt8} {kind : PacketClass}

namespace DownlinkQueue

variable (queue : DownlinkQueue)

/-- The keys that the ring of a class is built from. -/
def ringKeys : PacketClass → List UInt8
  | .small | .medium => queue.activeKeys
  | .bulk => queue.weightedKeys

theorem mem_laneKeys (key : UInt8) : key ∈ laneKeys := by
  refine mem_map.mpr ⟨key.toNat, mem_range.mpr key.toNat_lt, UInt8.ofNat_toNat⟩

theorem forall_laneKeys {holds : UInt8 → Prop} : (∀ key ∈ laneKeys, holds key) ↔ ∀ key, holds key :=
  ⟨fun all key => all key (mem_laneKeys key), fun all key _ => all key⟩

theorem mem_activeKeys : key ∈ queue.activeKeys ↔ (queue.lanes key).activePaths ≠ 0 := by
  rw [activeKeys, mem_filter, bne_iff_ne]
  exact and_iff_right (mem_laneKeys key)

theorem mem_ringKeys (kind : PacketClass) :
    key ∈ queue.ringKeys kind ↔ (queue.lanes key).activePaths ≠ 0 := by
  cases kind with
  | small | medium => exact queue.mem_activeKeys
  | bulk =>
    rw [ringKeys, weightedKeys, mem_flatMap]
    constructor
    · rintro ⟨other, active, repeated⟩
      cases eq_of_mem_replicate repeated
      exact queue.mem_activeKeys.mp active
    · intro active
      exact ⟨key, queue.mem_activeKeys.mpr active, mem_replicate.mpr ⟨active, rfl⟩⟩

/-- The ring of a class is built from the lanes, with its cursor inside. -/
def BuiltFor (kind : PacketClass) : Prop :=
  (queue.ring kind).keys = queue.ringKeys kind ∧ (queue.ring kind).Inside

/-- All rings are built from the lanes. -/
def Built : Prop := ∀ kind, queue.BuiltFor kind

theorem rebuildRings_built : queue.rebuildRings.Built := by
  intro kind
  cases kind <;> exact ⟨rfl, KeyRing.rebuild_inside _⟩

@[simp] theorem slots_rebuildRings (key : UInt8) (kind : PacketClass) :
    queue.rebuildRings.slots key kind = queue.slots key kind := rfl

@[simp] theorem lanes_setLane (key other : UInt8) (lane : ClientEgressLane) :
    (queue.setLane key lane).lanes other = if other = key then lane else queue.lanes other :=
  update_apply queue.lanes key lane other

@[simp] theorem slots_setSlots (key other : UInt8) (kind otherKind : PacketClass)
    (slots : PacketSlots) : (queue.setSlots key kind slots).slots other otherKind =
      if other = key ∧ otherKind = kind then slots else queue.slots other otherKind := by
  rw [DownlinkQueue.slots, setSlots, lanes_setLane]
  by_cases same : other = key
  · rw [if_pos same, ClientEgressLane.queue_setQueue, same, DownlinkQueue.slots]
    simp
  · rw [if_neg same, if_neg fun both => same both.1, DownlinkQueue.slots]

@[simp] theorem activePaths_setSlots (key other : UInt8) (kind : PacketClass) (slots : PacketSlots) :
    ((queue.setSlots key kind slots).lanes other).activePaths = (queue.lanes other).activePaths := by
  rw [setSlots, lanes_setLane]
  split
  · rename_i same
    rw [ClientEgressLane.setQueue_activePaths, same]
  · rfl

@[simp] theorem ring_setSlots (key : UInt8) (kind other : PacketClass) (slots : PacketSlots) :
    (queue.setSlots key kind slots).ring other = queue.ring other := by
  cases other <;> rfl

@[simp] theorem lanes_setRing (kind : PacketClass) (ring : KeyRing UInt8) :
    (queue.setRing kind ring).lanes = queue.lanes := by
  cases kind <;> rfl

@[simp] theorem slots_setRing (kind : PacketClass) (ring : KeyRing UInt8) :
    (queue.setRing kind ring).slots = queue.slots := by
  cases kind <;> rfl

@[simp] theorem ring_setRing (kind other : PacketClass) (ring : KeyRing UInt8) :
    (queue.setRing kind ring).ring other = if other = kind then ring else queue.ring other := by
  cases kind <;> cases other <;> rfl

variable {queue}

theorem ringKeys_congr {after : DownlinkQueue}
    (paths : ∀ key, (after.lanes key).activePaths = (queue.lanes key).activePaths)
    (kind : PacketClass) : after.ringKeys kind = queue.ringKeys kind := by
  have active : after.activeKeys = queue.activeKeys := by simp only [activeKeys, paths]
  cases kind with
  | small | medium => exact active
  | bulk => simp only [ringKeys, weightedKeys, active, paths]

theorem Built.carry {after : DownlinkQueue} (built : queue.Built)
    (paths : ∀ key, (after.lanes key).activePaths = (queue.lanes key).activePaths)
    (rings : ∀ kind, (after.ring kind).keys = (queue.ring kind).keys ∧ (after.ring kind).Inside) :
    after.Built := by
  intro kind
  rw [BuiltFor, ringKeys_congr paths, (rings kind).1]
  exact ⟨(built kind).1, (rings kind).2⟩

theorem Built.setSlots (built : queue.Built) (key : UInt8) (kind : PacketClass)
    (slots : PacketSlots) : (queue.setSlots key kind slots).Built := by
  refine built.carry (queue.activePaths_setSlots key · kind slots) ?_
  intro other
  rw [ring_setSlots]
  exact ⟨rfl, (built other).2⟩

theorem Built.setRing (built : queue.Built) {ring : KeyRing UInt8}
    (keys : ring.keys = (queue.ring kind).keys) (inside : ring.Inside) :
    (queue.setRing kind ring).Built := by
  refine built.carry (fun key => by rw [lanes_setRing]) ?_
  intro other
  rw [ring_setRing]
  split
  · rename_i same
    rw [same]
    exact ⟨keys, inside⟩
  · exact ⟨rfl, (built other).2⟩

variable (queue) in
/-- What one call to take a packet does: nothing but turns are given if it fails, and else the
first packet of one lane is taken. -/
theorem dequeue_cases (kind : PacketClass) :
    ∃ after, after.keys = (queue.ring kind).keys ∧ ((queue.ring kind).Inside → after.Inside) ∧
      (queue.dequeue kind = (queue.setRing kind after, none) ∨ ∃ key packet slots,
        (queue.slots key kind).dequeue = some (packet, slots) ∧ queue.dequeue kind =
            ((queue.setRing kind after).setSlots key kind slots, some (key, packet))) := by
  have keys := (queue.ring kind).seek_keys (fun key => (queue.slots key kind).dequeue)
    (queue.ring kind).keys.length
  have inside := (queue.ring kind).seek_inside (fun key => (queue.slots key kind).dequeue)
    (queue.ring kind).keys.length
  rw [dequeue]
  split
  · rename_i after failed
    rw [failed] at keys inside
    exact ⟨after, keys, inside, Or.inl rfl⟩
  rename_i after key packet slots found
  have served := KeyRing.seek_serves found
  rw [found] at keys inside
  exact ⟨after, keys, inside, Or.inr ⟨key, packet, slots, served, rfl⟩⟩

theorem Built.dequeue_eq_none_iff (built : queue.Built) (kind : PacketClass) :
    (queue.dequeue kind).2 = none ↔
      ∀ key, (queue.lanes key).activePaths ≠ 0 → (queue.slots key kind).pending = [] := by
  have fails := (queue.ring kind).seek_eq_none_iff (fun key => (queue.slots key kind).dequeue)
    (built kind).2
  have same : (queue.dequeue kind).2 = none ↔
      ((queue.ring kind).seek (fun key => (queue.slots key kind).dequeue)
        (queue.ring kind).keys.length).2 = none := by
    rw [dequeue]
    split
    · rename_i failed
      rw [failed]
      exact ⟨fun _ => rfl, fun _ => rfl⟩
    rename_i found
    rw [found]
    constructor
    · intro absent
      cases absent
    · intro absent
      cases absent
  rw [same, fails, (built kind).1]
  simp only [mem_ringKeys, PacketSlots.dequeue_eq_none_iff]

end DownlinkQueue

/-! ## What the calls keep -/

/-- The number of buffers of a queue that are on their way. -/
def Station.inFlight (station : Station) (key : UInt8) (kind : PacketClass) : Nat :=
  match station.flight with
  | none => 0
  | some flight => if key = flight.key ∧ kind = flight.kind then 1 else 0

/-- Every queue has the buffers that its lane's number of paths asks for, and the rings are
built from these numbers. -/
structure Station.Sound (station : Station) : Prop where
  buffers : ∀ key kind, (station.queue.slots key kind).total + station.inFlight key kind =
    (profileForActivePaths (station.queue.lanes key).activePaths).slots kind
  built : station.queue.Built

namespace Station

theorem profile_zero (kind : PacketClass) : (profileForActivePaths 0).slots kind = 0 := by
  cases kind <;> rfl

theorem Sound.initial : Sound {} where
  buffers _ kind := by cases kind <;> rfl
  built kind := by
    have empty : ∀ kind, ({} : DownlinkQueue).ringKeys kind = [] := by
      intro kind
      apply eq_nil_iff_forall_not_mem.mpr
      intro key member
      exact (DownlinkQueue.mem_ringKeys _ kind).mp member rfl
    rw [DownlinkQueue.BuiltFor, empty]
    cases kind <;> exact ⟨rfl, Nat.zero_lt_one⟩

variable {station : Station}

section

variable (sound : station.Sound)

include sound

theorem Sound.idle (unused : (station.queue.lanes key).activePaths = 0) (kind : PacketClass) :
    (station.queue.slots key kind).pending = [] := by
  have buffers := sound.buffers key kind
  rw [unused, profile_zero, PacketSlots.total] at buffers
  apply length_eq_zero_iff.mp
  omega

theorem Sound.setSlots {slots : PacketSlots} {flight : Option Flight}
    (here : slots.total + inFlight ⟨station.queue, flight⟩ key kind =
      (station.queue.slots key kind).total + station.inFlight key kind)
    (elsewhere : ∀ other otherKind, ¬ (other = key ∧ otherKind = kind) →
      inFlight ⟨station.queue, flight⟩ other otherKind = station.inFlight other otherKind) :
    Sound ⟨station.queue.setSlots key kind slots, flight⟩ where
  buffers other otherKind := by
    have before := sound.buffers other otherKind
    rw [DownlinkQueue.slots_setSlots, DownlinkQueue.activePaths_setSlots, ← before]
    split
    · rename_i same
      rw [same.1, same.2]
      exact here
    · rename_i different
      exact congrArg _ (elsewhere other otherKind different)
  built := sound.built.setSlots key kind slots

theorem Sound.configure (empty : station.flight = none) (key : UInt8) (activePaths : Nat) :
    Sound { station with queue := station.queue.configure key activePaths } := by
  rw [DownlinkQueue.configure]
  split
  · exact sound
  refine ⟨?_, DownlinkQueue.rebuildRings_built _⟩
  intro other kind
  have before := sound.buffers other kind
  have nothing : ∀ queue, inFlight ⟨queue, station.flight⟩ other kind = 0 := by
    intro queue
    rw [inFlight, empty]
  rw [inFlight, empty] at before
  rw [nothing, DownlinkQueue.slots_rebuildRings]
  show (((station.queue.setLane key _).lanes other).queue kind).total + 0 =
    (profileForActivePaths ((station.queue.setLane key _).lanes other).activePaths).slots kind
  rw [DownlinkQueue.lanes_setLane]
  split
  · rw [ClientEgressLane.queue_configure, PacketSlots.resize_total]
    rfl
  · exact before

theorem Sound.clear (key : UInt8) : Sound { station with queue := station.queue.clear key } where
  buffers other kind := by
    have before := sound.buffers other kind
    show (((station.queue.setLane key _).lanes other).queue kind).total + station.inFlight other kind =
      (profileForActivePaths ((station.queue.setLane key _).lanes other).activePaths).slots kind
    rw [DownlinkQueue.lanes_setLane]
    split
    · rename_i same
      rw [← same, ClientEgressLane.queue_clearPending, PacketSlots.clearPending_total]
      exact before
    · exact before
  built := by
    refine sound.built.carry ?_ fun kind => ⟨by cases kind <;> rfl, ?_⟩
    · intro other
      rw [DownlinkQueue.clear, DownlinkQueue.lanes_setLane]
      split
      · rename_i same
        rw [same]
        rfl
      · rfl
    · cases kind with
      | small => exact (sound.built .small).2
      | medium => exact (sound.built .medium).2
      | bulk => exact (sound.built .bulk).2

theorem Sound.store (key : UInt8) (kind : PacketClass) (filled : Option PacketBuffer) :
    Sound { station with
      queue := (station.queue.store key kind fun slots => slots.store filled).1 } := by
  rw [DownlinkQueue.store]
  split
  · refine sound.setSlots ?_ fun _ _ _ => rfl
    cases (station.queue.slots key kind).store_cases filled with
    | inl same => rw [same]
    | inr accepted =>
      obtain ⟨_, _, _, total, _⟩ := accepted
      rw [total]
  · exact sound

theorem Sound.setRing {ring : KeyRing UInt8} (keys : ring.keys = (station.queue.ring kind).keys)
    (inside : ring.Inside) : Sound { station with queue := station.queue.setRing kind ring } where
  buffers other otherKind := by
    rw [DownlinkQueue.slots_setRing, DownlinkQueue.lanes_setRing]
    exact sound.buffers other otherKind
  built := sound.built.setRing keys inside

/-- The packet on its way comes back. -/
theorem Sound.land {slots : PacketSlots} {flight : Flight} (here : station.flight = some flight)
    (total : slots.total = (station.queue.slots flight.key flight.kind).total + 1) :
    Sound ⟨station.queue.setSlots flight.key flight.kind slots, none⟩ := by
  refine sound.setSlots ?_ ?_
  · rw [total, inFlight, inFlight, here]
    simp
  · intro other otherKind different
    rw [inFlight, inFlight, here]
    exact (if_neg different).symm

/-- Every call in the engine's order keeps the queues and the rings. -/
theorem Sound.step (call : Call) (permitted : Permitted station call) :
    (station.step call).1.Sound := by
  cases call with
  | configure key activePaths => exact sound.configure permitted key activePaths
  | enqueue key kind packet =>
    exact sound.store key kind (PacketBuffer.copyFrom packet)
  | enqueueFramed key kind header packet =>
    exact sound.store key kind (PacketBuffer.framed header packet)
  | clear key => exact sound.clear key
  | dequeue kind =>
    have empty : station.flight = none := permitted
    rw [Station.step]
    obtain ⟨after, keys, inside, result⟩ := station.queue.dequeue_cases kind
    have moved := sound.setRing keys (inside (sound.built kind).2)
    cases result with
    | inl failed =>
      rw [failed]
      exact moved
    | inr found =>
      obtain ⟨key, packet, slots, taken, same⟩ := found
      rw [same]
      obtain ⟨waiting, free⟩ := PacketSlots.dequeue_eq_some _ taken
      refine moved.setSlots ?_ ?_
      · rw [DownlinkQueue.slots_setRing, PacketSlots.total, PacketSlots.total, waiting, free, length_cons,
          inFlight, inFlight, empty]
        simp only [and_self, if_true]
        omega
      · intro other otherKind different
        rw [inFlight, inFlight, empty]
        exact if_neg different
  | requeueFront =>
    rw [Station.step]
    cases here : station.flight with
    | none => exact sound
    | some flight =>
      refine sound.land here ?_
      rw [PacketSlots.requeueFront, PacketSlots.total, PacketSlots.total, length_cons, Nat.add_assoc]
  | recycle =>
    rw [Station.step]
    cases here : station.flight with
    | none => exact sound
    | some flight =>
      refine sound.land here ?_
      rw [PacketSlots.recycle, PacketSlots.total, PacketSlots.total, length_cons, Nat.add_right_comm]

end

theorem Sound.run (calls : List Call) (permitted : Along Station.step Permitted {} calls) :
    (final Station.step {} calls).Sound :=
  throughout_final _ _ _ _ (throughout_of_along _ Sound Sound Permitted
    (fun _ call sound allowed => sound.step call allowed) (fun _ sound => sound) _ calls
    Sound.initial permitted)

end Station

/-! ## The order of the packets -/

/-- The packet of a queue that is on its way. -/
def Flight.of (key : UInt8) (kind : PacketClass) : Option Flight → List (List UInt8)
  | none => []
  | some flight => if key = flight.key ∧ kind = flight.kind then [flight.packet.slice] else []

/-- The packets of a queue: the one on its way, and those that wait. -/
def Station.packets (key : UInt8) (kind : PacketClass) (station : Station) : List (List UInt8) :=
  Flight.of key kind station.flight ++ (station.queue.slots key kind).pending.map PacketBuffer.slice

namespace DownlinkQueue

variable (queue : DownlinkQueue)

theorem configure_pending (key other : UInt8) (activePaths : Nat) (kind : PacketClass) :
    ((queue.configure key activePaths).slots other kind).pending.Sublist
      (queue.slots other kind).pending := by
  rw [configure]
  split
  · exact List.Sublist.refl _
  rw [slots_rebuildRings, slots, lanes_setLane]
  split
  · rename_i same
    rw [same, ClientEgressLane.queue_configure]
    exact PacketSlots.resize_pending _ _
  · exact List.Sublist.refl _

theorem clear_pending (key other : UInt8) (kind : PacketClass) :
    ((queue.clear key).slots other kind).pending.Sublist (queue.slots other kind).pending := by
  rw [clear, slots, lanes_setLane]
  split
  · rename_i same
    rw [same, ClientEgressLane.queue_clearPending]
    exact nil_sublist _
  · exact List.Sublist.refl _

/-- A packet that is let in waits behind the others of its queue. -/
theorem store_pending (key other : UInt8) (kind otherKind : PacketClass) (bytes : List UInt8) :
    ((queue.store key kind fun slots =>
        slots.store (PacketBuffer.copyFrom bytes)).1.slots other otherKind).pending.map
          PacketBuffer.slice = (queue.slots other otherKind).pending.map PacketBuffer.slice ++
        Report.arrivals other otherKind
          (if (queue.store key kind fun slots => slots.store (PacketBuffer.copyFrom bytes)).2 then
            .accepted key kind bytes
          else .quiet) := by
  rw [store]
  split
  · dsimp only
    rw [slots_setSlots]
    cases (queue.slots key kind).store_cases (PacketBuffer.copyFrom bytes) with
    | inl refused =>
      rw [refused]
      split
      · rename_i same
        rw [same.1, same.2]
        exact (append_nil _).symm
      · exact (append_nil _).symm
    | inr stored =>
      obtain ⟨buffer, filled, accepted, _, pending⟩ := stored
      have shown : buffer.slice = bytes := by
        rw [PacketBuffer.copyFrom] at filled
        split at filled
        · cases filled
          rfl
        · cases filled
      rw [accepted, if_pos rfl, Report.arrivals]
      split
      · rename_i same
        rw [same.1, same.2, if_pos ⟨rfl, rfl⟩, pending, map_append, ← shown]
        rfl
      · rename_i different
        rw [if_neg fun same => different ⟨same.1.symm, same.2.symm⟩, append_nil]
  · exact (append_nil _).symm

end DownlinkQueue

namespace Station

variable (key : UInt8) (kind : PacketClass) (station : Station)

theorem packets_sublist {queue : DownlinkQueue}
    (kept : (queue.slots key kind).pending.Sublist (station.queue.slots key kind).pending) :
    (packets key kind { station with queue := queue }).Sublist (packets key kind station) :=
  (kept.map _).append_left _

theorem packets_store (other : UInt8) (otherKind : PacketClass) (bytes : List UInt8) :
    let stored := station.queue.store other otherKind fun slots =>
      slots.store (PacketBuffer.copyFrom bytes)
    let report := if stored.2 then Report.accepted other otherKind bytes else .quiet
    (report.departures key kind ++ packets key kind { station with queue := stored.1 }).Sublist
      (packets key kind station ++ report.arrivals key kind) := by
  intro stored report
  have none : report.departures key kind = [] := by
    cases accepted : stored.2 with
    | true => simp only [report, accepted, if_true, Report.departures]
    | false => simp only [report, accepted, Bool.false_eq_true, if_false, Report.departures]
  have waiting : (stored.1.slots key kind).pending.map PacketBuffer.slice =
      (station.queue.slots key kind).pending.map PacketBuffer.slice ++ report.arrivals key kind :=
    station.queue.store_pending other key otherKind kind bytes
  rw [none, nil_append, packets, packets, append_assoc, waiting]

/-- A call takes packets from the front of each queue, puts them behind the others, and else
at most drops some. -/
theorem step_packets (call : Call) :
    ((station.step call).2.departures key kind ++ packets key kind (station.step call).1).Sublist
      (packets key kind station ++ (station.step call).2.arrivals key kind) := by
  cases call with
  | configure other activePaths =>
    refine List.Sublist.trans ?_ (sublist_append_left _ _)
    exact packets_sublist key kind station
      (station.queue.configure_pending other key activePaths kind)
  | enqueue other otherKind packet =>
    exact packets_store key kind station other otherKind packet
  | enqueueFramed other otherKind header packet =>
    rw [Station.step, DownlinkQueue.enqueueFramed]
    simp only [PacketSlots.enqueueFramed, PacketBuffer.framed]
    exact packets_store key kind station other otherKind (header.bytes ++ packet)
  | clear other =>
    refine List.Sublist.trans ?_ (sublist_append_left _ _)
    exact packets_sublist key kind station (station.queue.clear_pending other key kind)
  | dequeue otherKind =>
    obtain ⟨after, _, _, result⟩ := station.queue.dequeue_cases otherKind
    refine List.Sublist.trans ?_ (sublist_append_left _ _)
    rw [Station.step]
    cases result with
    | inl failed =>
      rw [failed]
      refine packets_sublist key kind station ?_
      rw [DownlinkQueue.slots_setRing]
    | inr found =>
      obtain ⟨other, packet, slots, taken, same⟩ := found
      obtain ⟨waiting, _⟩ := PacketSlots.dequeue_eq_some _ taken
      rw [same]
      refine List.Sublist.trans ?_ (sublist_append_right _ _)
      show (Flight.of key kind (some ⟨other, otherKind, packet⟩) ++ _).Sublist _
      rw [Flight.of, DownlinkQueue.slots_setSlots, DownlinkQueue.slots_setRing]
      split
      · rename_i here
        rw [here.1, here.2, waiting]
        exact List.Sublist.refl _
      · exact List.Sublist.refl _
  | requeueFront =>
    rw [Station.step]
    cases here : station.flight with
    | none => exact sublist_append_left _ _
    | some flight =>
      refine List.Sublist.trans ?_ (sublist_append_left _ _)
      dsimp only
      rw [Report.departures_quiet, packets, packets, here, Flight.of, Flight.of,
        DownlinkQueue.requeueFront, DownlinkQueue.slots_setSlots]
      split
      · rename_i same
        rw [same.1, same.2]
        exact List.Sublist.refl _
      · exact List.Sublist.refl _
  | recycle =>
    rw [Station.step]
    cases here : station.flight with
    | none => exact sublist_append_left _ _
    | some flight =>
      refine List.Sublist.trans ?_ (sublist_append_left _ _)
      dsimp only
      rw [packets, packets, here, Flight.of, Flight.of, Report.departures, DownlinkQueue.recycle,
        DownlinkQueue.slots_setSlots]
      split
      · rename_i same
        rw [if_pos ⟨same.1.symm, same.2.symm⟩, if_pos ⟨same.1.symm, same.2.symm⟩, ← same.1, ← same.2]
        exact List.Sublist.refl _
      rename_i different
      rw [if_neg fun same => different ⟨same.1.symm, same.2.symm⟩,
        if_neg fun same => different ⟨same.1.symm, same.2.symm⟩]
      exact List.Sublist.refl _

theorem run_packets (calls : List Call) :
    ((outputs Station.step {} calls).flatMap (Report.departures key kind) ++
        packets key kind (final Station.step {} calls)).Sublist
      ((outputs Station.step {} calls).flatMap (Report.arrivals key kind)) := by
  have ordered := lossy_queue_law Station.step (packets key kind)
    (fun station call => (station.step call).2.departures key kind)
    (fun station call => (station.step call).2.arrivals key kind)
    (fun station call => station.step_packets key kind call) {} calls
  have empty : packets key kind {} = [] := by cases kind <;> rfl
  rwa [collected_outputs, collected_outputs, empty, nil_append] at ordered

end Station

/-- After any calls in the engine's order, each queue has the buffers of its lane's profile,
up to the one on its way; packets wait in lanes with paths only; a packet of a class is found
unless none waits; the packets of a queue leave in the order of their arrival; and every
cursor is inside of its ring. -/
theorem downlink_queue_keeps_its_buffers (calls : List Call)
    (permitted : Along Station.step Permitted {} calls) :
    let station := final Station.step {} calls
    (∀ key kind, (station.queue.slots key kind).free.length +
        (station.queue.slots key kind).pending.length + station.inFlight key kind =
          (profileForActivePaths (station.queue.lanes key).activePaths).slots kind) ∧
      (∀ key kind, (station.queue.slots key kind).pending ≠ [] →
        (station.queue.lanes key).activePaths ≠ 0) ∧
      (∀ kind, (station.queue.dequeue kind).2 = none ↔
        ∀ key, (station.queue.slots key kind).pending = []) ∧
      (∀ key kind, ((outputs Station.step {} calls).flatMap
          (Report.departures key kind)).Sublist
        ((outputs Station.step {} calls).flatMap (Report.arrivals key kind))) ∧
      ∀ kind, (station.queue.ring kind).cursor < max (station.queue.ring kind).keys.length 1 := by
  intro station
  have sound := Station.Sound.run calls permitted
  refine ⟨sound.buffers, ?_, ?_, ?_, fun kind => (sound.built kind).2⟩
  · intro key kind waiting unused
    exact waiting (sound.idle unused kind)
  · intro kind
    rw [sound.built.dequeue_eq_none_iff]
    constructor
    · intro empty key
      by_cases unused : (station.queue.lanes key).activePaths = 0
      · exact sound.idle unused kind
      · exact empty key unused
    · intro empty key _
      exact empty key
  · intro key kind
    exact (sublist_append_left _ _).trans (Station.run_packets key kind calls)

namespace Sample

/-- A client with two paths gets three packets. The first one is sent, and the second one is
put back; then the paths are gone. -/
def downlinkCalls : List Call :=
  [.configure 2 2, .enqueue 2 .small [1], .enqueue 2 .small [2], .enqueueFramed 2 .bulk ⟨7, 8, 9⟩ [3],
    .enqueue 3 .small [4], .dequeue .small, .recycle, .dequeue .small, .requeueFront,
    .configure 2 0]

end Sample

open Sample

/-- The first packet left and the others were dropped; all buffers of the lane are gone. -/
theorem dropped_lane_has_no_buffers : Along Station.step Permitted {} downlinkCalls ∧
      (outputs Station.step {} downlinkCalls).flatMap (Report.departures 2 .small) = [[1]] ∧
      (outputs Station.step {} downlinkCalls).flatMap (Report.arrivals 2 .small) = [[1], [2]] ∧
      ∀ kind, ((final Station.step {} downlinkCalls).queue.dequeue kind).2 = none ↔
        ∀ key, ((final Station.step {} downlinkCalls).queue.slots key kind).pending = [] := by
  have permitted : Along Station.step Permitted {} downlinkCalls := by decide +kernel
  refine ⟨permitted, by decide +kernel, by decide +kernel, ?_⟩
  exact (downlink_queue_keeps_its_buffers downlinkCalls permitted).2.2.1

end Csqtt.Downlink
