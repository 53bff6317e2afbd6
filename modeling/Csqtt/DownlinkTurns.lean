import Csqtt.DownlinkQueue

/-!
# Turns of the lanes

While packets wait in all lanes with paths, each call to take a packet serves the lane whose
turn it is. One round of the ring then serves every lane as often as it is listed there,
wherever the cursor stood at first: the lanes that are served are the order of the ring.
-/

namespace Csqtt.Downlink

open List Runs DownlinkQueue Station

open Routes (PacketClass)
open RoundRobin (KeyRing)

/-- No lane is reconfigured, and a packet of the class is taken only while some wait in every
lane with paths. -/
def Backlogged (kind : PacketClass) (station : Station) : Call → Prop
  | .configure _ _ => False
  | .dequeue other => other = kind → ∀ key, (station.queue.lanes key).activePaths ≠ 0 →
      (station.queue.slots key kind).pending ≠ []
  | _ => True

instance Backlogged.decidable (kind : PacketClass) (station : Station) :
    ∀ call, Decidable (Backlogged kind station call)
  | .configure _ _ => isFalse id
  | .dequeue other =>
    have : Decidable (∀ key ∈ laneKeys, (station.queue.lanes key).activePaths ≠ 0 →
        (station.queue.slots key kind).pending ≠ []) := List.decidableBAll ..
    decidable_of_iff _ (imp_congr_right fun (_ : other = kind) => forall_laneKeys)
  | .enqueue _ _ _ | .enqueueFramed _ _ _ _ | .clear _ | .requeueFront | .recycle => isTrue trivial

/-- The turns of a lane in one round. -/
def turnsPerRound (activePaths : Nat) : PacketClass → Nat
  | .small | .medium => 1
  | .bulk => activePaths

/-- A call to take a packet of a class. -/
def Call.takes (kind : PacketClass) : Call → Bool
  | .dequeue other => other = kind
  | _ => false

variable {key : UInt8} {kind : PacketClass}

namespace DownlinkQueue

variable {queue : DownlinkQueue}

theorem laneKeys_nodup : laneKeys.Nodup := by
  refine List.Nodup.map_on ?_ nodup_range
  intro first inside second alsoInside same
  have bytes := congrArg UInt8.toNat same
  rwa [UInt8.toNat_ofNat_of_lt' (mem_range.mp inside),
    UInt8.toNat_ofNat_of_lt' (mem_range.mp alsoInside)] at bytes

theorem count_ringKeys (active : (queue.lanes key).activePaths ≠ 0) (kind : PacketClass) :
    (queue.ringKeys kind).count key = turnsPerRound (queue.lanes key).activePaths kind := by
  have distinct : queue.activeKeys.Nodup := laneKeys_nodup.filter _
  have listed : key ∈ queue.activeKeys := queue.mem_activeKeys.mpr active
  cases kind with
  | small | medium => exact count_eq_one_of_mem distinct listed
  | bulk => exact RoundRobin.count_repeated (fun other => (queue.lanes other).activePaths) distinct listed

/-- The queue with other packets only: the same paths, and the same ring of a class. -/
structure Alike (kind : PacketClass) (before after : DownlinkQueue) : Prop where
  paths : ∀ key, (after.lanes key).activePaths = (before.lanes key).activePaths
  ring : after.ring kind = before.ring kind

theorem Alike.refl (kind : PacketClass) : Alike kind queue queue := ⟨fun _ => rfl, rfl⟩

theorem Alike.setSlots (key : UInt8) (other kind : PacketClass) (slots : PacketSlots) :
    Alike kind queue (queue.setSlots key other slots) :=
  ⟨fun lane => queue.activePaths_setSlots key lane other slots, queue.ring_setSlots key other kind slots⟩

theorem Alike.clear (key : UInt8) (kind : PacketClass) : Alike kind queue (queue.clear key) := by
  refine ⟨?_, by cases kind <;> rfl⟩
  intro other
  rw [DownlinkQueue.clear, lanes_setLane]
  split
  · rename_i same
    rw [same]
    rfl
  · rfl

theorem Alike.store (key : UInt8) (other kind : PacketClass)
    (enter : PacketSlots → PacketSlots × Bool) :
    Alike kind queue (queue.store key other enter).1 := by
  rw [DownlinkQueue.store]
  split
  · exact Alike.setSlots key other kind _
  · exact Alike.refl kind

theorem BuiltFor.alike {after : DownlinkQueue} (built : queue.BuiltFor kind)
    (alike : Alike kind queue after) : after.BuiltFor kind := by
  rw [BuiltFor, ringKeys_congr alike.paths, alike.ring]
  exact built

/-- While packets wait in all lanes with paths, the lane whose turn it is is served. -/
theorem BuiltFor.dequeue_backlogged (built : queue.BuiltFor kind) {rest : List UInt8}
    (turn : (queue.ring kind).order = key :: rest)
    (waiting : ∀ lane, (queue.lanes lane).activePaths ≠ 0 → (queue.slots lane kind).pending ≠ []) :
    ∃ packet slots, queue.dequeue kind =
      ((queue.setRing kind (queue.ring kind).next.1).setSlots key kind slots, some (key, packet)) := by
  have listed : key ∈ queue.ringKeys kind := by
    rw [← built.1, ← KeyRing.order_perm.mem_iff, turn]
    exact mem_cons_self
  cases taken : (queue.slots key kind).dequeue with
  | none =>
    exact absurd ((PacketSlots.dequeue_eq_none_iff _).mp taken)
      (waiting key ((queue.mem_ringKeys kind).mp listed))
  | some found =>
    obtain ⟨packet, slots⟩ := found
    refine ⟨packet, slots, ?_⟩
    have sought : (queue.ring kind).seek (fun lane => (queue.slots lane kind).dequeue)
        (queue.ring kind).keys.length = ((queue.ring kind).next.1, some (key, packet, slots)) :=
      KeyRing.seek_of_order built.2 turn taken
    rw [dequeue]
    simp only [sought]

end DownlinkQueue

namespace Station

variable {station : Station}

/-- Calls that do not take a packet of the class give no turn of it away. -/
theorem step_alike {call : Call} (backlogged : Backlogged kind station call)
    (other : call.takes kind = false) :
    DownlinkQueue.Alike kind station.queue (station.step call).1.queue ∧
      (station.step call).2.turns kind = [] := by
  cases call with
  | configure key activePaths => exact backlogged.elim
  | enqueue key otherKind packet =>
    refine ⟨DownlinkQueue.Alike.store key otherKind kind fun slots => slots.enqueue packet, ?_⟩
    rw [step]
    dsimp only
    split
    · rfl
    · rfl
  | enqueueFramed key otherKind header packet =>
    refine ⟨DownlinkQueue.Alike.store key otherKind kind fun slots =>
      slots.enqueueFramed header packet, ?_⟩
    rw [step]
    dsimp only
    split
    · rfl
    · rfl
  | clear key => exact ⟨DownlinkQueue.Alike.clear key kind, rfl⟩
  | dequeue otherKind =>
    have differs : otherKind ≠ kind := of_decide_eq_false other
    obtain ⟨after, _, _, result⟩ := station.queue.dequeue_cases otherKind
    have turned : DownlinkQueue.Alike kind station.queue (station.queue.setRing otherKind after) := by
      refine ⟨fun key => by rw [lanes_setRing], ?_⟩
      rw [ring_setRing, if_neg (Ne.symm differs)]
    rw [step]
    cases result with
    | inl failed =>
      rw [failed]
      exact ⟨turned, rfl⟩
    | inr found =>
      obtain ⟨key, packet, slots, _, same⟩ := found
      have entered : DownlinkQueue.Alike kind (station.queue.setRing otherKind after) _ :=
        DownlinkQueue.Alike.setSlots key otherKind kind slots
      rw [same]
      refine ⟨⟨fun lane => (entered.paths lane).trans (turned.paths lane),
        entered.ring.trans turned.ring⟩, ?_⟩
      exact if_neg differs
  | requeueFront | recycle =>
    rw [step]
    cases station.flight with
    | none => exact ⟨DownlinkQueue.Alike.refl kind, rfl⟩
    | some flight => exact ⟨DownlinkQueue.Alike.setSlots flight.key flight.kind kind _, rfl⟩

/-- A turn of the class goes to the first lane of the order, which is the last one then. -/
theorem step_turn (built : station.queue.BuiltFor kind)
    (backlogged : Backlogged kind station (.dequeue kind)) {rest : List UInt8}
    (turn : (station.queue.ring kind).order = key :: rest) :
    (station.step (.dequeue kind)).1.queue.BuiltFor kind ∧
      ((station.step (.dequeue kind)).1.queue.ring kind).order = rest ++ [key] ∧
      (station.step (.dequeue kind)).2.turns kind = [key] := by
  obtain ⟨packet, slots, same⟩ := built.dequeue_backlogged turn (backlogged rfl)
  have served : station.step (.dequeue kind) =
      (⟨(station.queue.setRing kind (station.queue.ring kind).next.1).setSlots key kind slots,
        some ⟨key, kind, packet⟩⟩, .served kind key) := by
    rw [step, same]
  have ring : ((station.step (.dequeue kind)).1.queue.ring kind) = (station.queue.ring kind).next.1 := by
    rw [served]
    rw [ring_setSlots, ring_setRing, if_pos rfl]
  have paths : ∀ lane, ((station.step (.dequeue kind)).1.queue.lanes lane).activePaths =
      (station.queue.lanes lane).activePaths := by
    intro lane
    rw [served]
    dsimp only
    rw [activePaths_setSlots, lanes_setRing]
  refine ⟨⟨?_, ?_⟩, ?_, ?_⟩
  · rw [ring, KeyRing.next_keys, ringKeys_congr paths]
    exact built.1
  · rw [ring]
    exact KeyRing.next_inside built.2
  · rw [ring]
    exact (KeyRing.next_of_order built.2 turn).2
  · rw [served]
    exact if_pos rfl

/-- In a run with at most one round of turns of a class, they go to the lanes in the order of
the ring. The induction follows the calls; a turn moves the first lane of the order behind
the last one, where the rest of the round does not come. -/
theorem turns_eq_take (calls : List Call) (built : station.queue.BuiltFor kind)
    (backlogged : Along step (Backlogged kind) station calls)
    (within : calls.countP (Call.takes kind) ≤ (station.queue.ring kind).order.length) :
    (outputs step station calls).flatMap (Report.turns kind) =
      (station.queue.ring kind).order.take (calls.countP (Call.takes kind)) := by
  induction calls generalizing station with
  | nil => rfl
  | cons call rest ih =>
    obtain ⟨here, later⟩ := backlogged
    rw [outputs, flatMap_cons]
    cases takes : call.takes kind with
    | false =>
      obtain ⟨alike, quiet⟩ := step_alike here takes
      rw [countP_cons_of_neg (by rw [takes]; exact Bool.false_ne_true)] at within ⊢
      rw [quiet, nil_append, ← alike.ring]
      exact ih (built.alike alike) later (by rw [alike.ring]; exact within)
    | true =>
      have isTake : call = .dequeue kind := by
        cases call with
        | dequeue other => rw [of_decide_eq_true takes]
        | _ => cases takes
      rw [countP_cons_of_pos takes] at within ⊢
      subst isTake
      cases turn : (station.queue.ring kind).order with
      | nil =>
        rw [turn] at within
        exact absurd within (Nat.not_succ_le_zero _)
      | cons key others =>
        obtain ⟨next, order, served⟩ := step_turn built here turn
        rw [turn, length_cons, Nat.add_le_add_iff_right] at within
        have left := ih next later
          (by rw [order, length_append]; exact Nat.le_add_right_of_le within)
        rw [left, served, order, take_append_of_le_length within, take_succ_cons]
        rfl

end Station

/-- Whatever the paths of the lanes are and wherever the cursor stands, one round of turns,
with packets waiting in all lanes with paths and no lane reconfigured, serves every such lane
once for each path if the packets are bulk, up to 126, and once otherwise. -/
theorem turns_follow_the_paths (station : Station) (kind : PacketClass)
    (built : station.queue.BuiltFor kind) (paths : UInt8 → Nat)
    (configured : ∀ key, (station.queue.lanes key).activePaths = min (paths key) 126)
    (calls : List Call) (backlogged : Along step (Backlogged kind) station calls)
    (round : calls.countP (Call.takes kind) = (station.queue.ring kind).keys.length)
    (key : UInt8) (active : paths key ≠ 0) :
    ((outputs step station calls).flatMap (Report.turns kind)).count key =
      turnsPerRound (min (paths key) 126) kind := by
  have inRing : (station.queue.lanes key).activePaths ≠ 0 := by
    rw [configured]
    omega
  rw [← KeyRing.order_length] at round
  rw [turns_eq_take calls built backlogged (Nat.le_of_eq round), round, take_length,
    KeyRing.order_perm.count_eq, built.1, count_ringKeys inRing, configured]

namespace Sample

/-- The second client has two paths and the third one has one; three bulk packets wait for
each, and one more was sent. -/
def backlog : List Call :=
  [.configure 2 2, .configure 3 1, .enqueue 2 .bulk [0], .dequeue .bulk, .recycle,
    .enqueue 2 .bulk [1], .enqueue 2 .bulk [2], .enqueue 2 .bulk [3], .enqueue 3 .bulk [4],
    .enqueue 3 .bulk [5], .enqueue 3 .bulk [6]]

/-- One round. -/
def bulkRound : List Call :=
  [.dequeue .bulk, .recycle, .dequeue .bulk, .requeueFront, .dequeue .bulk, .recycle]

/-- The paths of the clients. -/
def clientPaths (key : UInt8) : Nat := if key = 2 then 2 else if key = 3 then 1 else 0

end Sample

open Sample

/-- From the middle of the ring, the second client is served twice and the third one once. -/
theorem second_client_is_served_twice : (outputs step (final step {} backlog) bulkRound).flatMap
        (Report.turns .bulk) = [2, 3, 2] ∧ ((outputs step (final step {} backlog)
        bulkRound).flatMap (Report.turns .bulk)).count 2 = 2 := by
  have permitted : Along step Permitted {} backlog := by decide +kernel
  refine ⟨by decide +kernel, ?_⟩
  exact turns_follow_the_paths (final step {} backlog) .bulk
    ((Station.Sound.run backlog permitted).built .bulk) clientPaths
    (forall_laneKeys.mp (by decide +kernel)) bulkRound (by decide +kernel)
    (by decide +kernel) 2 (by decide)

end Csqtt.Downlink
