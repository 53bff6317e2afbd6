import Mathlib.Data.List.Rotate

/-!
# Round robin

A ring lists keys, each as often as it is to be served in one round, and a cursor stands
at the key whose turn is next. `seek` gives turns away until one of the keys can be served.

The laws speak of `order`, the keys in the order of their turns from the cursor on. A turn
moves the first key of the order behind the last one. A search through the whole ring fails
only if no key can be served. When a ring gets other keys, its cursor is brought back into
it, so the order is a rotation of the keys whatever happened before.
-/

namespace Csqtt.RoundRobin

open List

universe u v
variable {α : Type u} {β : Type v}

/-- Keys and the position of the next turn. -/
structure KeyRing (α : Type u) where
  keys : List α := []
  cursor : Nat := 0

variable {key : α}

namespace KeyRing

/-- Give the next turn, and go back to the first key after the last one. -/
def next (ring : KeyRing α) : KeyRing α × Option α :=
  match ring.keys[ring.cursor]? with
  | none => (ring, none)
  | some key =>
    ({ ring with cursor := if ring.cursor + 1 = ring.keys.length then 0 else ring.cursor + 1 },
      some key)

/-- Give turns, as many as there are attempts, until a key is served. -/
def seek (serve : α → Option β) : Nat → KeyRing α → KeyRing α × Option (α × β)
  | 0, ring => (ring, none)
  | attempts + 1, ring =>
    match ring.next with
    | (ring, none) => (ring, none)
    | (ring, some key) =>
      match serve key with
      | some value => (ring, some (key, value))
      | none => seek serve attempts ring

/-- Replace the keys and bring the cursor back into the ring. -/
def rebuild (ring : KeyRing α) (keys : List α) : KeyRing α :=
  ⟨keys, ring.cursor % max keys.length 1⟩

/-- The cursor is inside of the ring; in a ring without keys it is zero. -/
def Inside (ring : KeyRing α) : Prop := ring.cursor < max ring.keys.length 1

/-- The keys in the order of their turns. -/
def order (ring : KeyRing α) : List α := ring.keys.rotate ring.cursor

variable {ring : KeyRing α}

theorem rebuild_inside (keys : List α) : (ring.rebuild keys).Inside :=
  Nat.mod_lt _ (Nat.lt_of_lt_of_le Nat.zero_lt_one (Nat.le_max_right _ _))

theorem order_perm : ring.order.Perm ring.keys := rotate_perm _ _

theorem order_length : ring.order.length = ring.keys.length := length_rotate _ _

theorem next_keys : ring.next.1.keys = ring.keys := by
  rw [next]
  split
  · rfl
  · rfl

theorem next_inside (inside : ring.Inside) : ring.next.1.Inside := by
  rw [next]
  split
  · exact inside
  rename_i here
  have bound := (List.getElem?_eq_some_iff.mp here).1
  show (if ring.cursor + 1 = ring.keys.length then 0 else ring.cursor + 1) < max ring.keys.length 1
  split
  · omega
  · omega

/-- The first key of the order gets the turn, and is the last one then. -/
theorem next_of_order (inside : ring.Inside) {rest : List α} (turn : ring.order = key :: rest) :
    ring.next.2 = some key ∧ ring.next.1.order = rest ++ [key] := by
  have long : 0 < ring.keys.length := by
    rw [← order_length, turn]
    exact Nat.succ_pos _
  have bound : ring.cursor < ring.keys.length := by
    rw [Inside] at inside
    omega
  have here : ring.keys[ring.cursor]? = some key := by
    have first : (ring.keys.rotate ring.cursor)[0]? = some key := by
      rw [← order, turn]
      rfl
    rwa [getElem?_rotate long, Nat.zero_add, Nat.mod_eq_of_lt bound] at first
  have moved : ring.keys.rotate (ring.cursor + 1) = rest ++ [key] := by
    rw [← rotate_rotate, ← order, turn, rotate_cons_succ, rotate_zero]
  rw [next, here]
  refine ⟨rfl, ?_⟩
  rw [order]
  dsimp only
  split
  · rename_i atEnd
    rw [← moved, atEnd, rotate_length, rotate_zero]
  · exact moved

section

variable (serve : α → Option β) (attempts : Nat)

include serve attempts

theorem seek_keys : (ring.seek serve attempts).1.keys = ring.keys := by
  induction attempts generalizing ring with
  | zero => rfl
  | succ attempts ih =>
    rw [seek]
    split
    · rename_i same
      exact (congrArg (fun pair => pair.1.keys) same).symm.trans next_keys
    rename_i moved key same
    have kept : moved.keys = ring.keys :=
      (congrArg (fun pair => pair.1.keys) same).symm.trans next_keys
    split
    · exact kept
    · exact ih.trans kept

theorem seek_inside (inside : ring.Inside) : (ring.seek serve attempts).1.Inside := by
  induction attempts generalizing ring with
  | zero => exact inside
  | succ attempts ih =>
    have after := next_inside inside
    rw [seek]
    split
    · rename_i same
      rw [same] at after
      exact after
    rename_i moved key same
    rw [same] at after
    split
    · exact after
    · exact ih after

/-- A search serves the first of its turns that can be served. -/
theorem seek_eq (inside : ring.Inside) (within : attempts ≤ ring.keys.length) :
    (ring.seek serve attempts).2 =
      (ring.order.take attempts).findSome? fun key => (serve key).map fun value => (key, value) := by
  induction attempts generalizing ring with
  | zero => rfl
  | succ attempts ih =>
    cases turn : ring.order with
    | nil =>
      rw [← order_length, turn] at within
      exact absurd within (Nat.not_succ_le_zero _)
    | cons key rest =>
      obtain ⟨given, moved⟩ := next_of_order inside turn
      have long : attempts ≤ rest.length := by
        rw [← order_length, turn] at within
        exact Nat.le_of_succ_le_succ within
      have split : ring.next = (ring.next.1, some key) := Prod.ext rfl given
      rw [seek, split, take_succ_cons, findSome?_cons]
      dsimp only
      cases serve key with
      | some value => rfl
      | none =>
        have later := ih (next_inside inside)
          (by rw [next_keys]; exact Nat.le_of_succ_le within)
        rwa [moved, take_append_of_le_length long] at later

end

/-- A search through the whole ring fails precisely if no key can be served. -/
theorem seek_eq_none_iff (serve : α → Option β) (inside : ring.Inside) :
    (ring.seek serve ring.keys.length).2 = none ↔ ∀ key ∈ ring.keys, serve key = none := by
  rw [seek_eq serve _ inside (Nat.le_refl _), ← order_length, take_length, findSome?_eq_none_iff]
  simp [order_perm.mem_iff]

/-- What a search finds is what the key it stops at is served. -/
theorem seek_serves {serve : α → Option β} {attempts : Nat} {value : β} {after : KeyRing α}
    (found : ring.seek serve attempts = (after, some (key, value))) : serve key = some value := by
  induction attempts generalizing ring with
  | zero => cases found
  | succ attempts ih =>
    rw [seek] at found
    split at found
    · cases found
    rename_i moved first same
    split at found
    · rename_i served
      cases found
      exact served
    · exact ih found

/-- If the first key of the order can be served, it is. -/
theorem seek_of_order {serve : α → Option β} (inside : ring.Inside) {rest : List α}
    (turn : ring.order = key :: rest) {value : β} (ready : serve key = some value) :
    ring.seek serve ring.keys.length = (ring.next.1, some (key, value)) := by
  have split : ring.next = (ring.next.1, some key) :=
    Prod.ext rfl (next_of_order inside turn).1
  rw [← order_length, turn, length_cons, seek, split]
  dsimp only
  rw [ready]

end KeyRing

/-- Keys that are repeated by their weights are counted by them. -/
theorem count_repeated [DecidableEq α] (weight : α → Nat) {keys : List α} (distinct : keys.Nodup)
    (member : key ∈ keys) :
    (keys.flatMap fun other => List.replicate (weight other) other).count key = weight key := by
  induction keys with
  | nil => cases member
  | cons first rest ih =>
    obtain ⟨fresh, others⟩ := nodup_cons.mp distinct
    rw [flatMap_cons, count_append, count_replicate]
    by_cases same : first = key
    · have absent : key ∉ rest.flatMap fun other => List.replicate (weight other) other := by
        intro inside
        obtain ⟨other, later, repeated⟩ := mem_flatMap.mp inside
        rw [same, eq_of_mem_replicate repeated] at fresh
        exact fresh later
      rw [count_eq_zero_of_not_mem absent, same, beq_self_eq_true, if_pos rfl, Nat.add_zero]
    · rw [if_neg (beq_iff_eq.not.mpr same), Nat.zero_add]
      exact ih others ((mem_cons.mp member).resolve_left (Ne.symm same))

end Csqtt.RoundRobin
