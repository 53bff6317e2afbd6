import Csqtt.Bytes

/-!
# Reading bytes with checks

A program that reads a buffer may refuse it with a message. It may also fault: an index or a range that is
not inside the buffer, a difference that is negative, or a loop that does not end. A checked computation has
these three outcomes. It is safe if it is some computation without faults.

Nothing here mentions a particular program.
-/

namespace Csqtt.Bytes

/-- A computation that may fault, may refuse with a message, or gives a value. -/
abbrev Checked (α : Type) := ExceptT String Option α

namespace Checked

variable {α β : Type}

/-- The outcome of a computation that must not happen. -/
def fault : Checked α := ExceptT.mk none

/-- A computation without faults. -/
def settled (result : Except String α) : Checked α := ExceptT.mk (some result)

/-- The computation has no faults: it gives a result, and the value of the result has a property. -/
structure Safely (checked : Checked α) (result : Except String α) (holds : α → Prop) : Prop where
  settles : checked = settled result
  gives : ∀ value, result = .ok value → holds value

namespace Safely

variable {holds : α → Prop} {shown : β → Prop}

theorem ok {value : α} (here : holds value) : Safely (pure value) (.ok value) holds := by
  refine ⟨rfl, ?_⟩
  rintro _ ⟨⟩
  exact here

theorem error (message : String) : Safely (throw message) (.error message : Except String α) holds := by
  refine ⟨rfl, ?_⟩
  intro value impossible
  cases impossible

/-- One computation after the other. -/
theorem bind {checked : Checked α} {result : Except String α} {next : α → Checked β}
    {after : α → Except String β} (first : Safely checked result holds)
    (second : ∀ value, result = .ok value → holds value → Safely (next value) (after value) shown) :
    Safely (checked >>= next) (result >>= after) shown := by
  obtain ⟨rfl, gives⟩ := first
  cases result with
  | error message => exact .error message
  | ok value => exact second value rfl (gives value rfl)

theorem imp {checked : Checked α} {result : Except String α} {weaker : α → Prop}
    (safely : Safely checked result holds) (weaken : ∀ value, holds value → weaker value) :
    Safely checked result weaker :=
  ⟨safely.settles, fun value given => weaken value (safely.gives value given)⟩

end Safely

end Checked

open Checked

/-- The byte at a position. -/
def index (bytes : List UInt8) (position : Nat) : Checked UInt8 :=
  match bytes[position]? with
  | some byte => pure byte
  | none => fault

/-- The bytes of a range. -/
def cut (bytes : List UInt8) (start stop : Nat) : Checked (List UInt8) :=
  if start ≤ stop ∧ stop ≤ bytes.length then pure (slice bytes start stop) else fault

/-- A difference that is not negative. -/
def less (minuend subtrahend : Nat) : Checked Nat :=
  if subtrahend ≤ minuend then pure (minuend - subtrahend) else fault

theorem index_eq {bytes : List UInt8} {position : Nat} (inside : position < bytes.length) :
    index bytes position = pure (byteAt bytes position) := by
  unfold index byteAt
  rw [List.getElem?_eq_getElem inside, List.getD_eq_getElem?_getD, List.getElem?_eq_getElem inside]
  rfl

theorem cut_eq {bytes : List UInt8} {start stop : Nat} (ordered : start ≤ stop)
    (inside : stop ≤ bytes.length) : cut bytes start stop = pure (slice bytes start stop) :=
  if_pos ⟨ordered, inside⟩

theorem less_eq {minuend subtrahend : Nat} (within : subtrahend ≤ minuend) :
    less minuend subtrahend = pure (minuend - subtrahend) := if_pos within

end Csqtt.Bytes
