import Mathlib.Data.List.Basic
import Mathlib.Data.List.Induction
import Mathlib.Tactic.Ring

/-!
# Byte strings, slices and network byte order

Buffers are lists of bytes. `slice` reads the half-open range of a buffer and
`splice` overwrites a range in place, as a copy into a subslice does. Writing two
adjacent ranges is writing their concatenation once; reading back a written range
returns what was written. Those two laws turn a sequence of positional writes
into one concatenation.

Multi-byte fields are big-endian. The encoder takes an explicit width, so one
round-trip law covers all field sizes.
-/

namespace Csqtt.Bytes

open List Nat

/-- The bytes of a buffer from `start` up to, but excluding, `stop`. -/
def slice (buffer : List UInt8) (start stop : Nat) : List UInt8 :=
  (buffer.drop start).take (stop - start)

/-- Overwrite a buffer at `start`. Callers check that the range lies inside. -/
def splice (buffer : List UInt8) (start : Nat) (bytes : List UInt8) : List UInt8 :=
  buffer.take start ++ bytes ++ buffer.drop (start + bytes.length)

/-- The byte at a position; callers check the bound before reading. -/
def byteAt (buffer : List UInt8) (index : Nat) : UInt8 := buffer.getD index 0

/-- The low `width` bytes of a number, most significant first. -/
def toBe : Nat → Nat → List UInt8
  | 0, _ => []
  | width + 1, value => toBe width (value / 256) ++ [UInt8.ofNat value]

/-- The number denoted by a big-endian byte string. -/
def fromBe (bytes : List UInt8) : Nat := bytes.foldl (fun value byte => value * 256 + byte.toNat) 0

@[simp] theorem toBe_length (width value : Nat) : (toBe width value).length = width := by
  induction width generalizing value with
  | zero => rfl
  | succ width ih => simp [toBe, ih]

/-- Decoding the last byte of a string scales the value before it. -/
theorem fromBe_concat (bytes : List UInt8) (last : UInt8) :
    fromBe (bytes ++ [last]) = fromBe bytes * 256 + last.toNat := by
  simp [fromBe]

/-- Decoding an encoded field gives its value modulo the field size. -/
theorem fromBe_toBe (width value : Nat) : fromBe (toBe width value) = value % 256 ^ width := by
  induction width generalizing value with
  | zero => simp [toBe, fromBe, mod_one]
  | succ width ih =>
    have low : (UInt8.ofNat value).toNat = value % 256 := UInt8.toNat_ofNat'
    have split : value % (256 * 256 ^ width) = value % 256 + 256 * (value / 256 % 256 ^ width) :=
      mod_mul
    rw [toBe, fromBe_concat, ih, low, pow_succ', split]
    ring

/-- A field of two bytes holds every sixteen-bit value. -/
theorem fromBe_u16 (value : UInt16) : fromBe (toBe 2 value.toNat) = value.toNat := by
  rw [fromBe_toBe]
  exact mod_eq_of_lt value.toNat_lt

/-- A field of four bytes holds every thirty-two-bit value. -/
theorem fromBe_u32 (value : UInt32) : fromBe (toBe 4 value.toNat) = value.toNat := by
  rw [fromBe_toBe]
  exact mod_eq_of_lt value.toNat_lt

/-- A field of eight bytes holds every sixty-four-bit value. -/
theorem fromBe_u64 (value : UInt64) : fromBe (toBe 8 value.toNat) = value.toNat := by
  rw [fromBe_toBe]
  exact mod_eq_of_lt value.toNat_lt

/-- Values that fit a field are told apart by its bytes. -/
theorem toBe_inj {width first second : Nat} (same : toBe width first = toBe width second)
    (firstFits : first < 256 ^ width) (secondFits : second < 256 ^ width) : first = second := by
  have decoded := congrArg fromBe same
  rwa [fromBe_toBe, fromBe_toBe, mod_eq_of_lt firstFits, mod_eq_of_lt secondFits] at decoded

/-- Overwriting inside a buffer keeps its length. -/
theorem splice_length (buffer bytes : List UInt8) (start : Nat)
    (inside : start + bytes.length ≤ buffer.length) :
    (splice buffer start bytes).length = buffer.length := by
  simp only [splice, length_append, length_take, length_drop]
  omega

/-- Two adjacent writes are one write of the concatenation. -/
theorem splice_splice (buffer first second : List UInt8) (start : Nat)
    (inside : start + first.length ≤ buffer.length) :
    splice (splice buffer start first) (start + first.length) second =
      splice buffer start (first ++ second) := by
  have width : (buffer.take start ++ first).length = start + first.length := by
    simp only [length_append, length_take]
    omega
  have kept : (splice buffer start first).take (start + first.length) =
      buffer.take start ++ first := by
    rw [splice, ← width, take_left]
  have beyond : (splice buffer start first).drop (start + first.length + second.length) =
      buffer.drop (start + first.length + second.length) := by
    rw [splice, ← drop_drop, ← width, drop_left, drop_drop, width]
  rw [splice, kept, beyond]
  simp [splice, add_assoc]

/-- Reading back a written range returns what was written. -/
theorem slice_splice (buffer bytes : List UInt8) (start : Nat)
    (inside : start + bytes.length ≤ buffer.length) :
    slice (splice buffer start bytes) start (start + bytes.length) = bytes := by
  have width : (buffer.take start).length = start := by
    rw [length_take]
    omega
  rw [slice, splice, append_assoc, drop_append_of_le_length (by omega),
    drop_eq_nil_of_le (by omega), nil_append, Nat.add_sub_cancel_left, take_left]

/-- A slice spanning a middle part is that part. -/
theorem slice_middle (front middle back : List UInt8) :
    slice (front ++ middle ++ back) front.length (front.length + middle.length) = middle := by
  rw [slice, append_assoc, drop_left, Nat.add_sub_cancel_left, take_left]

/-- A slice whose bounds are the borders of a middle part is that part. -/
theorem slice_eq_middle (buffer front middle back : List UInt8) (start stop : Nat)
    (split : buffer = front ++ (middle ++ back)) (first : start = front.length)
    (last : stop = front.length + middle.length) : slice buffer start stop = middle := by
  rw [split, first, last, ← append_assoc]
  exact slice_middle front middle back

variable (buffer : List UInt8)

/-- The length of a slice that lies inside its buffer. -/
theorem slice_length (start stop : Nat) (inside : stop ≤ buffer.length) :
    (slice buffer start stop).length = stop - start := by
  simp only [slice, length_take, length_drop]
  omega

/-- A write that starts where the last one ended extends it. -/
theorem splice_next (buffer done more : List UInt8) (start position : Nat)
    (adjacent : position = start + done.length) (inside : start + done.length ≤ buffer.length) :
    splice (splice buffer start done) position more = splice buffer start (done ++ more) := by
  rw [adjacent]
  exact splice_splice buffer done more start inside

/-- Overwriting a range that was just written forgets what was written there. -/
theorem splice_replace (buffer kept old new : List UInt8) (start position : Nat)
    (adjacent : position = start + kept.length) (same : old.length = new.length)
    (inside : start + kept.length ≤ buffer.length) :
    splice (splice buffer start (kept ++ old)) position new =
      splice buffer start (kept ++ new) := by
  have width : (buffer.take start ++ kept).length = start + kept.length := by
    simp only [length_append, length_take]
    omega
  have written : splice buffer start (kept ++ old) =
      (buffer.take start ++ kept) ++ (old ++ buffer.drop (start + kept.length + old.length)) := by
    simp [splice, add_assoc]
  have beyond : (splice buffer start (kept ++ old)).drop
      (start + kept.length + new.length) =
      buffer.drop (start + kept.length + old.length) := by
    rw [written, ← drop_drop, ← width, drop_left, ← same, drop_left]
  have before : (splice buffer start (kept ++ old)).take (start + kept.length) =
      buffer.take start ++ kept := by
    rw [written, ← width, take_left]
  rw [adjacent, splice, before, beyond, same]
  simp [splice, add_assoc]

/-- Reading behind a written range is reading the original buffer. -/
theorem slice_splice_after (buffer bytes : List UInt8) (start first last : Nat)
    (inside : start ≤ buffer.length) (after : start + bytes.length ≤ first) :
    slice (splice buffer start bytes) first last = slice buffer first last := by
  have width : (buffer.take start ++ bytes).length = start + bytes.length := by
    simp only [length_append, length_take]
    omega
  obtain ⟨extra, rfl⟩ := Nat.exists_eq_add_of_le after
  rw [slice, slice, splice, ← drop_drop, ← width, drop_left, drop_drop, width]

/-- A slice of a slice is a slice of the buffer. -/
theorem slice_slice (start stop first last : Nat) (inside : start + last ≤ stop) :
    slice (slice buffer start stop) first last = slice buffer (start + first) (start + last) := by
  simp only [slice, drop_take, drop_drop, take_take]
  congr 1
  omega

/-- Buffers that agree on a range agree on every part of it. -/
theorem slice_eq_of_slice_eq {first second : List UInt8} {start stop low high : Nat}
    (same : slice first start stop = slice second start stop) (behind : start ≤ low)
    (inside : high ≤ stop) : slice first low high = slice second low high := by
  rcases lt_or_ge low high with before | empty
  · have parts := congrArg (slice · (low - start) (high - start)) same
    rw [slice_slice _ _ _ _ _ (by omega), slice_slice _ _ _ _ _ (by omega)] at parts
    rwa [Nat.add_sub_of_le behind, Nat.add_sub_of_le (by omega)] at parts
  · simp [slice, Nat.sub_eq_zero_of_le empty]

/-- A number is bounded by its number of bytes. -/
theorem fromBe_lt (bytes : List UInt8) : fromBe bytes < 256 ^ bytes.length := by
  induction bytes using List.reverseRecOn with
  | nil => decide
  | append_singleton bytes last ih =>
    have small := last.toNat_lt
    rw [fromBe_concat, length_append, length_singleton, pow_succ]
    omega

/-- A byte of a slice is a byte of the buffer. -/
theorem byteAt_slice (start stop index : Nat) (inside : start + index < stop) :
    byteAt (slice buffer start stop) index = byteAt buffer (start + index) := by
  have bound : index < stop - start := by omega
  simp [byteAt, slice, getD_eq_getElem?_getD, bound, getElem?_drop]

/-- The byte that stands between two parts of a buffer. -/
theorem byteAt_middle (front back : List UInt8) (byte : UInt8) (index : Nat)
    (here : index = front.length) : byteAt (front ++ (byte :: back)) index = byte := by
  simp [byteAt, here]

/-- Copy bytes into a buffer. Bytes that do not fit change nothing. -/
def overwrite (buffer : List UInt8) (position : Nat) (bytes : List UInt8) : List UInt8 :=
  if position + bytes.length ≤ buffer.length then splice buffer position bytes else buffer

@[simp] theorem overwrite_length (position : Nat) (bytes : List UInt8) :
    (overwrite buffer position bytes).length = buffer.length := by
  unfold overwrite
  split
  · exact splice_length buffer bytes position ‹_›
  · rfl

/-- A buffer differs from a base only by the bytes written from a position on. -/
def Wrote (buffer base : List UInt8) (position : Nat) (done : List UInt8) : Prop :=
  buffer = splice base position done

namespace Wrote

variable {buffer base done : List UInt8} {position : Nat}

theorem first (base : List UInt8) (position : Nat) (bytes : List UInt8)
    (fits : position + bytes.length ≤ base.length) :
    Wrote (overwrite base position bytes) base position bytes := if_pos fits

/-- A write that starts where the bytes written so far end extends them. -/
theorem next (wrote : Wrote buffer base position done) (start : Nat) (more : List UInt8)
    (adjacent : start = position + done.length)
    (fits : position + (done ++ more).length ≤ base.length) :
    Wrote (overwrite buffer start more) base position (done ++ more) := by
  rw [length_append] at fits
  have same : buffer.length = base.length := by
    rw [wrote]
    exact splice_length base done position (by omega)
  have stored : overwrite buffer start more = splice buffer start more := if_pos (by omega)
  rw [Wrote, stored, wrote]
  exact splice_next base done more position start adjacent (by omega)

/-- A write over the last bytes written so far replaces them. -/
theorem replace {kept old : List UInt8} (wrote : Wrote buffer base position (kept ++ old))
    (start : Nat) (new : List UInt8) (adjacent : start = position + kept.length)
    (same : old.length = new.length) (fits : position + (kept ++ old).length ≤ base.length) :
    Wrote (overwrite buffer start new) base position (kept ++ new) := by
  have length : buffer.length = base.length := by
    rw [wrote]
    exact splice_length base _ position fits
  rw [length_append] at fits
  have stored : overwrite buffer start new = splice buffer start new := if_pos (by omega)
  rw [Wrote, stored, wrote]
  exact splice_replace base kept old new position start adjacent same (by omega)

/-- The bytes written so far, regrouped. -/
theorem regroup {other : List UInt8} (wrote : Wrote buffer base position done)
    (same : done = other) : Wrote buffer base position other := same ▸ wrote

theorem read (wrote : Wrote buffer base position done)
    (fits : position + done.length ≤ base.length) (stop : Nat)
    (reaches : stop = position + done.length) : slice buffer position stop = done := by
  rw [wrote, reaches]
  exact slice_splice base done position fits

theorem readLast {kept last : List UInt8} (wrote : Wrote buffer base position (kept ++ last))
    (fits : position + (kept ++ last).length ≤ base.length) (start stop : Nat)
    (here : start = position + kept.length) (reaches : stop = start + last.length) :
    slice buffer start stop = last := by
  rw [length_append] at fits
  have stages := splice_splice base kept last position (by omega)
  have length := splice_length base kept position (by omega)
  rw [wrote, ← stages, reaches, here]
  exact slice_splice _ last _ (by omega)

end Wrote

end Csqtt.Bytes
