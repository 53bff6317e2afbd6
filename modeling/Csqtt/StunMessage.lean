import Csqtt.Bytes
import Csqtt.Tiling

/-!
# STUN messages

A message is a header of twenty bytes and attributes behind it. The header has the type, the length
of the rest, the magic cookie and the transaction. An attribute has a kind, a length and a value,
which is padded to a multiple of four bytes.

A message is only made from bytes whose attributes tile the whole rest, so reading the attributes
of a message stays inside of it. `findAttribute` finds the first one of a kind, wherever it stands.

Digests are parameters. Of the code's attributes, the range of the value is left out, since it is
where the header ends plus the length of the value. The errors for lengths that do not fit a machine
word cannot occur and are left out, too.
-/

namespace Csqtt.Stun

open Bytes

/-- The digests that the protocol uses. -/
structure Digests where
  crc32 : List UInt8 → UInt32
  md5 : List UInt8 → List UInt8
  hmacSha1 : List UInt8 → List UInt8 → List UInt8
  hmacSha1_length : ∀ key data, (hmacSha1 key data).length = 20

/-- Length of a header. -/
def headerSize : Nat := 20

/-- The constant in every header. -/
def magicCookie : UInt32 := 0x2112a442

def attrFingerprint : UInt16 := 0x8028

def fingerprintXor : UInt32 := 0x5354554e

inductive Class
  | request
  | indication
  | success
  | error
deriving DecidableEq, Repr

/-- Why bytes are not a message. -/
inductive DecodeError
  | headerTruncated
  | leadingBits
  | typeZero
  | cookieMismatch
  | lengthUnaligned
  | lengthMismatch
  | attributeHeaderTruncated
  | attributeValueTruncated
deriving DecidableEq, Repr

@[ext] structure Transaction where
  bytes : List UInt8
  twelve : bytes.length = 12
deriving DecidableEq, Repr

/-- An attribute and where its header begins. -/
structure Attribute where
  kind : UInt16
  value : List UInt8
  headerStart : Nat
deriving DecidableEq, Repr

/-- A number of two bytes. -/
def lengthAt (raw : List UInt8) (position : Nat) : Nat := fromBe (slice raw position (position + 2))

/-- A length, rounded up to a multiple of four. -/
def padded (length : Nat) : Nat := (length + 3) / 4 * 4

/-- The attribute whose header begins at a position. -/
def attributeAt (raw : List UInt8) (position : Nat) : Attribute :=
  let kind := UInt16.ofNat (lengthAt raw position)
  let valueStart := position + 4
  { kind := if kind = 0x8020 then 0x0020 else kind
    value := slice raw valueStart (valueStart + lengthAt raw (position + 2))
    headerStart := position }

/-- Where the next attribute begins. -/
def attributeEnd (raw : List UInt8) (position : Nat) : Nat :=
  position + 4 + padded (lengthAt raw (position + 2))

/-- The attributes of a message. -/
def attributeLayout (raw : List UInt8) : Layout Attribute where
  item := attributeAt raw
  next := attributeEnd raw
  grows position := Nat.lt_add_right _ (Nat.lt_add_of_pos_right (by decide))

/-- Look for an attribute that does not fit. -/
def checkAttributes (raw : List UInt8) (stop : Nat) : Nat → Nat → Option DecodeError
  | 0, _ => none
  | rounds + 1, position =>
    if position < stop then
      if stop - position < 4 then some .attributeHeaderTruncated
      else
        let length := lengthAt raw (position + 2)
        let valueStart := position + 4
        let next := valueStart + padded length
        if next > stop ∨ valueStart + length > stop then some .attributeValueTruncated
        else checkAttributes raw stop rounds next
    else none

theorem le_padded (length : Nat) : length ≤ padded length := by
  unfold padded
  omega

theorem lengthAt_lt (raw : List UInt8) (position : Nat) : lengthAt raw position < 2 ^ 16 := by
  have short : (slice raw position (position + 2)).length ≤ 2 := by
    simp only [slice, List.length_take]
    omega
  exact Nat.lt_of_lt_of_le (fromBe_lt _) (Nat.pow_le_pow_right (by decide) short)

variable {raw : List UInt8} {stop position : Nat}

theorem Passes.aligned {start : Nat} {attributes : List Attribute}
    (passes : (attributeLayout raw).Passes start attributes stop) : stop % 4 = start % 4 := by
  induction passes with
  | done position => rfl
  | item position later ih =>
    have next : (attributeLayout raw).next position =
        position + 4 + (lengthAt raw (position + 2) + 3) / 4 * 4 := rfl
    omega

/-- An attribute depends on its own bytes only. -/
theorem attributeLayout_agree {other : List UInt8} {start : Nat}
    (same : slice other start stop = slice raw start stop) (position : Nat)
    (behind : start ≤ position) (inside : (attributeLayout raw).next position ≤ stop) :
    (attributeLayout other).item position = (attributeLayout raw).item position ∧
      (attributeLayout other).next position = (attributeLayout raw).next position := by
  have next : (attributeLayout raw).next position = position + 4 + padded (lengthAt raw (position + 2)) :=
    rfl
  have short := le_padded (lengthAt raw (position + 2))
  have kind : lengthAt other position = lengthAt raw position :=
    congrArg fromBe (slice_eq_of_slice_eq same behind (by omega))
  have length : lengthAt other (position + 2) = lengthAt raw (position + 2) :=
    congrArg fromBe (slice_eq_of_slice_eq same (by omega) (by omega))
  have value : slice other (position + 4) (position + 4 + lengthAt raw (position + 2)) =
      slice raw (position + 4) (position + 4 + lengthAt raw (position + 2)) :=
    slice_eq_of_slice_eq same (by omega) (by omega)
  simp [attributeLayout, attributeAt, attributeEnd, kind, length, value]

/-- An attribute inside of the bytes is as long as its value with the padding. -/
theorem next_attribute (inside : (attributeLayout raw).next position ≤ raw.length) :
    (attributeLayout raw).next position =
      position + 4 + padded ((attributeLayout raw).item position).value.length := by
  have next : (attributeLayout raw).next position = position + 4 + padded (lengthAt raw (position + 2)) :=
    rfl
  have short := le_padded (lengthAt raw (position + 2))
  have length : ((attributeLayout raw).item position).value.length = _ :=
    slice_length raw (position + 4) (position + 4 + lengthAt raw (position + 2)) (by omega)
  rw [length, Nat.add_sub_cancel_left, next]

/-- Attributes that are read one behind the other lie between the first and the last position. -/
theorem attribute_ends {attributes : List Attribute} {found : Attribute}
    (passes : (attributeLayout raw).Passes position attributes stop) (whole : stop ≤ raw.length)
    (member : found ∈ attributes) :
    position ≤ found.headerStart ∧ found.headerStart + 4 + padded found.value.length ≤ stop := by
  obtain ⟨place, behind, inside, rfl⟩ := passes.mem member
  exact ⟨behind, next_attribute (inside.trans whole) ▸ inside⟩

theorem passes_of_checked {rounds : Nat} (enough : stop - position ≤ rounds)
    (inside : position ≤ stop) (checked : checkAttributes raw stop rounds position = none) :
    ∃ attributes, (attributeLayout raw).Passes position attributes stop := by
  induction rounds generalizing position with
  | zero =>
    obtain rfl : position = stop := by omega
    exact ⟨[], .done position⟩
  | succ rounds ih =>
    by_cases before : position < stop
    · rw [checkAttributes, if_pos before] at checked
      dsimp only at checked
      split at checked
      · cases checked
      split at checked
      · cases checked
      rename_i fits
      rw [not_or, Nat.not_lt, Nat.not_lt] at fits
      obtain ⟨attributes, passes⟩ := ih (by omega) fits.1 checked
      exact ⟨_, .item position passes⟩
    · obtain rfl : position = stop := by omega
      exact ⟨[], .done position⟩

theorem checked_of_passes {attributes : List Attribute}
    (passes : (attributeLayout raw).Passes position attributes stop) (rounds : Nat) :
    checkAttributes raw stop rounds position = none := by
  induction rounds generalizing position attributes with
  | zero => rfl
  | succ rounds ih =>
    cases passes with
    | done => rw [checkAttributes, if_neg (Nat.lt_irrefl stop)]
    | item _ later =>
      have last : attributeEnd raw position ≤ stop := later.le
      rw [attributeEnd] at last
      have value := le_padded (lengthAt raw (position + 2))
      rw [checkAttributes, if_pos (by omega), if_neg (by omega)]
      rw [if_neg (by omega)]
      exact ih later

/-- A message. Its attributes tile what stands behind the header. -/
structure Message where
  raw : List UInt8
  kind : UInt16
  transaction : Transaction
  stop : Nat
  whole : raw.length = stop
  tiled : ∃ attributes, (attributeLayout raw).Passes headerSize attributes stop

/-- The transaction in a header. -/
def readTransaction (raw : List UInt8) (long : headerSize ≤ raw.length) : Transaction :=
  ⟨slice raw 8 20, slice_length raw 8 20 long⟩

namespace Message

/-- Read a message that spans all bytes. -/
def decode (raw : List UInt8) : Except DecodeError Message :=
  if long : headerSize ≤ raw.length then
    let kind := UInt16.ofNat (lengthAt raw 0)
    if kind &&& 0xc000 ≠ 0 then .error .leadingBits
    else if kind = 0 then .error .typeZero
    else if slice raw 4 8 ≠ toBe 4 magicCookie.toNat then .error .cookieMismatch
    else
      let declared := lengthAt raw 2
      if declared % 4 ≠ 0 then .error .lengthUnaligned
      else if whole : raw.length = headerSize + declared then
        match checked : checkAttributes raw (headerSize + declared) declared headerSize with
        | some error => .error error
        | none =>
          .ok ⟨raw, kind, readTransaction raw long, headerSize + declared, whole,
            passes_of_checked (by omega) (Nat.le_add_right _ _) checked⟩
      else .error .lengthMismatch
  else .error .headerTruncated

/-- The class of a message, from two bits of its type. -/
def type (message : Message) : Class :=
  match ((message.kind >>> 4) &&& (1 : UInt16)) ||| ((message.kind >>> 7) &&& (2 : UInt16)) with
  | 0 => .request
  | 1 => .indication
  | 2 => .success
  | _ => .error

/-- The method of a message, from the other bits of its type. -/
def method (message : Message) : UInt16 :=
  (message.kind &&& (0x000f : UInt16)) ||| ((message.kind >>> 1) &&& (0x0070 : UInt16)) |||
    ((message.kind >>> 2) &&& (0x0f80 : UInt16))

/-- All attributes, in order. -/
def attributes (message : Message) : List Attribute :=
  (attributeLayout message.raw).walk message.stop headerSize

/-- The first attribute of a kind. -/
def findAttribute (message : Message) (target : UInt16) : Option Attribute :=
  message.attributes.find? fun found => found.kind == target

/-- Whether the fingerprint is right, if there is one. It must be the last attribute. -/
def fingerprintValid (digests : Digests) (message : Message) : Option Bool :=
  (message.findAttribute attrFingerprint).map fun found =>
    if found.value.length ≠ 4 ∨ found.headerStart + 8 ≠ message.stop then false
    else
      let expected := digests.crc32 (message.raw.take found.headerStart) ^^^ fingerprintXor
      UInt32.ofNat (fromBe found.value) == expected

/-! ## What is read as a message -/

/-- The type, the cookie and the length in a header are as they should be. -/
structure HeaderValid (raw : List UInt8) : Prop where
  long : headerSize ≤ raw.length
  leadingBits : UInt16.ofNat (lengthAt raw 0) &&& 0xc000 = 0
  typed : UInt16.ofNat (lengthAt raw 0) ≠ 0
  cookie : slice raw 4 8 = toBe 4 magicCookie.toNat
  aligned : lengthAt raw 2 % 4 = 0
  whole : raw.length = headerSize + lengthAt raw 2

theorem of_decode {message : Message} (decoded : decode raw = .ok message) :
    HeaderValid raw ∧ message.raw = raw ∧ message.kind = UInt16.ofNat (lengthAt raw 0) ∧
      message.transaction.bytes = slice raw 8 20 := by
  unfold decode at decoded
  split at decoded
  · rename_i long
    dsimp only at decoded
    split at decoded
    · cases decoded
    rename_i leadingBits
    split at decoded
    · cases decoded
    rename_i typed
    split at decoded
    · cases decoded
    rename_i cookie
    split at decoded
    · cases decoded
    rename_i aligned
    split at decoded
    · rename_i whole
      split at decoded
      · cases decoded
      · cases decoded
        exact ⟨⟨long, not_not.mp leadingBits, typed, not_not.mp cookie, not_not.mp aligned,
          whole⟩, rfl, rfl, rfl⟩
    · cases decoded
  · cases decoded

/-- Attributes that tile the bytes behind a valid header make a message with these attributes. -/
theorem decode_of_passes {attributes : List Attribute} (valid : HeaderValid raw)
    (passes : (attributeLayout raw).Passes headerSize attributes raw.length) :
    ∃ message, decode raw = .ok message ∧ message.attributes = attributes := by
  rw [valid.whole] at passes
  have checked : checkAttributes raw (headerSize + lengthAt raw 2) (lengthAt raw 2) headerSize = none :=
    checked_of_passes passes _
  have unaligned : ¬lengthAt raw 2 % 4 ≠ 0 := not_not.mpr valid.aligned
  refine ⟨⟨raw, UInt16.ofNat (lengthAt raw 0), readTransaction raw valid.long, headerSize + lengthAt raw 2,
    valid.whole, ⟨attributes, passes⟩⟩, ?_, ?_⟩
  · rw [decode, dif_pos valid.long, if_neg (not_not.mpr valid.leadingBits), if_neg valid.typed,
      if_neg (not_not.mpr valid.cookie), if_neg unaligned, dif_pos valid.whole]
    split
    · rename_i error failed
      rw [checked] at failed
      cases failed
    · rfl
  · exact passes.walk_stop

theorem decode_isOk_iff (raw : List UInt8) : (∃ message, decode raw = .ok message) ↔
      HeaderValid raw ∧ ∃ attributes, (attributeLayout raw).Passes headerSize attributes raw.length := by
  constructor
  · rintro ⟨message, decoded⟩
    obtain ⟨valid, rfl, -⟩ := of_decode decoded
    exact ⟨valid, message.whole ▸ message.tiled⟩
  · rintro ⟨valid, attributes, passes⟩
    obtain ⟨message, decoded, -⟩ := decode_of_passes valid passes
    exact ⟨message, decoded⟩

theorem passes (message : Message) :
    (attributeLayout message.raw).Passes headerSize message.attributes message.stop := by
  obtain ⟨attributes, passes⟩ := message.tiled
  rw [Message.attributes, passes.walk_stop]
  exact passes

/-- A message with a transaction, no attributes and the type of a successful binding. -/
example : (decode ([0x01, 0x01, 0, 0] ++ toBe 4 magicCookie.toNat ++ List.replicate 12 7)).toOption.map
    (fun message => (message.type, message.method, message.attributes)) =
      some (.success, 1, []) := by
  decide +kernel

end Message

end Csqtt.Stun
