import Csqtt.EngineState
import Csqtt.StunMessage

/-!
# What TURN puts into STUN messages

Requests are built attribute by attribute. A request may be followed by an integrity, which is a
digest over everything in front of it under the length that the message would have if it ended
there, and is followed by a fingerprint. The integrity of a response is verified the same way: over
what stands in front of the first integrity.

Addresses are masked with the magic cookie and the transaction, byte by byte. The exclusive or of two
numbers is the one of their bytes, so both families are masked alike here.
-/

namespace Csqtt.Turn

open Bytes Stun Engine Routes List

def attrUsername : UInt16 := 0x0006
def attrMessageIntegrity : UInt16 := 0x0008
def attrErrorCode : UInt16 := 0x0009
def attrChannelNumber : UInt16 := 0x000c
def attrLifetime : UInt16 := 0x000d
def attrXorPeerAddress : UInt16 := 0x0012
def attrRealm : UInt16 := 0x0014
def attrNonce : UInt16 := 0x0015
def attrXorRelayedAddress : UInt16 := 0x0016
def attrRequestedAddressFamily : UInt16 := 0x0017
def attrRequestedTransport : UInt16 := 0x0019

/-- What a request is for. -/
inductive Operation
  | allocate
  | refresh
  | deallocate
  | permission
  | channel
deriving DecidableEq, Repr

/-- An allocation is given up by a refresh with no lifetime. -/
def Operation.method : Operation → UInt16
  | .allocate => 3
  | .refresh | .deallocate => 4
  | .permission => 8
  | .channel => 9

/-- Why a call of the core fails. -/
inductive CoreError
  | invalidArgument
  | closed
  | bufferTooSmall
  | incompleteAuthentication
  | messageTooLarge
  | noRelayedAddress
  | invalidRelayedAddress
  | zeroLifetime
  | deallocationLifetime
  | malformedAddress
  | addressFamily
deriving DecidableEq, Repr

/-- Lengths of time are counted in nanoseconds. -/
def milliseconds (count : Nat) : Nat := count * 1000000

def seconds (count : Nat) : Nat := milliseconds (count * 1000)

/-- The lifetime that is asked for, in seconds. -/
def requestedAllocationLifetimeSecs : Nat := 600

/-! ## Addresses -/

/-- The bytes of an address. -/
def octets : IpAddr → List UInt8
  | .v4 address => [address.a, address.b, address.c, address.host]
  | .v6 bits => toBe 16 bits.toNat

def isIpv4 (address : SocketAddr) : Bool :=
  match address.ip with
  | .v4 _ => true
  | .v6 _ => false

/-- What the bytes of an address are masked with. -/
def addressMask (transaction : Transaction) : List UInt8 :=
  toBe 4 magicCookie.toNat ++ transaction.bytes

/-- What a port is masked with. -/
def portMask : UInt16 := (magicCookie >>> 16).toUInt16

/-- Mask an address. -/
def encodeXorAddress (address : SocketAddr) (transaction : Transaction) : List UInt8 :=
  [0, if isIpv4 address then 1 else 2] ++ toBe 2 (address.port ^^^ portMask).toNat ++
    List.zipWith (· ^^^ ·) (octets address.ip) (addressMask transaction)

/-- Unmask an address. -/
def decodeXorAddress (value : List UInt8) (transaction : Transaction) : Except CoreError SocketAddr :=
  if value.length < 4 ∨ byteAt value 0 ≠ 0 then .error .malformedAddress
  else
    let port := UInt16.ofNat (fromBe (slice value 2 4)) ^^^ portMask
    let unmasked := List.zipWith (· ^^^ ·) (value.drop 4) (addressMask transaction)
    if byteAt value 1 = 1 ∧ value.length = 8 then
      .ok ⟨.v4 ⟨byteAt unmasked 0, byteAt unmasked 1, byteAt unmasked 2, byteAt unmasked 3⟩, port⟩
    else if byteAt value 1 = 2 ∧ value.length = 20 then
      .ok ⟨.v6 (BitVec.ofNat 128 (fromBe unmasked)), port⟩
    else .error .addressFamily

theorem zipWith_xor_cancel {bytes mask : List UInt8} (long : bytes.length ≤ mask.length) :
    List.zipWith (· ^^^ ·) (List.zipWith (· ^^^ ·) bytes mask) mask = bytes := by
  induction bytes generalizing mask with
  | nil => rfl
  | cons byte bytes ih =>
    cases mask with
    | nil => cases long
    | cons first mask =>
      have rest := ih (Nat.le_of_succ_le_succ long)
      simp only [zipWith_cons_cons, rest, UInt8.xor_assoc, UInt8.xor_self, UInt8.xor_zero]

theorem addressMask_length (transaction : Transaction) : (addressMask transaction).length = 16 := by
  rw [addressMask, length_append, toBe_length, transaction.twelve]

theorem octets_length (ip : IpAddr) :
    (octets ip).length = match ip with | .v4 _ => 4 | .v6 _ => 16 := by
  cases ip with
  | v4 address => rfl
  | v6 bits => exact toBe_length 16 _

theorem octets_length_le (ip : IpAddr) : (octets ip).length ≤ 16 := by
  rw [octets_length]
  cases ip with
  | v4 address => exact Nat.le_of_ble_eq_true rfl
  | v6 bits => exact Nat.le_refl 16

theorem encodeXorAddress_length (address : SocketAddr) (transaction : Transaction) :
    (encodeXorAddress address transaction).length = 4 + (octets address.ip).length := by
  have short := octets_length_le address.ip
  simp only [encodeXorAddress, length_append, length_cons, length_nil, toBe_length,
    length_zipWith, addressMask_length]
  omega

theorem decodeXorAddress_encode (address : SocketAddr) (transaction : Transaction) :
    decodeXorAddress (encodeXorAddress address transaction) transaction = .ok address := by
  obtain ⟨ip, port⟩ := address
  have length := encodeXorAddress_length ⟨ip, port⟩ transaction
  have masked : UInt16.ofNat (fromBe (toBe 2 (port ^^^ portMask).toNat)) ^^^ portMask = port := by
    rw [fromBe_u16, UInt16.ofNat_toNat, UInt16.xor_assoc, UInt16.xor_self, UInt16.xor_zero]
  have cancelled : List.zipWith (· ^^^ ·) (List.zipWith (· ^^^ ·) (octets ip) (addressMask transaction))
      (addressMask transaction) = octets ip :=
    zipWith_xor_cancel (by rw [addressMask_length]; exact octets_length_le ip)
  have portRead : slice (encodeXorAddress ⟨ip, port⟩ transaction) 2 4 =
      toBe 2 (port ^^^ portMask).toNat := by
    refine slice_eq_middle _ [0, if isIpv4 ⟨ip, port⟩ then 1 else 2] _
      (List.zipWith (· ^^^ ·) (octets ip) (addressMask transaction)) 2 4 ?_ rfl ?_
    · rw [encodeXorAddress, append_assoc]
    · rw [toBe_length]
      rfl
  have rest : (encodeXorAddress ⟨ip, port⟩ transaction).drop 4 =
      List.zipWith (· ^^^ ·) (octets ip) (addressMask transaction) := by
    rw [encodeXorAddress, drop_append_of_le_length (by simp), drop_eq_nil_of_le (by simp),
      nil_append]
  have first : byteAt (encodeXorAddress ⟨ip, port⟩ transaction) 0 = 0 := rfl
  have second : byteAt (encodeXorAddress ⟨ip, port⟩ transaction) 1 =
      if isIpv4 ⟨ip, port⟩ then 1 else 2 := rfl
  unfold decodeXorAddress
  rw [portRead, masked, rest, cancelled, first, second, length]
  cases ip with
  | v4 address => simp [isIpv4, octets, byteAt]
  | v6 bits =>
    have value : fromBe (toBe 16 bits.toNat) = bits.toNat := by
      rw [fromBe_toBe]
      exact Nat.mod_eq_of_lt bits.isLt
    simp [isIpv4, octets, value]

/-! ## Building messages -/

/-- A message that is not finished. -/
structure MessageBuilder where
  bytes : List UInt8
  transaction : Transaction

/-- Fill the length in, with room for attributes to come. -/
def setMessageLength (bytes : List UInt8) (trailing : Nat) : Except CoreError (List UInt8) :=
  let length := bytes.length - 20 + trailing
  if length < 2 ^ 16 then .ok (splice bytes 2 (toBe 2 length)) else .error .messageTooLarge

/-- The bytes of an attribute behind an unfinished message of a certain length. -/
def attributeBytes (start : Nat) (kind : UInt16) (value : List UInt8) : List UInt8 :=
  let bytes := toBe 2 kind.toNat ++ toBe 2 value.length ++ value
  bytes ++ List.replicate ((4 - (start + bytes.length) % 4) % 4) 0

theorem attributeBytes_length {start : Nat} (aligned : start % 4 = 0) (kind : UInt16)
    (value : List UInt8) : (attributeBytes start kind value).length = 4 + padded value.length := by
  simp only [attributeBytes, length_append, toBe_length, length_replicate, padded]
  omega

/-- An attribute behind other bytes is read back. -/
theorem attributeLayout_written (front back : List UInt8) (kind : UInt16)
    {value : List UInt8} (short : value.length < 2 ^ 16) :
    (attributeLayout (front ++ (attributeBytes front.length kind value ++ back))).item front.length =
        ⟨if kind = 0x8020 then 0x0020 else kind, value, front.length⟩ ∧
      (attributeLayout (front ++ (attributeBytes front.length kind value ++ back))).next front.length =
        front.length + 4 + padded value.length := by
  generalize padding : List.replicate ((4 - (front.length + (toBe 2 kind.toNat ++ toBe 2 value.length ++
    value).length) % 4) % 4) (0 : UInt8) = zeros
  have bytes : attributeBytes front.length kind value =
      toBe 2 kind.toNat ++ (toBe 2 value.length ++ (value ++ zeros)) := by
    rw [attributeBytes, padding]
    simp
  rw [bytes]
  generalize buffer : front ++ (toBe 2 kind.toNat ++ (toBe 2 value.length ++ (value ++ zeros)) ++ back) =
    whole
  have kindRead : lengthAt whole front.length = kind.toNat := by
    have read : slice whole front.length (front.length + 2) = toBe 2 kind.toNat :=
      slice_eq_middle whole front _ (toBe 2 value.length ++ (value ++ zeros) ++ back) _ _
        (by rw [← buffer]; simp) rfl (by rw [toBe_length])
    rw [lengthAt, read, fromBe_u16]
  have lengthRead : lengthAt whole (front.length + 2) = value.length := by
    have read : slice whole (front.length + 2) (front.length + 2 + 2) = toBe 2 value.length :=
      slice_eq_middle whole (front ++ toBe 2 kind.toNat) _ ((value ++ zeros) ++ back) _ _
        (by rw [← buffer]; simp) (by simp) (by simp)
    rw [lengthAt, read, fromBe_toBe]
    exact Nat.mod_eq_of_lt short
  have valueRead : slice whole (front.length + 4) (front.length + 4 + value.length) = value :=
    slice_eq_middle whole (front ++ toBe 2 kind.toNat ++ toBe 2 value.length) _ (zeros ++ back) _ _
      (by rw [← buffer]; simp) (by simp) (by simp)
  constructor
  · simp [attributeLayout, attributeAt, kindRead, lengthRead, valueRead]
  · simp only [attributeLayout, attributeEnd, lengthRead]

namespace MessageBuilder

def withTransaction (kind : UInt16) (transaction : Transaction) : MessageBuilder :=
  ⟨toBe 2 kind.toNat ++ toBe 2 0 ++ toBe 4 magicCookie.toNat ++ transaction.bytes, transaction⟩

/-- Append an attribute, padded to a multiple of four bytes. -/
def withAttribute (builder : MessageBuilder) (kind : UInt16) (value : List UInt8) : MessageBuilder :=
  { builder with bytes := builder.bytes ++ attributeBytes builder.bytes.length kind value }

def xorAddress (builder : MessageBuilder) (kind : UInt16) (address : SocketAddr) : MessageBuilder :=
  builder.withAttribute kind (encodeXorAddress address builder.transaction)

/-- Append the fingerprint. -/
def finish (digests : Digests) (builder : MessageBuilder) : Except CoreError (List UInt8) := do
  let bytes ← setMessageLength builder.bytes 8
  let fingerprint := digests.crc32 bytes ^^^ fingerprintXor
  return ({ builder with bytes := bytes }.withAttribute attrFingerprint
    (toBe 4 fingerprint.toNat)).bytes

/-- Append the integrity and the fingerprint. -/
def finishAuthenticated (digests : Digests) (builder : MessageBuilder) (key : List UInt8) :
    Except CoreError (List UInt8) := do
  let bytes ← setMessageLength builder.bytes 24
  let integrity := digests.hmacSha1 key bytes
  ({ builder with bytes := bytes }.withAttribute attrMessageIntegrity integrity).finish digests

end MessageBuilder

/-! ## Reading responses -/

/-- The part of a packet that its integrity covers, under the length that it covers. -/
def signedPart (packet : List UInt8) (headerStart : Nat) : List UInt8 :=
  splice (packet.take headerStart) 2 (toBe 2 (headerStart + 24 - 20))

/-- Whether the first integrity is the digest of what stands in front of it. -/
def verifyIntegrity (digests : Digests) (packet : List UInt8) (message : Message)
    (key : Option (List UInt8)) : Bool :=
  match key, message.findAttribute attrMessageIntegrity with
  | some key, some integrity =>
    if integrity.value.length ≠ 20 ∨ integrity.headerStart < 20 then false
    else if integrity.headerStart + 24 - 20 < 2 ^ 16 then
      digests.hmacSha1 key (signedPart packet integrity.headerStart) == integrity.value
    else false
  | _, _ => false

/-- The code of an error response. -/
def errorCode (message : Message) : Option Nat := do
  let found ← message.findAttribute attrErrorCode
  if found.value.length < 4 ∨ byteAt found.value 2 > 6 ∨ byteAt found.value 3 > 99 then none
  else some ((byteAt found.value 2).toNat * 100 + (byteAt found.value 3).toNat)

def responseRequiresIntegrity (message : Message) : Bool :=
  match message.type with
  | .success => true
  | .error => !(errorCode message).any (· ∈ [400, 401, 420, 438])
  | _ => false

def isFingerprintedAllocationMismatch (digests : Digests) (message : Message) : Bool :=
  message.type == .error && errorCode message == some 437 &&
    message.fingerprintValid digests == some true

def requiresAllocationRecreate (operation : Operation) (code : Nat) : Bool :=
  code == 437 || (operation == .channel && code == 400)

/-- The first attribute of a kind as a number, if it has four bytes. -/
def attributeU32 (message : Message) (kind : UInt16) : Option Nat := do
  let found ← message.findAttribute kind
  if found.value.length = 4 then some (fromBe found.value) else none

/-- When an allocation is refreshed: after half of its lifetime, but not later than after an interval
and not earlier than after half a second. -/
def allocationRefreshDeadline (now : Nat) (lifetime : Option Nat) (interval : Nat) : Nat :=
  let lifetime := seconds (lifetime.getD requestedAllocationLifetimeSecs)
  now + max (min interval (lifetime / 2)) (milliseconds 500)

end Csqtt.Turn
