import Csqtt.RtpWire

/-!
# The server's packet disguise

The server receives into a plain byte slice and decrypts in place; it writes into
a fixed output buffer. Unlike the client it may not know the peer's mode yet: a
packet whose last ten bytes authenticate is a video packet, and every other one is
tried as an audio packet. A decrypted video payload that looks like a sequence of
DTLS records is cut at the end of the last whole record.

The order of checks and the texts of the errors are the source's. Additions of
lengths that are checked for overflow there cannot overflow and are plain here.
-/

namespace Csqtt.ServerObfs

open Bytes RtpWire

/-- The size of every output buffer. -/
def packetCapacity : Nat := 1600

/-- Where the payload of a decoded packet stands, and what its header said. -/
structure DecodedPacket where
  start : Nat
  stop : Nat
  seq : UInt16
  payloadType : UInt8
  isSrtp : Bool
deriving DecidableEq, Repr

/-- The payload of a decoded packet in the slice it was decoded in. -/
def DecodedPacket.plain (decoded : DecodedPacket) (wire : List UInt8) : List UInt8 :=
  slice wire decoded.start decoded.stop

/-- The length of the RTP header of a packet. -/
def rtpHeaderLen (wire : List UInt8) : Except String Nat :=
  if wire.length < 13 ∨ byteAt wire 0 >>> 6 ≠ 2 then .error "invalid RTP packet"
  else if byteAt wire 0 &&& 0x10 ≠ 0 ∧ wire.length < 16 then
    .error "packet too short for extension header"
  else
    let headerLen :=
      if byteAt wire 0 &&& 0x10 ≠ 0 then 12 + (4 + fromBe (slice wire 14 16) * 4) else 12
    if wire.length < headerLen then .error "packet too short for calculated RTP header"
    else .ok headerLen

/-- A byte that opens a DTLS record. -/
def opensRecord (byte : UInt8) : Bool := decide (20 ≤ byte ∧ byte ≤ 23)

/-- Skip whole DTLS records. Each record takes at least thirteen bytes, so the
length of the packet bounds the rounds. -/
def skipRecords : Nat → List UInt8 → Nat → Nat → Nat
  | 0, _, offset, _ => offset
  | rounds + 1, wire, offset, stop =>
    if offset + 13 ≤ stop ∧ opensRecord (byteAt wire offset) = true ∧
        byteAt wire (offset + 1) = 0xfe then
      let recordLen :=
        13 + ((byteAt wire (offset + 11)).toNat * 256 + (byteAt wire (offset + 12)).toNat)
      if offset + recordLen > stop then offset
      else skipRecords rounds wire (offset + recordLen) stop
    else offset

/-- The end of a decrypted payload, cut behind its last whole DTLS record. -/
def trimRecords (wire : List UInt8) (headerLen stop : Nat) : Nat :=
  if stop - headerLen ≥ 13 ∧ opensRecord (byteAt wire headerLen) = true then
    let offset := skipRecords wire.length wire headerLen stop
    if offset > headerLen then offset else stop
  else stop

/-- The end of the text in front of the padding, if its length byte is sound. -/
def trimPadding (wire : List UInt8) (headerLen stop : Nat) (refusal : String) : Except String Nat :=
  if byteAt wire 0 &&& 0x20 ≠ 0 then
    let padding := (byteAt wire (stop - 1)).toNat
    if padding = 0 ∨ padding > stop - headerLen then .error refusal
    else .ok (stop - padding)
  else .ok stop

/-- Decrypt an authenticated video packet in place. -/
def decodeSrtp (ciphers : Ciphers) (wire : List UInt8) (headerLen : Nat) (payloadType : UInt8)
    (seq : UInt16) (timestamp ssrc : UInt32) : Except String (DecodedPacket × List UInt8) := do
  let stop ← trimPadding wire headerLen (wire.length - 10) "invalid RTP padding in SRTP mode"
  if stop < headerLen then .error "invalid SRTP payload bounds"
  else
    let wire := splice wire headerLen
      (ciphers.aesCtr (srtpIv ssrc seq timestamp) (slice wire headerLen stop))
    return (⟨headerLen, trimRecords wire headerLen stop, seq, payloadType, true⟩, wire)

/-- Open an audio packet in place. -/
def decodeAead (ciphers : Ciphers) (wire : List UInt8) (headerLen : Nat) (payloadType : UInt8)
    (seq : UInt16) (timestamp ssrc : UInt32) : Except String (DecodedPacket × List UInt8) := do
  let stop ← trimPadding wire headerLen wire.length "invalid RTP padding"
  if stop ≤ headerLen + 16 then .error "empty encrypted payload"
  else if payloadType ≠ 111 then .error "expected audio (PT=111) for non-SRTP packet"
  else
    let tagOffset := stop - 16
    match ciphers.openInPlace (nonce ssrc seq timestamp) (slice wire 0 headerLen)
        (slice wire tagOffset stop) (slice wire headerLen tagOffset) with
    | none => .error "authentication failed (ChaCha20-Poly1305)"
    | some text =>
      return (⟨headerLen, tagOffset, seq, payloadType, false⟩, splice wire headerLen text)

/-- Whether the last ten bytes authenticate the bytes before them. -/
def authenticates (ciphers : Ciphers) (wire : List UInt8) : Bool :=
  ciphers.shortTag (slice wire 0 (wire.length - 10)) == slice wire (wire.length - 10) wire.length

/-- Unwrap a packet in place. The expected mode is none for an unknown peer. -/
def unwrapLegacyInPlace (ciphers : Ciphers) (wire : List UInt8) (expectedSrtp : Option Bool) :
    Except String (DecodedPacket × List UInt8) := do
  let headerLen ← rtpHeaderLen wire
  let payloadType := byteAt wire 1 &&& 0x7f
  if ¬Known payloadType then .error "unsupported RTP payload type"
  else
    let seq := UInt16.ofNat (fromBe (slice wire 2 4))
    let timestamp := UInt32.ofNat (fromBe (slice wire 4 8))
    let ssrc := UInt32.ofNat (fromBe (slice wire 8 12))
    if expectedSrtp ≠ some false ∧ wire.length ≥ headerLen + 10 then
      if authenticates ciphers wire then
        decodeSrtp ciphers wire headerLen payloadType seq timestamp ssrc
      else if expectedSrtp = some true then .error "SRTP authentication failed"
      else decodeAead ciphers wire headerLen payloadType seq timestamp ssrc
    else if expectedSrtp = some true then .error "SRTP packet is too short"
    else decodeAead ciphers wire headerLen payloadType seq timestamp ssrc

/-- The sender's counters of one session and their random starting points. -/
structure OutState where
  ssrc : UInt32
  initialSeq : UInt16
  initialTs : UInt32
  initialAbsSendTime : UInt32
  count : UInt64
  payloadType : UInt8
  transportSeq : UInt16

namespace OutState

/-- The media timestamp and the absolute send time. -/
def clocks (out : OutState) (elapsed : Duration) : UInt32 × UInt32 :=
  (out.initialTs + durationTicks elapsed (rtpClockRate out.payloadType),
    (out.initialAbsSendTime + durationTicks elapsed 262144) &&& 0x00ffffff)

/-- Both counters advance with each wrap, also with one that fails. -/
def next (out : OutState) : OutState :=
  { out with count := out.count + 1, transportSeq := out.transportSeq + 1 }

/-- The header fields of the next packet. -/
def headerFields (out : OutState) (elapsed : Duration) (draws : Draws) : HeaderFields where
  marked := out.payloadType == 96 && draws.marker % 5 == 0
  payloadType := out.payloadType
  sequence := out.initialSeq + out.count.toUInt16
  timestamp := (out.clocks elapsed).1
  ssrc := out.ssrc
  absSendTime := (out.clocks elapsed).2
  transportSequence := out.transportSeq

end OutState

/-- An output buffer: its storage and the length of the packet in it. -/
structure PacketBuf where
  storage : List UInt8
  len : Nat
  sized : storage.length = packetCapacity
  inside : len ≤ packetCapacity

namespace PacketBuf

/-- A buffer fresh from the pool. -/
def zeroed : PacketBuf where
  storage := List.replicate packetCapacity 0
  len := 0
  sized := List.length_replicate
  inside := Nat.zero_le _

def asSlice (packet : PacketBuf) : List UInt8 := slice packet.storage 0 packet.len

/-- Overwrite part of the storage. -/
def write (packet : PacketBuf) (position : Nat) (bytes : List UInt8) : PacketBuf :=
  { packet with
    storage := overwrite packet.storage position bytes
    sized := by rw [overwrite_length, packet.sized] }

/-- Set the packet length, unless it exceeds the storage. -/
def setLen (packet : PacketBuf) (len : Nat) : Option PacketBuf :=
  if exceeds : len > packetCapacity then none
  else some { packet with len := len, inside := Nat.le_of_not_gt exceeds }

end PacketBuf

/-- The number of random padding bytes before the length byte. Each mode has its own
bound for the payload types it does not name. -/
def randomPadding (isSrtp : Bool) (payloadType : UInt8) (draws : Draws) : Nat :=
  if isSrtp then draws.padding % (if payloadType = 96 then 60 else 24)
  else draws.padding % (if payloadType = 111 then 24 else 60)

/-- Encrypt, pad and authenticate into the output buffer. -/
def wrapSrtp (ciphers : Ciphers) (output : PacketBuf) (fields : HeaderFields)
    (plain : List UInt8) (draws : Draws) (randomPadding : Nat) : Except String PacketBuf :=
  let ciphertextLen := plain.length + (randomPadding + 1)
  let total := 24 + ciphertextLen + 10
  if total > output.storage.length then .error "SRTP output exceeds packet capacity"
  else
    let output := output.write 0 fields.bytes
    let output := output.write 24 plain
    let output := output.write 24
      (ciphers.aesCtr (srtpIv fields.ssrc fields.sequence fields.timestamp)
        (slice output.storage 24 (24 + plain.length)))
    let output := output.write (24 + plain.length) (draws.fill randomPadding)
    let output := output.write (24 + ciphertextLen - 1) [UInt8.ofNat (randomPadding + 1)]
    let output := output.write (24 + ciphertextLen)
      (ciphers.shortTag (slice output.storage 0 (24 + ciphertextLen)))
    match output.setLen total with
    | none => .error "SRTP output length rejected"
    | some output => .ok output

/-- Seal and pad into the output buffer. -/
def wrapAead (ciphers : Ciphers) (output : PacketBuf) (fields : HeaderFields)
    (plain : List UInt8) (draws : Draws) (randomPadding : Nat) : Except String PacketBuf :=
  let total := 24 + plain.length + 16 + (randomPadding + 1)
  if total > output.storage.length then .error "RTP AEAD output exceeds packet capacity"
  else
    let output := output.write 0 fields.bytes
    let output := output.write 24 plain
    match ciphers.sealInPlace (nonce fields.ssrc fields.sequence fields.timestamp) fields.bytes
        (slice output.storage 24 (24 + plain.length)) with
    | none => .error "encryption failed (ChaCha20-Poly1305)"
    | some (text, tag) =>
      let output := output.write 24 text
      let tagStart := 24 + plain.length
      let output := output.write tagStart tag
      let paddingStart := tagStart + 16
      let output := output.write paddingStart (draws.fill randomPadding)
      let output := output.write (total - 1) [UInt8.ofNat (randomPadding + 1)]
      match output.setLen total with
      | none => .error "RTP AEAD output length rejected"
      | some output => .ok output

/-- Wrap a payload into an output buffer. -/
def wrapLegacyInto (ciphers : Ciphers) (isSrtp : Bool) (out : OutState) (plain : List UInt8)
    (output : PacketBuf) (elapsed : Duration) (draws : Draws) :
    OutState × Except String PacketBuf :=
  let fields := out.headerFields elapsed draws
  let randomPadding := randomPadding isSrtp out.payloadType draws
  (out.next,
    if isSrtp then wrapSrtp ciphers output fields plain draws randomPadding
    else wrapAead ciphers output fields plain draws randomPadding)

end Csqtt.ServerObfs
