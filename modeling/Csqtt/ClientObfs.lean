import Csqtt.RtpWire

/-!
# The client's packet disguise

A packet buffer is a fixed storage with a payload range and headroom before it.
Wrapping prepends the RTP header, encrypts the payload in place and appends the
authentication tag and random padding; unwrapping checks, decrypts and narrows the
range to the payload. In video mode the tag covers everything before it and stands
last; in audio mode the tag follows the ciphertext and the padding stands last.

The order of checks and the texts of the errors are the source's. Arithmetic on
buffer positions cannot overflow there, because every position is bounded by the
capacity; the checks for it are left out. Writes outside the storage, which panic
in the source, leave the buffer unchanged here; the round-trip results show that
no such write is made.
-/

namespace Csqtt.ClientObfs

open Bytes RtpWire

/-- The size of every buffer's storage. -/
def packetCapacity : Nat := 2304

/-- The space kept free in front of a packet that is read in. -/
def packetHeadroom : Nat := 64

/-- A buffer: its storage and the range of its payload. -/
structure PacketBuf where
  storage : List UInt8
  start : Nat
  stop : Nat
  sized : storage.length = packetCapacity
  ordered : start ≤ stop
  inside : stop ≤ packetCapacity

namespace PacketBuf

/-- A buffer fresh from the pool. -/
def zeroed : PacketBuf where
  storage := List.replicate packetCapacity 0
  start := packetHeadroom
  stop := packetHeadroom
  sized := List.length_replicate
  ordered := Nat.le_refl _
  inside := by decide

def len (packet : PacketBuf) : Nat := packet.stop - packet.start

def isEmpty (packet : PacketBuf) : Bool := packet.len == 0

def asSlice (packet : PacketBuf) : List UInt8 := slice packet.storage packet.start packet.stop

/-- Set the range to what was read into the area behind the headroom. -/
def setReadLen (packet : PacketBuf) (len : Nat) : Except String PacketBuf :=
  if exceeds : len > packetCapacity - packetHeadroom then
    .error "packet read length exceeds capacity"
  else .ok { packet with
    start := packetHeadroom
    stop := packetHeadroom + len
    ordered := Nat.le_add_right _ _
    inside := by
      have headroom : packetHeadroom ≤ packetCapacity := by decide
      omega }

/-- Move the start of the range into the headroom. -/
def prepend (packet : PacketBuf) (len : Nat) : Except String PacketBuf :=
  if len > packet.start then .error "packet prepend exceeds headroom"
  else .ok { packet with
    start := packet.start - len
    ordered := Nat.le_trans (Nat.sub_le _ _) packet.ordered }

/-- Move the end of the range towards the end of the storage. -/
def extendTail (packet : PacketBuf) (len : Nat) : Except String PacketBuf :=
  if exceeds : packet.stop + len > packetCapacity then .error "packet tail exceeds capacity"
  else .ok { packet with
    stop := packet.stop + len
    ordered := Nat.le_add_right_of_le packet.ordered
    inside := Nat.le_of_not_gt exceeds }

/-- Replace the range. -/
def setRange (packet : PacketBuf) (start stop : Nat) : Except String PacketBuf :=
  if invalid : start > stop ∨ stop > packetCapacity then .error "packet range is invalid"
  else .ok { packet with
    start := start
    stop := stop
    ordered := Nat.le_of_not_gt fun above => invalid (Or.inl above)
    inside := Nat.le_of_not_gt fun above => invalid (Or.inr above) }

/-- Overwrite part of the storage. -/
def write (packet : PacketBuf) (position : Nat) (bytes : List UInt8) : PacketBuf :=
  { packet with
    storage := overwrite packet.storage position bytes
    sized := by rw [overwrite_length, packet.sized] }

end PacketBuf

/-- Read a datagram into a buffer. -/
def PacketBuf.receive (packet : PacketBuf) (datagram : List UInt8) : Except String PacketBuf :=
  (packet.write packetHeadroom datagram).setReadLen datagram.length

/-- The two disguises. -/
inductive ObfsMode where
  | audio
  | video
deriving DecidableEq, Repr

/-- The fixed choices of a connection. -/
structure ObfsConfig where
  paddingMax : Nat
  ssrc : UInt32
  payloadType : UInt8
  mode : ObfsMode

/-- The choices for a mode; the source identifier is random. -/
def ObfsConfig.new (mode : ObfsMode) (ssrc : UInt32) : ObfsConfig :=
  match mode with
  | .audio => ⟨24, ssrc, 111, mode⟩
  | .video => ⟨60, ssrc, 96, mode⟩

/-- The sender's counters and their random starting points. -/
structure ObfsState where
  count : UInt64
  initialTimestamp : UInt32
  initialAbsSendTime : UInt32
  initialSequence : UInt16
  transportSequence : UInt16

/-- Both counters advance with each wrap. -/
def ObfsState.next (state : ObfsState) : ObfsState :=
  { state with
    count := state.count + 1
    transportSequence := state.transportSequence + 1 }

/-- The header fields of the next packet. -/
def headerFields (config : ObfsConfig) (state : ObfsState) (elapsed : Duration) (draws : Draws) :
    HeaderFields where
  marked := config.payloadType == 96 && draws.marker % 5 == 0
  payloadType := config.payloadType
  sequence := state.initialSequence + state.count.toUInt16
  timestamp := state.initialTimestamp + durationTicks elapsed (rtpClockRate config.payloadType)
  ssrc := config.ssrc
  absSendTime := (state.initialAbsSendTime + durationTicks elapsed 262144) &&& 0x00ffffff
  transportSequence := state.transportSequence

/-- The number of random padding bytes before the length byte. -/
def paddingRandom (config : ObfsConfig) (draws : Draws) : Nat :=
  if config.paddingMax = 0 then 0 else draws.padding % config.paddingMax

/-- The bytes appended to a packet: padding, its length byte and the tag. -/
def tailLen (config : ObfsConfig) (draws : Draws) : Nat :=
  match config.mode with
  | .video => paddingRandom config draws + 1 + 10
  | .audio => paddingRandom config draws + 1 + 16

/-- Encrypt, pad and authenticate a packet whose header is in place. -/
def protectVideo (ciphers : Ciphers) (packet : PacketBuf) (fields : HeaderFields)
    (draws : Draws) (padding payloadLen : Nat) : Except String PacketBuf := do
  let payloadStart := packet.start + 24
  let payloadEnd := payloadStart + payloadLen
  let packet ← packet.extendTail (padding + 1 + 10)
  let iv := srtpIv fields.ssrc fields.sequence fields.timestamp
  let packet := packet.write payloadStart
    (ciphers.aesCtr iv (slice packet.storage payloadStart payloadEnd))
  let packet := packet.write payloadEnd (draws.fill padding)
  let packet := packet.write (payloadEnd + padding) [UInt8.ofNat (padding + 1)]
  let tagStart := payloadEnd + (padding + 1)
  return packet.write tagStart (ciphers.shortTag (slice packet.storage packet.start tagStart))

/-- Seal and pad a packet whose header is in place. -/
def protectAudio (ciphers : Ciphers) (packet : PacketBuf) (fields : HeaderFields)
    (draws : Draws) (padding payloadLen : Nat) : Except String PacketBuf := do
  let payloadStart := packet.start + 24
  let payloadEnd := payloadStart + payloadLen
  let packet ← packet.extendTail (16 + (padding + 1))
  match ciphers.sealInPlace (nonce fields.ssrc fields.sequence fields.timestamp)
      (slice packet.storage packet.start payloadStart)
      (slice packet.storage payloadStart payloadEnd) with
  | none => .error "obfs: chacha encrypt"
  | some (text, tag) =>
    let packet := packet.write payloadStart text
    let packet := packet.write payloadEnd tag
    let packet := packet.write (payloadEnd + 16) (draws.fill padding)
    return packet.write (payloadEnd + 16 + padding) [UInt8.ofNat (padding + 1)]

/-- Wrap a packet in place. The counters advance for every packet that is not
empty, also when it does not fit. -/
def wrap (ciphers : Ciphers) (packet : PacketBuf) (config : ObfsConfig) (state : ObfsState)
    (elapsed : Duration) (draws : Draws) : ObfsState × Except String PacketBuf :=
  if packet.isEmpty then (state, .error "obfs: empty payload")
  else
    (state.next,
      if packet.start < 24 ∨ packet.stop + tailLen config draws > packetCapacity then
        .error "obfs: packet exceeds buffer capacity"
      else do
        let payloadLen := packet.len
        let fields := headerFields config state elapsed draws
        let padding := paddingRandom config draws
        let packet ← packet.prepend 24
        let packet := packet.write packet.start fields.bytes
        match config.mode with
        | .video => protectVideo ciphers packet fields draws padding payloadLen
        | .audio => protectAudio ciphers packet fields draws padding payloadLen)

/-- The length of the RTP header of a packet. -/
def headerLen (wire : List UInt8) : Except String Nat :=
  if byteAt wire 0 &&& 0x10 ≠ 0 then
    if wire.length < 16 then .error "obfs: packet too short for extension header"
    else .ok (12 + (4 + fromBe (slice wire 14 16) * 4))
  else .ok 12

/-- The end of the text in front of the padding, if its length byte is sound. -/
def trimPadding (packet : PacketBuf) (headerLen stop : Nat) (refusal : String) :
    Except String Nat :=
  if byteAt packet.storage packet.start &&& 0x20 ≠ 0 then
    let padding := (byteAt packet.storage (stop - 1)).toNat
    if padding = 0 ∨ padding > stop - packet.start - headerLen then
      .error (refusal ++ toString padding)
    else .ok (stop - padding)
  else .ok stop

/-- Authenticate and decrypt a video packet. -/
def unwrapVideo (ciphers : Ciphers) (packet : PacketBuf) (headerLen : Nat) (ssrc : UInt32)
    (sequence : UInt16) (timestamp : UInt32) : Except String (UInt16 × PacketBuf) :=
  if packet.len < headerLen + 10 then .error "obfs srtp: missing authentication tag"
  else
    let tagStart := packet.stop - 10
    if ciphers.shortTag (slice packet.storage packet.start tagStart) ≠
        slice packet.storage tagStart packet.stop then
      .error "obfs srtp: authentication failed"
    else do
      let payloadEnd ← trimPadding packet headerLen tagStart "obfs srtp: invalid padding length "
      let payloadStart := packet.start + headerLen
      let packet := packet.write payloadStart
        (ciphers.aesCtr (srtpIv ssrc sequence timestamp)
          (slice packet.storage payloadStart payloadEnd))
      let packet ← packet.setRange payloadStart payloadEnd
      return (sequence, packet)

/-- Open an audio packet. -/
def unwrapAudio (ciphers : Ciphers) (packet : PacketBuf) (payloadType : UInt8)
    (headerLen : Nat) (ssrc : UInt32) (sequence : UInt16) (timestamp : UInt32) :
    Except String (UInt16 × PacketBuf) :=
  if payloadType ≠ 111 then .error "obfs audio: expected payload type 111"
  else do
    let payloadEnd ← trimPadding packet headerLen packet.stop "obfs: invalid padding length "
    let payloadStart := packet.start + headerLen
    if payloadEnd ≤ payloadStart + 16 then
      .error "obfs: empty encrypted payload or missing tag"
    else
      let tagStart := payloadEnd - 16
      match ciphers.openInPlace (nonce ssrc sequence timestamp)
          (slice packet.storage packet.start payloadStart)
          (slice packet.storage tagStart payloadEnd)
          (slice packet.storage payloadStart tagStart) with
      | none => .error "obfs: auth (ChaCha20-Poly1305)"
      | some text =>
        let packet := packet.write payloadStart text
        let packet ← packet.setRange payloadStart tagStart
        return (sequence, packet)

/-- Unwrap a packet in place and return its sequence number. -/
def unwrap (ciphers : Ciphers) (packet : PacketBuf) (mode : ObfsMode) :
    Except String (UInt16 × PacketBuf) :=
  let wire := packet.asSlice
  if wire.length < 13 ∨ byteAt wire 0 >>> 6 ≠ 2 then .error "obfs: not RTP v2"
  else
    let payloadType := byteAt wire 1 &&& 0x7f
    if ¬Known payloadType then
      .error ("obfs: unsupported payload type " ++ toString payloadType.toNat)
    else do
      let sequence := UInt16.ofNat (fromBe (slice wire 2 4))
      let timestamp := UInt32.ofNat (fromBe (slice wire 4 8))
      let ssrc := UInt32.ofNat (fromBe (slice wire 8 12))
      let headerLen ← headerLen wire
      if wire.length < headerLen then
        .error "obfs: packet too short for calculated RTP header"
      else
        match mode with
        | .video => unwrapVideo ciphers packet headerLen ssrc sequence timestamp
        | .audio => unwrapAudio ciphers packet payloadType headerLen ssrc sequence timestamp

end Csqtt.ClientObfs
