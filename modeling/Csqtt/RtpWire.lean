import Csqtt.Bytes

/-!
# RTP headers, media clocks and the ciphers of a session

Both ends of a session dress their packets as RTP. They share the layout of the
24-byte header, the derivation of media timestamps from elapsed time, and the
nonce and initialization vector derived from the header. The client and the
server hold one copy each of these helpers, with the same text.

The cryptographic primitives come from libraries outside the repository and are
parameters. `Lawful` collects what the protocol needs from them: the stream cipher
undoes itself, sealing is undone by opening under the same key, nonce and
associated data, and tags have their lengths. Keys are fixed by the choice of a
`Ciphers` value. Random choices of a wrap are explicit inputs.
-/

namespace Csqtt.RtpWire

open Bytes List

/-- The primitives of one session under its keys. -/
structure Ciphers where
  aesCtr : List UInt8 → List UInt8 → List UInt8
  hmacSha1 : List UInt8 → List UInt8
  sealInPlace : List UInt8 → List UInt8 → List UInt8 → Option (List UInt8 × List UInt8)
  openInPlace : List UInt8 → List UInt8 → List UInt8 → List UInt8 → Option (List UInt8)

/-- What is assumed of the primitives. Arguments are nonce or vector, associated
data, tag and text, in this order; texts are as long as a datagram at most. -/
structure Ciphers.Lawful (ciphers : Ciphers) : Prop where
  stream_length : ∀ vector text, (ciphers.aesCtr vector text).length = text.length
  stream_inverse : ∀ vector text, ciphers.aesCtr vector (ciphers.aesCtr vector text) = text
  tag_length : ∀ message, (ciphers.hmacSha1 message).length = 20
  seals : ∀ nonce associated text, text.length < 2 ^ 16 →
    ∃ sealedText tag, ciphers.sealInPlace nonce associated text = some (sealedText, tag)
  sealed_length : ∀ nonce associated text sealedText tag,
    ciphers.sealInPlace nonce associated text = some (sealedText, tag) →
      sealedText.length = text.length ∧ tag.length = 16
  opens : ∀ nonce associated text sealedText tag,
    ciphers.sealInPlace nonce associated text = some (sealedText, tag) →
      ciphers.openInPlace nonce associated tag sealedText = some text

/-- The HMAC tag of a message as it is sent. -/
def Ciphers.shortTag (ciphers : Ciphers) (message : List UInt8) : List UInt8 :=
  (ciphers.hmacSha1 message).take 10

/-- The random values one wrap consumes: a padding draw, a marker draw and a supply
of filler bytes. A draw from a range is the value modulo the range's size. -/
structure Draws where
  padding : Nat
  marker : Nat
  filler : Nat → UInt8

/-- Fill a range with random bytes. -/
def Draws.fill (draws : Draws) (count : Nat) : List UInt8 := (List.range count).map draws.filler

@[simp] theorem Draws.fill_length (draws : Draws) (count : Nat) :
    (draws.fill count).length = count := by simp [fill]

/-- Elapsed time in whole seconds and nanoseconds below one second. -/
structure Duration where
  secs : UInt64
  nanos : UInt32
  below : nanos < 1000000000

/-- A whole number of seconds. -/
def Duration.ofSecs (secs : UInt64) : Duration := ⟨secs, 0, by decide⟩

/-- Media clock ticks per second. -/
def rtpClockRate (payloadType : UInt8) : UInt32 := if payloadType = 96 then 90000 else 48000

/-- Media clock ticks of an elapsed time, truncated to the timestamp field. -/
def durationTicks (elapsed : Duration) (clockRate : UInt32) : UInt32 :=
  let rate := clockRate.toUInt64
  (elapsed.secs * rate + elapsed.nanos.toUInt64 * rate / 1000000000).toUInt32

/-- The AEAD nonce of a packet. -/
def nonce (ssrc : UInt32) (sequence : UInt16) (timestamp : UInt32) : List UInt8 :=
  toBe 4 ssrc.toNat ++ toBe 2 sequence.toNat ++ [0, 0] ++ toBe 4 timestamp.toNat

/-- The stream cipher's initialization vector of a packet. -/
def srtpIv (ssrc : UInt32) (sequence : UInt16) (timestamp : UInt32) : List UInt8 :=
  toBe 4 ssrc.toNat ++ toBe 2 sequence.toNat ++ [0, 0] ++ toBe 4 timestamp.toNat ++ [0, 0, 0, 0]

/-- The fields of an RTP header with the two extension elements. -/
structure HeaderFields where
  marked : Bool
  payloadType : UInt8
  sequence : UInt16
  timestamp : UInt32
  ssrc : UInt32
  absSendTime : UInt32
  transportSequence : UInt16

/-- The second byte: payload type and, for some video packets, the marker. -/
def HeaderFields.typeByte (fields : HeaderFields) : UInt8 :=
  if fields.marked then (fields.payloadType &&& 0x7f) ||| 0x80 else fields.payloadType &&& 0x7f

/-- The header bytes. Version, padding and extension bits open the header; the
extension holds an absolute send time and a transport sequence number. -/
def HeaderFields.bytes (fields : HeaderFields) : List UInt8 :=
  [0xb0, fields.typeByte] ++ toBe 2 fields.sequence.toNat ++ toBe 4 fields.timestamp.toNat ++
    toBe 4 fields.ssrc.toNat ++ toBe 2 0xbede ++ toBe 2 2 ++
    [0x32] ++ toBe 3 fields.absSendTime.toNat ++
    [0x51] ++ toBe 2 fields.transportSequence.toNat ++ [0]

@[simp] theorem HeaderFields.bytes_length (fields : HeaderFields) : fields.bytes.length = 24 := by
  simp [bytes]

/-- The payload types the receivers know. -/
def Known (payloadType : UInt8) : Prop := payloadType = 111 ∨ payloadType = 96 ∨ payloadType = 6

instance (payloadType : UInt8) : Decidable (Known payloadType) :=
  inferInstanceAs (Decidable (_ ∨ _))

section

variable (fields : HeaderFields)

include fields

theorem HeaderFields.typeByte_masked (known : Known fields.payloadType) :
    fields.typeByte &&& 0x7f = fields.payloadType := by
  have masked : ∀ marked : Bool, ∀ value : UInt8, Known value →
      (if marked then (value &&& 0x7f) ||| 0x80 else value &&& 0x7f) &&& 0x7f = value := by
    rintro marked value (rfl | rfl | rfl) <;> cases marked <;> decide
  exact masked fields.marked fields.payloadType known

variable (body : List UInt8)

theorem HeaderFields.sequence_read :
    UInt16.ofNat (fromBe (slice (fields.bytes ++ body) 2 4)) = fields.sequence := by
  have field : slice (fields.bytes ++ body) 2 4 = toBe 2 fields.sequence.toNat := by
    apply slice_eq_middle _ [0xb0, fields.typeByte]
    · simp only [bytes, append_assoc]
      rfl
    · rfl
    · simp
  rw [field, fromBe_u16, UInt16.ofNat_toNat]

theorem HeaderFields.timestamp_read :
    UInt32.ofNat (fromBe (slice (fields.bytes ++ body) 4 8)) = fields.timestamp := by
  have field : slice (fields.bytes ++ body) 4 8 = toBe 4 fields.timestamp.toNat := by
    apply slice_eq_middle _ ([0xb0, fields.typeByte] ++ toBe 2 fields.sequence.toNat)
    · simp only [bytes, append_assoc]
      rfl
    · simp
    · simp
  rw [field, fromBe_u32, UInt32.ofNat_toNat]

theorem HeaderFields.ssrc_read :
    UInt32.ofNat (fromBe (slice (fields.bytes ++ body) 8 12)) = fields.ssrc := by
  have field : slice (fields.bytes ++ body) 8 12 = toBe 4 fields.ssrc.toNat := by
    apply slice_eq_middle _ ([0xb0, fields.typeByte] ++ toBe 2 fields.sequence.toNat ++
      toBe 4 fields.timestamp.toNat)
    · simp only [bytes, append_assoc]
      rfl
    · simp
    · simp
  rw [field, fromBe_u32, UInt32.ofNat_toNat]

theorem HeaderFields.extension_read : fromBe (slice (fields.bytes ++ body) 14 16) = 2 := by
  have field : slice (fields.bytes ++ body) 14 16 = toBe 2 2 := by
    apply slice_eq_middle _ ([0xb0, fields.typeByte] ++ toBe 2 fields.sequence.toNat ++
      toBe 4 fields.timestamp.toNat ++ toBe 4 fields.ssrc.toNat ++ toBe 2 0xbede)
    · simp only [bytes, append_assoc]
      rfl
    · simp
    · simp
  rw [field]
  decide

theorem HeaderFields.byte_zero : byteAt (fields.bytes ++ body) 0 = 0xb0 := by
  simp [bytes, byteAt]

theorem HeaderFields.byte_one : byteAt (fields.bytes ++ body) 1 = fields.typeByte := by
  simp [bytes, byteAt]

end

/-- Random padding followed by the number of padding bytes, itself included. -/
def Draws.paddingBytes (draws : Draws) (count : Nat) : List UInt8 :=
  draws.fill count ++ [UInt8.ofNat (count + 1)]

@[simp] theorem Draws.paddingBytes_length (draws : Draws) (count : Nat) :
    (draws.paddingBytes count).length = count + 1 := by simp [paddingBytes]

/-- Padding is written behind the bytes written so far. -/
theorem Draws.pads (draws : Draws) (padding : Nat) {buffer base done : List UInt8} {position : Nat}
    (wrote : Wrote buffer base position done) (start last : Nat)
    (adjacent : start = position + done.length) (behind : last = start + padding)
    (fits : last < base.length) :
    Wrote (overwrite (overwrite buffer start (draws.fill padding)) last [UInt8.ofNat (padding + 1)])
      base position (done ++ draws.paddingBytes padding) := by
  have filled := wrote.next start (draws.fill padding) adjacent (by simp; omega)
  have padded := filled.next last [UInt8.ofNat (padding + 1)] (by simp; omega) (by simp; omega)
  exact padded.regroup (append_assoc ..)

/-- What the tag of a video packet covers: header, ciphertext and padding. -/
def videoMessage (ciphers : Ciphers) (fields : HeaderFields) (payload : List UInt8)
    (draws : Draws) (padding : Nat) : List UInt8 :=
  fields.bytes ++ (ciphers.aesCtr (srtpIv fields.ssrc fields.sequence fields.timestamp) payload ++
    draws.paddingBytes padding)

/-- A video packet: the tag stands last. -/
def videoWire (ciphers : Ciphers) (fields : HeaderFields) (payload : List UInt8)
    (draws : Draws) (padding : Nat) : List UInt8 :=
  videoMessage ciphers fields payload draws padding ++
    ciphers.shortTag (videoMessage ciphers fields payload draws padding)

theorem videoWire_front (ciphers : Ciphers) (fields : HeaderFields) (payload : List UInt8)
    (draws : Draws) (padding : Nat) :
    ∃ body, videoWire ciphers fields payload draws padding = fields.bytes ++ body :=
  ⟨_, append_assoc _ _ _⟩

/-- An audio packet: the padding stands last. -/
def audioWire (fields : HeaderFields) (text tag : List UInt8) (draws : Draws) (padding : Nat) :
    List UInt8 :=
  fields.bytes ++ (text ++ (tag ++ draws.paddingBytes padding))

section Layout

variable {ciphers : Ciphers} (lawful : ciphers.Lawful) (fields : HeaderFields)
  (payload text tag : List UInt8) (draws : Draws) (padding : Nat)

include lawful

theorem shortTag_length (message : List UInt8) : (ciphers.shortTag message).length = 10 := by
  simp [Ciphers.shortTag, lawful.tag_length]

theorem videoMessage_length : (videoMessage ciphers fields payload draws padding).length =
      24 + payload.length + (padding + 1) := by
  simp only [videoMessage, length_append, HeaderFields.bytes_length, lawful.stream_length,
    Draws.paddingBytes_length]
  omega

theorem videoWire_length : (videoWire ciphers fields payload draws padding).length =
      24 + payload.length + (padding + 1) + 10 := by
  simp [videoWire, videoMessage_length lawful, shortTag_length lawful]

end Layout

theorem audioWire_length (fields : HeaderFields) (text tag : List UInt8) (draws : Draws)
    (padding : Nat) : (audioWire fields text tag draws padding).length =
      24 + text.length + tag.length + (padding + 1) := by
  simp only [audioWire, length_append, HeaderFields.bytes_length, Draws.paddingBytes_length]
  omega

/-- A datagram of either mode that carries a payload under a header. This is what
the two senders produce and the two receivers undo. -/
inductive Carries (ciphers : Ciphers) (fields : HeaderFields) (payload : List UInt8) :
    Bool → List UInt8 → Prop where
  | video (draws : Draws) (padding : Nat) (short : padding + 1 < 256) :
    Carries ciphers fields payload true (videoWire ciphers fields payload draws padding)
  | audio (draws : Draws) (padding : Nat) (short : padding + 1 < 256) (text tag : List UInt8)
    (sealing : ciphers.sealInPlace (nonce fields.ssrc fields.sequence fields.timestamp)
      fields.bytes payload = some (text, tag)) :
    Carries ciphers fields payload false (audioWire fields text tag draws padding)

theorem paddingByte_toNat (padding : Nat) (short : padding + 1 < 256) :
    (UInt8.ofNat (padding + 1)).toNat = padding + 1 := by
  rw [UInt8.toNat_ofNat']
  exact Nat.mod_eq_of_lt short

section Reading

variable {ciphers : Ciphers} (lawful : ciphers.Lawful) (fields : HeaderFields)
  (payload : List UInt8) (draws : Draws) (padding : Nat)

include lawful

theorem video_message_read :
    slice (videoWire ciphers fields payload draws padding) 0 (24 + payload.length + (padding + 1)) =
      videoMessage ciphers fields payload draws padding := by
  apply slice_eq_middle _ []
  · rfl
  · rfl
  · rw [videoMessage_length lawful]
    simp

theorem video_tag_read :
    slice (videoWire ciphers fields payload draws padding) (24 + payload.length + (padding + 1))
        (24 + payload.length + (padding + 1) + 10) =
      ciphers.shortTag (videoMessage ciphers fields payload draws padding) := by
  apply slice_eq_middle _ (videoMessage ciphers fields payload draws padding) _ []
  · rw [append_nil]
    rfl
  · rw [videoMessage_length lawful]
  · rw [videoMessage_length lawful, shortTag_length lawful]

theorem video_text_read :
    slice (videoWire ciphers fields payload draws padding) 24 (24 + payload.length) =
      ciphers.aesCtr (srtpIv fields.ssrc fields.sequence fields.timestamp) payload := by
  apply slice_eq_middle _ fields.bytes
  · simp only [videoWire, videoMessage, append_assoc]
    rfl
  · rw [HeaderFields.bytes_length]
  · rw [HeaderFields.bytes_length, lawful.stream_length]

theorem video_padding_read :
    byteAt (videoWire ciphers fields payload draws padding) (24 + payload.length + padding) =
      UInt8.ofNat (padding + 1) := by
  have split : videoWire ciphers fields payload draws padding = (fields.bytes ++
        (ciphers.aesCtr (srtpIv fields.ssrc fields.sequence fields.timestamp) payload ++
          draws.fill padding)) ++
        (UInt8.ofNat (padding + 1) ::
          ciphers.shortTag (videoMessage ciphers fields payload draws padding)) := by
    simp [videoWire, videoMessage, Draws.paddingBytes]
  rw [split]
  apply byteAt_middle
  simp only [length_append, HeaderFields.bytes_length, lawful.stream_length, Draws.fill_length]
  omega

end Reading

section ReadingAudio

variable (fields : HeaderFields) (text tag : List UInt8) (draws : Draws) (padding : Nat)

theorem audio_header_read :
    slice (audioWire fields text tag draws padding) 0 24 = fields.bytes := by
  apply slice_eq_middle _ []
  · rfl
  · rfl
  · simp

theorem audio_text_read :
    slice (audioWire fields text tag draws padding) 24 (24 + text.length) = text := by
  apply slice_eq_middle _ fields.bytes
  · rfl
  · simp
  · simp

theorem audio_tag_read : slice (audioWire fields text tag draws padding) (24 + text.length)
      (24 + text.length + tag.length) = tag := by
  apply slice_eq_middle _ (fields.bytes ++ text) tag (draws.paddingBytes padding)
  · simp [audioWire]
  · simp
  · simp

theorem audio_padding_read : byteAt (audioWire fields text tag draws padding)
      (24 + text.length + tag.length + padding) = UInt8.ofNat (padding + 1) := by
  have split : audioWire fields text tag draws padding =
      (fields.bytes ++ (text ++ (tag ++ draws.fill padding))) ++ [UInt8.ofNat (padding + 1)] := by
    simp [audioWire, Draws.paddingBytes]
  rw [split]
  apply byteAt_middle
  simp only [length_append, HeaderFields.bytes_length, Draws.fill_length]
  omega

end ReadingAudio

end Csqtt.RtpWire
