import Csqtt.CheckedBytes
import Csqtt.WireRoundTrip

/-!
# Unwrapping stays inside the packet

The length of the header, the padding and the lengths of records come from the packet, and an attacker may
have made it. Here both unwrap functions are written once more, with a check for each index, each range and
each difference, and for the end of the loop that skips records. None of the checks fails: the functions do
what they do without checks. And the payload that they return stands behind the header and inside the
packet, in front of the authentication tag.

The primitives are assumed to work in place, and the tag to have its length.
-/

namespace Csqtt

open Bytes RtpWire List Nat ServerObfs WireRoundTrip

/-! ## The server -/

variable {ciphers : Ciphers} {stop : Nat} {wire : List UInt8}

namespace ServerObfs

open Checked

/-- The length of the RTP header of a packet. -/
def checkedRtpHeaderLen (wire : List UInt8) : Checked Nat := do
  if wire.length < 13 then throw "invalid RTP packet"
  else
    let first ← index wire 0
    if first >>> 6 ≠ 2 then throw "invalid RTP packet"
    else if first &&& 0x10 ≠ 0 then
      if wire.length < 16 then throw "packet too short for extension header"
      else
        let words ← cut wire 14 16
        let headerLen := 12 + (4 + fromBe words * 4)
        if wire.length < headerLen then throw "packet too short for calculated RTP header"
        else pure headerLen
    else if wire.length < 12 then throw "packet too short for calculated RTP header"
    else pure 12

/-- Skip whole DTLS records. To use up the rounds is a fault. -/
def checkedSkipRecords : Nat → List UInt8 → Nat → Nat → Checked Nat
  | 0, _, _, _ => fault
  | rounds + 1, wire, offset, stop => do
    if offset + 13 ≤ stop then
      let first ← index wire offset
      if opensRecord first then
        let second ← index wire (offset + 1)
        if second = 0xfe then
          let high ← index wire (offset + 11)
          let low ← index wire (offset + 12)
          let recordLen := 13 + (high.toNat * 256 + low.toNat)
          if offset + recordLen > stop then pure offset
          else checkedSkipRecords rounds wire (offset + recordLen) stop
        else pure offset
      else pure offset
    else pure offset

/-- The end of a decrypted payload, cut behind its last whole DTLS record. -/
def checkedTrimRecords (wire : List UInt8) (headerLen stop : Nat) : Checked Nat := do
  let length ← less stop headerLen
  if length ≥ 13 then
    let first ← index wire headerLen
    if opensRecord first then
      let offset ← checkedSkipRecords wire.length wire headerLen stop
      if offset > headerLen then pure offset else pure stop
    else pure stop
  else pure stop

/-- The end of the text in front of the padding, if its length byte is sound. -/
def checkedTrimPadding (wire : List UInt8) (headerLen stop : Nat) (refusal : String) : Checked Nat := do
  let first ← index wire 0
  if first &&& 0x20 ≠ 0 then
    let last ← less stop 1
    let padding ← index wire last
    let room ← less stop headerLen
    if padding.toNat = 0 ∨ padding.toNat > room then throw refusal
    else less stop padding.toNat
  else pure stop

/-- Decrypt an authenticated video packet in place. -/
def checkedDecodeSrtp (ciphers : Ciphers) (wire : List UInt8) (headerLen : Nat) (payloadType : UInt8)
    (seq : UInt16) (timestamp ssrc : UInt32) : Checked (DecodedPacket × List UInt8) := do
  let messageLen ← less wire.length 10
  let stop ← checkedTrimPadding wire headerLen messageLen "invalid RTP padding in SRTP mode"
  if stop < headerLen then throw "invalid SRTP payload bounds"
  else
    let text ← cut wire headerLen stop
    let wire := splice wire headerLen (ciphers.aesCtr (srtpIv ssrc seq timestamp) text)
    let stop ← checkedTrimRecords wire headerLen stop
    pure (⟨headerLen, stop, seq, payloadType, true⟩, wire)

/-- Open an audio packet in place. -/
def checkedDecodeAead (ciphers : Ciphers) (wire : List UInt8) (headerLen : Nat) (payloadType : UInt8)
    (seq : UInt16) (timestamp ssrc : UInt32) : Checked (DecodedPacket × List UInt8) := do
  let stop ← checkedTrimPadding wire headerLen wire.length "invalid RTP padding"
  if stop ≤ headerLen + 16 then throw "empty encrypted payload"
  else if payloadType ≠ 111 then throw "expected audio (PT=111) for non-SRTP packet"
  else
    let tagOffset ← less stop 16
    let tag ← cut wire tagOffset stop
    let associated ← cut wire 0 headerLen
    let ciphertextLen ← less tagOffset headerLen
    let text ← cut (wire.drop headerLen) 0 ciphertextLen
    match ciphers.openInPlace (nonce ssrc seq timestamp) associated tag text with
    | none => throw "authentication failed (ChaCha20-Poly1305)"
    | some text =>
      pure (⟨headerLen, tagOffset, seq, payloadType, false⟩, splice wire headerLen text)

/-- Whether the last ten bytes authenticate the bytes before them. -/
def checkedAuthenticates (ciphers : Ciphers) (wire : List UInt8) : Checked Bool := do
  let messageLen ← less wire.length 10
  let message ← cut wire 0 messageLen
  let expected ← cut (ciphers.hmacSha1 message) 0 10
  let tag ← cut wire messageLen wire.length
  pure (expected == tag)

/-- Unwrap a packet in place. The expected mode is none for an unknown peer. -/
def checkedUnwrapLegacyInPlace (ciphers : Ciphers) (wire : List UInt8) (expectedSrtp : Option Bool) :
    Checked (DecodedPacket × List UInt8) := do
  let headerLen ← checkedRtpHeaderLen wire
  let second ← index wire 1
  let payloadType := second &&& 0x7f
  if ¬Known payloadType then throw "unsupported RTP payload type"
  else
    let seq := UInt16.ofNat (fromBe (← cut wire 2 4))
    let timestamp := UInt32.ofNat (fromBe (← cut wire 4 8))
    let ssrc := UInt32.ofNat (fromBe (← cut wire 8 12))
    if expectedSrtp ≠ some false ∧ wire.length ≥ headerLen + 10 then
      if ← checkedAuthenticates ciphers wire then
        checkedDecodeSrtp ciphers wire headerLen payloadType seq timestamp ssrc
      else if expectedSrtp = some true then throw "SRTP authentication failed"
      else checkedDecodeAead ciphers wire headerLen payloadType seq timestamp ssrc
    else if expectedSrtp = some true then throw "SRTP packet is too short"
    else checkedDecodeAead ciphers wire headerLen payloadType seq timestamp ssrc

/-! ### No check fails -/

/-- The header has at least twelve bytes and is inside the packet. -/
theorem rtpHeaderLen_safely (wire : List UInt8) :
    Safely (checkedRtpHeaderLen wire) (rtpHeaderLen wire) fun headerLen =>
      12 ≤ headerLen ∧ headerLen ≤ wire.length ∧ 13 ≤ wire.length := by
  unfold checkedRtpHeaderLen rtpHeaderLen
  by_cases short : wire.length < 13
  · rw [if_pos short, if_pos (.inl short)]
    exact .error _
  rw [if_neg short, index_eq (by omega), pure_bind]
  by_cases other : byteAt wire 0 >>> 6 ≠ 2
  · rw [if_pos other, if_pos (.inr other)]
    exact .error _
  rw [if_neg other, if_neg (not_or.mpr ⟨short, other⟩)]
  by_cases extended : byteAt wire 0 &&& 0x10 ≠ 0
  · rw [if_pos extended, if_pos extended]
    by_cases cramped : wire.length < 16
    · rw [if_pos cramped, if_pos ⟨extended, cramped⟩]
      exact .error _
    rw [if_neg cramped, if_neg fun both => cramped both.2, cut_eq (by omega) (by omega), pure_bind]
    dsimp only
    split
    · exact .error _
    · exact .ok (by omega)
  · have plain : ¬ (byteAt wire 0 &&& 0x10 ≠ 0 ∧ wire.length < 16) := fun both => extended both.1
    have fits : ¬ wire.length < 12 := by omega
    rw [if_neg extended, if_neg extended, if_neg plain]
    rw [if_neg fits, if_neg fits]
    exact .ok (by omega)

/-- There are more rounds than bytes, so the loop ends by itself, inside the packet. -/
theorem skipRecords_safely (rounds : Nat) {offset : Nat} (enough : stop - offset < rounds)
    (inside : stop ≤ wire.length) (ordered : offset ≤ stop) :
    checkedSkipRecords rounds wire offset stop = pure (skipRecords rounds wire offset stop) ∧
      offset ≤ skipRecords rounds wire offset stop ∧ skipRecords rounds wire offset stop ≤ stop := by
  induction rounds generalizing offset with
  | zero => exact absurd enough (not_lt_zero _)
  | succ rounds ih =>
    unfold checkedSkipRecords skipRecords
    by_cases room : offset + 13 ≤ stop
    · rw [if_pos room, index_eq (by omega), pure_bind]
      by_cases opens : opensRecord (byteAt wire offset) = true
      · rw [if_pos opens, index_eq (by omega), pure_bind]
        by_cases version : byteAt wire (offset + 1) = 0xfe
        · have record : offset + 13 ≤ stop ∧ opensRecord (byteAt wire offset) = true ∧
              byteAt wire (offset + 1) = 0xfe := ⟨room, opens, version⟩
          rw [if_pos version, index_eq (by omega), pure_bind, index_eq (by omega), pure_bind,
            if_pos record]
          dsimp only
          have atLeast : 13 ≤ 13 + ((byteAt wire (offset + 11)).toNat * 256 +
            (byteAt wire (offset + 12)).toNat) := le_add_right _ _
          generalize 13 + ((byteAt wire (offset + 11)).toNat * 256 + (byteAt wire (offset + 12)).toNat) =
            recordLen at atLeast
          split
          · exact ⟨rfl, Nat.le_refl _, ordered⟩
          rename_i fits
          have shorter : stop - (offset + recordLen) < rounds := by omega
          obtain ⟨same, low, high⟩ := ih shorter (Nat.le_of_not_lt fits)
          exact ⟨same, by omega, high⟩
        · rw [if_neg version, if_neg fun all => version all.2.2]
          exact ⟨rfl, Nat.le_refl _, ordered⟩
      · rw [if_neg opens, if_neg fun all => opens all.2.1]
        exact ⟨rfl, Nat.le_refl _, ordered⟩
    · rw [if_neg room, if_neg fun all => room all.1]
      exact ⟨rfl, Nat.le_refl _, ordered⟩

/-- The payload is cut inside of what it was. -/
theorem trimRecords_safely {headerLen : Nat} (ordered : headerLen ≤ stop)
    (inside : stop < wire.length) :
    checkedTrimRecords wire headerLen stop = pure (trimRecords wire headerLen stop) ∧
      headerLen ≤ trimRecords wire headerLen stop ∧ trimRecords wire headerLen stop ≤ stop := by
  unfold checkedTrimRecords trimRecords
  rw [less_eq ordered, pure_bind]
  by_cases long : stop - headerLen ≥ 13
  · rw [if_pos long, index_eq (by omega), pure_bind]
    by_cases opens : opensRecord (byteAt wire headerLen) = true
    · have enough : stop - headerLen < wire.length := by omega
      obtain ⟨same, low, high⟩ := skipRecords_safely wire.length enough (le_of_lt inside) ordered
      rw [if_pos opens, if_pos ⟨long, opens⟩, same, pure_bind]
      dsimp only
      split
      · exact ⟨rfl, low, high⟩
      · exact ⟨rfl, ordered, Nat.le_refl _⟩
    · rw [if_neg opens, if_neg fun both => opens both.2]
      exact ⟨rfl, ordered, Nat.le_refl _⟩
  · rw [if_neg long, if_neg fun both => long both.1]
    exact ⟨rfl, ordered, Nat.le_refl _⟩

theorem trimPadding_safely {headerLen : Nat} (refusal : String) (positive : 1 ≤ stop)
    (ordered : headerLen ≤ stop) (inside : stop ≤ wire.length) :
    Safely (checkedTrimPadding wire headerLen stop refusal) (trimPadding wire headerLen stop refusal)
      fun trimmed => headerLen ≤ trimmed ∧ trimmed ≤ stop := by
  unfold checkedTrimPadding trimPadding
  rw [index_eq (by omega), pure_bind]
  by_cases padded : byteAt wire 0 &&& 0x20 ≠ 0
  · rw [if_pos padded, if_pos padded, less_eq positive, pure_bind, index_eq (by omega), pure_bind,
      less_eq ordered, pure_bind]
    dsimp only
    generalize (byteAt wire (stop - 1)).toNat = padding
    split
    · exact .error _
    · rw [less_eq (by omega)]
      exact .ok (by omega)
  · rw [if_neg padded, if_neg padded]
    exact .ok ⟨ordered, Nat.le_refl _⟩

section Packets

variable {headerLen : Nat} {payloadType : UInt8} {seq : UInt16} {timestamp ssrc : UInt32}

/-- A video packet is decoded safely. Its payload stands behind the header and in front of the tag. -/
theorem decodeSrtp_safely (lawful : ciphers.Lawful) (header : 12 ≤ headerLen)
    (long : headerLen + 10 ≤ wire.length) :
    Safely (checkedDecodeSrtp ciphers wire headerLen payloadType seq timestamp ssrc)
      (decodeSrtp ciphers wire headerLen payloadType seq timestamp ssrc) fun opened =>
      opened.1.isSrtp = true ∧ opened.1.start = headerLen ∧ headerLen ≤ opened.1.stop ∧
        opened.1.stop ≤ wire.length - 10 := by
  unfold checkedDecodeSrtp decodeSrtp
  rw [less_eq (by omega), pure_bind]
  refine (trimPadding_safely _ (by omega) (by omega) (sub_le _ _)).bind ?_
  intro stop _ bounds
  rw [if_neg (not_lt.mpr bounds.1), if_neg (not_lt.mpr bounds.1),
    cut_eq bounds.1 (by omega), pure_bind]
  dsimp only
  have kept : (splice wire headerLen (ciphers.aesCtr (srtpIv ssrc seq timestamp)
      (slice wire headerLen stop))).length = wire.length := by
    refine splice_length _ _ _ ?_
    rw [lawful.stream_length, slice_length _ _ _ (by omega)]
    omega
  obtain ⟨same, low, high⟩ := trimRecords_safely bounds.1 (by rw [kept]; omega)
  rw [same, pure_bind]
  exact .ok ⟨rfl, rfl, low, le_trans high bounds.2⟩

/-- An audio packet is opened safely. Its payload stands behind the header and in front of the tag. -/
theorem decodeAead_safely (header : headerLen ≤ wire.length) (nonempty : 1 ≤ wire.length) :
    Safely (checkedDecodeAead ciphers wire headerLen payloadType seq timestamp ssrc)
      (decodeAead ciphers wire headerLen payloadType seq timestamp ssrc) fun opened =>
      opened.1.isSrtp = false ∧ opened.1.start = headerLen ∧ headerLen ≤ opened.1.stop ∧
        opened.1.stop ≤ wire.length - 16 := by
  refine (trimPadding_safely _ nonempty header (Nat.le_refl _)).bind ?_
  intro stop _ bounds
  split
  · exact .error _
  rename_i room
  split
  · exact .error _
  have text : cut (wire.drop headerLen) 0 (stop - 16 - headerLen) =
      pure (slice wire headerLen (stop - 16)) := by
    rw [cut_eq (Nat.zero_le _) (by rw [length_drop]; omega), slice, slice, drop_zero, Nat.sub_zero]
  rw [less_eq (by omega), pure_bind, cut_eq (by omega) bounds.2, pure_bind,
    cut_eq (Nat.zero_le _) header, pure_bind, less_eq (by omega), pure_bind, text, pure_bind]
  dsimp only
  have low : headerLen ≤ stop - 16 := by omega
  have high : stop - 16 ≤ wire.length - 16 := Nat.sub_le_sub_right bounds.2 16
  cases ciphers.openInPlace (nonce ssrc seq timestamp) (slice wire 0 headerLen)
      (slice wire (stop - 16) stop) (slice wire headerLen (stop - 16)) with
  | none => exact .error _
  | some text => exact .ok ⟨rfl, rfl, low, high⟩

theorem authenticates_safely (lawful : ciphers.Lawful) (long : 10 ≤ wire.length) :
    checkedAuthenticates ciphers wire = pure (authenticates ciphers wire) := by
  unfold checkedAuthenticates
  rw [less_eq long, pure_bind, cut_eq (Nat.zero_le _) (sub_le _ _), pure_bind,
    cut_eq (Nat.zero_le _) (by rw [lawful.tag_length]; decide), pure_bind,
    cut_eq (sub_le _ _) (Nat.le_refl _), pure_bind]
  rfl

end Packets

/-- Unwrapping a packet is safe for every packet and every expected mode. The payload stands behind the
header and inside the packet, and in front of the tag. -/
theorem unwrapLegacyInPlace_safely (lawful : ciphers.Lawful) (wire : List UInt8)
    (expectedSrtp : Option Bool) : Safely (checkedUnwrapLegacyInPlace ciphers wire expectedSrtp)
      (unwrapLegacyInPlace ciphers wire expectedSrtp) fun opened =>
      rtpHeaderLen wire = .ok opened.1.start ∧ opened.1.start ≤ opened.1.stop ∧
        opened.1.stop ≤ wire.length - (if opened.1.isSrtp then 10 else 16) := by
  refine (rtpHeaderLen_safely wire).bind ?_
  rintro headerLen header ⟨least, inside, long⟩
  have audio : ∀ payloadType seq timestamp ssrc,
      Safely (checkedDecodeAead ciphers wire headerLen payloadType seq timestamp ssrc)
        (decodeAead ciphers wire headerLen payloadType seq timestamp ssrc) fun opened =>
        rtpHeaderLen wire = .ok opened.1.start ∧ opened.1.start ≤ opened.1.stop ∧
          opened.1.stop ≤ wire.length - (if opened.1.isSrtp then 10 else 16) := by
    intro payloadType seq timestamp ssrc
    refine (decodeAead_safely inside (by omega)).imp ?_
    rintro opened ⟨mode, start, low, high⟩
    rw [mode, start]
    exact ⟨header, low, high⟩
  rw [index_eq (by omega), pure_bind]
  dsimp only
  split
  · exact .error _
  rw [cut_eq (by decide) (by omega), pure_bind, cut_eq (by decide) (by omega), pure_bind,
    cut_eq (by decide) (by omega), pure_bind]
  split
  · rename_i video
    rw [authenticates_safely lawful (by omega), pure_bind]
    split
    · refine (decodeSrtp_safely lawful least video.2).imp ?_
      rintro opened ⟨mode, start, low, high⟩
      rw [mode, start]
      exact ⟨header, low, high⟩
    · split
      · exact .error _
      · exact audio _ _ _ _
  · split
    · exact .error _
    · exact audio _ _ _ _

end ServerObfs

/-! ## The client -/

namespace ClientObfs

open Checked

/-- The length of the RTP header of a packet. -/
def checkedHeaderLen (wire : List UInt8) : Checked Nat := do
  let first ← index wire 0
  if first &&& 0x10 ≠ 0 then
    if wire.length < 16 then throw "obfs: packet too short for extension header"
    else
      let words ← cut wire 14 16
      pure (12 + (4 + fromBe words * 4))
  else pure 12

/-- The end of the text in front of the padding, if its length byte is sound. -/
def checkedTrimPadding (packet : PacketBuf) (headerLen stop : Nat) (refusal : String) : Checked Nat := do
  let first ← index packet.storage packet.start
  if first &&& 0x20 ≠ 0 then
    let last ← less stop 1
    let padding ← index packet.storage last
    let length ← less stop packet.start
    let room ← less length headerLen
    if padding.toNat = 0 ∨ padding.toNat > room then throw (refusal ++ toString padding.toNat)
    else less stop padding.toNat
  else pure stop

/-- Authenticate and decrypt a video packet. -/
def checkedUnwrapVideo (ciphers : Ciphers) (packet : PacketBuf) (headerLen : Nat) (ssrc : UInt32)
    (sequence : UInt16) (timestamp : UInt32) : Checked (UInt16 × PacketBuf) := do
  if packet.len < headerLen + 10 then throw "obfs srtp: missing authentication tag"
  else
    let tagStart ← less packet.stop 10
    let message ← cut packet.storage packet.start tagStart
    let expected ← cut (ciphers.hmacSha1 message) 0 10
    let tag ← cut packet.storage tagStart packet.stop
    if expected ≠ tag then throw "obfs srtp: authentication failed"
    else
      let payloadEnd ← checkedTrimPadding packet headerLen tagStart "obfs srtp: invalid padding length "
      let payloadStart := packet.start + headerLen
      let text ← cut packet.storage payloadStart payloadEnd
      let packet := packet.write payloadStart (ciphers.aesCtr (srtpIv ssrc sequence timestamp) text)
      let packet ← settled (packet.setRange payloadStart payloadEnd)
      pure (sequence, packet)

/-- Open an audio packet. -/
def checkedUnwrapAudio (ciphers : Ciphers) (packet : PacketBuf) (payloadType : UInt8) (headerLen : Nat)
    (ssrc : UInt32) (sequence : UInt16) (timestamp : UInt32) : Checked (UInt16 × PacketBuf) := do
  if payloadType ≠ 111 then throw "obfs audio: expected payload type 111"
  else
    let payloadEnd ← checkedTrimPadding packet headerLen packet.stop "obfs: invalid padding length "
    let payloadStart := packet.start + headerLen
    if payloadEnd ≤ payloadStart + 16 then throw "obfs: empty encrypted payload or missing tag"
    else
      let tagStart ← less payloadEnd 16
      let tag ← cut packet.storage tagStart payloadEnd
      let associated ← cut (packet.storage.take payloadStart) packet.start payloadStart
      let length ← less tagStart payloadStart
      let text ← cut (packet.storage.drop payloadStart) 0 length
      match ciphers.openInPlace (nonce ssrc sequence timestamp) associated tag text with
      | none => throw "obfs: auth (ChaCha20-Poly1305)"
      | some text =>
        let packet := packet.write payloadStart text
        let packet ← settled (packet.setRange payloadStart tagStart)
        pure (sequence, packet)

/-- Unwrap a packet in place and return its sequence number. -/
def checkedUnwrap (ciphers : Ciphers) (packet : PacketBuf) (mode : ObfsMode) :
    Checked (UInt16 × PacketBuf) := do
  let wire ← cut packet.storage packet.start packet.stop
  if wire.length < 13 then throw "obfs: not RTP v2"
  else
    let first ← index wire 0
    if first >>> 6 ≠ 2 then throw "obfs: not RTP v2"
    else
      let second ← index wire 1
      let payloadType := second &&& 0x7f
      if ¬Known payloadType then throw ("obfs: unsupported payload type " ++ toString payloadType.toNat)
      else
        let sequence := UInt16.ofNat (fromBe (← cut wire 2 4))
        let timestamp := UInt32.ofNat (fromBe (← cut wire 4 8))
        let ssrc := UInt32.ofNat (fromBe (← cut wire 8 12))
        let headerLen ← checkedHeaderLen wire
        if wire.length < headerLen then throw "obfs: packet too short for calculated RTP header"
        else
          match mode with
          | .video => checkedUnwrapVideo ciphers packet headerLen ssrc sequence timestamp
          | .audio => checkedUnwrapAudio ciphers packet payloadType headerLen ssrc sequence timestamp

/-! ### No check fails -/

theorem headerLen_safely (long : 13 ≤ wire.length) :
    Safely (checkedHeaderLen wire) (headerLen wire) fun length => 12 ≤ length := by
  unfold checkedHeaderLen headerLen
  rw [index_eq (by omega), pure_bind]
  split
  · split
    · exact .error _
    · rw [cut_eq (by decide) (by omega), pure_bind]
      exact .ok (le_add_right _ _)
  · exact .ok (Nat.le_refl _)

section Packets

variable {packet : PacketBuf} {headerLen : Nat} {ssrc : UInt32} {sequence : UInt16}
  {timestamp : UInt32}

/-- The padding does not reach into the header. -/
theorem trimPadding_safely (refusal : String) (header : 12 ≤ headerLen)
    (ordered : packet.start + headerLen ≤ stop) (inside : stop ≤ packet.stop) :
    Safely (checkedTrimPadding packet headerLen stop refusal) (trimPadding packet headerLen stop refusal)
      fun trimmed => packet.start + headerLen ≤ trimmed ∧ trimmed ≤ stop := by
  have stored := packet.sized
  have within := packet.inside
  unfold checkedTrimPadding trimPadding
  rw [index_eq (by omega), pure_bind]
  by_cases padded : byteAt packet.storage packet.start &&& 0x20 ≠ 0
  · rw [if_pos padded, if_pos padded, less_eq (by omega), pure_bind, index_eq (by omega), pure_bind,
      less_eq (by omega), pure_bind, less_eq (by omega), pure_bind]
    dsimp only
    generalize (byteAt packet.storage (stop - 1)).toNat = padding
    split
    · exact .error _
    · rw [less_eq (by omega)]
      exact .ok (by omega)
  · rw [if_neg padded, if_neg padded]
    exact .ok ⟨ordered, Nat.le_refl _⟩

/-- What is unwrapped stands behind the header and inside the packet. -/
def Within (packet : PacketBuf) (headerLen : Nat) (opened : UInt16 × PacketBuf) : Prop :=
  opened.2.start = packet.start + headerLen ∧ opened.2.start ≤ opened.2.stop ∧
    opened.2.stop ≤ packet.stop

theorem setRange_safely (written : PacketBuf) (ordered : packet.start + headerLen ≤ stop)
    (inside : stop ≤ packet.stop) : Safely (do
        let opened ← settled (written.setRange (packet.start + headerLen) stop)
        pure (sequence, opened)) (do
        let opened ← written.setRange (packet.start + headerLen) stop
        return (sequence, opened)) (Within packet headerLen) := by
  unfold PacketBuf.setRange
  split
  · exact .error _
  · exact .ok ⟨rfl, ordered, inside⟩

theorem unwrapVideo_safely (lawful : ciphers.Lawful) (header : 12 ≤ headerLen) :
    Safely (checkedUnwrapVideo ciphers packet headerLen ssrc sequence timestamp)
      (unwrapVideo ciphers packet headerLen ssrc sequence timestamp) (Within packet headerLen) := by
  have stored := packet.sized
  have within := packet.inside
  unfold checkedUnwrapVideo unwrapVideo
  split
  · exact .error _
  rename_i long
  unfold PacketBuf.len at long
  rw [less_eq (by omega), pure_bind, cut_eq (by omega) (by omega), pure_bind,
    cut_eq (Nat.zero_le _) (by rw [lawful.tag_length]; decide), pure_bind,
    cut_eq (by omega) (by omega), pure_bind]
  dsimp only
  have short : slice (ciphers.hmacSha1 (slice packet.storage packet.start (packet.stop - 10))) 0 10 =
      ciphers.shortTag (slice packet.storage packet.start (packet.stop - 10)) := rfl
  rw [short]
  split
  · exact .error _
  refine (trimPadding_safely _ header (by omega) (sub_le _ _)).bind ?_
  intro stop _ bounds
  rw [cut_eq bounds.1 (by omega), pure_bind]
  exact setRange_safely _ bounds.1 (by omega)

theorem unwrapAudio_safely {payloadType : UInt8} (header : 12 ≤ headerLen)
    (long : packet.start + headerLen ≤ packet.stop) :
    Safely (checkedUnwrapAudio ciphers packet payloadType headerLen ssrc sequence timestamp)
      (unwrapAudio ciphers packet payloadType headerLen ssrc sequence timestamp)
      (Within packet headerLen) := by
  have stored := packet.sized
  have within := packet.inside
  unfold checkedUnwrapAudio unwrapAudio
  split
  · exact .error _
  refine (trimPadding_safely _ header long (Nat.le_refl _)).bind ?_
  intro stop _ bounds
  dsimp only
  split
  · exact .error _
  rename_i room
  have associated : cut (packet.storage.take (packet.start + headerLen)) packet.start
      (packet.start + headerLen) =
        pure (slice packet.storage packet.start (packet.start + headerLen)) := by
    rw [cut_eq (le_add_right _ _) (by rw [length_take]; omega), slice, slice,
      drop_take, take_take, min_self]
  have text : cut (packet.storage.drop (packet.start + headerLen)) 0
      (stop - 16 - (packet.start + headerLen)) =
        pure (slice packet.storage (packet.start + headerLen) (stop - 16)) := by
    rw [cut_eq (Nat.zero_le _) (by rw [length_drop]; omega), slice, slice, drop_zero, Nat.sub_zero]
  rw [less_eq (by omega), pure_bind, cut_eq (by omega) (by omega), pure_bind, associated, pure_bind,
    less_eq (by omega), pure_bind, text, pure_bind]
  cases ciphers.openInPlace (nonce ssrc sequence timestamp)
      (slice packet.storage packet.start (packet.start + headerLen))
      (slice packet.storage (stop - 16) stop)
      (slice packet.storage (packet.start + headerLen) (stop - 16)) with
  | none => exact .error _
  | some text => exact setRange_safely _ (by omega) (by omega)

end Packets

/-- Unwrapping a packet is safe for every packet and every mode. The payload stands behind the header and
inside the packet. -/
theorem unwrap_safely (lawful : ciphers.Lawful) (packet : PacketBuf) (mode : ObfsMode) :
    Safely (checkedUnwrap ciphers packet mode) (unwrap ciphers packet mode) fun opened =>
      ∃ length, headerLen packet.asSlice = .ok length ∧ Within packet length opened := by
  have size : packet.asSlice.length = packet.stop - packet.start := PacketBuf.asSlice_length packet
  have wire : cut packet.storage packet.start packet.stop = pure packet.asSlice :=
    cut_eq packet.ordered (by rw [packet.sized]; exact packet.inside)
  unfold checkedUnwrap unwrap
  rw [wire, pure_bind]
  dsimp only
  by_cases short : packet.asSlice.length < 13
  · rw [if_pos short, if_pos (.inl short)]
    exact .error _
  rw [if_neg short, index_eq (by omega), pure_bind]
  by_cases other : byteAt packet.asSlice 0 >>> 6 ≠ 2
  · rw [if_pos other, if_pos (.inr other)]
    exact .error _
  rw [if_neg other, if_neg (not_or.mpr ⟨short, other⟩), index_eq (by omega), pure_bind]
  split
  · exact .error _
  rw [cut_eq (by decide) (by omega), pure_bind, cut_eq (by decide) (by omega), pure_bind,
    cut_eq (by decide) (by omega), pure_bind]
  refine (headerLen_safely (by omega)).bind ?_
  intro length given header
  split
  · exact .error _
  rename_i fits
  cases mode with
  | video =>
    refine (unwrapVideo_safely lawful header).imp ?_
    exact fun opened inside => ⟨length, given, inside⟩
  | audio =>
    refine (unwrapAudio_safely header (by omega)).imp ?_
    exact fun opened inside => ⟨length, given, inside⟩

end ClientObfs

/-- For every packet, both unwrap functions refuse it or return a payload that stands behind its header and
inside of it. No index or range is outside, no difference is negative, and the loop that skips records
ends. The payload of a video packet ends in front of the authentication tag. -/
theorem unwrapping_is_safe {ciphers : Ciphers} (lawful : ciphers.Lawful) :
    (∀ (wire : List UInt8) (expectedSrtp : Option Bool),
      Checked.Safely (checkedUnwrapLegacyInPlace ciphers wire expectedSrtp)
        (unwrapLegacyInPlace ciphers wire expectedSrtp) fun opened =>
        rtpHeaderLen wire = .ok opened.1.start ∧ opened.1.start ≤ opened.1.stop ∧
          opened.1.stop ≤ wire.length - (if opened.1.isSrtp then 10 else 16)) ∧
    ∀ (packet : ClientObfs.PacketBuf) (mode : ClientObfs.ObfsMode),
      Checked.Safely (ClientObfs.checkedUnwrap ciphers packet mode)
        (ClientObfs.unwrap ciphers packet mode) fun opened =>
        ∃ length, ClientObfs.headerLen packet.asSlice = .ok length ∧
          opened.2.start = packet.start + length ∧ opened.2.start ≤ opened.2.stop ∧
          opened.2.stop ≤ packet.stop :=
  ⟨unwrapLegacyInPlace_safely lawful, ClientObfs.unwrap_safely lawful⟩

/-- A video packet with a DTLS record of fourteen bytes and two more bytes. -/
def recordPacket : List UInt8 :=
  [0x80, 111, 0, 1, 0, 0, 0, 2, 0, 0, 0, 3] ++
    [22, 0xfe, 0xfd, 0, 0, 0, 0, 0, 0, 0, 0, 0, 1, 9] ++ [7, 7] ++ List.replicate 10 0

/-- The payload of the packet is the record. -/
theorem recordPacket_is_safe : unwrapLegacyInPlace plainCiphers recordPacket none =
        .ok (⟨12, 26, 1, 111, true⟩, recordPacket) ∧
      checkedUnwrapLegacyInPlace plainCiphers recordPacket none = Checked.settled
          (unwrapLegacyInPlace plainCiphers recordPacket none) :=
  ⟨by decide +kernel, ((unwrapping_is_safe plainCiphers_lawful).1 recordPacket none).settles⟩

end Csqtt
