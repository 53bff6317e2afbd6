import Csqtt.ServerObfs

/-!
# What the server sends and accepts

A wrapped payload is carried in the layout of the session's mode, and a datagram in
that layout decodes to its payload, its sequence number and its mode. The mode is
recovered from the tag: a video packet authenticates, and an audio packet is taken
for one only if its last ten bytes match a tag by accident.
-/

namespace Csqtt.ServerObfs

open Bytes RtpWire List

theorem randomPadding_lt_sixty (isSrtp : Bool) (payloadType : UInt8) (draws : Draws) :
    randomPadding isSrtp payloadType draws < 60 := by
  unfold randomPadding
  split <;> split <;> omega

theorem randomPadding_lt (isSrtp : Bool) (payloadType : UInt8) (draws : Draws) :
    randomPadding isSrtp payloadType draws + 1 < 256 := by
  have padding := randomPadding_lt_sixty isSrtp payloadType draws
  omega

@[simp] theorem PacketBuf.write_storage (packet : PacketBuf) (position : Nat) (bytes : List UInt8) :
    (packet.write position bytes).storage = overwrite packet.storage position bytes := rfl

theorem PacketBuf.setLen_ok (packet : PacketBuf) (len : Nat) (fits : len ≤ packetCapacity) :
    ∃ shown, packet.setLen len = some shown ∧ shown.asSlice = slice packet.storage 0 len := by
  rw [setLen, dif_neg (Nat.not_lt.mpr fits)]
  exact ⟨_, rfl, rfl⟩

section Wrapping

variable {ciphers : Ciphers} (lawful : ciphers.Lawful) (output : PacketBuf)
  (fields : HeaderFields) (plain : List UInt8) (draws : Draws) (padding : Nat)

include lawful

/-- A payload that fits becomes the video layout. -/
theorem wrapSrtp_wire (fits : 24 + (plain.length + (padding + 1)) + 10 ≤ packetCapacity) :
    ∃ wrapped, wrapSrtp ciphers output fields plain draws padding = .ok wrapped ∧
      wrapped.asSlice = videoWire ciphers fields plain draws padding := by
  have sized := output.sized
  have width := lawful.stream_length (srtpIv fields.ssrc fields.sequence fields.timestamp) plain
  have header := Wrote.first output.storage 0 fields.bytes
    (by rw [HeaderFields.bytes_length]; omega)
  have copied := header.next 24 plain (by simp) (by simp; omega)
  have text := copied.readLast (by simp; omega) 24 (24 + plain.length) (by simp) rfl
  have cipher := copied.replace 24
    (ciphers.aesCtr (srtpIv fields.ssrc fields.sequence fields.timestamp) plain)
    (by simp) width.symm (by simp; omega)
  have padded := draws.pads padding cipher (24 + plain.length)
    (24 + (plain.length + (padding + 1)) - 1) (by simp [width]) (by omega) (by omega)
  have message := padded.regroup (show _ = videoMessage ciphers fields plain draws padding from
    append_assoc ..)
  have covered := videoMessage_length lawful fields plain draws padding
  have signed := message.read (by omega) (24 + (plain.length + (padding + 1))) (by omega)
  have tagged := message.next (24 + (plain.length + (padding + 1)))
    (ciphers.shortTag (videoMessage ciphers fields plain draws padding)) (by omega)
    (by rw [length_append, shortTag_length lawful]; omega)
  have whole := videoWire_length lawful fields plain draws padding
  have wire := tagged.read (by rw [← videoWire]; omega)
    (24 + (plain.length + (padding + 1)) + 10) (by rw [← videoWire]; omega)
  have allowed : ¬24 + (plain.length + (padding + 1)) + 10 > output.storage.length := by omega
  simp only [wrapSrtp, if_neg allowed, PacketBuf.write_storage, text, signed]
  obtain ⟨shown, done, bytes⟩ := PacketBuf.setLen_ok _ _ fits
  rw [done]
  exact ⟨shown, rfl, bytes.trans wire⟩

/-- A payload that fits becomes the audio layout. -/
theorem wrapAead_wire (fits : 24 + plain.length + 16 + (padding + 1) ≤ packetCapacity) :
    ∃ wrapped sealedText tag,
      ciphers.sealInPlace (nonce fields.ssrc fields.sequence fields.timestamp) fields.bytes
        plain = some (sealedText, tag) ∧
      wrapAead ciphers output fields plain draws padding = .ok wrapped ∧
      wrapped.asSlice = audioWire fields sealedText tag draws padding := by
  have sized := output.sized
  have short : plain.length < 2 ^ 16 := by
    simp only [packetCapacity] at fits
    omega
  obtain ⟨sealedText, tag, sealing⟩ := lawful.seals
    (nonce fields.ssrc fields.sequence fields.timestamp) fields.bytes plain short
  obtain ⟨width, tagWidth⟩ := lawful.sealed_length _ _ _ _ _ sealing
  have header := Wrote.first output.storage 0 fields.bytes
    (by rw [HeaderFields.bytes_length]; omega)
  have copied := header.next 24 plain (by simp) (by simp; omega)
  have text := copied.readLast (by simp; omega) 24 (24 + plain.length) (by simp) rfl
  have cipher := copied.replace 24 sealedText (by simp) width.symm (by simp; omega)
  have tagged := cipher.next (24 + plain.length) tag (by simp [width])
    (by simp [width, tagWidth]; omega)
  have padded := draws.pads padding tagged (24 + plain.length + 16)
    (24 + plain.length + 16 + (padding + 1) - 1) (by simp [width, tagWidth]; omega) (by omega) (by omega)
  have whole := audioWire_length fields sealedText tag draws padding
  have wire := (padded.regroup (show _ = audioWire fields sealedText tag draws padding by
    simp [audioWire])).read (by omega)
    (24 + plain.length + 16 + (padding + 1)) (by omega)
  have allowed : ¬24 + plain.length + 16 + (padding + 1) > output.storage.length := by omega
  simp only [wrapAead, if_neg allowed, PacketBuf.write_storage, text, sealing]
  obtain ⟨shown, done, bytes⟩ := PacketBuf.setLen_ok _ _ fits
  rw [done]
  exact ⟨shown, sealedText, tag, rfl, rfl, bytes.trans wire⟩

end Wrapping

/-- The bytes a wrapped payload takes. -/
def wrappedLen (isSrtp : Bool) (payloadType : UInt8) (draws : Draws) (plain : List UInt8) : Nat :=
  24 + plain.length + (randomPadding isSrtp payloadType draws + 1) + if isSrtp then 10 else 16

theorem wrappedLen_le (isSrtp : Bool) (payloadType : UInt8) (draws : Draws) (plain : List UInt8) :
    wrappedLen isSrtp payloadType draws plain ≤ plain.length + 100 := by
  have padding := randomPadding_lt_sixty isSrtp payloadType draws
  unfold wrappedLen
  split <;> omega

/-- A payload that fits is wrapped into a datagram that carries it under the header of
the current counters. -/
theorem wrapLegacyInto_carries {ciphers : Ciphers} (lawful : ciphers.Lawful) (isSrtp : Bool)
    (out : OutState) (plain : List UInt8) (output : PacketBuf) (elapsed : Duration) (draws : Draws)
    (fits : wrappedLen isSrtp out.payloadType draws plain ≤ packetCapacity) :
    ∃ wrapped, (wrapLegacyInto ciphers isSrtp out plain output elapsed draws).2 = .ok wrapped ∧
      Carries ciphers (out.headerFields elapsed draws) plain isSrtp wrapped.asSlice := by
  have short := randomPadding_lt isSrtp out.payloadType draws
  cases isSrtp with
  | true =>
    obtain ⟨wrapped, done, wire⟩ := wrapSrtp_wire lawful output (out.headerFields elapsed draws)
      plain draws (randomPadding true out.payloadType draws)
      (by simp only [wrappedLen, if_true] at fits; omega)
    refine ⟨wrapped, done, ?_⟩
    rw [wire]
    exact Carries.video draws _ short
  | false =>
    obtain ⟨wrapped, sealedText, tag, sealing, done, wire⟩ := wrapAead_wire lawful output
      (out.headerFields elapsed draws) plain draws (randomPadding false out.payloadType draws)
      (by simp only [wrappedLen, Bool.false_eq_true, if_false] at fits; omega)
    refine ⟨wrapped, done, ?_⟩
    rw [wire]
    exact Carries.audio draws _ short sealedText tag sealing

theorem rtpHeaderLen_bytes (fields : HeaderFields) (body : List UInt8) :
    rtpHeaderLen (fields.bytes ++ body) = .ok 24 := by
  have length : (fields.bytes ++ body).length = 24 + body.length := by simp
  have version : ¬((fields.bytes ++ body).length < 13 ∨ (0xb0 : UInt8) >>> 6 ≠ 2) := by
    rintro (short | other)
    · omega
    · exact other (by decide)
  have long : ¬((0xb0 : UInt8) &&& 0x10 ≠ 0 ∧ (fields.bytes ++ body).length < 16) := by omega
  have extended : (0xb0 : UInt8) &&& 0x10 ≠ 0 := by decide
  have whole : ¬(fields.bytes ++ body).length < 12 + (4 + 2 * 4) := by omega
  simp only [rtpHeaderLen, fields.byte_zero, if_neg version, if_neg long, if_pos extended,
    fields.extension_read, if_neg whole]

theorem trimPadding_ok (wire : List UInt8) (headerLen stop padding : Nat) (refusal : String)
    (flag : byteAt wire 0 = 0xb0) (last : byteAt wire (stop - 1) = UInt8.ofNat (padding + 1))
    (short : padding + 1 < 256) (room : padding + 1 ≤ stop - headerLen) :
    trimPadding wire headerLen stop refusal = .ok (stop - (padding + 1)) := by
  have padded : (0xb0 : UInt8) &&& 0x20 ≠ 0 := by decide
  have sound : ¬(padding + 1 = 0 ∨ padding + 1 > stop - headerLen) := by omega
  simp only [trimPadding, flag, if_pos padded, last, paddingByte_toNat padding short, if_neg sound]

theorem trimRecords_other (wire rest : List UInt8) (first : UInt8) (headerLen stop : Nat)
    (inside : headerLen ≤ wire.length) (other : opensRecord first = false) :
    trimRecords (splice wire headerLen (first :: rest)) headerLen stop = stop := by
  have front : byteAt (splice wire headerLen (first :: rest)) headerLen = first := by
    rw [splice, append_assoc, cons_append]
    apply byteAt_middle
    rw [length_take]
    omega
  simp [trimRecords, front, other]

section Unwrapping

variable {ciphers : Ciphers} (lawful : ciphers.Lawful) (fields : HeaderFields)
  (first : UInt8) (rest : List UInt8) (draws : Draws) (padding : Nat)

include lawful

theorem videoWire_authenticates (payload : List UInt8) :
    authenticates ciphers (videoWire ciphers fields payload draws padding) = true := by
  have tagStart : (videoWire ciphers fields payload draws padding).length - 10 =
      24 + payload.length + (padding + 1) := by
    rw [videoWire_length lawful]
    omega
  have tag := video_tag_read lawful fields payload draws padding
  rw [← videoWire_length lawful] at tag
  rw [authenticates, tagStart, video_message_read lawful, tag, beq_self_eq_true]

/-- A video packet decodes to its payload. -/
theorem decodeSrtp_wire (payloadType : UInt8) (short : padding + 1 < 256)
    (other : opensRecord first = false) :
    decodeSrtp ciphers (videoWire ciphers fields (first :: rest) draws padding) 24 payloadType
        fields.sequence fields.timestamp fields.ssrc =
      .ok (⟨24, 24 + (first :: rest).length, fields.sequence, payloadType, true⟩,
        splice (videoWire ciphers fields (first :: rest) draws padding) 24 (first :: rest)) := by
  have length := videoWire_length lawful fields (first :: rest) draws padding
  have tagStart : (videoWire ciphers fields (first :: rest) draws padding).length - 10 =
      24 + (first :: rest).length + (padding + 1) := by omega
  have flag : byteAt (videoWire ciphers fields (first :: rest) draws padding) 0 = 0xb0 := by
    obtain ⟨body, front⟩ := videoWire_front ciphers fields (first :: rest) draws padding
    rw [front]
    exact fields.byte_zero body
  have trimmed := trimPadding_ok _ 24 (24 + (first :: rest).length + (padding + 1)) padding
    "invalid RTP padding in SRTP mode" flag
    (video_padding_read lawful fields (first :: rest) draws padding) short (by omega)
  rw [Nat.add_sub_cancel] at trimmed
  have text := video_text_read lawful fields (first :: rest) draws padding
  have ordered : ¬24 + (first :: rest).length < 24 := by omega
  simp only [decodeSrtp, tagStart, trimmed, bind, Except.bind, if_neg ordered, text,
    lawful.stream_inverse, pure, Except.pure]
  rw [trimRecords_other _ rest first 24 _ (by omega) other]

/-- An audio packet decodes to its payload. -/
theorem decodeAead_wire (sealedText tag : List UInt8) (short : padding + 1 < 256)
    (sealing : ciphers.sealInPlace (nonce fields.ssrc fields.sequence fields.timestamp)
      fields.bytes (first :: rest) = some (sealedText, tag)) :
    decodeAead ciphers (audioWire fields sealedText tag draws padding) 24 111
        fields.sequence fields.timestamp fields.ssrc =
      .ok (⟨24, 24 + (first :: rest).length, fields.sequence, 111, false⟩,
        splice (audioWire fields sealedText tag draws padding) 24 (first :: rest)) := by
  obtain ⟨width, tagWidth⟩ := lawful.sealed_length _ _ _ _ _ sealing
  have length := audioWire_length fields sealedText tag draws padding
  have flag : byteAt (audioWire fields sealedText tag draws padding) 0 = 0xb0 :=
    fields.byte_zero _
  have trimmed := trimPadding_ok _ 24 (24 + sealedText.length + tag.length + (padding + 1)) padding
    "invalid RTP padding" flag
    (audio_padding_read fields sealedText tag draws padding) short (by omega)
  have long : ¬24 + sealedText.length + tag.length ≤ 24 + 16 := by
    rw [width, length_cons]
    omega
  have tagStart : 24 + sealedText.length + tag.length - 16 = 24 + sealedText.length := by omega
  rw [← width]
  simp [decodeAead, length, trimmed, bind, Except.bind, if_neg long, tagStart, audio_header_read,
    audio_text_read, audio_tag_read, lawful.opens _ _ _ _ _ sealing, pure, Except.pure]

omit lawful in
/-- Behind a sent header, decoding goes on with the fields of that header. -/
theorem unwrapLegacyInPlace_header (wire body : List UInt8) (expected : Option Bool)
    (front : wire = fields.bytes ++ body) (known : Known fields.payloadType) :
    unwrapLegacyInPlace ciphers wire expected =
      if expected ≠ some false ∧ wire.length ≥ 24 + 10 then
        if authenticates ciphers wire then
          decodeSrtp ciphers wire 24 fields.payloadType fields.sequence fields.timestamp fields.ssrc
        else if expected = some true then .error "SRTP authentication failed"
        else decodeAead ciphers wire 24 fields.payloadType fields.sequence fields.timestamp
          fields.ssrc
      else if expected = some true then .error "SRTP packet is too short"
      else decodeAead ciphers wire 24 fields.payloadType fields.sequence fields.timestamp
        fields.ssrc := by
  subst front
  simp [unwrapLegacyInPlace, rtpHeaderLen_bytes, bind, Except.bind, fields.byte_one,
    fields.typeByte_masked known, known, fields.sequence_read, fields.timestamp_read,
    fields.ssrc_read]

/-- A datagram that carries a payload decodes to that payload, the sequence number of
its header and the mode, unless an audio packet authenticates by accident. -/
theorem unwrapLegacyInPlace_carried (isSrtp : Bool) (wire : List UInt8) (expected : Option Bool)
    (carries : Carries ciphers fields (first :: rest) isSrtp wire)
    (known : Known fields.payloadType) (typed : isSrtp = false → fields.payloadType = 111)
    (other : opensRecord first = false) (agrees : expected = none ∨ expected = some isSrtp)
    (noAccident : isSrtp = false → authenticates ciphers wire = false) :
    ∃ decoded after, unwrapLegacyInPlace ciphers wire expected = .ok (decoded, after) ∧
      decoded.plain after = first :: rest ∧ decoded.seq = fields.sequence ∧
      decoded.isSrtp = isSrtp := by
  cases carries with
  | video draws padding short =>
    have long := videoWire_length lawful fields (first :: rest) draws padding
    obtain ⟨body, front⟩ := videoWire_front ciphers fields (first :: rest) draws padding
    have tried : expected ≠ some false ∧
        (videoWire ciphers fields (first :: rest) draws padding).length ≥ 24 + 10 := by
      constructor
      · rcases agrees with rfl | rfl <;> simp
      · omega
    have valid := videoWire_authenticates lawful fields draws padding (first :: rest)
    rw [unwrapLegacyInPlace_header fields _ body expected front known, if_pos tried, if_pos valid,
      decodeSrtp_wire lawful fields first rest draws padding _ short other]
    exact ⟨_, _, rfl, slice_splice _ _ 24 (by omega), rfl, rfl⟩
  | audio draws padding short sealedText tag sealing =>
    have width := (lawful.sealed_length _ _ _ _ _ sealing).1
    have long := audioWire_length fields sealedText tag draws padding
    have untagged := noAccident rfl
    have soft : expected ≠ some true := by rcases agrees with rfl | rfl <;> simp
    rw [unwrapLegacyInPlace_header fields (audioWire fields sealedText tag draws padding) _
      expected rfl known, untagged, if_neg Bool.false_ne_true, if_neg soft, if_neg soft, ite_self, typed rfl,
      decodeAead_wire lawful fields first rest draws padding sealedText tag short sealing]
    exact ⟨_, _, rfl, slice_splice _ _ 24 (by omega), rfl, rfl⟩

end Unwrapping

section Decoded

variable {ciphers : Ciphers} {wire after : List UInt8} {headerLen : Nat} {payloadType : UInt8}
  {seq : UInt16} {timestamp ssrc : UInt32} {decoded : DecodedPacket}

/-- What the payload type of a decoded packet can be. Sessions take their payload type
and mode from the packet that opens them. -/
def Typed (decoded : DecodedPacket) : Prop :=
  Known decoded.payloadType ∧ (decoded.isSrtp = false → decoded.payloadType = 111)

theorem decodeSrtp_typed (known : Known payloadType)
    (done : decodeSrtp ciphers wire headerLen payloadType seq timestamp ssrc =
      .ok (decoded, after)) : Typed decoded := by
  unfold decodeSrtp at done
  cases trimmed : trimPadding wire headerLen (wire.length - 10)
      "invalid RTP padding in SRTP mode" with
  | error refusal => simp [trimmed, bind, Except.bind] at done
  | ok stop =>
    simp only [trimmed, bind, Except.bind] at done
    split at done
    · cases done
    · cases done
      exact ⟨known, nofun⟩

theorem decodeAead_typed (known : Known payloadType)
    (done : decodeAead ciphers wire headerLen payloadType seq timestamp ssrc =
      .ok (decoded, after)) : Typed decoded := by
  unfold decodeAead at done
  cases trimmed : trimPadding wire headerLen wire.length "invalid RTP padding" with
  | error refusal => simp [trimmed, bind, Except.bind] at done
  | ok stop =>
    simp only [trimmed, bind, Except.bind] at done
    split at done
    · cases done
    split at done
    · cases done
    rename_i audio
    split at done
    · cases done
    · cases done
      exact ⟨known, fun _ => not_not.mp audio⟩

theorem decoded_typed {expected : Option Bool}
    (done : unwrapLegacyInPlace ciphers wire expected = .ok (decoded, after)) : Typed decoded := by
  unfold unwrapLegacyInPlace at done
  cases header : rtpHeaderLen wire with
  | error refusal => simp [header, bind, Except.bind] at done
  | ok headerLen =>
    simp only [header, bind, Except.bind] at done
    split at done
    · cases done
    rename_i unknown
    have known := not_not.mp unknown
    split at done
    · split at done
      · exact decodeSrtp_typed known done
      · split at done
        · cases done
        · exact decodeAead_typed known done
    · split at done
      · cases done
      · exact decodeAead_typed known done

end Decoded

end Csqtt.ServerObfs
