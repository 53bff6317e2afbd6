import Csqtt.ClientObfs

/-!
# What the client sends and accepts

A wrapped packet carries its payload in the layout of its mode, and a datagram in
that layout unwraps to its payload. The steps of a wrap write adjacent ranges of
the storage, so the written bytes grow from the header to the end of the tail; an
unwrap reads the same ranges back, shifted by the start of the packet.
-/

namespace Csqtt.ClientObfs

open Bytes RtpWire List PacketBuf HeaderFields

variable (packet : PacketBuf)

namespace PacketBuf

theorem asSlice_length : packet.asSlice.length = packet.stop - packet.start :=
  slice_length _ _ _ (packet.sized ▸ packet.inside)

variable (position : Nat) (bytes : List UInt8)

@[simp] theorem write_storage :
    (packet.write position bytes).storage = overwrite packet.storage position bytes := rfl

@[simp] theorem write_start : (packet.write position bytes).start = packet.start := rfl

@[simp] theorem write_stop : (packet.write position bytes).stop = packet.stop := rfl

theorem extendTail_ok (len : Nat) (fits : packet.stop + len ≤ packetCapacity) :
    ∃ extended, packet.extendTail len = .ok extended ∧ extended.storage = packet.storage ∧
      extended.start = packet.start ∧ extended.stop = packet.stop + len := by
  rw [extendTail, dif_neg (Nat.not_lt.mpr fits)]
  exact ⟨_, rfl, rfl, rfl, rfl⟩

end PacketBuf

section Wrapping

variable {ciphers : Ciphers} (lawful : ciphers.Lawful) (packet : PacketBuf)
  (fields : HeaderFields) (draws : Draws) (padding : Nat) (base payload : List UInt8)

include lawful

section

variable (sized : base.length = packetCapacity)
  (holds : Wrote packet.storage base packet.start fields.bytes)
  (text : slice packet.storage (packet.start + 24) (packet.start + 24 + payload.length) = payload)
  (stop : packet.stop = packet.start + 24 + payload.length)

include sized holds text stop

/-- A packet with its header in place becomes the video layout. -/
theorem protectVideo_wire (fits : packet.stop + (padding + 1 + 10) ≤ packetCapacity) :
    ∃ wrapped, protectVideo ciphers packet fields draws padding payload.length = .ok wrapped ∧
      wrapped.asSlice = videoWire ciphers fields payload draws padding := by
  obtain ⟨extended, grown, storage, start, last⟩ := packet.extendTail_ok _ fits
  rw [← storage] at text
  have header : Wrote extended.storage base packet.start fields.bytes := storage.trans holds
  have width := lawful.stream_length (srtpIv fields.ssrc fields.sequence fields.timestamp) payload
  have cipher := header.next (packet.start + 24)
    (ciphers.aesCtr (srtpIv fields.ssrc fields.sequence fields.timestamp) payload)
    (by simp) (by simp only [length_append, bytes_length, width]; omega)
  have padded := draws.pads padding cipher (packet.start + 24 + payload.length) _
    (by simp [width]; omega) rfl (by omega)
  have message := padded.regroup (show _ = videoMessage ciphers fields payload draws padding from
    append_assoc ..)
  have covered := videoMessage_length lawful fields payload draws padding
  have signed := message.read (by omega) (packet.start + 24 + payload.length + (padding + 1))
    (by omega)
  have tagged := message.next (packet.start + 24 + payload.length + (padding + 1))
    (ciphers.shortTag (videoMessage ciphers fields payload draws padding)) (by omega)
    (by rw [length_append, shortTag_length lawful]; omega)
  simp only [protectVideo, grown, bind, Except.bind, pure, Except.pure, text,
    write_storage, write_start, start, signed]
  refine ⟨_, rfl, ?_⟩
  rw [asSlice]
  simp only [write_start, write_stop, start, last]
  have whole := videoWire_length lawful fields payload draws padding
  exact tagged.read (by rw [← videoWire]; omega) _ (by rw [← videoWire]; omega)

/-- A packet with its header in place becomes the audio layout. -/
theorem protectAudio_wire (fits : packet.stop + (padding + 1 + 16) ≤ packetCapacity) :
    ∃ wrapped sealedText tag,
      ciphers.sealInPlace (nonce fields.ssrc fields.sequence fields.timestamp) fields.bytes
        payload = some (sealedText, tag) ∧
      protectAudio ciphers packet fields draws padding payload.length = .ok wrapped ∧
      wrapped.asSlice = audioWire fields sealedText tag draws padding := by
  have short : payload.length < 2 ^ 16 := by
    simp only [packetCapacity] at fits
    omega
  obtain ⟨sealedText, tag, sealing⟩ := lawful.seals
    (nonce fields.ssrc fields.sequence fields.timestamp) fields.bytes payload short
  obtain ⟨width, tagWidth⟩ := lawful.sealed_length _ _ _ _ _ sealing
  obtain ⟨extended, grown, storage, start, last⟩ := packet.extendTail_ok (16 + (padding + 1))
    (by omega)
  rw [← storage] at text
  have header : Wrote extended.storage base packet.start fields.bytes := storage.trans holds
  have associated := header.read (by rw [bytes_length]; omega)
    (packet.start + 24) (by simp)
  have cipher := header.next (packet.start + 24) sealedText
    (by simp) (by simp only [length_append, bytes_length, width]; omega)
  have tagged := cipher.next (packet.start + 24 + payload.length) tag
    (by simp [width]; omega) (by simp [width, tagWidth]; omega)
  have padded := draws.pads padding tagged (packet.start + 24 + payload.length + 16) _
    (by simp [width, tagWidth]; omega) rfl (by omega)
  have wire := padded.regroup (show _ = audioWire fields sealedText tag draws padding by
    simp [audioWire])
  have whole := audioWire_length fields sealedText tag draws padding
  simp only [protectAudio, grown, bind, Except.bind, pure, Except.pure, text, start, associated,
    sealing]
  refine ⟨_, sealedText, tag, rfl, rfl, ?_⟩
  rw [asSlice]
  simp only [write_start, write_stop, start, last]
  exact wire.read (by omega) _ (by omega)

end

end Wrapping

theorem paddingRandom_lt (mode : ObfsMode) (ssrc : UInt32) (draws : Draws) :
    paddingRandom (ObfsConfig.new mode ssrc) draws + 1 < 256 := by
  cases mode with
  | audio =>
    have drawn : paddingRandom (.new .audio ssrc) draws = draws.padding % 24 := rfl
    omega
  | video =>
    have drawn : paddingRandom (.new .video ssrc) draws = draws.padding % 60 := rfl
    omega

/-- The first steps of a wrap: the header stands before the payload, which is
unchanged. -/
theorem prepend_header (fields : HeaderFields) (room : 24 ≤ packet.start) :
    ∃ prepended, packet.prepend 24 = .ok prepended ∧
      (prepended.write prepended.start fields.bytes).start + 24 = packet.start ∧
      (prepended.write prepended.start fields.bytes).stop = packet.stop ∧
      Wrote (prepended.write prepended.start fields.bytes).storage packet.storage
        (prepended.write prepended.start fields.bytes).start fields.bytes ∧
      slice (prepended.write prepended.start fields.bytes).storage packet.start packet.stop =
        packet.asSlice := by
  have ordered := packet.ordered
  have inside := packet.inside
  have sized := packet.sized
  rw [prepend, if_neg (Nat.not_lt.mpr room)]
  have wrote := Wrote.first packet.storage (packet.start - 24) fields.bytes
    (by rw [bytes_length]; omega)
  refine ⟨_, rfl, ?_, rfl, ?_, ?_⟩
  · rw [write_start]
    exact Nat.sub_add_cancel room
  · rw [write_storage]
    exact wrote
  rw [write_storage, wrote]
  apply slice_splice_after packet.storage
  · omega
  · rw [bytes_length]
    omega

/-- A packet with headroom and tailroom is wrapped into a datagram that carries its
payload under the header of the current counters. -/
theorem wrap_carries {ciphers : Ciphers} (lawful : ciphers.Lawful) (packet : PacketBuf)
    (mode : ObfsMode) (ssrc : UInt32) (state : ObfsState) (elapsed : Duration) (draws : Draws)
    (nonempty : packet.asSlice ≠ []) (room : 24 ≤ packet.start)
    (fits : packet.stop + tailLen (.new mode ssrc) draws ≤ packetCapacity) :
    ∃ wrapped, (wrap ciphers packet (.new mode ssrc) state elapsed draws).2 = .ok wrapped ∧
      Carries ciphers (headerFields (.new mode ssrc) state elapsed draws) packet.asSlice
        (mode == .video) wrapped.asSlice := by
  have width := packet.asSlice_length
  have positive : 0 < packet.asSlice.length := length_pos_iff.mpr nonempty
  have occupied : packet.isEmpty = false := by
    simp only [PacketBuf.isEmpty, len, beq_eq_false_iff_ne]
    omega
  have allowed : ¬(packet.start < 24 ∨
      packet.stop + tailLen (.new mode ssrc) draws > packetCapacity) := by omega
  have short := paddingRandom_lt mode ssrc draws
  obtain ⟨prepended, moved, start, stop, holds, text⟩ := prepend_header packet
    (headerFields (.new mode ssrc) state elapsed draws) room
  have length : packet.len = packet.asSlice.length := width.symm
  simp only [wrap, occupied, Bool.false_eq_true, if_false, if_neg allowed, moved, bind,
    Except.bind, length]
  generalize prepended.write prepended.start _ = written at *
  have ordered := packet.ordered
  have ends : written.stop = written.start + 24 + packet.asSlice.length := by omega
  rw [← start, ← stop, ends] at text
  rw [← stop] at fits
  cases mode with
  | video =>
    obtain ⟨wrapped, done, wire⟩ := protectVideo_wire lawful _ _ draws
      (paddingRandom (.new .video ssrc) draws) packet.storage packet.asSlice packet.sized holds text ends fits
    refine ⟨wrapped, done, ?_⟩
    rw [wire]
    exact Carries.video draws _ short
  | audio =>
    obtain ⟨wrapped, sealedText, tag, sealing, done, wire⟩ := protectAudio_wire lawful _ _ draws
      (paddingRandom (.new .audio ssrc) draws) packet.storage packet.asSlice packet.sized holds text ends fits
    refine ⟨wrapped, done, ?_⟩
    rw [wire]
    exact Carries.audio draws _ short sealedText tag sealing

namespace PacketBuf

theorem slice_within (first last : Nat) (within : packet.start + last ≤ packet.stop) :
    slice packet.storage (packet.start + first) (packet.start + last) =
      slice packet.asSlice first last :=
  (slice_slice _ _ _ _ _ within).symm

theorem byteAt_within (index : Nat) (within : packet.start + index < packet.stop) :
    byteAt packet.storage (packet.start + index) = byteAt packet.asSlice index :=
  (byteAt_slice _ _ _ _ within).symm

theorem receive_ok (datagram : List UInt8)
    (fits : datagram.length ≤ packetCapacity - packetHeadroom) :
    ∃ received, packet.receive datagram = .ok received ∧ received.asSlice = datagram ∧
      received.start = packetHeadroom ∧ received.stop = packetHeadroom + datagram.length := by
  have sized := packet.sized
  have headroom : packetHeadroom ≤ packetCapacity := by decide
  rw [receive, setReadLen, dif_neg (Nat.not_lt.mpr fits)]
  refine ⟨_, rfl, ?_, rfl, rfl⟩
  exact (Wrote.first packet.storage packetHeadroom datagram (by omega)).read (by omega) _ rfl

theorem write_setRange (position stop : Nat) (text : List UInt8)
    (reaches : stop = position + text.length) (fits : stop ≤ packetCapacity) :
    ∃ opened, (packet.write position text).setRange position stop = .ok opened ∧
      opened.asSlice = text := by
  have valid : ¬(position > stop ∨ stop > packetCapacity) := by omega
  rw [setRange, dif_neg valid]
  refine ⟨_, rfl, ?_⟩
  have sized := packet.sized
  exact (Wrote.first packet.storage position text (by omega)).read (by omega) stop reaches

end PacketBuf

theorem trimPadding_ok (headerLen stop padding : Nat) (refusal : String)
    (flag : byteAt packet.storage packet.start = 0xb0)
    (last : byteAt packet.storage (stop - 1) = UInt8.ofNat (padding + 1))
    (short : padding + 1 < 256) (room : padding + 1 ≤ stop - packet.start - headerLen) :
    trimPadding packet headerLen stop refusal = .ok (stop - (padding + 1)) := by
  have padded : (0xb0 : UInt8) &&& 0x20 ≠ 0 := by decide
  have sound : ¬(padding + 1 = 0 ∨ padding + 1 > stop - packet.start - headerLen) := by omega
  simp only [trimPadding, flag, if_pos padded, last, paddingByte_toNat padding short, if_neg sound]

theorem headerLen_bytes (fields : HeaderFields) (body : List UInt8) :
    headerLen (fields.bytes ++ body) = .ok 24 := by
  have extended : (0xb0 : UInt8) &&& 0x10 ≠ 0 := by decide
  have long : ¬(fields.bytes ++ body).length < 16 := by
    rw [length_append, bytes_length]
    omega
  rw [headerLen, fields.byte_zero, if_pos extended, if_neg long, fields.extension_read]

section Unwrapping

variable {ciphers : Ciphers} (packet : PacketBuf) (fields : HeaderFields)

/-- Behind a sent header, unwrapping goes on with the fields of that header. -/
theorem unwrap_header (mode : ObfsMode) (body : List UInt8)
    (wire : packet.asSlice = fields.bytes ++ body) (known : Known fields.payloadType) :
    unwrap ciphers packet mode =
      match mode with
      | .video => unwrapVideo ciphers packet 24 fields.ssrc fields.sequence fields.timestamp
      | .audio => unwrapAudio ciphers packet fields.payloadType 24 fields.ssrc fields.sequence
          fields.timestamp := by
  have length : (fields.bytes ++ body).length = 24 + body.length := by simp
  have version : ¬((fields.bytes ++ body).length < 13 ∨ (0xb0 : UInt8) >>> 6 ≠ 2) := by
    rintro (short | other)
    · omega
    · exact other (by decide)
  have long : ¬(fields.bytes ++ body).length < 24 := by omega
  cases mode <;>
    simp only [unwrap, wire, fields.byte_zero, if_neg version, fields.byte_one,
      fields.typeByte_masked known, not_true_eq_false, known, if_false, fields.sequence_read,
      fields.timestamp_read, fields.ssrc_read, headerLen_bytes, bind, Except.bind, if_neg long]

/-- A video packet opens to its payload. -/
theorem unwrapVideo_wire (lawful : ciphers.Lawful) (payload : List UInt8) (draws : Draws)
    (padding : Nat) (short : padding + 1 < 256)
    (wire : packet.asSlice = videoWire ciphers fields payload draws padding) :
    ∃ opened, unwrapVideo ciphers packet 24 fields.ssrc fields.sequence fields.timestamp =
        .ok (fields.sequence, opened) ∧ opened.asSlice = payload := by
  have inside := packet.inside
  have length := packet.asSlice_length
  rw [wire, videoWire_length lawful] at length
  have stop : packet.stop = packet.start + (24 + payload.length + (padding + 1) + 10) := by omega
  have signed := packet.slice_within 0 (24 + payload.length + (padding + 1)) (by omega)
  have tag := packet.slice_within (24 + payload.length + (padding + 1))
    (24 + payload.length + (padding + 1) + 10) (by omega)
  have text := packet.slice_within 24 (24 + payload.length) (by omega)
  have last := packet.byteAt_within (24 + payload.length + padding) (by omega)
  have flag := packet.byteAt_within 0 (by omega)
  rw [wire, video_message_read lawful, Nat.add_zero] at signed
  rw [wire, video_tag_read lawful, ← stop] at tag
  rw [wire, video_text_read lawful] at text
  rw [wire, video_padding_read lawful] at last
  rw [wire, videoWire, videoMessage, append_assoc, fields.byte_zero] at flag
  have trimmed := trimPadding_ok packet 24
    (packet.start + (24 + payload.length + (padding + 1))) padding
    "obfs srtp: invalid padding length " flag last short (by omega)
  have payloadEnd : packet.start + (24 + payload.length + (padding + 1)) - (padding + 1) =
      packet.start + (24 + payload.length) := by omega
  obtain ⟨opened, narrowed, shown⟩ := packet.write_setRange (packet.start + 24)
    (packet.start + (24 + payload.length)) payload (by omega) (by omega)
  have tagStart : packet.stop - 10 = packet.start + (24 + payload.length + (padding + 1)) := by
    omega
  have long : ¬packet.len < 24 + 10 := by
    simp only [len]
    omega
  refine ⟨opened, ?_, shown⟩
  simp [unwrapVideo, if_neg long, tagStart, signed, tag, trimmed, payloadEnd, bind, Except.bind,
    text, lawful.stream_inverse, narrowed, pure, Except.pure]

/-- An audio packet with a payload opens to it. -/
theorem unwrapAudio_wire (lawful : ciphers.Lawful) (payload sealedText sealTag : List UInt8)
    (draws : Draws) (padding : Nat) (short : padding + 1 < 256) (nonempty : payload ≠ [])
    (sealing : ciphers.sealInPlace (nonce fields.ssrc fields.sequence fields.timestamp)
      fields.bytes payload = some (sealedText, sealTag))
    (wire : packet.asSlice = audioWire fields sealedText sealTag draws padding) :
    ∃ opened, unwrapAudio ciphers packet 111 24 fields.ssrc fields.sequence fields.timestamp =
        .ok (fields.sequence, opened) ∧ opened.asSlice = payload := by
  have inside := packet.inside
  have positive : 0 < payload.length := length_pos_iff.mpr nonempty
  obtain ⟨width, tagWidth⟩ := lawful.sealed_length _ _ _ _ _ sealing
  have length := packet.asSlice_length
  rw [wire, audioWire_length, width, tagWidth] at length
  have stop : packet.stop = packet.start + (24 + payload.length + 16 + (padding + 1)) := by omega
  have associated := packet.slice_within 0 24 (by omega)
  have text := packet.slice_within 24 (24 + payload.length) (by omega)
  have tag := packet.slice_within (24 + payload.length) (24 + payload.length + 16) (by omega)
  have last := packet.byteAt_within (24 + payload.length + 16 + padding) (by omega)
  have flag := packet.byteAt_within 0 (by omega)
  rw [wire, audio_header_read, Nat.add_zero] at associated
  rw [wire, ← width, audio_text_read, width] at text
  rw [wire, ← width, ← tagWidth, audio_tag_read, width, tagWidth] at tag
  rw [wire, ← width, ← tagWidth, audio_padding_read, width, tagWidth] at last
  rw [wire, audioWire, fields.byte_zero] at flag
  have trimmed := trimPadding_ok packet 24 packet.stop padding "obfs: invalid padding length "
    flag (by rw [stop]; exact last) short (by omega)
  have payloadEnd : packet.stop - (padding + 1) = packet.start + (24 + payload.length + 16) := by
    omega
  have tagStart : packet.start + (24 + payload.length + 16) - 16 =
      packet.start + (24 + payload.length) := by omega
  have long : ¬packet.start + (24 + payload.length + 16) ≤ packet.start + 24 + 16 := by omega
  obtain ⟨opened, narrowed, shown⟩ := packet.write_setRange (packet.start + 24)
    (packet.start + (24 + payload.length)) payload (by omega) (by omega)
  refine ⟨opened, ?_, shown⟩
  simp [unwrapAudio, trimmed, payloadEnd, bind, Except.bind, if_neg long, tagStart, associated, tag,
    text, lawful.opens _ _ _ _ _ sealing, narrowed, pure, Except.pure]

/-- A datagram that carries a payload unwraps to that payload and the sequence number
of its header. -/
theorem unwrap_carried (lawful : ciphers.Lawful) (payload : List UInt8) (mode : ObfsMode)
    (carries : Carries ciphers fields payload (mode == .video) packet.asSlice)
    (known : Known fields.payloadType) (typed : mode = .audio → fields.payloadType = 111)
    (nonempty : payload ≠ []) :
    ∃ opened, unwrap ciphers packet mode = .ok (fields.sequence, opened) ∧
      opened.asSlice = payload := by
  generalize bytes : packet.asSlice = wire at carries
  cases mode with
  | video =>
    cases carries with
    | video draws padding short =>
      rw [unwrap_header packet fields .video _ (by rw [bytes, videoWire, videoMessage,
        append_assoc]) known]
      exact unwrapVideo_wire packet fields lawful payload draws padding short bytes
  | audio =>
    cases carries with
    | audio draws padding short text tag sealing =>
      rw [unwrap_header packet fields .audio _ bytes known]
      simp only [typed rfl]
      exact unwrapAudio_wire packet fields lawful payload text tag draws padding short nonempty
        sealing bytes

end Unwrapping

end Csqtt.ClientObfs
