import Csqtt.ClientWire
import Csqtt.ServerWire

/-!
# Packets between the client and the server

The two ends are written separately: four routines that agree on the header's
length, the place of the padding and of the tag, the nonce and the trimming. The
proof meets at `Carries`, the description of a datagram in transit. Each sender
produces such a datagram and each receiver undoes it, whatever the counters, the
clock, the padding and the filler bytes are.

What is assumed is stated with the result: the primitives are lawful, and an audio
packet does not end in a valid truncated tag by accident.
-/

namespace Csqtt.WireRoundTrip

open Bytes RtpWire Option ServerObfs
open ClientObfs (ObfsMode ObfsConfig ObfsState)
open ServerObfs (OutState)

/-- What the client wraps, the server decodes: for every packet with headroom and
tailroom whose first byte does not open a DTLS record, every header state, clock
reading and random choice, and with the peer's mode known or not, the server gets
the payload, the sequence number used and the mode. -/
def ServerReadsClient (ciphers : Ciphers) : Prop :=
  ∀ (packet : ClientObfs.PacketBuf) (mode : ObfsMode) (ssrc : UInt32) (state : ObfsState)
    (elapsed : Duration) (draws : Draws) (first : UInt8) (rest : List UInt8)
    (expected : Option Bool),
    packet.asSlice = first :: rest → opensRecord first = false →
    24 ≤ packet.start →
    packet.stop + ClientObfs.tailLen (.new mode ssrc) draws ≤ ClientObfs.packetCapacity →
    (expected = none ∨ expected = some (mode == .video)) →
    ∃ wrapped,
      (ClientObfs.wrap ciphers packet (.new mode ssrc) state elapsed draws).2 = .ok wrapped ∧
      ((mode = .audio → authenticates ciphers wrapped.asSlice = false) → ∃ decoded after,
          unwrapLegacyInPlace ciphers wrapped.asSlice expected = .ok (decoded, after) ∧
          decoded.plain after = first :: rest ∧
          decoded.seq = state.initialSequence + state.count.toUInt16 ∧
          decoded.isSrtp = (mode == .video))

/-- What the server wraps for a session, the client unwraps: for every payload that
fits, every header state, clock reading and random choice, the client gets the
payload and the sequence number used. The session's mode and payload type are those
of the packet that opened it, whichever packet that was. -/
def ClientReadsServer (ciphers : Ciphers) : Prop :=
  ∀ (opening remains : List UInt8) (expected : Option Bool) (decoded : ServerObfs.DecodedPacket)
    (mode : ObfsMode) (out : OutState) (plain : List UInt8) (output : ServerObfs.PacketBuf)
    (elapsed : Duration) (draws : Draws),
    unwrapLegacyInPlace ciphers opening expected = .ok (decoded, remains) →
    decoded.isSrtp = (mode == .video) → out.payloadType = decoded.payloadType → plain ≠ [] →
    wrappedLen decoded.isSrtp out.payloadType draws plain ≤ packetCapacity →
    ∃ wrapped, (wrapLegacyInto ciphers decoded.isSrtp out plain output elapsed draws).2 =
        .ok wrapped ∧
      ∀ received : ClientObfs.PacketBuf, received.asSlice = wrapped.asSlice →
        ∃ unwrapped, ClientObfs.unwrap ciphers received mode =
            .ok (out.initialSeq + out.count.toUInt16, unwrapped) ∧
          unwrapped.asSlice = plain

variable {ciphers : Ciphers}

theorem config_known (mode : ObfsMode) (ssrc : UInt32) :
    Known (ObfsConfig.new mode ssrc).payloadType := by
  cases mode with
  | audio => exact Or.inl rfl
  | video => exact Or.inr (Or.inl rfl)

theorem server_reads_client (lawful : ciphers.Lawful) : ServerReadsClient ciphers := by
  intro packet mode ssrc state elapsed draws first rest expected payload other room fits agrees
  obtain ⟨wrapped, done, carries⟩ := ClientObfs.wrap_carries lawful packet mode ssrc state elapsed
    draws (by rw [payload]; exact List.cons_ne_nil first rest) room fits
  rw [payload] at carries
  refine ⟨wrapped, done, fun noAccident => ?_⟩
  apply unwrapLegacyInPlace_carried lawful _ first rest _ _ expected carries
    (config_known mode ssrc)
  · intro audio
    cases mode with
    | audio => rfl
    | video => cases audio
  · exact other
  · exact agrees
  · intro audio
    cases mode with
    | audio => exact noAccident rfl
    | video => cases audio

theorem client_reads_server (lawful : ciphers.Lawful) : ClientReadsServer ciphers := by
  intro opening remains expected decoded mode out plain output elapsed draws opened agrees typed
    nonempty fits
  obtain ⟨known, audio⟩ := decoded_typed opened
  rw [← typed] at known audio
  obtain ⟨wrapped, done, carries⟩ := wrapLegacyInto_carries lawful decoded.isSrtp out
    plain output elapsed draws fits
  refine ⟨wrapped, done, fun received same => ?_⟩
  rw [agrees, ← same] at carries
  apply ClientObfs.unwrap_carried received (out.headerFields elapsed draws) lawful plain mode
    carries known
  · rintro rfl
    exact audio agrees
  · exact nonempty

/-- Packets survive the wire in both directions and both modes. -/
theorem wire_round_trip (lawful : ciphers.Lawful) :
    ServerReadsClient ciphers ∧ ClientReadsServer ciphers :=
  ⟨server_reads_client lawful, client_reads_server lawful⟩

/-- Primitives that hide nothing but keep the laws. -/
def plainCiphers : Ciphers where
  aesCtr _ text := text
  hmacSha1 _ := List.replicate 20 0
  sealInPlace _ _ text := some (text, List.replicate 16 0)
  openInPlace _ _ _ text := some text

theorem plainCiphers_lawful : plainCiphers.Lawful where
  stream_length _ _ := rfl
  stream_inverse _ _ := rfl
  tag_length _ := rfl
  seals _ _ text _ := ⟨text, List.replicate 16 0, rfl⟩
  sealed_length _ _ _ _ _ sealing := by
    cases sealing
    exact ⟨rfl, rfl⟩
  opens _ _ _ _ _ sealing := by
    cases sealing
    rfl

/-- A client about to send the last sequence number before the wrap. -/
def clientCounters : ObfsState := ⟨0, 0, 0, 65535, 0⟩

/-- The server's counters after 65536 replies. -/
def serverCounters (payloadType : UInt8) : OutState := ⟨3, 40, 0, 0, 65536, payloadType, 0⟩

/-- No padding beyond the length byte and no marker. -/
def lowDraws : Draws := ⟨0, 1, fun _ => 0⟩

/-- The datagram of a one-byte audio packet. -/
def greeting : Option (List UInt8) := do
  let packet ← (ClientObfs.PacketBuf.zeroed.receive [7]).toOption
  let wrapped ← (ClientObfs.wrap plainCiphers packet (.new .audio 1) clientCounters (.ofSecs 0)
    lowDraws).2.toOption
  return wrapped.asSlice

/-- An exchange in audio mode: the client's byte opens a session, and the server's
answer returns. -/
theorem greeting_exchanged : ∃ packet wrapped decoded after,
      ClientObfs.PacketBuf.zeroed.receive [7] = .ok packet ∧
      (ClientObfs.wrap plainCiphers packet (.new .audio 1) clientCounters (.ofSecs 0) lowDraws).2 =
        .ok wrapped ∧ unwrapLegacyInPlace plainCiphers wrapped.asSlice none = .ok (decoded, after) ∧
      decoded.plain after = [7] ∧ decoded.seq = 65535 ∧ decoded.isSrtp = false ∧
      ∃ reply received unwrapped, (wrapLegacyInto plainCiphers decoded.isSrtp
          (serverCounters decoded.payloadType) [9, 8] .zeroed (.ofSecs 5) lowDraws).2 = .ok reply ∧
        ClientObfs.PacketBuf.zeroed.receive reply.asSlice = .ok received ∧
        ClientObfs.unwrap plainCiphers received .audio = .ok (40, unwrapped) ∧
        unwrapped.asSlice = [9, 8] := by
  obtain ⟨uplink, downlink⟩ := wire_round_trip plainCiphers_lawful
  obtain ⟨packet, read, bytes, start, stop⟩ :=
    ClientObfs.PacketBuf.zeroed.receive_ok [7] (by decide)
  obtain ⟨wrapped, done, arrives⟩ := uplink packet .audio 1 clientCounters (.ofSecs 0) lowDraws 7 []
    none bytes (by decide) (by rw [start]; decide) (by rw [stop]; decide) (Or.inl rfl)
  have sent : greeting = some wrapped.asSlice := by
    simp only [greeting, read, done, Except.toOption, bind_eq_bind, bind_some, pure_def]
  have untagged : greeting.map (authenticates plainCiphers) = some false := by
    decide +kernel
  rw [sent, map_some, Option.some.injEq] at untagged
  obtain ⟨decoded, after, opened, payload, sequence, mode⟩ := arrives fun _ => untagged
  refine ⟨packet, wrapped, decoded, after, read, done, opened, payload, sequence, mode, ?_⟩
  obtain ⟨reply, answered, returns⟩ := downlink wrapped.asSlice after none decoded .audio
    (serverCounters decoded.payloadType) [9, 8] .zeroed (.ofSecs 5) lowDraws opened mode rfl
    (List.cons_ne_nil 9 [8]) (Nat.le_trans (wrappedLen_le _ _ _ _) (by decide))
  have short : reply.asSlice.length ≤ ClientObfs.packetCapacity - ClientObfs.packetHeadroom := by
    have inside := reply.inside
    have length : reply.asSlice.length = reply.len :=
      slice_length reply.storage 0 reply.len (reply.sized ▸ inside)
    rw [length]
    exact Nat.le_trans inside (by decide)
  obtain ⟨received, copied, same, _, _⟩ :=
    ClientObfs.PacketBuf.zeroed.receive_ok reply.asSlice short
  obtain ⟨unwrapped, unwraps, shown⟩ := returns received same
  have around : (40 : UInt16) + (65536 : UInt64).toUInt16 = 40 := by decide
  rw [show (serverCounters decoded.payloadType).initialSeq +
    (serverCounters decoded.payloadType).count.toUInt16 = 40 from around] at unwraps
  exact ⟨reply, received, unwrapped, answered, copied, unwraps, shown⟩

end Csqtt.WireRoundTrip
