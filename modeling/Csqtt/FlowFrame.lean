import Csqtt.Bytes
import Csqtt.Tables

/-!
# Framed TCP flows: header, flow identity and sequencer

The sender tags each TCP packet with a sender identity, a hash of its directed
four-tuple and a per-flow sequence number. Packets that are not TCP, carry no
data and open or close nothing are left unframed.

The flow identity is the modeled hash itself, not an abstract injective name:
distinct tuples may collide, and no result below assumes that they do not. The
sequencer bounds its table by forgetting every flow at once and changing its
sender identity; the new identity is again a hash and may repeat an old one.
-/

namespace Csqtt.FlowFrame

open Bytes List

/-- Length of an encoded header. -/
def frameLen : Nat := 24

/-- The four bytes `CQF1` that open an encoded header. -/
def frameMagic : List UInt8 := [0x43, 0x51, 0x46, 0x31]

/-- Flows remembered by a sequencer or a reassembler before it forgets them all. -/
def maxTrackedFlows : Nat := 4096

/-- The identity of one framed packet. -/
structure FrameHeader where
  senderId : UInt64
  flowId : UInt64
  sequence : UInt32
deriving DecidableEq, Repr

namespace FrameHeader

/-- The twenty-four bytes of a header. -/
def bytes (header : FrameHeader) : List UInt8 :=
  frameMagic ++ toBe 8 header.senderId.toNat ++ toBe 8 header.flowId.toNat ++
    toBe 4 header.sequence.toNat

/-- Write a header over the front of an output buffer that has room for it. -/
def encode (header : FrameHeader) (output : List UInt8) : Option (List UInt8) :=
  if output.length < frameLen then none else some (splice output 0 header.bytes)

/-- Read a header and the payload behind it. Unframed packets are refused. -/
def decode (packet : List UInt8) : Option (FrameHeader × List UInt8) :=
  if packet.length < frameLen ∨ slice packet 0 4 ≠ frameMagic then none
  else some
    ({ senderId := UInt64.ofNat (fromBe (slice packet 4 12))
       flowId := UInt64.ofNat (fromBe (slice packet 12 20))
       sequence := UInt32.ofNat (fromBe (slice packet 20 24)) },
      packet.drop frameLen)

/-- An encoded header has the fixed length. -/
theorem bytes_length (header : FrameHeader) : header.bytes.length = frameLen := by
  simp [bytes, frameMagic, frameLen]

/-- A packet that starts with an encoded header decodes to that header and the
bytes behind it, whatever they are. -/
theorem decode_encoded (header : FrameHeader) (payload : List UInt8) :
    decode (header.bytes ++ payload) = some (header, payload) := by
  have magic : slice (header.bytes ++ payload) 0 4 = frameMagic := by
    simpa [bytes, frameMagic, append_assoc] using
      slice_middle [] frameMagic (toBe 8 header.senderId.toNat ++ toBe 8 header.flowId.toNat ++
        toBe 4 header.sequence.toNat ++ payload)
  have sender : slice (header.bytes ++ payload) 4 12 = toBe 8 header.senderId.toNat := by
    simpa [bytes, frameMagic, append_assoc] using
      slice_middle frameMagic (toBe 8 header.senderId.toNat)
        (toBe 8 header.flowId.toNat ++ toBe 4 header.sequence.toNat ++ payload)
  have flow : slice (header.bytes ++ payload) 12 20 = toBe 8 header.flowId.toNat := by
    simpa [bytes, frameMagic, append_assoc] using
      slice_middle (frameMagic ++ toBe 8 header.senderId.toNat) (toBe 8 header.flowId.toNat)
        (toBe 4 header.sequence.toNat ++ payload)
  have sequence : slice (header.bytes ++ payload) 20 24 = toBe 4 header.sequence.toNat := by
    simpa [bytes, frameMagic, append_assoc] using
      slice_middle (frameMagic ++ toBe 8 header.senderId.toNat ++ toBe 8 header.flowId.toNat)
        (toBe 4 header.sequence.toNat) payload
  have long : ¬(header.bytes ++ payload).length < frameLen := by
    rw [length_append, bytes_length]
    omega
  rw [decode, if_neg (not_or.mpr ⟨long, not_not.mpr magic⟩), sender, flow, sequence, fromBe_u64, fromBe_u64,
    fromBe_u32, UInt64.ofNat_toNat, UInt64.ofNat_toNat, UInt32.ofNat_toNat,
    ← header.bytes_length, drop_left]

/-- A header is not written exactly if the buffer is too short for it. What is written is as long as the
buffer, and the header is read back from it, with what the buffer holds behind it. -/
theorem decode_encode (header : FrameHeader) (output : List UInt8) :
    (header.encode output = none ↔ output.length < frameLen) ∧
      ∀ written, header.encode output = some written →
        written.length = output.length ∧ decode written = some (header, output.drop frameLen) := by
  rw [encode]
  split
  · rename_i short
    exact ⟨iff_of_true rfl short, fun _ written => nomatch written⟩
  · rename_i long
    refine ⟨iff_of_false (Option.some_ne_none _) long, ?_⟩
    rintro written ⟨⟩
    rw [splice, take_zero, nil_append, Nat.zero_add, bytes_length]
    refine ⟨?_, decode_encoded header _⟩
    rw [length_append, bytes_length, length_drop]
    omega

end FrameHeader

/-- The packet behind a header, or the packet itself when it is unframed. -/
def payload (packet : List UInt8) : List UInt8 :=
  ((FrameHeader.decode packet).map Prod.snd).getD packet

/-- Fold bytes into a running hash. -/
def hashBytes (hash : UInt64) (bytes : List UInt8) : UInt64 :=
  bytes.foldl (fun value byte => (value ^^^ byte.toUInt64) * 0x1000000001b3) hash

/-- Finalize a hash. -/
def mix64 (value : UInt64) : UInt64 :=
  let value := value ^^^ (value >>> 30)
  let value := value * 0xbf58476d1ce4e5b9
  let value := value ^^^ (value >>> 27)
  let value := value * 0x94d049bb133111eb
  value ^^^ (value >>> 31)

/-- Header length, protocol, source and destination of an internet packet whose
fixed headers fit. -/
def internetHeader (packet : List UInt8) : Option (Nat × UInt8 × List UInt8 × List UInt8) := do
  let first ← packet.head?
  if first >>> 4 = 4 then
    if packet.length < 20 then none
    let headerLen := (byteAt packet 0 &&& 0x0f).toNat * 4
    if headerLen < 20 ∨ packet.length < headerLen + 20 then none
    some (headerLen, byteAt packet 9, slice packet 12 16, slice packet 16 20)
  else if first >>> 4 = 6 then
    if packet.length < 60 then none
    some (40, byteAt packet 6, slice packet 8 24, slice packet 24 40)
  else none

/-- The directed flow identity of a TCP packet that carries data, opens or closes
its connection. -/
def tcpFlowId (packet : List UInt8) : Option UInt64 := do
  let (headerLen, protocol, source, destination) ← internetHeader packet
  if protocol ≠ 6 then none
  let tcp := packet.drop headerLen
  let dataOffset := (byteAt tcp 12 >>> 4).toNat * 4
  if dataOffset < 20 ∨ tcp.length < dataOffset then none
  let flags := byteAt tcp 13
  if tcp.length = dataOffset ∧ flags &&& 0x03 = 0 then none
  let hash := hashBytes 0xcbf29ce484222325 [protocol]
  let hash := hashBytes hash source
  let hash := hashBytes hash destination
  let hash := hashBytes hash (tcp.take 4)
  some (mix64 hash)

/-- The sender's next sequence number of each remembered flow. -/
structure FlowSequencer where
  senderId : UInt64
  sequences : Table UInt64 UInt32

namespace FlowSequencer

/-- A sequencer that remembers no flow. The zero identity is not used. -/
def withSenderId (senderId : UInt64) : FlowSequencer := ⟨max senderId 1, ∅⟩

/-- Forget every flow under a changed identity when a further flow does not fit. -/
def makeRoom (sequencer : FlowSequencer) (flowId : UInt64) : FlowSequencer :=
  if sequencer.sequences.size = maxTrackedFlows ∧ flowId ∉ sequencer.sequences then
    { senderId := max (mix64 (sequencer.senderId + 0x9e3779b97f4a7c15)) 1, sequences := ∅ }
  else sequencer

/-- The header of the next packet of an admitted flow. -/
def advance (sequencer : FlowSequencer) (flowId : UInt64) : FlowSequencer × FrameHeader :=
  let sequence := (sequencer.sequences.lookup flowId).getD 0
  ({ sequencer with sequences := sequencer.sequences.insert flowId (sequence + 1) },
    ⟨sequencer.senderId, flowId, sequence⟩)

/-- Number a packet. Packets without a flow identity leave the state unchanged. -/
def next (sequencer : FlowSequencer) (packet : List UInt8) : FlowSequencer × Option FrameHeader :=
  match tcpFlowId packet with
  | none => (sequencer, none)
  | some flowId =>
    let (sequencer, header) := (sequencer.makeRoom flowId).advance flowId
    (sequencer, some header)

end FlowSequencer

end Csqtt.FlowFrame
