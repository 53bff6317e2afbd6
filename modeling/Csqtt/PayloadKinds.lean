import Csqtt.EngineSteps

/-!
# Control messages and packets of the tunnel

Control messages and packets of the tunnel travel on one path, and only their first bytes tell
them apart. Control messages are texts, or begin with the byte 0xff. A packet of the tunnel begins
with its version, or with `CQF1` if it is framed.

Some letters are first bytes of IPv4 packets. `GETCONF:`, `NOCONF` and `OK:disconnected` begin with
such a letter. Their third and fourth letters would then be the length of the packet, and the
length that they spell is more than any packet of the tunnel has. `DISCONNECT:`, `DENIED:` and the
mark of a frame begin with letters that would announce a header of fewer than five words.
-/

namespace Csqtt.ControlText

open Bytes FlowFrame List

/-! ## What the client looks for -/

/-- The byte 0xff and `CSQTT_STREAM_REPAIR_V1`. -/
def streamRepairPrefix : Text :=
  [0xff, 0x43, 0x53, 0x51, 0x54, 0x54, 0x5f, 0x53, 0x54, 0x52, 0x45, 0x41, 0x4d, 0x5f, 0x52, 0x45,
    0x50, 0x41, 0x49, 0x52, 0x5f, 0x56, 0x31]

/-- The byte 0xff and `CSQTT_STREAM_ALIVE_V1`. -/
def streamAlivePrefix : Text :=
  [0xff, 0x43, 0x53, 0x51, 0x54, 0x54, 0x5f, 0x53, 0x54, 0x52, 0x45, 0x41, 0x4d, 0x5f, 0x41, 0x4c,
    0x49, 0x56, 0x45, 0x5f, 0x56, 0x31]

/-- The byte 0xff, `CSQTT_PANEL_RESTART_V1` and five more bytes. -/
def panelRestartNotice : Text :=
  [0xff, 0x43, 0x53, 0x51, 0x54, 0x54, 0x5f, 0x50, 0x41, 0x4e, 0x45, 0x4c, 0x5f, 0x52, 0x45, 0x53,
    0x54, 0x41, 0x52, 0x54, 0x5f, 0x56, 0x31, 0x00, 0x91, 0x7d, 0x03, 0xa8]

/-- The notice that the panel restarts. -/
def isPanelRestartNotice (response : List UInt8) : Bool := response == panelRestartNotice

/-- An answer to a `GETCONF`. -/
def isConfigResponse (response : List UInt8) : Bool :=
  [tunconfPrefix, noConfig, deniedPrefix].any (·.isPrefixOf response)

/-- Any message of the server that is not for the tunnel. -/
def isControlResponse (response : List UInt8) : Bool :=
  isPanelRestartNotice response ||
    [tunconfPrefix, noConfig, deniedPrefix, readyOk, disconnected, streamRepairPrefix,
      streamAlivePrefix].any (·.isPrefixOf response)

/-! ## What the tunnel carries -/

/-- The longest IPv4 packet of the tunnel. -/
def longestPacket : Nat := 2304

/-- A well-formed IPv4 packet: its header has five words or more, and its length is the length
that it announces. -/
structure IsIpv4 (packet : List UInt8) : Prop where
  version : byteAt packet 0 >>> 4 = 4
  headerWords : 5 ≤ byteAt packet 0 &&& 0x0f
  totalLength : fromBe (slice packet 2 4) = packet.length
  short : packet.length ≤ longestPacket

/-- An IPv6 packet. -/
def IsIpv6 (packet : List UInt8) : Prop := byteAt packet 0 >>> 4 = 6

/-- A packet of the tunnel. -/
def IsPacket (packet : List UInt8) : Prop := IsIpv4 packet ∨ IsIpv6 packet

/-- The payload is neither for the control task of the server, nor one that the server answers or
ignores itself, nor a message of the server. -/
structure IsData (payload : List UInt8) : Prop where
  getconf : getconfPrefix.isPrefixOf payload = false
  disconnect : disconnectPrefix.isPrefixOf payload = false
  ready : payload ≠ ready
  lease : payload ≠ sessionLease
  keepalive : isIdleKeepalive payload = false
  control : isControlPayload payload = false
  response : isControlResponse payload = false
  config : isConfigResponse payload = false

/-! ## First bytes -/

/-- Four bytes that can begin a packet of the tunnel. -/
def beginsPacket (bytes : List UInt8) : Bool :=
  byteAt bytes 0 >>> 4 == 6 || (byteAt bytes 0 >>> 4 == 4 && decide (5 ≤ byteAt bytes 0 &&& 0x0f) &&
      decide (fromBe (slice bytes 2 4) ≤ longestPacket))

/-- Four bytes that can begin a payload with a packet of the tunnel in it. -/
def beginsData (bytes : List UInt8) : Bool := beginsPacket bytes || byteAt bytes 0 == 0x43

/-- The texts that control messages begin with. -/
def controlTexts : List Text :=
  [getconfPrefix, disconnectPrefix, ready, sessionLease, panelRestartNotice, tunconfPrefix, noConfig,
    deniedPrefix, readyOk, disconnected, streamRepairPrefix, streamAlivePrefix]

theorem controlTexts_foreign :
    ∀ text ∈ controlTexts, 4 ≤ text.length ∧ beginsData (slice text 0 4) = false := by
  decide

theorem frameMagic_foreign : beginsPacket frameMagic = false := by
  decide

theorem byteAt_zero_slice (bytes : List UInt8) : byteAt (slice bytes 0 4) 0 = byteAt bytes 0 :=
  byteAt_slice bytes 0 4 0 (by decide)

theorem IsPacket.begins {packet : List UInt8} (isPacket : IsPacket packet) :
    beginsPacket (slice packet 0 4) = true := by
  have field : slice (slice packet 0 4) 2 4 = slice packet 2 4 := by
    simpa using slice_slice packet 0 4 2 4 (by decide)
  rw [beginsPacket, byteAt_zero_slice, field]
  rcases isPacket with ipv4 | ipv6
  · have announced : fromBe (slice packet 2 4) ≤ longestPacket := ipv4.totalLength ▸ ipv4.short
    simp [ipv4.version, ipv4.headerWords, announced]
  · have version : byteAt packet 0 >>> 4 = 6 := ipv6
    simp [version]

theorem frame_begins (header : FrameHeader) (packet : List UInt8) :
    slice (header.bytes ++ packet) 0 4 = frameMagic := by
  simp [slice, FrameHeader.bytes, frameMagic]

variable {payload text : List UInt8}

theorem slice_of_isPrefixOf (long : 4 ≤ text.length) (begins : text.isPrefixOf payload = true) :
    slice payload 0 4 = slice text 0 4 := by
  obtain ⟨rest, rfl⟩ := isPrefixOf_iff_prefix.mp begins
  simp only [slice, drop_zero, Nat.sub_zero]
  exact take_append_of_le_length long

theorem not_isPrefixOf (member : text ∈ controlTexts)
    (begins : beginsData (slice payload 0 4) = true) : text.isPrefixOf payload = false := by
  obtain ⟨long, foreign⟩ := controlTexts_foreign text member
  cases same : text.isPrefixOf payload with
  | false => rfl
  | true =>
    rw [slice_of_isPrefixOf long same, foreign] at begins
    cases begins

theorem ne_controlText (member : text ∈ controlTexts)
    (begins : beginsData (slice payload 0 4) = true) : payload ≠ text := by
  rintro rfl
  obtain ⟨-, foreign⟩ := controlTexts_foreign payload member
  rw [foreign] at begins
  cases begins

theorem head_of_beginsData (begins : beginsData (slice payload 0 4) = true) :
    payload.head? ≠ some 0xff ∧ payload ≠ [] := by
  cases payload with
  | nil =>
    have nothing : beginsData (slice [] 0 4) = false := by decide
    cases begins
  | cons first rest =>
    constructor
    · intro isMark
      cases isMark
      have first : byteAt (255 :: rest) 0 = 0xff := rfl
      have version : (0xff : UInt8) >>> 4 = 0xf := by decide
      rw [beginsData, beginsPacket, byteAt_zero_slice, first, version] at begins
      simp at begins
    · exact cons_ne_nil first rest

/-- What begins like data is taken for nothing else. -/
theorem isData_of_begins (begins : beginsData (slice payload 0 4) = true) : IsData payload := by
  obtain ⟨notMark, notEmpty⟩ := head_of_beginsData begins
  have foreign : ∀ text ∈ controlTexts, text.isPrefixOf payload = false :=
    fun text member => not_isPrefixOf member begins
  have notReady : payload ≠ ready := ne_controlText (by decide) begins
  have notNotice : payload ≠ panelRestartNotice := ne_controlText (by decide) begins
  simp only [controlTexts, forall_mem_cons] at foreign
  obtain ⟨getconf, disconnect, -, -, -, tunconf, noConf, denied, isReady, isDone, repair, alive, -⟩ :=
    foreign
  constructor
  case getconf => exact getconf
  case disconnect => exact disconnect
  case ready => exact notReady
  case lease => exact ne_controlText (by decide) begins
  case keepalive =>
    cases payload with
    | nil => exact absurd rfl notEmpty
    | cons first rest =>
      have notFirst : first ≠ 0xff := fun same => notMark (congrArg some same)
      simp [isIdleKeepalive, notFirst]
  case control => simp [isControlPayload, getconf, disconnect, notReady, notMark]
  case response =>
    simp [isControlResponse, isPanelRestartNotice, notNotice, tunconf, noConf, denied, isReady, isDone,
      repair, alive]
  case config => simp [isConfigResponse, tunconf, noConf, denied]

/-- Neither a packet of the tunnel nor a frame around one is taken for a control message, and a
packet is not taken for a frame. -/
theorem packets_are_data (packet : List UInt8) (isPacket : IsPacket packet) (header : FrameHeader) :
    IsData packet ∧ IsData (header.bytes ++ packet) ∧ FrameHeader.decode packet = none := by
  have begins := isPacket.begins
  refine ⟨?bare, ?framed, ?unframed⟩
  case bare =>
    apply isData_of_begins
    rw [beginsData, begins, Bool.true_or]
  case framed =>
    apply isData_of_begins
    rw [frame_begins]
    decide
  case unframed =>
    have unmarked : slice packet 0 4 ≠ frameMagic := by
      intro marked
      rw [marked, frameMagic_foreign] at begins
      cases begins
    rw [FrameHeader.decode, if_pos (Or.inr unmarked)]

/-- A packet that is a header of five words and nothing else. -/
theorem empty_ipv4_packet_is_data :
    let packet : List UInt8 := [0x45, 0, 0, 20, 0, 0, 0, 0, 64, 17, 0, 0, 10, 66, 66, 2, 10, 66, 66, 1]
    IsPacket packet ∧ IsData packet ∧ IsData ((⟨1, 2, 3⟩ : FrameHeader).bytes ++ packet) ∧
      FrameHeader.decode packet = none := by
  intro packet
  have isPacket : IsPacket packet :=
    Or.inl ⟨by decide, by decide, by decide, by decide⟩
  exact ⟨isPacket, packets_are_data packet isPacket ⟨1, 2, 3⟩⟩

end Csqtt.ControlText

namespace Csqtt.Engine

open ControlText

theorem Work.dispatchPlain_isData (work : Work) (outside : Outside) (slot : Nat) (session : HotSession)
    {payload : List UInt8} (isData : IsData payload) :
    work.dispatchPlain outside slot session payload =
      if session.tunnels payload then work.ingress outside slot payload
      else if session.pendingTunnel then work
      else
        let event := Effect.control
          (.ingressBeforeTunnel session.peer session.id (FlowFrame.payload payload))
        (work.store slot { session with pendingTunnel := outside.accepts event }).send outside
          event := by
  simp [Work.dispatchPlain, HotSession.tunnels, isData.lease, isData.ready, isData.keepalive,
    isData.control]

end Csqtt.Engine
