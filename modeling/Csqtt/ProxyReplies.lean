import Csqtt.EngineState

/-!
# Replies of the UDP proxy

A flow of the proxy has a socket of its own towards the SOCKS server. The address at which that server
relays is known, but the socket is bound to every local address and never connected, so it hears
everybody. The loop that reads the socket drops the source: what looks like a reply of the server with
an IPv4 address becomes a packet for the client, whoever sent it.

Left out: the headers of the packet, when the flow was last seen, and that the loop has ended.
-/

namespace Csqtt.Proxy

open Bytes Engine Routes

/-- A UDP socket that hears its peer alone, if it is connected to one. -/
structure UdpSocket where
  peer : Option SocketAddr
deriving DecidableEq, Repr

def UdpSocket.hears (socket : UdpSocket) (source : SocketAddr) : Bool := socket.peer.all (· == source)

structure Association where
  relay : UdpSocket
  relayAddr : SocketAddr
deriving DecidableEq, Repr

/-- The calls that set up the socket of an association and may fail. -/
inductive SocketCall
  | opening
  | reuseAddress
  | nonblocking
  | bind
  | register
deriving DecidableEq, Repr

def SocketCall.context : SocketCall → String
  | .opening => "open SOCKS5 UDP relay socket"
  | .reuseAddress => "enable SO_REUSEADDR on SOCKS5 UDP relay socket"
  | .nonblocking => "set SOCKS5 UDP relay socket nonblocking"
  | .bind => "bind SOCKS5 UDP relay socket"
  | .register => "register SOCKS5 UDP relay socket with Tokio"

/-- What the SOCKS server answers, unless it takes too long, and the first call that fails. -/
def createAssociation (associate : Option (Except String SocketAddr)) (failed : Option SocketCall) :
    Except String Association :=
  match associate, failed with
  | none, _ => .error "SOCKS5 UDP ASSOCIATE timed out"
  | some (.error _), _ => .error "SOCKS5 UDP ASSOCIATE command failed"
  | some (.ok _), some call => .error call.context
  | some (.ok relayAddr), none => .ok ⟨⟨none⟩, relayAddr⟩

def socksUdpResponse (packet : List UInt8) : Except String (SocketAddr × List UInt8) :=
  if packet.length < 4 ∨ byteAt packet 0 ≠ 0 ∨ byteAt packet 1 ≠ 0 ∨ byteAt packet 2 ≠ 0 then
    .error "invalid SOCKS5 UDP response header"
  else if byteAt packet 3 = 0x03 then .error "SOCKS5 UDP responses must carry an IP address"
  else if byteAt packet 3 ≠ 0x01 ∧ byteAt packet 3 ≠ 0x04 then
    .error ("invalid SOCKS5 UDP address type " ++ toString (byteAt packet 3).toNat)
  else
    let addressLen := if byteAt packet 3 = 0x01 then 4 else 16
    let headerEnd := 4 + addressLen + 2
    if headerEnd > packet.length then .error "short SOCKS5 UDP response"
    else
      let ip : IpAddr := if addressLen = 4 then
        .v4 ⟨byteAt packet 4, byteAt packet 5, byteAt packet 6, byteAt packet 7⟩
        else .v6 (BitVec.ofNat 128 (fromBe (slice packet 4 20)))
      let port := UInt16.ofNat (fromBe (slice packet (4 + addressLen) headerEnd))
      .ok (⟨ip, port⟩, packet.drop headerEnd)

structure Reply where
  sourceIp : Ipv4
  destIp : Ipv4
  sourcePort : UInt16
  destPort : UInt16
  payload : List UInt8
deriving DecidableEq, Repr

/-- What is too long for a packet is not sent. -/
def sendReply (reply : Reply) : Option Reply :=
  if 20 + 8 + reply.payload.length > 65535 then none else some reply

structure Datagram where
  source : SocketAddr
  bytes : List UInt8
deriving DecidableEq, Repr

/-- One turn of the loop that reads the socket of a flow. -/
inductive Turn
  /-- The flow is cancelled. -/
  | cancelled
  /-- There is nothing to read for a minute, or the wait fails. -/
  | idle
  /-- There is no buffer. -/
  | exhausted
  /-- There is nothing more to read, or reading fails. -/
  | blocked
  /-- A datagram is read into a buffer of some size. -/
  | received (capacity : Nat) (datagram : Datagram)
deriving DecidableEq, Repr

/-- What a datagram makes the loop send. -/
def respond (clientIp : Ipv4) (clientPort : UInt16) (received : List UInt8) : Option Reply :=
  match socksUdpResponse received with
  | .ok (⟨.v4 ip, port⟩, payload) => sendReply ⟨ip, clientIp, port, clientPort, payload⟩
  | _ => none

/-- The replies for the client, each with the source of the datagram that it is for. -/
def relayResponses (relay : UdpSocket) (clientIp : Ipv4) (clientPort : UInt16) :
    List Turn → List (SocketAddr × Reply)
  | [] | .cancelled :: _ | .idle :: _ => []
  | .exhausted :: rest | .blocked :: rest => relayResponses relay clientIp clientPort rest
  | .received capacity datagram :: rest =>
    ((if relay.hears datagram.source then respond clientIp clientPort (datagram.bytes.take capacity)
      else none).map (datagram.source, ·)).toList ++ relayResponses relay clientIp clientPort rest

/-- The datagrams that the loop reads, cut to the buffers. -/
def read : List Turn → List Datagram
  | [] | .cancelled :: _ | .idle :: _ => []
  | .exhausted :: rest | .blocked :: rest => read rest
  | .received capacity datagram :: rest => ⟨datagram.source, datagram.bytes.take capacity⟩ :: read rest

/-- A datagram has the form of a reply with an IPv4 address that fits into a packet. -/
def Datagram.Formed (datagram : Datagram) : Prop :=
  10 ≤ datagram.bytes.length ∧ datagram.bytes.length ≤ 65517 ∧ byteAt datagram.bytes 0 = 0 ∧
    byteAt datagram.bytes 1 = 0 ∧ byteAt datagram.bytes 2 = 0 ∧ byteAt datagram.bytes 3 = 1

theorem respond_isSome_iff (clientIp : Ipv4) (clientPort : UInt16) (datagram : Datagram) :
    (respond clientIp clientPort datagram.bytes).isSome ↔ datagram.Formed := by
  unfold respond socksUdpResponse Datagram.Formed
  generalize datagram.bytes = bytes
  by_cases marked : byteAt bytes 0 = 0 ∧ byteAt bytes 1 = 0 ∧ byteAt bytes 2 = 0
  · obtain ⟨first, second, third⟩ := marked
    by_cases ipv4 : byteAt bytes 3 = 1
    · by_cases long : 10 ≤ bytes.length
      · have whole : ¬bytes.length < 4 ∧ ¬bytes.length < 10 := by omega
        simp [first, second, third, ipv4, whole, long, sendReply]
        omega
      · have short : bytes.length < 10 := Nat.not_le.mp long
        simp only [long, false_and, iff_false]
        split_ifs <;> simp_all
    · simp only [ipv4, and_false, iff_false]
      split
      · rename_i ip port payload parsed
        split_ifs at parsed
        all_goals simp_all
      · simp
  · have refused : bytes.length < 4 ∨ byteAt bytes 0 ≠ 0 ∨ byteAt bytes 1 ≠ 0 ∨ byteAt bytes 2 ≠ 0 := by
      tauto
    rw [if_pos refused]
    simp only [Option.isSome_none, Bool.false_eq_true, false_iff]
    tauto

theorem hears_of_created {associate : Option (Except String SocketAddr)} {failed : Option SocketCall}
    {association : Association} (created : createAssociation associate failed = .ok association)
    (source : SocketAddr) : association.relay.hears source = true := by
  unfold createAssociation at created
  split at created
  · cases created
  · cases created
  · cases created
  · cases created
    rfl

/-- All replies are for datagrams of the SOCKS server exactly if nobody else sends one of their form. -/
theorem replies_come_from_relay {associate : Option (Except String SocketAddr)}
    {failed : Option SocketCall} {association : Association}
    (created : createAssociation associate failed = .ok association) (clientIp : Ipv4)
    (clientPort : UInt16) (turns : List Turn) :
    (∀ reply ∈ relayResponses association.relay clientIp clientPort turns,
      reply.1 = association.relayAddr) ↔
      ∀ datagram ∈ read turns, datagram.Formed → datagram.source = association.relayAddr := by
  induction turns with
  | nil => simp [relayResponses, read]
  | cons turn rest ih =>
    cases turn with
    | cancelled | idle => simp [relayResponses, read]
    | exhausted | blocked => exact ih
    | received capacity datagram =>
      have formed := respond_isSome_iff clientIp clientPort ⟨datagram.source, datagram.bytes.take capacity⟩
      rw [relayResponses, read, List.forall_mem_append, List.forall_mem_cons, ih,
        hears_of_created created, if_pos rfl]
      refine and_congr_left fun _ => ?_
      rw [← formed]
      cases respond clientIp clientPort (datagram.bytes.take capacity) with
      | none => simp
      | some reply => simp

/-- A datagram in the form of a reply. -/
def Sample.answer (source : SocketAddr) : Turn :=
  .received 4096 ⟨source, [0, 0, 0, 1, 8, 8, 8, 8, 0, 53, 42]⟩

/-- An answer from an address that is not the relay is passed on to the client. -/
theorem stranger_reply_is_injected :
    let stranger : SocketAddr := ⟨.v4 ⟨203, 0, 113, 7⟩, 9⟩
    let relayAddr : SocketAddr := ⟨.v4 ⟨10, 0, 0, 1⟩, 1080⟩
    createAssociation (some (.ok relayAddr)) none = .ok ⟨⟨none⟩, relayAddr⟩ ∧
      relayResponses ⟨none⟩ ⟨10, 66, 66, 2⟩ 5000 [Sample.answer stranger] =
        [(stranger, ⟨⟨8, 8, 8, 8⟩, ⟨10, 66, 66, 2⟩, 53, 5000, [42]⟩)] ∧ stranger ≠ relayAddr := by
  decide

/-- An answer from the relay is passed on, and with answers from the relay only, no other is. -/
theorem relay_reply_is_injected :
    let relayAddr : SocketAddr := ⟨.v4 ⟨10, 0, 0, 1⟩, 1080⟩
    let replies := relayResponses ⟨none⟩ ⟨10, 66, 66, 2⟩ 5000 [Sample.answer relayAddr]
    replies ≠ [] ∧ ∀ reply ∈ replies, reply.1 = relayAddr := by
  intro relayAddr replies
  have created : createAssociation (some (.ok relayAddr)) none = .ok ⟨⟨none⟩, relayAddr⟩ := rfl
  refine ⟨by decide, (replies_come_from_relay created _ _ _).mpr ?_⟩
  simp [Sample.answer, read]

end Csqtt.Proxy
