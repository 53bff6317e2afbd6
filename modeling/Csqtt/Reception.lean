import Csqtt.EngineSteps

/-!
# What becomes of a datagram

A datagram is for the session of its endpoint, or for none. `Datagram` lists what the
engine does with it: it is dropped; the session receives it; it opens another epoch, and a
new session takes the place of the session; or it opens a session for a new endpoint. Each
case comes with what the code has found out by then: whose ciphers opened the datagram,
what it says, and that the key a session will have is free.

The steps of a datagram follow from the list, and so does everything else that is to be
known about it: a session that receives a datagram stays, and a datagram that opens a
session counts no traffic.
-/

namespace Csqtt.Engine

open ControlText Routes ServerObfs ServerReplay Option Work

/-- What is said about the session that takes the place of another one. -/
def HotSession.successor (session : HotSession) (localIp : Option IpAddr) (decoded : DecodedPacket)
    (epoch : Epoch) : Opening where
  peer := session.peer
  localIp := localIp.or session.localIp
  password := session.password
  ciphers := session.ciphers
  payloadType := decoded.payloadType
  isSrtp := decoded.isSrtp
  epoch := epoch
  replaySeq := decoded.seq

/-- The slot of the session that the datagrams of an endpoint are for. -/
def Work.slotOf (work : Work) (peer : SocketAddr) (localIp : Option IpAddr) : Option Nat :=
  (work.engine.tables.byPeer.lookup ⟨peer, localIp⟩).or
    (if localIp.isSome then work.engine.tables.byPeer.lookup ⟨peer, none⟩ else none)

/-- A session of an endpoint and a datagram that its ciphers open. -/
structure Work.Finds (work : Work) (peer : SocketAddr) (localIp : Option IpAddr)
    (packet : List UInt8) (slot : Nat) (session : HotSession) (decoded : DecodedPacket)
    (plain : List UInt8) : Prop where
  isFor : work.slotOf peer localIp = some slot
  here : work.engine.tables.sessions.lookup slot = some session
  free : localIp.isSome → session.localIp ≠ localIp →
    work.engine.tables.byPeer.lookup ⟨session.peer, localIp⟩ = none
  opens : ∃ opened, unwrapLegacyInPlace session.ciphers packet (some session.isSrtp) =
    .ok (decoded, opened) ∧ plain = decoded.plain opened

/-- What becomes of a datagram. -/
inductive Datagram (outside : Outside) (peer : SocketAddr) (localIp : Option IpAddr)
    (packet : List UInt8) : Work → Work → Prop
  | dropped {work : Work} {engine : ProtocolEngine} (alike : engine.Alike work.engine) :
      Datagram outside peer localIp packet work { work with engine := engine }
  | received {work : Work} {engine : ProtocolEngine} {slot : Nat} {session : HotSession}
      {decoded : DecodedPacket} {plain : List UInt8} (alike : engine.Alike work.engine)
      (found : work.Finds peer localIp packet slot session decoded plain) :
      Datagram outside peer localIp packet work
        (({ work with engine := engine } : Work).acceptInbound outside slot session localIp
          decoded.seq plain)
  | replaced {work : Work} {engine : ProtocolEngine} {slot : Nat} {session : HotSession}
      {decoded : DecodedPacket} {plain : List UInt8} {epoch : Epoch}
      (alike : engine.Alike work.engine)
      (found : work.Finds peer localIp packet slot session decoded plain)
      (parsed : parseGetconfEpoch plain = some epoch) (other : session.epoch ≠ epoch) :
      Datagram outside peer localIp packet work
        ((({ work with engine := engine } : Work).removeSlotWithReason outside slot
          "epoch-replaced").openSession outside (session.successor localIp decoded epoch) plain)
  | opened {work : Work} {engine : ProtocolEngine} {opening : Opening} {plain : List UInt8}
      (alike : engine.Alike work.engine) (unknown : work.slotOf peer localIp = none)
      (free : work.engine.tables.byPeer.lookup ⟨opening.peer, opening.localIp⟩ = none)
      (setup : findSetup peer localIp packet work.engine.credentials = some (opening, plain)) :
      Datagram outside peer localIp packet work
        (({ work with engine := engine } : Work).openSession outside opening plain)

variable {localIp : Option IpAddr} {peer : SocketAddr} {rights : Rights} {slot : Nat}
  {session : HotSession}

namespace Work

variable (work : Work) (outside : Outside)

theorem findSetup_sound {wire : List UInt8} {credentials : List Credential} {opening : Opening}
    {plain : List UInt8} (found : findSetup peer localIp wire credentials = some (opening, plain)) :
    opening.peer = peer ∧ opening.localIp = localIp := by
  induction credentials with
  | nil => cases found
  | cons credential rest ih =>
    rw [findSetup] at found
    split at found
    · exact ih found
    split at found
    · exact ih found
    · cases found
      exact ⟨rfl, rfl⟩

theorem refreshEpoch_tuned (deviceId : Text) : ∃ engine : ProtocolEngine,
    engine.Alike work.engine ∧ work.refreshEpoch deviceId = { work with engine := engine } := by
  rw [refreshEpoch]
  split
  · exact ⟨work.engine, {}, rfl⟩
  · exact ⟨_, {}, rfl⟩

/-- A datagram for the session in a slot. -/
theorem handleExisting_datagram (found : work.slotOf peer localIp = some slot)
    (free : ∀ session, work.engine.tables.sessions.lookup slot = some session →
      localIp.isSome → session.localIp ≠ localIp →
      work.engine.tables.byPeer.lookup ⟨session.peer, localIp⟩ = none) (packet : List UInt8) :
    Datagram outside peer localIp packet work (work.handleExisting outside slot localIp packet) := by
  rw [handleExisting]
  split
  · exact .dropped {}
  rename_i session here
  split
  · exact .dropped {}
  rename_i decoded opened opens
  have found : work.Finds peer localIp packet slot session decoded (decoded.plain opened) :=
    ⟨found, here, free session here, opened, opens, rfl⟩
  dsimp only
  split
  · split
    · exact .dropped {}
    rename_i incoming parsed
    obtain ⟨engine, alike, tuned⟩ := work.refreshEpoch_tuned incoming.deviceId
    rw [tuned]
    split
    · exact .received alike found
    · rename_i other
      exact .replaced alike found parsed other
  · exact .received {} found

theorem handleUnknownLegacy_datagram (packet : List UInt8)
    (unknown : work.slotOf peer localIp = none) : Datagram outside peer localIp packet work
      (work.handleUnknownLegacy outside peer localIp packet) := by
  have free := (or_eq_none_iff.mp unknown).1
  rw [handleUnknownLegacy]
  split
  · exact .dropped {}
  dsimp only
  split
  · exact .dropped {}
  rename_i opening plain setup
  obtain ⟨samePeer, sameIp⟩ := findSetup_sound setup
  rw [← samePeer, ← sameIp] at free
  exact .opened {} unknown free setup

end Work

/-- The key that a session would move to is free. -/
theorem SessionTables.Named.found {work : Work} (named : work.engine.tables.Named)
    (isFor : work.slotOf peer localIp = some slot)
    (here : work.engine.tables.sessions.lookup slot = some session) :
    localIp.isSome → session.localIp ≠ localIp →
      work.engine.tables.byPeer.lookup ⟨session.peer, localIp⟩ = none := by
  have leads : ∀ {key : EndpointKey}, work.engine.tables.byPeer.lookup key = some slot →
      session.key = key := by
    intro key entry
    obtain ⟨stored, there, same⟩ := named.byPeer _ _ entry
    rw [here] at there
    cases there
    exact same
  rw [slotOf] at isFor
  cases entry : work.engine.tables.byPeer.lookup ⟨peer, localIp⟩ with
  | some found =>
    rw [entry, some_or] at isFor
    cases isFor
    intro _ other
    exact absurd (congrArg EndpointKey.localIp (leads entry)) other
  | none =>
    rw [entry, none_or] at isFor
    split at isFor
    · have samePeer : session.peer = peer := congrArg EndpointKey.peer (leads isFor)
      rw [samePeer]
      exact fun _ _ => entry
    · cases isFor

namespace Work

variable (work : Work) (outside : Outside)

theorem onUdp_found (isFor : work.slotOf peer localIp = some slot) (packet : List UInt8) :
    work.onUdp outside peer localIp packet = work.handleExisting outside slot localIp packet := by
  rw [slotOf] at isFor
  rw [onUdp]
  cases entry : work.engine.tables.byPeer.lookup ⟨peer, localIp⟩ with
  | some found =>
    rw [entry, some_or] at isFor
    cases isFor
    rfl
  | none =>
    rw [entry, none_or] at isFor
    rw [isFor]

theorem onUdp_datagram (named : work.engine.tables.Named) (peer : SocketAddr)
    (localIp : Option IpAddr) (packet : List UInt8) :
    Datagram outside peer localIp packet work (work.onUdp outside peer localIp packet) := by
  cases isFor : work.slotOf peer localIp with
  | some slot =>
    rw [work.onUdp_found outside isFor]
    exact work.handleExisting_datagram outside isFor (fun _ here => named.found isFor here) packet
  | none =>
    obtain ⟨entry, other⟩ := or_eq_none_iff.mp isFor
    rw [onUdp, entry]
    rw [other]
    dsimp only
    split
    · exact .dropped {}
    · exact work.handleUnknownLegacy_datagram outside packet isFor

theorem successor_free (here : work.engine.tables.sessions.lookup slot = some session)
    (localIp : Option IpAddr) (free : localIp.isSome → session.localIp ≠ localIp →
      work.engine.tables.byPeer.lookup ⟨session.peer, localIp⟩ = none) (reason : String) :
    (work.removeSlotWithReason outside slot reason).engine.tables.byPeer.lookup
      ⟨session.peer, localIp.or session.localIp⟩ = none := by
  rw [removeSlotWithReason_engine _ outside _ here]
  dsimp only [SessionTables.leave]
  rw [Table.lookup_erase_if]
  split
  · rfl
  rename_i other
  cases localIp with
  | none => exact absurd rfl other
  | some ip =>
    apply free rfl
    intro same
    exact other (by rw [HotSession.key, same]; rfl)

end Work

/-- The session that a datagram is for is still there after the engine has been tuned. -/
theorem Work.Finds.tuned {work : Work} {packet plain : List UInt8} {decoded : DecodedPacket}
    {engine : ProtocolEngine}
    (found : work.Finds peer localIp packet slot session decoded plain)
    (alike : engine.Alike work.engine) : engine.tables.sessions.lookup slot = some session ∧
      (localIp.isSome → session.localIp ≠ localIp →
        engine.tables.byPeer.lookup ⟨session.peer, localIp⟩ = none) := by
  rw [alike.tables]
  exact ⟨found.here, found.free⟩

/-- What a datagram needs to be allowed: to be received by the session it is for, and to open a
session in the slot that the slab hands out for it. -/
structure Rights.Admits (rights : Rights) (work : Work) (outside : Outside) (peer : SocketAddr)
    (localIp : Option IpAddr) (packet : List UInt8) : Prop where
  up : ∀ slot session decoded plain, work.Finds peer localIp packet slot session decoded plain →
    (session.replay.accept decoded.seq).2 → session.tunnels plain → rights.up
  enter : rights.enter
  opened : ∀ opening plain, work.slotOf peer localIp = none →
    findSetup peer localIp packet work.engine.credentials = some (opening, plain) →
      rights.slot (outside.slots.choose work.engine.tables.sessions)
  replaced : ∀ slot session decoded plain epoch,
    work.Finds peer localIp packet slot session decoded plain →
    parseGetconfEpoch plain = some epoch → session.epoch ≠ epoch →
      rights.slot (outside.slots.choose (work.engine.tables.sessions.erase slot))

theorem Rights.admits_all (work : Work) (outside : Outside) (peer : SocketAddr)
    (localIp : Option IpAddr) (packet : List UInt8) :
    Rights.all.Admits work outside peer localIp packet :=
  ⟨fun _ _ _ _ _ _ _ => trivial, trivial, fun _ _ _ _ => trivial, fun _ _ _ _ _ _ _ _ => trivial⟩

/-- The steps of a datagram. -/
theorem Datagram.steps {outside : Outside} {packet : List UInt8} {before after : Work}
    (datagram : Datagram outside peer localIp packet before after)
    (admits : rights.Admits before outside peer localIp packet) : Steps rights before after := by
  cases datagram with
  | dropped alike => exact .single (.tuned alike)
  | received alike found =>
    obtain ⟨here, free⟩ := found.tuned alike
    exact .head (.tuned alike)
      (acceptInbound_steps _ outside here localIp free _ _ (admits.up _ _ _ _ found))
  | @replaced engine slot session decoded plain epoch alike found parsed other =>
    obtain ⟨here, free⟩ := found.tuned alike
    have own := admits.replaced _ _ _ _ _ found parsed other
    rw [← alike.tables] at own
    refine .head (.tuned alike) (.head (.removed outside "epoch-replaced" here) ?_)
    apply openSession_steps
    · exact successor_free { before with engine := engine } outside here localIp free _
    · exact admits.enter
    · rw [freeSlot, removeSlotWithReason_engine _ outside _ here]
      exact own
  | opened alike unknown free setup =>
    have own := admits.opened _ _ unknown setup
    rw [← alike.tables] at free own
    exact .head (.tuned alike) (openSession_steps _ outside _ _ free admits.enter own)

theorem Work.onUdp_steps (work : Work) (outside : Outside) (named : work.engine.tables.Named)
    (peer : SocketAddr) (localIp : Option IpAddr) (packet : List UInt8)
    (admits : rights.Admits work outside peer localIp packet) :
    Steps rights work (work.onUdp outside peer localIp packet) :=
  (work.onUdp_datagram outside named peer localIp packet).steps admits

end Csqtt.Engine
