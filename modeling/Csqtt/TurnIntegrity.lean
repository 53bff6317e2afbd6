import Csqtt.TurnAuthentication
import Csqtt.TurnRequests

/-!
# What the integrity of a response covers

The integrity of a response covers what stands in front of it. The core looks for the attributes
that it acts on in the whole response, and takes the first one of a kind. So an attribute that is
missing in front of the integrity can be put behind it by whoever forwards the response.

For an accepted response the relay and the deadlines are out of the reach of such changes exactly if
the attributes that the operation needs are in front of the integrity. There is one exception: a
response that is as long as the length field allows has no room for a lifetime behind the integrity.
-/

namespace Csqtt.Turn

open Bytes Stun Engine List Message Turn.Core Nat

/-- The core takes a packet for a success. -/
def Accepted (digests : Digests) (core : Core) (ambient : Ambient) (packet : List UInt8) : Prop :=
  (∃ message, decode packet = .ok message ∧ message.type = .success) ∧
    (core.inputStun digests ambient packet).2 = .success

/-- A packet differs from another one behind its integrity only, and has the length and, if it has
one, the fingerprint that belong to it. -/
def Tampered (digests : Digests) (packet other : List UInt8) : Prop :=
  ∃ message integrity changed, decode packet = .ok message ∧
    message.findAttribute attrMessageIntegrity = some integrity ∧
    slice other 0 2 = slice packet 0 2 ∧
    slice other 4 (integrity.headerStart + 24) = slice packet 4 (integrity.headerStart + 24) ∧
    decode other = .ok changed ∧ changed.fingerprintValid digests ≠ some false

/-- The relay, and the deadlines of the allocation. -/
def Core.allocation (core : Core) : Option SocketAddr × Option Nat × Option Nat :=
  (core.relay, core.allocationRefresh, core.allocationExpiresAt)

/-- The attributes in front of the integrity. -/
def signedAttributes (message : Message) : List Attribute :=
  message.attributes.takeWhile fun found => found.kind != attrMessageIntegrity

/-- An attribute of a kind is in front of the integrity. -/
def Covers (message : Message) (kind : UInt16) : Prop :=
  ∃ found ∈ signedAttributes message, found.kind = kind

/-- There is no room for a lifetime behind the integrity. -/
def Full (message : Message) : Prop :=
  ∀ integrity, message.findAttribute attrMessageIntegrity = some integrity →
    2 ^ 16 ≤ integrity.headerStart + 24 + 8 - headerSize

/-- What the operation of a request needs is in front of the integrity of its response. -/
def Covered (core : Core) (packet : List UInt8) : Prop :=
  ∀ message pending, Answers core packet message pending →
    (pending.operation = .allocate → Covers message attrXorRelayedAddress) ∧
    (pending.operation = .allocate ∨ pending.operation = .refresh →
      Covers message attrLifetime ∨ Full message)

/-! ## In front of and behind the integrity -/

/-- A message with attributes, an integrity of twenty bytes, and perhaps more attributes. -/
structure Sealed (message : Message) (front : List Attribute) (integrity : Attribute)
    (back : List Attribute) : Prop where
  attributes : message.attributes = front ++ integrity :: back
  kind : integrity.kind = attrMessageIntegrity
  first : ∀ found ∈ front, found.kind ≠ attrMessageIntegrity
  before : (attributeLayout message.raw).Passes headerSize front integrity.headerStart
  signed : (attributeLayout message.raw).Passes headerSize (front ++ [integrity])
    (integrity.headerStart + 24)
  unsigned : (attributeLayout message.raw).Passes (integrity.headerStart + 24) back message.stop

section Responses

variable {back front others : List Attribute} {changed message : Message} {digests : Digests}
  {integrity : Attribute} {cut : Nat} {other packet : List UInt8} {ambient : Ambient} {core : Core}
  {pending : Pending} {relay : SocketAddr}

namespace Sealed

variable {kind : UInt16}

theorem of_found (found : message.findAttribute attrMessageIntegrity = some integrity)
    (long : integrity.value.length = 20) : ∃ front back, Sealed message front integrity back := by
  obtain ⟨isIntegrity, front, back, attributes, first⟩ := find?_eq_some_iff_append.mp found
  have passes := message.passes
  rw [attributes] at passes
  obtain ⟨place, before, later⟩ := passes.split
  cases later with
  | item _ unsigned =>
    have next : (attributeLayout message.raw).next place = place + 24 := by
      rw [next_attribute (le_trans unsigned.le (ge_of_eq message.whole)), long]
      rfl
    rw [next] at unsigned
    refine ⟨front, back, attributes, beq_iff_eq.mp isIntegrity, ?_, before, ?_, unsigned⟩
    · intro other member
      simpa using first other member
    · have single : (attributeLayout message.raw).Passes place [(attributeLayout message.raw).item place]
          (place + 24) := next ▸ .single place
      exact before.append single

section

variable (isSealed : Sealed message front integrity back)

include isSealed

theorem inside : integrity.headerStart + 24 ≤ message.raw.length :=
  le_trans isSealed.unsigned.le (le_of_eq message.whole.symm)

theorem aligned : (integrity.headerStart + 24) % 4 = 0 := Passes.aligned isSealed.signed

theorem found : message.findAttribute attrMessageIntegrity = some integrity := by
  rw [findAttribute, isSealed.attributes, find?_eq_some_iff_append]
  refine ⟨beq_iff_eq.mpr isSealed.kind, front, back, rfl, fun other member => ?_⟩
  simpa using isSealed.first other member

theorem signedAttributes_eq : signedAttributes message = front := by
  have all : ∀ found ∈ front, (found.kind != attrMessageIntegrity) = true :=
    fun found member => bne_iff_ne.mpr (isSealed.first found member)
  have last : ¬(integrity.kind != attrMessageIntegrity) = true := by
    rw [isSealed.kind]
    decide
  rw [signedAttributes, isSealed.attributes, takeWhile_append_of_pos all, takeWhile_cons, if_neg last,
    append_nil]

theorem uncovered (exposed : ¬Covers message kind) : ∀ found ∈ front, found.kind ≠ kind := by
  rw [Covers, isSealed.signedAttributes_eq] at exposed
  exact fun found member isKind => exposed ⟨found, member, isKind⟩

/-- The same bytes up to the end of the integrity are read alike. -/
theorem transfer (same : slice changed.raw 4 (integrity.headerStart + 24) =
      slice message.raw 4 (integrity.headerStart + 24)) :
    ∃ others, Sealed changed front integrity others := by
  have inside : integrity.headerStart + 24 ≤ changed.stop := by
    have long := isSealed.inside
    have lengths := congrArg List.length same
    simp only [slice, length_take, length_drop] at lengths
    rw [← changed.whole]
    omega
  have agree : ∀ stop ≤ integrity.headerStart + 24, ∀ position, headerSize ≤ position →
      (attributeLayout message.raw).next position ≤ stop →
      (attributeLayout changed.raw).item position = (attributeLayout message.raw).item position ∧
        (attributeLayout changed.raw).next position = (attributeLayout message.raw).next position :=
    fun stop below position behind inside => attributeLayout_agree same position
      (le_trans (by decide) behind) (le_trans inside below)
  have before := isSealed.before.congr (agree _ (by omega))
  have signed := isSealed.signed.congr (agree _ (le_refl _))
  have attributes : changed.attributes = (front ++ [integrity]) ++
      (attributeLayout changed.raw).walk changed.stop (integrity.headerStart + 24) :=
    signed.walk_eq inside
  have passes := changed.passes
  rw [attributes] at passes
  obtain ⟨middle, passesToo, unsigned⟩ := passes.split
  rw [append_assoc] at attributes
  exact ⟨_, attributes, isSealed.kind, isSealed.first, before, signed,
    signed.unique passesToo ▸ unsigned⟩

theorem find_front (isSealedToo : Sealed changed front integrity others)
    (covers : Covers message kind) : changed.findAttribute kind = message.findAttribute kind := by
  rw [Covers, isSealed.signedAttributes_eq] at covers
  obtain ⟨found, member, isKind⟩ := covers
  have here : (front.find? fun found => found.kind == kind).isSome := by
    rw [find?_isSome]
    exact ⟨found, member, beq_iff_eq.mpr isKind⟩
  obtain ⟨first, isFirst⟩ := Option.isSome_iff_exists.mp here
  rw [findAttribute, findAttribute, isSealed.attributes, isSealedToo.attributes,
    find?_append, find?_append, isFirst, Option.some_or, Option.some_or]

theorem find_back (other : kind ≠ attrMessageIntegrity)
    (uncovered : ∀ found ∈ front, found.kind ≠ kind) :
    message.findAttribute kind = back.find? fun found => found.kind == kind := by
  have missing : front.find? (fun found => found.kind == kind) = none := by
    rw [find?_eq_none]
    intro found member
    simpa using uncovered found member
  have noIntegrity : ¬(integrity.kind == kind) = true := by
    rw [isSealed.kind, beq_iff_eq]
    exact other.symm
  rw [findAttribute, isSealed.attributes, find?_append, missing, Option.none_or,
    find?_cons_of_neg (p := fun found : Attribute => found.kind == kind)
      noIntegrity]

/-- A right fingerprint does not stand in front. -/
theorem no_fingerprint (printed : message.fingerprintValid digests ≠ some false) :
    ∀ found ∈ front, found.kind ≠ attrFingerprint := by
  intro found member isFingerprint
  have here : (front.find? fun found => found.kind == attrFingerprint).isSome := by
    rw [find?_isSome]
    exact ⟨found, member, beq_iff_eq.mpr isFingerprint⟩
  obtain ⟨first, isFirst⟩ := Option.isSome_iff_exists.mp here
  have isFound : message.findAttribute attrFingerprint = some first := by
    rw [findAttribute, isSealed.attributes, find?_append, isFirst, Option.some_or]
  have misplaced : first.headerStart + 8 ≠ message.stop := by
    have stop := isSealed.unsigned.le
    have inside := isSealed.inside
    obtain ⟨-, ends⟩ := attribute_ends isSealed.before (by omega) (mem_of_find?_eq_some isFirst)
    omega
  rw [fingerprintValid, isFound, Option.map_some, if_pos (.inr misplaced)] at printed
  exact printed rfl

end

end Sealed

/-! ## Responses up to their integrity -/

section Alike

theorem AlikeUpTo.header (alike : AlikeUpTo cut packet other) (long : 20 ≤ cut)
    (decoded : decode packet = .ok message) (decodedToo : decode other = .ok changed) :
    changed.kind = message.kind ∧ changed.transaction = message.transaction := by
  obtain ⟨-, -, kind, transaction⟩ := of_decode decoded
  obtain ⟨-, -, kindToo, transactionToo⟩ := of_decode decodedToo
  constructor
  · rw [kind, kindToo, lengthAt, lengthAt]
    exact congrArg (fun bytes => UInt16.ofNat (fromBe bytes)) alike.type
  · rw [← slice_eq_of_slice_eq alike.rest (by omega) long, ← transactionToo] at transaction
    exact Transaction.ext transaction.symm

theorem Authentic.isSealed (authentic : Authentic digests core packet message pending) :
    ∃ front integrity back, Sealed message front integrity back := by
  have verified := authentic.verified
  unfold verifyIntegrity at verified
  split at verified
  · rename_i key integrity _ found
    split at verified
    · cases verified
    rename_i long
    rw [not_or, not_not] at long
    obtain ⟨front, back, isSealed⟩ := Sealed.of_found found long.1
    exact ⟨front, integrity, back, isSealed⟩
  · cases verified

/-- A response that is alike up to the end of its integrity is authentic as well. -/
theorem Authentic.transfer (authentic : Authentic digests core packet message pending)
    (isSealed : Sealed message front integrity back)
    (alike : AlikeUpTo (integrity.headerStart + 24) packet other)
    (decoded : decode other = .ok changed) :
    Authentic digests core other changed pending ∧ core.without changed = core.without message ∧
      changed.transaction = message.transaction ∧ ∃ others, Sealed changed front integrity others := by
  have behind : 20 ≤ integrity.headerStart := isSealed.before.le
  obtain ⟨kind, transaction⟩ := alike.header (by omega) authentic.decoded decoded
  have answered : answeredBy changed = answeredBy message := by
    funext request
    rw [answeredBy, answeredBy, method, method, kind, transaction]
  have raw := (of_decode authentic.decoded).2.1
  have rawToo := (of_decode decoded).2.1
  obtain ⟨others, isSealedToo⟩ : ∃ others, Sealed changed front integrity others := by
    refine isSealed.transfer ?_
    rw [raw, rawToo]
    exact alike.rest
  have found : core.pending.find? (answeredBy changed) = some pending := by
    rw [answered]
    exact authentic.found
  refine ⟨⟨⟨decoded, found⟩, ?_, authentic.authenticated, ?_⟩, ?_, transaction, others, isSealedToo⟩
  · have success := authentic.success
    rw [type] at success ⊢
    rw [kind, success]
  · have same : verifyIntegrity digests other changed core.key =
        verifyIntegrity digests packet message core.key := by
      unfold verifyIntegrity
      rw [isSealed.found, isSealedToo.found]
      cases core.key with
      | none => rfl
      | some key =>
        dsimp only
        rw [signedPart_eq alike behind (by omega)]
    exact same.trans authentic.verified
  · rw [without, without, answered]

end Alike

/-! ## What becomes of a verified response -/

section Outcomes

variable {after : Core} {status : Status}

/-- The core when it turns to the response to a request. -/
def Core.attending (core : Core) (message : Message) : Core :=
  (core.without message).removeQueuedTransaction message.transaction

/-- What the core takes for a success is a verified response with no wrong fingerprint. -/
theorem Accepted.authentic (accepted : Accepted digests core ambient packet) :
    ∃ message pending after, Authentic digests core packet message pending ∧
      message.fingerprintValid digests ≠ some false ∧
      core.inputStun digests ambient packet = (after, .success) ∧
      Succeeded digests ambient message (core.without message) pending.operation after none := by
  obtain ⟨⟨message, decoded, success⟩, status⟩ := accepted
  have printed : message.fingerprintValid digests ≠ some false := by
    intro misprinted
    unfold inputStun at status
    rw [decoded] at status
    dsimp only at status
    rw [if_neg (fun neither => neither.1 success), if_pos misprinted] at status
    cases status
  have received := core.inputStun_received digests ambient packet
  obtain ⟨after, outcome⟩ : ∃ after, core.inputStun digests ambient packet = (after, .success) :=
    ⟨_, Prod.ext rfl status⟩
  rw [outcome] at received
  cases received with
  | ignored refused _ => exact absurd rfl refused
  | refused answers isError _ | recreated answers isError _ _ _
  | challenged answers isError _ _ _ | stuck answers isError _ _ _ _ =>
    exact absurd isError (answers.no_error decoded success)
  | succeeded authentic succeeded =>
    obtain rfl := authentic.same decoded
    exact ⟨_, _, after, authentic, printed, outcome, succeeded⟩

theorem Core.completeSuccess_congr {operation : Operation} (kept : operation ≠ .deallocate)
    (relay : operation = .allocate → core.readRelay changed = core.readRelay message)
    (lifetime : operation = .allocate ∨ operation = .refresh →
      attributeU32 changed attrLifetime = attributeU32 message attrLifetime) :
    core.completeSuccess digests ambient operation changed =
      core.completeSuccess digests ambient operation message := by
  cases operation with
  | allocate =>
    unfold completeSuccess
    rw [relay rfl, lifetime (.inl rfl)]
  | refresh =>
    unfold completeSuccess
    dsimp only
    rw [lifetime (.inr rfl)]
  | deallocate => exact absurd rfl kept
  | permission | channel => rfl

/-- When an allocation ends that was granted or refreshed by a response. -/
def endOf (message : Message) (now : Nat) : Nat :=
  now + seconds ((attributeU32 message attrLifetime).getD requestedAllocationLifetimeSecs)

theorem Succeeded.allocation {after : Core} {result : Option CoreError}
    (succeeded : Succeeded digests ambient message core .allocate after result) :
    (∃ error, result = some error) ∨ ∃ relay, core.readRelay message = .ok relay ∧
      after.relay = some relay ∧ after.allocationExpiresAt = some (endOf message ambient.now) := by
  cases succeeded with
  | malformed error _ => exact .inl ⟨error, rfl⟩
  | allocated _ read same =>
    obtain ⟨_, _, rfl⟩ := same
    exact .inr ⟨_, read, rfl, rfl⟩
  | late _ read started =>
    obtain ⟨_, _, _, rfl⟩ := started.kept
    exact .inr ⟨_, read, rfl, rfl⟩

section Verified

variable (authentic : Authentic digests core packet message pending)
  (printed : message.fingerprintValid digests ≠ some false)

include authentic printed

/-- A verified response is a success of its request. -/
theorem Core.inputStun_authentic : core.inputStun digests ambient packet =
      match (core.attending message).completeSuccess digests ambient pending.operation message with
      | (after, none) => (after, .success)
      | (after, some _) =>
        (after.completeFailure pending.operation .protocol 0 ambient.now, .protocol) := by
  have isResponse : ¬(message.type ≠ .success ∧ message.type ≠ .error) :=
    fun neither => neither.1 authentic.success
  have verified : ¬core.unverified digests packet message pending = true := by
    simp [unverified, authentic.verified]
  have expected : ¬(message.type = .success ∧ (!pending.authenticated) = true) := by
    simp [authentic.authenticated]
  have noError : message.type ≠ .error := by
    rw [authentic.success]
    decide
  unfold inputStun
  rw [authentic.decoded]
  dsimp only
  rw [if_neg isResponse, if_neg printed, authentic.found]
  dsimp only
  rw [if_neg verified, answered, if_neg expected, if_neg noError]
  rfl

/-- Nothing is left of an allocation after a response to the request to give it back. -/
theorem allocation_of_deallocate (gives : pending.operation = .deallocate) :
    (core.inputStun digests ambient packet).1.allocation = (none, none, none) := by
  rw [inputStun_authentic authentic printed, gives]
  have succeeded := (core.attending message).completeSuccess_succeeded digests ambient .deallocate message
  generalize (core.attending message).completeSuccess digests ambient .deallocate message = outcome
    at succeeded
  obtain ⟨after, result⟩ := outcome
  cases succeeded with
  | malformed error same =>
    obtain ⟨_, _, gone⟩ := (after.completeFailure_failed .deallocate .protocol 0 ambient.now).gone rfl
    dsimp only
    rw [gone]
    rfl
  | deallocated same =>
    obtain ⟨_, _, rfl⟩ := same
    rfl

/-- After a verified response to a request for an allocation there is the one in the response, or
none. -/
theorem allocation_of_allocate (asks : pending.operation = .allocate) (ambient : Ambient) :
    ((core.inputStun digests ambient packet).1.relay = none ∧
      (core.inputStun digests ambient packet).1.allocationExpiresAt = none) ∨
    ∃ relay, core.readRelay message = .ok relay ∧
      (core.inputStun digests ambient packet).1.relay = some relay ∧
      (core.inputStun digests ambient packet).1.allocationExpiresAt = some (endOf message ambient.now) := by
  rw [inputStun_authentic authentic printed, asks]
  have succeeded := (core.attending message).completeSuccess_succeeded digests ambient .allocate message
  generalize (core.attending message).completeSuccess digests ambient .allocate message = outcome
    at succeeded
  obtain ⟨after, result⟩ := outcome
  cases result with
  | none =>
    rcases succeeded.allocation with ⟨error, failed⟩ | granted
    · cases failed
    · exact .inr granted
  | some error =>
    obtain ⟨_, _, gone⟩ := (after.completeFailure_failed .allocate .protocol 0 ambient.now).gone rfl
    dsimp only
    rw [gone]
    exact .inl ⟨rfl, rfl⟩

/-- A refresh with a lifetime sets the end of the allocation. -/
theorem allocation_of_refresh (renews : pending.operation = .refresh)
    (positive : (attributeU32 message attrLifetime).getD requestedAllocationLifetimeSecs ≠ 0) :
    (core.inputStun digests ambient packet).1.allocationExpiresAt = some (endOf message ambient.now) := by
  have renewed : (core.attending message).completeSuccess digests ambient .refresh message =
      (((core.attending message).setLifetime (attributeU32 message attrLifetime) ambient.now).complete
        .refresh .success 0, none) := by
    unfold completeSuccess
    dsimp only
    rw [if_neg positive]
  obtain ⟨_, _, same⟩ := Requeued.complete ((core.attending message).setLifetime
    (attributeU32 message attrLifetime) ambient.now) .refresh .success 0
  rw [inputStun_authentic authentic printed, renews, renewed, same]
  rfl

end Verified

end Outcomes

/-! ## Attributes behind the integrity -/

/-- An attribute in the place of what stands behind the integrity. -/
def forge (packet : List UInt8) (cut : Nat) (kind : UInt16) (value : List UInt8) : List UInt8 :=
  let bytes := packet.take cut ++ attributeBytes cut kind value
  splice bytes 2 (toBe 2 (bytes.length - headerSize))

theorem slice_take {bytes : List UInt8} {start stop : Nat} (inside : stop ≤ cut) :
    slice (bytes.take cut) start stop = slice bytes start stop := by
  rw [slice, slice, drop_take, take_take, min_eq_left (by omega)]

/-- What stands in front of the end of the integrity can be written on from there. -/
theorem Sealed.carries (isSealed : Sealed message front integrity back)
    (decoded : decode packet = .ok message) :
    Carries message.kind message.transaction (front ++ [integrity])
      (packet.take (integrity.headerStart + 24)) := by
  obtain ⟨valid, raw, isKind, isTransaction⟩ := of_decode decoded
  have signed := isSealed.signed
  rw [raw] at signed
  refine ⟨?_, ?_, ?_, ?_⟩
  · rw [lengthAt, slice_take (by omega)]
    exact isKind.symm
  · rw [slice_take (by omega), valid.cookie]
  · rw [slice_take (by omega), isTransaction]
  · rw [length_take_of_le (raw ▸ isSealed.inside)]
    exact signed.congr (attributeLayout_agree (slice_take (le_refl _)))

/-- A forged packet is read as a message with the attribute behind the integrity. -/
theorem Sealed.forge {kind : UInt16} {value : List UInt8}
    (isSealed : Sealed message front integrity back) (decoded : decode packet = .ok message)
    (plain : kind ≠ 0x8020)
    (room : integrity.headerStart + 24 + (4 + padded value.length) - headerSize < 2 ^ 16) :
    AlikeUpTo (integrity.headerStart + 24) packet
        (forge packet (integrity.headerStart + 24) kind value) ∧
      ∃ changed, decode (forge packet (integrity.headerStart + 24) kind value) = .ok changed ∧
        Sealed changed front integrity [⟨kind, value, integrity.headerStart + 24⟩] := by
  obtain ⟨valid, raw, isKind, -⟩ := of_decode decoded
  have carries := isSealed.carries decoded
  have taken := length_take_of_le (raw ▸ isSealed.inside : integrity.headerStart + 24 ≤ packet.length)
  have short : value.length < 2 ^ 16 := by
    have fits := le_padded value.length
    have size : headerSize = 20 := rfl
    omega
  have aligned := isSealed.aligned
  have length := attributeBytes_length aligned kind value
  generalize isCut : integrity.headerStart + 24 = cut at *
  generalize isTotal : cut + (4 + padded value.length) - headerSize = total at room
  have four : 2 + (toBe 2 total).length ≤ (packet.take cut).length := by
    rw [toBe_length, taken]
    omega
  have forged : Turn.forge packet cut kind value =
      splice (packet.take cut) 2 (toBe 2 total) ++ attributeBytes cut kind value := by
    rw [Turn.forge, length_append, taken, length, isTotal, splice, splice,
      take_append_of_le_length (by omega), drop_append_of_le_length four, ← append_assoc]
  have alike := AlikeUpTo.declare carries.long total (attributeBytes cut kind value)
  have declared := declared_length carries.long room (attributeBytes cut kind value)
  have written := (carries.declare total).put plain short
  rw [splice_length _ _ _ four, taken, ← forged] at written
  rw [taken, ← forged] at alike
  have whole : (Turn.forge packet cut kind value).length = cut + (4 + padded value.length) := by
    rw [forged, length_append, splice_length _ _ _ four, taken, length]
  rw [← forged, ← isTotal, ← whole] at declared
  obtain ⟨changed, decodedToo, attributes, -⟩ :=
    written.decode (isKind ▸ valid.typed) (isKind ▸ valid.leadingBits) declared
  have rest := alike.rest.trans (slice_take (le_refl cut))
  refine ⟨⟨alike.type.trans (slice_take (by omega)), rest⟩, changed, decodedToo, ?_⟩
  obtain ⟨others, isSealedToo⟩ : ∃ others, Sealed changed front integrity others := by
    refine isSealed.transfer ?_
    rw [raw, (of_decode decodedToo).2.1, isCut]
    exact rest
  have same : others = [⟨kind, value, cut⟩] := by
    have both := isSealedToo.attributes.symm.trans attributes
    rw [append_assoc] at both
    exact (List.cons.inj (append_cancel_left both)).2
  exact same ▸ isSealedToo

/-! ## What can be changed -/

section Changing

/-- An attribute of a verified response can be put behind the integrity. -/
theorem Authentic.forged (authentic : Authentic digests core packet message pending)
    (printed : message.fingerprintValid digests ≠ some false)
    (isSealed : Sealed message front integrity back) (kind : UInt16) (value : List UInt8)
    (plain : kind ≠ 0x8020) (noFingerprint : kind ≠ attrFingerprint)
    (room : integrity.headerStart + 24 + (4 + padded value.length) - headerSize < 2 ^ 16) :
    ∃ other changed, Tampered digests packet other ∧ Authentic digests core other changed pending ∧
      changed.fingerprintValid digests ≠ some false ∧ changed.transaction = message.transaction ∧
      Sealed changed front integrity [⟨kind, value, integrity.headerStart + 24⟩] := by
  obtain ⟨alike, changed, decoded, isSealedToo⟩ := isSealed.forge authentic.decoded plain room
  obtain ⟨authenticToo, -, transaction, -⟩ := authentic.transfer isSealed alike decoded
  have missing : changed.findAttribute attrFingerprint = none := by
    rw [isSealedToo.find_back (by decide) (isSealed.no_fingerprint printed), find?_eq_none]
    intro found member
    obtain rfl := mem_singleton.mp member
    simpa using noFingerprint
  have printedToo : changed.fingerprintValid digests ≠ some false := by
    rw [fingerprintValid, missing]
    exact (Option.some_ne_none false).symm
  exact ⟨_, changed, ⟨message, integrity, changed, authentic.decoded, isSealed.found, alike.type,
    alike.rest, decoded, printedToo⟩, authenticToo, printedToo, transaction, isSealedToo⟩

theorem stop_lt (decoded : decode packet = .ok message) : message.stop < headerSize + 2 ^ 16 := by
  obtain ⟨valid, raw, -⟩ := of_decode decoded
  have whole := message.whole
  have bound := lengthAt_lt packet 2
  rw [raw, valid.whole] at whole
  omega

/-- If there is no room for a lifetime, there is none. -/
theorem Sealed.lifetime_of_full (isSealed : Sealed message front integrity back)
    (decoded : decode packet = .ok message)
    (full : 2 ^ 16 ≤ integrity.headerStart + 24 + 8 - headerSize)
    (uncovered : ∀ found ∈ front, found.kind ≠ attrLifetime) :
    attributeU32 message attrLifetime = none := by
  rw [attributeU32, isSealed.find_back (by decide) uncovered]
  cases isFound : back.find? fun found => found.kind == attrLifetime with
  | none => rfl
  | some found =>
    obtain ⟨behind, ends⟩ := attribute_ends isSealed.unsigned (ge_of_eq message.whole)
      (mem_of_find?_eq_some isFound)
    have bound := stop_lt decoded
    have short := le_padded found.value.length
    exact if_neg (by omega)

theorem Sealed.lifetime_eq (isSealed : Sealed message front integrity back)
    (isSealedToo : Sealed changed front integrity others)
    (decoded : decode packet = .ok message) (decodedToo : decode other = .ok changed)
    (covered : Covers message attrLifetime ∨ Full message) :
    attributeU32 changed attrLifetime = attributeU32 message attrLifetime := by
  by_cases covers : Covers message attrLifetime
  · rw [attributeU32, attributeU32, isSealed.find_front isSealedToo covers]
  have full := (covered.resolve_left covers) integrity isSealed.found
  have uncovered := isSealed.uncovered covers
  rw [isSealed.lifetime_of_full decoded full uncovered,
    isSealedToo.lifetime_of_full decodedToo full uncovered]

theorem decodeXorAddress_length {value : List UInt8} {transaction : Transaction} {address : SocketAddr}
    (decoded : decodeXorAddress value transaction = .ok address) :
    value.length = 4 + (octets address.ip).length := by
  unfold decodeXorAddress at decoded
  split at decoded
  · cases decoded
  split at decoded
  · rename_i isV4
    cases decoded
    rw [octets_length]
    exact isV4.2
  · split at decoded
    · rename_i isV6
      cases decoded
      rw [octets_length]
      exact isV6.2
    · cases decoded

theorem readRelay_ok (read : core.readRelay message = .ok relay) :
    ∃ found, message.findAttribute attrXorRelayedAddress = some found ∧
      decodeXorAddress found.value message.transaction = .ok relay ∧
      isIpv4 relay = isIpv4 core.peer ∧ relay.port ≠ 0 := by
  unfold readRelay at read
  split at read
  · cases read
  rename_i found isFound
  split at read
  · cases read
  rename_i decoded
  split at read
  · cases read
  rename_i usable
  cases read
  rw [not_or, not_not] at usable
  exact ⟨found, isFound, decoded, usable⟩

theorem Sealed.readRelay_behind {place : Nat} (isSealed : Sealed changed front integrity
      [⟨attrXorRelayedAddress, encodeXorAddress relay changed.transaction, place⟩])
    (uncovered : ∀ found ∈ front, found.kind ≠ attrXorRelayedAddress)
    (family : isIpv4 relay = isIpv4 core.peer) (port : relay.port ≠ 0) :
    core.readRelay changed = .ok relay := by
  unfold readRelay
  rw [isSealed.find_back (by decide) uncovered, find?_singleton, if_pos (beq_self_eq_true _)]
  dsimp only
  rw [decodeXorAddress_encode]
  exact if_neg (not_or.mpr ⟨not_not.mpr family, port⟩)

/-- If the address is not covered, the relay can be changed. -/
theorem Authentic.relay_changed (ambient : Ambient)
    (authentic : Authentic digests core packet message pending)
    (printed : message.fingerprintValid digests ≠ some false)
    (isSealed : Sealed message front integrity back) (asks : pending.operation = .allocate)
    (read : core.readRelay message = .ok relay)
    (uncovered : ∀ found ∈ front, found.kind ≠ attrXorRelayedAddress) :
    ∃ other, Tampered digests packet other ∧
      (core.inputStun digests ambient other).1.relay ≠ some relay := by
  obtain ⟨found, isFound, decoded, family, -⟩ := readRelay_ok read
  obtain ⟨port, nonzero, differs⟩ : ∃ port : UInt16, port ≠ 0 ∧ port ≠ relay.port := by
    by_cases isOne : relay.port = 1
    · exact ⟨2, by decide, by rw [isOne]; decide⟩
    · exact ⟨1, by decide, Ne.symm isOne⟩
  have length : (encodeXorAddress ⟨relay.ip, port⟩ message.transaction).length = found.value.length := by
    rw [encodeXorAddress_length, decodeXorAddress_length decoded]
  have room : integrity.headerStart + 24 + (4 + padded
      (encodeXorAddress ⟨relay.ip, port⟩ message.transaction).length) - headerSize < 2 ^ 16 := by
    rw [isSealed.find_back (by decide) uncovered] at isFound
    obtain ⟨behind, ends⟩ := attribute_ends isSealed.unsigned (ge_of_eq message.whole)
      (mem_of_find?_eq_some isFound)
    have bound := stop_lt authentic.decoded
    rw [length]
    omega
  obtain ⟨other, changed, tampered, authenticToo, printedToo, transaction, isSealedToo⟩ :=
    authentic.forged printed isSealed attrXorRelayedAddress _ (by decide) (by decide) room
  refine ⟨other, tampered, ?_⟩
  rw [← transaction] at isSealedToo
  have readToo : core.readRelay changed = .ok ⟨relay.ip, port⟩ :=
    isSealedToo.readRelay_behind uncovered family nonzero
  rcases allocation_of_allocate authenticToo printedToo asks ambient with
    ⟨gone, -⟩ | ⟨granted, grantedRead, isGranted, -⟩
  · rw [gone]
    exact (Option.some_ne_none relay).symm
  rw [isGranted]
  rw [readToo, Except.ok.injEq] at grantedRead
  subst grantedRead
  intro same
  exact differs (congrArg SocketAddr.port (Option.some.inj same))

/-- If the lifetime is not covered and there is room for one, the end of the allocation can be
changed. -/
theorem Authentic.end_changed (ambient : Ambient)
    (authentic : Authentic digests core packet message pending)
    (printed : message.fingerprintValid digests ≠ some false)
    (isSealed : Sealed message front integrity back)
    (timed : pending.operation = .allocate ∨ pending.operation = .refresh)
    (uncovered : ∀ found ∈ front, found.kind ≠ attrLifetime)
    (room : integrity.headerStart + 24 + 8 - headerSize < 2 ^ 16) :
    ∃ other, Tampered digests packet other ∧
      (core.inputStun digests ambient other).1.allocationExpiresAt ≠ some (endOf message ambient.now) := by
  obtain ⟨lifetime, positive, small, differs⟩ : ∃ lifetime, lifetime ≠ 0 ∧ lifetime < 256 ^ 4 ∧
      lifetime ≠ (attributeU32 message attrLifetime).getD requestedAllocationLifetimeSecs := by
    by_cases isOne : (attributeU32 message attrLifetime).getD requestedAllocationLifetimeSecs = 1
    · exact ⟨2, by decide, by decide, by rw [isOne]; decide⟩
    · exact ⟨1, by decide, by decide, Ne.symm isOne⟩
  obtain ⟨other, changed, tampered, authenticToo, printedToo, -, isSealedToo⟩ :=
    authentic.forged printed isSealed attrLifetime (toBe 4 lifetime) (by decide) (by decide)
      (by rw [toBe_length]; exact room)
  refine ⟨other, tampered, ?_⟩
  have read : attributeU32 changed attrLifetime = some lifetime := by
    rw [attributeU32, isSealedToo.find_back (by decide) uncovered, find?_singleton,
      if_pos (beq_self_eq_true _)]
    change (if (toBe 4 lifetime).length = 4 then some (fromBe (toBe 4 lifetime)) else none) = _
    rw [if_pos (toBe_length 4 lifetime), fromBe_toBe, mod_eq_of_lt small]
  have ends : endOf changed ambient.now ≠ endOf message ambient.now := by
    unfold endOf seconds milliseconds
    rw [read, Option.getD_some]
    omega
  rcases timed with asks | renews
  · rcases allocation_of_allocate authenticToo printedToo asks ambient with
      ⟨-, gone⟩ | ⟨_, _, _, granted⟩
    · rw [gone]
      exact (Option.some_ne_none _).symm
    · rw [granted]
      exact fun same => ends (Option.some.inj same)
  · rw [allocation_of_refresh authenticToo printedToo renews (by rw [read]; exact positive)]
    exact fun same => ends (Option.some.inj same)

/-- What is covered cannot be changed. -/
theorem Authentic.unchanged (authentic : Authentic digests core packet message pending)
    (printed : message.fingerprintValid digests ≠ some false) (covered : Covered core packet)
    (tampered : Tampered digests packet other) :
    (core.inputStun digests ambient other).1.allocation =
      (core.inputStun digests ambient packet).1.allocation := by
  obtain ⟨front, integrity, back, isSealed⟩ := authentic.isSealed
  obtain ⟨original, signature, changed, decoded, found, type, rest, decodedToo, printedToo⟩ := tampered
  obtain rfl := authentic.same decoded
  cases isSealed.found.symm.trans found
  obtain ⟨authenticToo, without, transaction, others, isSealedToo⟩ :=
    authentic.transfer isSealed ⟨type, rest⟩ decodedToo
  obtain ⟨relayCovered, lifetimeCovered⟩ := covered message pending authentic.toAnswers
  by_cases gives : pending.operation = .deallocate
  · rw [allocation_of_deallocate authentic printed gives,
      allocation_of_deallocate authenticToo printedToo gives]
  have attending : core.attending changed = core.attending message := by
    rw [attending, attending, without, transaction]
  have done : (core.attending message).completeSuccess digests ambient pending.operation changed =
      (core.attending message).completeSuccess digests ambient pending.operation message := by
    refine completeSuccess_congr gives (fun asks => ?_) fun timed =>
      isSealed.lifetime_eq isSealedToo authentic.decoded decodedToo (lifetimeCovered timed)
    unfold readRelay
    rw [isSealed.find_front isSealedToo (relayCovered asks), transaction]
  rw [inputStun_authentic authentic printed, inputStun_authentic authenticToo printedToo,
    attending, done]

end Changing

/-- The relay and the deadlines that a core takes from an accepted response are out of the reach of
changes behind the integrity exactly if what the operation needs is in front of it. -/
theorem unchanged_behind_integrity_iff {digests : Digests} {core : Core} {ambient : Ambient}
    {packet : List UInt8} (accepted : Accepted digests core ambient packet) :
    (∀ other, Tampered digests packet other → (core.inputStun digests ambient other).1.allocation =
        (core.inputStun digests ambient packet).1.allocation) ↔ Covered core packet := by
  obtain ⟨message, pending, after, authentic, printed, outcome, succeeded⟩ := accepted.authentic
  constructor
  · intro unchanged original request answers
    obtain ⟨front, integrity, back, isSealed⟩ := authentic.isSealed
    obtain ⟨decoded, found⟩ := answers
    obtain rfl := authentic.same decoded
    cases authentic.found.symm.trans found
    rw [outcome] at unchanged
    constructor
    · intro asks
      by_contra exposed
      rw [asks] at succeeded
      rcases succeeded.allocation with ⟨_, failed⟩ | ⟨relay, read, isRelay, -⟩
      · cases failed
      obtain ⟨other, tampered, differs⟩ := authentic.relay_changed ambient printed
        isSealed asks read (isSealed.uncovered exposed)
      refine differs ?_
      rw [← isRelay]
      exact congrArg Prod.fst (unchanged other tampered)
    · intro timed
      by_contra exposed
      rw [not_or] at exposed
      have room : integrity.headerStart + 24 + 8 - headerSize < 2 ^ 16 := by
        by_contra full
        refine exposed.2 fun signature found => ?_
        rw [isSealed.found, Option.some.injEq] at found
        subst found
        exact Nat.le_of_not_lt full
      have ends : after.allocationExpiresAt = some (endOf message ambient.now) := by
        rcases timed with asks | renews
        · rw [asks] at succeeded
          rcases succeeded.allocation with ⟨_, failed⟩ | ⟨_, _, _, ends⟩
          · cases failed
          · exact ends
        · rw [renews] at succeeded
          cases succeeded with
          | refreshed same =>
            obtain ⟨_, _, rfl⟩ := same
            rfl
      obtain ⟨other, tampered, differs⟩ := authentic.end_changed ambient printed isSealed
        timed (isSealed.uncovered exposed.1) room
      refine differs ?_
      rw [← ends]
      exact congrArg (fun parts => parts.2.2) (unchanged other tampered)
  · intro covered other tampered
    exact authentic.unchanged printed covered tampered

end Responses

namespace Sample

theorem of_checked {check : Message → Bool} (checked : (decode packet).toOption.any check = true) :
    ∃ message, decode packet = .ok message ∧ check message = true := by
  cases decoded : decode packet with
  | error _ =>
    rw [decoded] at checked
    cases checked
  | ok message =>
    rw [decoded] at checked
    exact ⟨message, rfl, checked⟩

/-- When the core waits for its allocation. -/
def waiting : Core := Runs.final (step digests) core opening

/-- When the core has asked for its allocation to be refreshed. -/
def refreshing : Core :=
  Runs.final (step digests) core
    (opening ++ [(.inputStun grant, ambient 2 3), (.poll, ambient (seconds 300 + 2) 4)])

/-- A refresh without a lifetime. -/
def refreshed : List UInt8 :=
  (MessageBuilder.withTransaction 0x0104 (transaction 4)).finishAuthenticated digests key
    |>.toOption.getD []

/-- The same with a lifetime of a second behind the integrity. -/
def shortened : List UInt8 :=
  (MessageBuilder.withAttribute ⟨refreshed.take 44, transaction 4⟩ attrLifetime (toBe 4 1)).finish digests
    |>.toOption.getD []

end Sample

open Sample

/-- The response to the first request has everything in front of its integrity. -/
theorem sample_grant_is_covered : Accepted digests waiting (ambient 2 3) grant ∧
      ∀ other, Tampered digests grant other →
        (waiting.inputStun digests (ambient 2 3) other).1.allocation =
          (waiting.inputStun digests (ambient 2 3) grant).1.allocation := by
  have checked : (decode grant).toOption.any (fun message =>
      message.type == .success &&
        ((signedAttributes message).any (fun found => found.kind == attrXorRelayedAddress) &&
          (signedAttributes message).any fun found => found.kind == attrLifetime)) = true := by
    decide +kernel
  have status : (waiting.inputStun digests (ambient 2 3) grant).2 = .success := by decide +kernel
  obtain ⟨message, decoded, isGrant⟩ := of_checked checked
  simp only [Bool.and_eq_true, any_eq_true, beq_iff_eq] at isGrant
  have accepted : Accepted digests waiting (ambient 2 3) grant :=
    ⟨⟨message, decoded, isGrant.1⟩, status⟩
  refine ⟨accepted, (unchanged_behind_integrity_iff accepted).mpr fun original pending answers => ?_⟩
  obtain rfl : message = original := Except.ok.inj (decoded.symm.trans answers.decoded)
  exact ⟨fun _ => isGrant.2.1, fun _ => .inl isGrant.2.2⟩

/-- A lifetime that was put behind the integrity of a refresh is taken for that of the allocation. -/
theorem lifetime_behind_integrity_is_read :
    Accepted digests refreshing (ambient (seconds 300 + 3) 5) refreshed ∧
      Tampered digests refreshed shortened ∧
      (refreshing.inputStun digests (ambient (seconds 300 + 3) 5)
        refreshed).1.allocationExpiresAt = some (seconds 900 + 3) ∧
      (refreshing.inputStun digests (ambient (seconds 300 + 3) 5)
        shortened).1.allocationExpiresAt = some (seconds 301 + 3) := by
  have original : (decode refreshed).toOption.any (fun message =>
      message.type == .success && (message.findAttribute attrMessageIntegrity).any fun integrity =>
        integrity.headerStart == 20) = true := by decide +kernel
  have changed : (decode shortened).toOption.any (fun message =>
      message.fingerprintValid digests == some true) = true := by decide +kernel
  have outcome : (refreshing.inputStun digests (ambient (seconds 300 + 3) 5)
      refreshed).2 = .success ∧
      (refreshing.inputStun digests (ambient (seconds 300 + 3) 5)
        refreshed).1.allocationExpiresAt = some (seconds 900 + 3) ∧
      (refreshing.inputStun digests (ambient (seconds 300 + 3) 5)
        shortened).1.allocationExpiresAt = some (seconds 301 + 3) := by decide +kernel
  have alike : slice shortened 0 2 = slice refreshed 0 2 ∧
      slice shortened 4 44 = slice refreshed 4 44 := by decide +kernel
  obtain ⟨message, decoded, isRefresh⟩ := of_checked original
  obtain ⟨forged, decodedToo, printed⟩ := of_checked changed
  simp only [Bool.and_eq_true, beq_iff_eq, Option.any_eq_true] at isRefresh
  obtain ⟨success, integrity, found, place⟩ := isRefresh
  refine ⟨⟨⟨message, decoded, success⟩, outcome.1⟩, ?_, outcome.2⟩
  refine ⟨message, integrity, forged, decoded, found, alike.1, place ▸ alike.2, decodedToo, ?_⟩
  rw [beq_iff_eq.mp printed]
  decide

end Csqtt.Turn
