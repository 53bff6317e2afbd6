import Csqtt.TurnCore
import Mathlib.Algebra.Order.BigOperators.Group.List

/-!
# Requests and what is read from them

What the core asks with is written attribute by attribute behind a header whose length is filled in
twice: once for the integrity and once for the fingerprint. Neither the length nor what comes behind
changes the attributes that are there, so a request is read back as what was put into it.
-/

namespace Csqtt.Turn

open Bytes Stun Engine Routes List MessageBuilder Message Nat

/-- Bytes with a header, apart from the length in it, and attributes up to the end. -/
structure Carries (kind : UInt16) (transaction : Transaction) (attributes : List Attribute)
    (bytes : List UInt8) : Prop where
  type : UInt16.ofNat (lengthAt bytes 0) = kind
  cookie : slice bytes 4 8 = toBe 4 magicCookie.toNat
  named : slice bytes 8 20 = transaction.bytes
  passes : (attributeLayout bytes).Passes headerSize attributes bytes.length

variable {digests : Digests} {kind : UInt16} {transaction : Transaction} {attributes : List Attribute}
  {bytes packet : List UInt8} {builder : MessageBuilder}

theorem slice_append_front {start stop : Nat} (more : List UInt8) (inside : stop ≤ bytes.length) :
    slice (bytes ++ more) start stop = slice bytes start stop := by
  rcases le_total start stop with before | empty
  · rw [slice, slice, drop_append_of_le_length (by omega),
      take_append_of_le_length (by rw [length_drop]; omega)]
  · simp [slice, Nat.sub_eq_zero_of_le empty]

/-- Two packets are alike up to a position, except for the length. -/
structure AlikeUpTo (cut : Nat) (packet other : List UInt8) : Prop where
  type : slice other 0 2 = slice packet 0 2
  rest : slice other 4 cut = slice packet 4 cut

/-- The integrity covers what stands in front of it, except for the length. -/
theorem signedPart_eq {cut headerStart : Nat} {other : List UInt8} (alike : AlikeUpTo cut packet other)
    (behind : 20 ≤ headerStart) (inside : headerStart ≤ cut) :
    signedPart other headerStart = signedPart packet headerStart := by
  have parts : ∀ bytes : List UInt8, signedPart bytes headerStart =
      slice bytes 0 2 ++ toBe 2 (headerStart + 24 - 20) ++ slice bytes 4 headerStart := by
    intro bytes
    rw [signedPart, splice, take_take, toBe_length, drop_take, min_eq_left (by omega)]
    rfl
  rw [parts, parts, alike.type, slice_eq_of_slice_eq alike.rest (le_refl 4) inside]

/-- Neither a length nor what comes behind changes what is there. -/
theorem AlikeUpTo.declare {bytes : List UInt8} (long : headerSize ≤ bytes.length) (length : Nat)
    (more : List UInt8) :
    AlikeUpTo bytes.length bytes (splice bytes 2 (toBe 2 length) ++ more) := by
  have four : 4 ≤ bytes.length := le_trans (by decide) long
  constructor
  · rw [splice, append_assoc, append_assoc, slice_append_front _ (by simp; omega)]
    simp [slice]
  · rw [slice_append_front _ (by rw [splice_length _ _ _ (by rw [toBe_length]; omega)]),
      slice_splice_after _ _ _ _ _ (by omega) (by rw [toBe_length])]

theorem declared_length (long : headerSize ≤ bytes.length) {length : Nat} (room : length < 2 ^ 16)
    (more : List UInt8) : lengthAt (splice bytes 2 (toBe 2 length) ++ more) 2 = length := by
  have four : 4 ≤ bytes.length := le_trans (by decide) long
  have written := slice_splice bytes (toBe 2 length) 2 (by rw [toBe_length]; omega)
  rw [toBe_length] at written
  rw [lengthAt, slice_append_front _ (by rw [splice_length _ _ _ (by rw [toBe_length]; omega)]; omega),
    written, fromBe_toBe]
  exact mod_eq_of_lt room

namespace Carries

theorem new : Carries kind transaction [] (withTransaction kind transaction).bytes := by
  have twelve := transaction.twelve
  refine ⟨?_, ?_, ?_, ?_⟩
  · have type : slice (withTransaction kind transaction).bytes 0 2 = toBe 2 kind.toNat :=
      slice_eq_middle _ [] _ (toBe 2 0 ++ toBe 4 magicCookie.toNat ++ transaction.bytes) _ _
        (by simp [withTransaction]) rfl (by simp)
    rw [lengthAt, type, fromBe_u16, UInt16.ofNat_toNat]
  · exact slice_eq_middle _ (toBe 2 kind.toNat ++ toBe 2 0) _ transaction.bytes _ _
      (by simp [withTransaction]) (by simp) (by simp)
  · exact slice_eq_middle _ (toBe 2 kind.toNat ++ toBe 2 0 ++ toBe 4 magicCookie.toNat) _ [] _ _
      (by simp [withTransaction]) (by simp) (by simp [twelve])
  · have length : (withTransaction kind transaction).bytes.length = headerSize := by
      simp [withTransaction, twelve, headerSize]
    rw [length]
    exact .done headerSize

section

variable (carries : Carries kind transaction attributes bytes)
include carries

theorem long : headerSize ≤ bytes.length :=
  carries.passes.le

theorem aligned : bytes.length % 4 = 0 :=
  Passes.aligned carries.passes

/-- A further attribute leaves those in front of it alone. -/
theorem put {name : UInt16} {value : List UInt8}
    (plain : name ≠ 0x8020) (short : value.length < 2 ^ 16) :
    Carries kind transaction (attributes ++ [⟨name, value, bytes.length⟩])
      (bytes ++ attributeBytes bytes.length name value) := by
  have long : 20 ≤ bytes.length := carries.long
  have front : ∀ start stop, stop ≤ bytes.length →
      slice (bytes ++ attributeBytes bytes.length name value) start stop = slice bytes start stop :=
    fun _ _ => slice_append_front _
  refine ⟨?_, ?_, ?_, ?_⟩
  · rw [lengthAt, front 0 2 (by omega)]
    exact carries.type
  · rw [front 4 8 (by omega), carries.cookie]
  · rw [front 8 20 (by omega), carries.named]
  · obtain ⟨item, next⟩ := attributeLayout_written bytes [] name short
    rw [append_nil, if_neg plain] at item
    rw [append_nil] at next
    have whole : (bytes ++ attributeBytes bytes.length name value).length =
        bytes.length + 4 + padded value.length := by
      rw [length_append, attributeBytes_length carries.aligned, add_assoc]
    rw [whole, ← next, ← item]
    exact (carries.passes.congr (attributeLayout_agree (front headerSize bytes.length (le_refl _)))).append
      (.single _)

/-- The length is not one of the attributes. -/
theorem declare (length : Nat) :
    Carries kind transaction attributes (splice bytes 2 (toBe 2 length)) := by
  have long : 20 ≤ bytes.length := carries.long
  have alike := AlikeUpTo.declare carries.long length []
  rw [append_nil] at alike
  refine ⟨?_, ?_, ?_, ?_⟩
  · rw [lengthAt, alike.type]
    exact carries.type
  · rw [slice_eq_of_slice_eq alike.rest (by omega) (by omega), carries.cookie]
  · rw [slice_eq_of_slice_eq alike.rest (by omega) (by omega), carries.named]
  · rw [splice_length _ _ _ (by rw [toBe_length]; omega)]
    exact carries.passes.congr fun position behind =>
      attributeLayout_agree alike.rest position (le_trans (by decide) behind)

theorem decode (typed : kind ≠ 0)
    (leading : kind &&& 0xc000 = 0) (declared : lengthAt bytes 2 = bytes.length - headerSize) :
    ∃ message, Message.decode bytes = .ok message ∧ message.attributes = attributes ∧
      message.kind = kind ∧ message.transaction = transaction := by
  have long := carries.long
  have aligned := carries.aligned
  have valid : Message.HeaderValid bytes := by
    refine ⟨long, carries.type ▸ leading, carries.type ▸ typed, carries.cookie, ?_, ?_⟩
    · rw [declared, headerSize]
      omega
    · omega
  obtain ⟨message, decoded, same⟩ := decode_of_passes valid carries.passes
  obtain ⟨-, -, isKind, isTransaction⟩ := of_decode decoded
  exact ⟨message, decoded, same, isKind.trans carries.type,
    Transaction.ext (isTransaction.trans carries.named)⟩

end

section

variable (carries : Carries kind transaction attributes builder.bytes)
include carries

/-- The fingerprint covers everything in front of it. -/
theorem finish (unprinted : ∀ found ∈ attributes, found.kind ≠ attrFingerprint) (typed : kind ≠ 0)
    (leading : kind &&& 0xc000 = 0) (room : builder.bytes.length - headerSize + 8 < 2 ^ 16) :
    ∃ packet message fingerprint, builder.finish digests = .ok packet ∧
      AlikeUpTo builder.bytes.length builder.bytes packet ∧ Message.decode packet = .ok message ∧
      message.attributes = attributes ++ [⟨attrFingerprint, fingerprint, builder.bytes.length⟩] ∧
      message.kind = kind ∧ message.transaction = transaction ∧
      message.fingerprintValid digests = some true := by
  have long : 20 ≤ builder.bytes.length := carries.long
  have size : headerSize = 20 := rfl
  generalize isDeclared : builder.bytes.length - headerSize + 8 = declared at room
  generalize isCovered : splice builder.bytes 2 (toBe 2 declared) = covered
  have length : covered.length = builder.bytes.length := by
    rw [← isCovered, splice_length _ _ _ (by rw [toBe_length]; omega)]
  generalize isFingerprint : toBe 4 (digests.crc32 covered ^^^ fingerprintXor).toNat = fingerprint
  have four : fingerprint.length = 4 := by rw [← isFingerprint, toBe_length]
  have finished : builder.finish digests =
      .ok (covered ++ attributeBytes covered.length attrFingerprint fingerprint) := by
    rw [← isFingerprint, ← isCovered, ← isDeclared, MessageBuilder.finish, setMessageLength]
    dsimp only
    rw [if_pos (by omega)]
    rfl
  have kept : Carries kind transaction attributes covered := isCovered ▸ carries.declare declared
  have written : Carries kind transaction (_ ++ [⟨attrFingerprint, fingerprint, _⟩]) _ :=
    kept.put (by decide) (by rw [four]; decide)
  have alike := isCovered ▸ AlikeUpTo.declare carries.long declared
    (attributeBytes covered.length attrFingerprint fingerprint)
  have last : (attributeBytes covered.length attrFingerprint fingerprint).length = 8 := by
    rw [attributeBytes_length kept.aligned, four]
    rfl
  generalize attributeBytes covered.length attrFingerprint fingerprint = last_ at *
  have read : lengthAt (covered ++ last_) 2 = (covered ++ last_).length - headerSize := by
    rw [← isCovered, declared_length carries.long room, isCovered, length_append, last]
    omega
  obtain ⟨message, decoded, same, isKind, isTransaction⟩ := written.decode typed leading read
  have raw := (of_decode decoded).2.1
  have stop : message.stop = covered.length + 8 := by
    rw [← message.whole, raw, length_append, last]
  have found : message.findAttribute attrFingerprint =
      some ⟨attrFingerprint, fingerprint, covered.length⟩ := by
    rw [findAttribute, same, find?_append, find?_eq_none.mpr (by simpa using unprinted)]
    rfl
  refine ⟨_, message, fingerprint, finished, alike, decoded, length ▸ same, isKind, isTransaction, ?_⟩
  rw [fingerprintValid, found, Option.map_some, if_neg (by simp [stop, four]), raw,
    take_left, ← isFingerprint, fromBe_u32, UInt32.ofNat_toNat, beq_self_eq_true]

/-- The integrity covers what stands in front of it, under the length it has itself. -/
theorem sign (room : builder.bytes.length - headerSize + 24 < 2 ^ 16) (key : List UInt8) :
    ∃ (middle : MessageBuilder) (integrity : List UInt8),
      builder.finishAuthenticated digests key = middle.finish digests ∧
      Carries kind transaction (attributes ++ [⟨attrMessageIntegrity, integrity, builder.bytes.length⟩])
        middle.bytes ∧ middle.bytes.length = builder.bytes.length + 24 ∧ integrity.length = 20 ∧
      digests.hmacSha1 key (signedPart middle.bytes builder.bytes.length) = integrity := by
  have long : 20 ≤ builder.bytes.length := carries.long
  have size : headerSize = 20 := rfl
  generalize isCovered : signedPart builder.bytes builder.bytes.length = covered
  have spliced : splice builder.bytes 2 (toBe 2 (builder.bytes.length - 20 + 24)) = covered := by
    rw [← isCovered, signedPart, take_length, Nat.sub_add_comm long]
  have length : covered.length = builder.bytes.length := by
    rw [← spliced, splice_length _ _ _ (by rw [toBe_length]; omega)]
  have kept : Carries kind transaction attributes covered := spliced ▸ carries.declare _
  have twenty := digests.hmacSha1_length key covered
  refine ⟨{ builder with bytes := covered }.withAttribute attrMessageIntegrity (digests.hmacSha1 key covered),
    digests.hmacSha1 key covered, ?_, length ▸ kept.put (by decide) (by rw [twenty]; decide), ?_, twenty, ?_⟩
  · rw [finishAuthenticated, setMessageLength]
    dsimp only
    rw [if_pos (by omega), spliced]
    rfl
  · rw [withAttribute, length_append, attributeBytes_length kept.aligned, twenty, length]
    rfl
  · have alike := AlikeUpTo.declare carries.long (builder.bytes.length - 20 + 24)
      (attributeBytes covered.length attrMessageIntegrity (digests.hmacSha1 key covered))
    rw [spliced] at alike
    rw [withAttribute, signedPart_eq alike long (le_refl _), isCovered]

theorem finishAuthenticated (unprinted : ∀ found ∈ attributes, found.kind ≠ attrFingerprint)
    (unsigned : ∀ found ∈ attributes, found.kind ≠ attrMessageIntegrity) (typed : kind ≠ 0)
    (leading : kind &&& 0xc000 = 0) (room : builder.bytes.length - headerSize + 32 < 2 ^ 16)
    (key : List UInt8) :
    ∃ packet message integrity fingerprint, builder.finishAuthenticated digests key = .ok packet ∧
      Message.decode packet = .ok message ∧
      message.attributes = attributes ++ [⟨attrMessageIntegrity, integrity, builder.bytes.length⟩,
        ⟨attrFingerprint, fingerprint, builder.bytes.length + 24⟩] ∧
      message.kind = kind ∧ message.transaction = transaction ∧
      message.fingerprintValid digests = some true ∧
      verifyIntegrity digests packet message (some key) = true := by
  have long : 20 ≤ builder.bytes.length := carries.long
  have size : headerSize = 20 := rfl
  obtain ⟨middle, integrity, finished, written, whole, twenty, signed⟩ :=
    carries.sign (by omega : builder.bytes.length - headerSize + 24 < 2 ^ 16) key
  have unprintedToo : ∀ found ∈ attributes ++ [⟨attrMessageIntegrity, integrity, builder.bytes.length⟩],
      found.kind ≠ attrFingerprint := by
    rw [forall_mem_append, forall_mem_singleton]
    exact ⟨unprinted, show attrMessageIntegrity ≠ attrFingerprint by decide⟩
  obtain ⟨packet, message, fingerprint, done, alike, decoded, same, isKind, isTransaction, printed⟩ :=
    written.finish unprintedToo typed leading (by rw [whole]; omega)
  rw [whole, append_assoc] at same
  have found : message.findAttribute attrMessageIntegrity =
      some ⟨attrMessageIntegrity, integrity, builder.bytes.length⟩ := by
    rw [findAttribute, same, find?_append, find?_eq_none.mpr (by simpa using unsigned)]
    rfl
  refine ⟨packet, message, integrity, fingerprint, finished.trans done, decoded, same, isKind,
    isTransaction, printed, ?_⟩
  have covers := signedPart_eq alike long (by rw [whole]; omega)
  have misplaced : ¬(integrity.length ≠ 20 ∨ builder.bytes.length < 20) := by omega
  unfold verifyIntegrity
  rw [found]
  refine (if_neg misplaced).trans ((if_pos (by dsimp only; omega)).trans (beq_iff_eq.mpr ?_))
  exact (congrArg _ covers).trans signed

end

end Carries

/-! ## Requests -/

/-- An attribute as it is put in. -/
def field (found : Attribute) : UInt16 × List UInt8 := (found.kind, found.value)

/-- What an operation asks with. -/
def Core.requested (core : Core) (operation : Operation) (transaction : Transaction) :
    List (UInt16 × List UInt8) :=
  match operation with
  | .allocate => [(attrRequestedTransport, [17, 0, 0, 0]),
    (attrRequestedAddressFamily, [if isIpv4 core.peer then 1 else 2, 0, 0, 0]),
    (attrLifetime, toBe 4 requestedAllocationLifetimeSecs)]
  | .refresh => [(attrLifetime, toBe 4 requestedAllocationLifetimeSecs)]
  | .deallocate => [(attrLifetime, toBe 4 0)]
  | .permission => [(attrXorPeerAddress, encodeXorAddress core.peer transaction)]
  | .channel => [(attrChannelNumber, [0x40, 0, 0, 0]),
    (attrXorPeerAddress, encodeXorAddress core.peer transaction)]

/-- What a request is authenticated with. -/
def Core.credentials (core : Core) : List (UInt16 × List UInt8) :=
  [(attrUsername, core.username), (attrRealm, core.realm.getD []), (attrNonce, core.nonce.getD [])]

def MessageBuilder.putAll (builder : MessageBuilder) (fields : List (UInt16 × List UInt8)) : MessageBuilder :=
  fields.foldl (fun builder field => builder.withAttribute field.1 field.2) builder

/-- Attributes with their padding. -/
def size (fields : List (UInt16 × List UInt8)) : Nat :=
  (fields.map fun field => 4 + padded field.2.length).sum

theorem requestAttributes_eq (core : Core) (operation : Operation) (builder : MessageBuilder) :
    core.requestAttributes operation builder =
      builder.putAll (core.requested operation builder.transaction) := by
  cases operation <;> rfl

theorem Carries.putAll (carries : Carries kind transaction attributes builder.bytes)
    {fields : List (UInt16 × List UInt8)} (plain : ∀ field ∈ fields, field.1 ≠ 0x8020)
    (short : ∀ field ∈ fields, field.2.length < 2 ^ 16) :
    ∃ more, Carries kind transaction (attributes ++ more) (builder.putAll fields).bytes ∧
      more.map field = fields ∧
      (builder.putAll fields).bytes.length = builder.bytes.length + size fields := by
  induction fields generalizing builder attributes with
  | nil => exact ⟨[], (append_nil attributes).symm ▸ carries, rfl, rfl⟩
  | cons first fields ih =>
    obtain ⟨plainFirst, plain⟩ := forall_mem_cons.mp plain
    obtain ⟨shortFirst, short⟩ := forall_mem_cons.mp short
    have next : Carries kind transaction _ (builder.withAttribute first.1 first.2).bytes :=
      carries.put plainFirst shortFirst
    obtain ⟨more, written, same, length⟩ := ih next plain short
    rw [append_assoc] at written
    refine ⟨_ :: more, written, congrArg (first :: ·) same, length.trans ?_⟩
    rw [withAttribute, length_append, attributeBytes_length carries.aligned, size, size,
      map_cons, sum_cons]
    omega

theorem length_lt_size {fields : List (UInt16 × List UInt8)} {field : UInt16 × List UInt8}
    (member : field ∈ fields) : field.2.length < size fields := by
  have padding := le_padded field.2.length
  have part : 4 + padded field.2.length ≤ size fields :=
    single_le_sum (by simp) _ (mem_map_of_mem member)
  omega

/-- A request is read back as what was put into it, and both digests are accepted. -/
structure Core.ReadBack (digests : Digests) (core : Core) (operation : Operation) (transaction : Transaction)
    (authenticated : Bool) (packet : List UInt8) (message : Message) : Prop where
  decoded : Message.decode packet = .ok message
  kind : message.kind = operation.method
  named : message.transaction = transaction
  attributes : ∃ integrity fingerprint, message.attributes.map field =
    core.requested operation transaction ++
      (if authenticated then core.credentials ++ [(attrMessageIntegrity, integrity)] else []) ++
        [(attrFingerprint, fingerprint)]
  fingerprint : message.fingerprintValid digests = some true
  integrity : authenticated = true → verifyIntegrity digests packet message core.key = true

/-- No attribute of a request is taken for one of the digests. -/
theorem requested_kinds (core : Core) (operation : Operation) (transaction : Transaction) :
    ∀ field ∈ core.requested operation transaction ++ core.credentials,
      field.1 ∉ [0x8020, attrFingerprint, attrMessageIntegrity] := by
  cases operation <;> simp [Core.requested, Core.credentials] <;> decide

variable {core : Core} {operation : Operation} {fields : List (UInt16 × List UInt8)}

theorem method_typed : operation.method ≠ 0 ∧ operation.method &&& 0xc000 = 0 := by
  cases operation <;> decide

/-- The attributes of a request, before it is finished. -/
theorem putAll_carries
    (sub : ∀ field ∈ fields, field ∈ core.requested operation transaction ++ core.credentials)
    (room : size fields < 2 ^ 16) : ∃ attributes, Carries operation.method transaction attributes
        ((withTransaction operation.method transaction).putAll fields).bytes ∧
      attributes.map field = fields ∧
      (∀ found ∈ attributes, found.kind ≠ attrFingerprint ∧ found.kind ≠ attrMessageIntegrity) ∧
      ((withTransaction operation.method transaction).putAll fields).bytes.length =
        headerSize + size fields := by
  have kinds := fun field member => requested_kinds core operation transaction field (sub field member)
  obtain ⟨attributes, carries, same, length⟩ := Carries.new.putAll
    (fun field member plain => kinds field member (by simp [plain]))
    fun field member => lt_trans (length_lt_size member) room
  refine ⟨attributes, carries, same, ?_, ?_⟩
  · intro found member
    have here : field found ∈ fields := same ▸ mem_map_of_mem member
    constructor
    · exact fun printed => kinds _ here (by simp [field, printed])
    · exact fun signs => kinds _ here (by simp [field, signs])
  · rw [length]
    simp [withTransaction, transaction.twelve, headerSize]

/-- A request without credentials. -/
theorem Core.readBack (core : Core) (operation : Operation) (transaction : Transaction)
    (room : size (core.requested operation transaction) + 8 < 2 ^ 16) :
    ∃ packet message, core.buildRequest digests operation transaction false = .ok packet ∧
      core.ReadBack digests operation transaction false packet message := by
  obtain ⟨attributes, carries, same, kinds, length⟩ := putAll_carries
    (fun _ => mem_append_left core.credentials) (by omega : size (core.requested operation transaction) < _)
  obtain ⟨packet, message, fingerprint, finished, -, decoded, read, kind, named, printed⟩ :=
    carries.finish (fun found member => (kinds found member).1) method_typed.1 method_typed.2
      (by rw [length]; omega)
  refine ⟨packet, message, ?_, decoded, kind, named, ⟨[], fingerprint, ?_⟩, printed, nofun⟩
  · rw [buildRequest, requestAttributes_eq]
    exact finished
  · rw [read, map_append, same]
    simp [field]

theorem size_append (fields others : List (UInt16 × List UInt8)) :
    size (fields ++ others) = size fields + size others := by
  simp [size]

theorem padded_le (length : Nat) : padded length ≤ length + 3 := by
  unfold padded
  omega

theorem size_requested (core : Core) (operation : Operation) (transaction : Transaction) :
    size (core.requested operation transaction) ≤ 35 := by
  have address := padded_le (encodeXorAddress core.peer transaction).length
  have short := octets_length_le core.peer.ip
  rw [encodeXorAddress_length] at address
  cases operation <;> simp [Core.requested, size, encodeXorAddress_length] <;>
    simp [padded] at address ⊢ <;> omega

/-- A request with credentials. -/
theorem Core.readBack_authenticated (core : Core) (operation : Operation) (transaction : Transaction)
    {key : List UInt8} (known : core.key = some key)
    (room : size (core.requested operation transaction ++ core.credentials) + 32 < 2 ^ 16) :
    ∃ packet message, core.buildRequest digests operation transaction true = .ok packet ∧
      core.ReadBack digests operation transaction true packet message := by
  obtain ⟨attributes, carries, same, kinds, length⟩ := putAll_carries (fun _ => id)
    (by omega : size (core.requested operation transaction ++ core.credentials) < _)
  obtain ⟨packet, message, integrity, fingerprint, finished, decoded, read, kind, named, printed, verified⟩ :=
    carries.finishAuthenticated (fun found member => (kinds found member).1)
      (fun found member => (kinds found member).2) method_typed.1 method_typed.2 (by rw [length]; omega) key
  refine ⟨packet, message, ?_, decoded, kind, named, ⟨integrity, fingerprint, ?_⟩, printed,
    fun _ => known ▸ verified⟩
  · rw [buildRequest, known, requestAttributes_eq]
    rw [putAll, foldl_append] at finished
    exact finished
  · rw [read, map_append, same]
    simp [field]

/-- What is read of bytes that are a message: all of its attributes, one behind the other. -/
structure Tiled (raw : List UInt8) (message : Message) : Prop where
  passes : (attributeLayout raw).Passes headerSize message.attributes raw.length
  ends : ∀ rounds, raw.length ≤ rounds →
    (attributeLayout raw).collect raw.length rounds headerSize = message.attributes
  inside : ∀ found ∈ message.attributes,
    headerSize ≤ found.headerStart ∧ found.headerStart + 4 + padded found.value.length ≤ raw.length

theorem tiled {raw : List UInt8} {message : Message} (decoded : Message.decode raw = .ok message) :
    Tiled raw message := by
  obtain ⟨-, rfl, -⟩ := of_decode decoded
  have whole := message.whole
  refine ⟨whole ▸ message.passes, ?_, ?_⟩
  · intro rounds enough
    rw [whole, Message.attributes]
    exact Layout.collect_enough _ (by omega) (le_refl _)
  · intro found member
    rw [whole]
    exact attribute_ends message.passes (ge_of_eq whole) member

/-- Bytes are decoded exactly when their header is valid and their attributes fill them, and all of
the attributes are then read. A request that fits into the length of its header, with credentials or
without, is built and read back as what was put into it; so is an address. -/
theorem messages_are_read_back (digests : Digests) :
    (∀ raw, (∃ message, Message.decode raw = .ok message) ↔ Message.HeaderValid raw ∧
      ∃ attributes, (attributeLayout raw).Passes headerSize attributes raw.length) ∧
    (∀ raw message, Message.decode raw = .ok message → Tiled raw message) ∧
    (∀ (core : Core) operation transaction,
      size (core.requested operation transaction) + 8 < 2 ^ 16 →
        ∃ packet message, core.buildRequest digests operation transaction false = .ok packet ∧
          core.ReadBack digests operation transaction false packet message) ∧
    (∀ (core : Core) operation transaction key, core.key = some key →
      size (core.requested operation transaction ++ core.credentials) + 32 < 2 ^ 16 →
        ∃ packet message, core.buildRequest digests operation transaction true = .ok packet ∧
          core.ReadBack digests operation transaction true packet message) ∧ ∀ address transaction,
      decodeXorAddress (encodeXorAddress address transaction) transaction = .ok address :=
  ⟨decode_isOk_iff, fun _ _ => tiled, Core.readBack, fun core operation transaction _ =>
    core.readBack_authenticated operation transaction, decodeXorAddress_encode⟩

/-- A core that was told a realm and a nonce. -/
def challengedCore : Core :=
  let address : SocketAddr := ⟨.v4 ⟨127, 0, 0, 1⟩, 3478⟩
  { Core.fresh address [0x75] [0x70] address .pjnathCompat .datagram with
    realm := some [0x72], nonce := some [0x6e], key := some [0x6b] }

/-- Its channel fits into a request of either kind, whatever the digests are. -/
theorem challengedCore_binds_channel :
    let transaction : Transaction := ⟨replicate 12 0, rfl⟩
    size (challengedCore.requested .channel transaction) + 8 < 2 ^ 16 ∧
    size (challengedCore.requested .channel transaction ++ challengedCore.credentials) + 32 < 2 ^ 16 ∧
    ∀ digests authenticated, ∃ packet message,
      challengedCore.buildRequest digests .channel transaction authenticated = .ok packet ∧
        challengedCore.ReadBack digests .channel transaction authenticated packet message := by
  intro transaction
  have plain : size (challengedCore.requested .channel transaction) + 8 < 2 ^ 16 := by decide
  have signed : size (challengedCore.requested .channel transaction ++
      challengedCore.credentials) + 32 < 2 ^ 16 := by decide
  refine ⟨plain, signed, ?_⟩
  intro digests authenticated
  obtain ⟨-, -, without, authentic, -⟩ := messages_are_read_back digests
  cases authenticated with
  | false => exact without challengedCore .channel transaction plain
  | true => exact authentic challengedCore .channel transaction _ rfl signed

end Csqtt.Turn
