import Csqtt.ConfigRequest

/-!
# The two readers of a request

A request is read twice. The engine reads the device, the generation and the salt, to order the
sessions of a device; it splits the text into six fields. The control task splits the same text
into eight fields and reads all of them. The fields that both of them read come before the last
one in either split, so the two never see different devices, generations or salts.

What a client has put into its request is read from it again, if its fields are plain. The
number of the worker and the number of workers are read as numbers, and the control task
refuses those that are out of range.
-/

namespace Csqtt.Control

open ControlText List Option

/-- The device, the generation and the salt that the control task reads, before it looks at the
session. -/
def readEpoch (text : Text) : Option Epoch :=
  let parts := getconfParts text
  (parseGenerationId (field parts 3 [])).map fun generationId =>
    ⟨field parts 1 [0x75, 0x6e, 0x6b, 0x6e, 0x6f, 0x77, 0x6e], generationId, field parts 4 []⟩

theorem readGetconf_epoch {sessionPassword text : Text} {request : Getconf}
    (read : readGetconf sessionPassword text = .ok request) : readEpoch text = some request.epoch := by
  unfold readGetconf at read
  dsimp only at read
  split at read
  · cases read
  rename_i generationId generation
  rw [readEpoch, generation, map_some]
  split at read
  · cases read
  split at read
  · cases read
  split at read
  · cases read
  split at read
  · cases read
  split at read
  · cases read
  split at read
  · cases read
  split at read
  · cases read
  cases read
  rfl

/-! ## The same fields -/

/-- A payload that the engine takes has four fields, and a fifth one may follow. -/
theorem parseGetconfEpoch_fields {payload : Text} {epoch : Epoch}
    (parsed : parseGetconfEpoch payload = some epoch) :
    let parts := splitn 0x7c 6 (trim (payload.drop getconfPrefix.length))
    getconfPrefix.isPrefixOf payload = true ∧
      ∃ deviceId generation, parts[1]? = some deviceId ∧ parts[3]? = some generation ∧
        epoch.deviceId = trim deviceId ∧
        parseGenerationId (trim generation) = some epoch.generationId ∧
        epoch.sessionSalt = trim (parts[4]?.getD []) := by
  unfold parseGetconfEpoch at parsed
  split at parsed
  · cases parsed
  rename_i opens
  simp only [bind_eq_bind, bind_eq_some_iff] at parsed
  obtain ⟨_, -, deviceId, device, _, -, generation, third, generationId, value, checked⟩ := parsed
  split at checked
  · cases checked
  · cases checked
    simp only [Bool.or_eq_true, Bool.not_eq_true', not_or, Bool.not_eq_false] at opens
    exact ⟨opens.2, deviceId, generation, device, third, rfl, value, rfl⟩

theorem readEpoch_of_parseGetconfEpoch {payload : Text} {epoch : Epoch}
    (parsed : parseGetconfEpoch payload = some epoch) : readEpoch payload = some epoch := by
  obtain ⟨opens, deviceId, generation, device, third, same, value, salt⟩ :=
    parseGetconfEpoch_fields parsed
  have part : ∀ index < 5, (getconfParts payload)[index]? =
      (splitn 0x7c 6 (trim (payload.drop getconfPrefix.length)))[index]? := by
    intro index below
    rw [getconfParts, if_pos opens]
    exact splitn_getElem? 0x7c _ (Nat.lt_trans below (by decide : 5 < 7)) below
  rw [readEpoch]
  simp [field, part 1 (by decide), part 3 (by decide), part 4 (by decide), device, third, value, ←
    same, ← salt]

/-! ## Numbers of workers -/

variable {number : Nat}

theorem parseU16_decimalText (fits : number < 2 ^ 16) :
    parseU16 (decimalText number) = some (UInt16.ofNat number) := by
  have digits : (decimalText number).all fun byte => decide (0x30 ≤ byte ∧ byte ≤ 0x39) :=
    all_eq_true.mpr fun byte member => decide_eq_true (decimalText_digit member)
  have unsigned : (decimalText number).head? ≠ some 0x2b := by
    intro plus
    exact absurd (decimalText_digit (mem_of_mem_head? plus)).1 (by decide)
  rw [parseU16, if_neg unsigned, digits, decimalText_isEmpty, decimal_decimalText, Bool.not_true,
    Bool.or_false, if_neg Bool.false_ne_true, if_pos fits]

theorem toNat_ofNat_of_le (below : number ≤ 126) : (UInt16.ofNat number).toNat = number :=
  UInt16.toNat_ofNat_of_lt' (Nat.lt_of_le_of_lt below (by decide))

theorem parseWorker_decimalText (positive : 1 ≤ number) (below : number ≤ 126) :
    parseWorker (decimalText number) = some (UInt16.ofNat number) := by
  have value := toNat_ofNat_of_le below
  rw [parseWorker, parseU16_decimalText (by omega), filter_some, if_pos]
  refine decide_eq_true ⟨?_, ?_⟩
  · rw [UInt16.le_iff_toNat_le, value]
    exact positive
  · rw [UInt16.le_iff_toNat_le, value]
    exact below

theorem readDesiredCount_decimalText {workerId : Nat} (positive : 1 ≤ workerId)
    {desiredCount : Option Nat} (fits : ∀ count ∈ desiredCount, workerId ≤ count ∧ count ≤ 126) :
    readDesiredCount (desiredCount.elim [] decimalText) (UInt16.ofNat workerId) =
      some (UInt16.ofNat (desiredCount.getD 0)) := by
  cases desiredCount with
  | none => rfl
  | some count =>
    obtain ⟨low, high⟩ := fits count rfl
    have ordered : ¬ UInt16.ofNat workerId > UInt16.ofNat count := by
      rw [gt_iff_lt, UInt16.lt_iff_toNat_lt, toNat_ofNat_of_le (Nat.le_trans low high),
        toNat_ofNat_of_le high]
      exact Nat.not_lt.mpr low
    rw [elim_some, readDesiredCount, decimalText_isEmpty, if_neg Bool.false_ne_true,
      parseWorker_decimalText (Nat.le_trans positive low) high, filter_some,
      decide_eq_false ordered]
    rfl

/-! ## What a client has put into its request -/

theorem trim_wireProtocolRevision : trim wireProtocolRevision = wireProtocolRevision := by
  decide +kernel

theorem getconfParts_plain {localPort deviceId password salt : Text} (port : Plain localPort)
    (device : Plain deviceId) (sound : Plain password) (salted : Plain salt)
    (generationId : UInt64) (workerId : Nat) (desiredCount : Option Nat) :
    getconfParts (configRequest localPort deviceId password generationId salt workerId desiredCount) =
      [localPort, deviceId, password, decimalText generationId.toNat, salt, decimalText workerId,
        desiredCount.elim [] decimalText, wireProtocolRevision] := by
  obtain ⟨trimmed, whole, parts⟩ := getconfParts_configRequest port.bar device.bar password
    generationId salt workerId desiredCount
  rw [parts, whole port.trimmed, splitn_append _ sound.bar, requestTail,
    splitn_append _ (decimalText_plain _).bar, splitn_append _ salted.bar,
    splitn_append _ (decimalText_plain _).bar, splitn_append _ (desiredCount_plain _).bar]
  rfl

/-- The control task takes a request whose port, worker and number of workers are numbers in
range. -/
theorem readGetconf_of_parts {password text localPort deviceId salt : Text} {generationId : UInt64}
    {worker count : Text} {workerId desiredCount : UInt16}
    (parts : getconfParts text = [localPort, deviceId, password, decimalText generationId.toNat, salt,
      worker, count, wireProtocolRevision])
    (port : Plain localPort) (device : Plain deviceId) (sound : Plain password) (salted : Plain salt)
    (named : deviceId ≠ []) (short : deviceId.length ≤ 128) (shortSalt : salt.length ≤ 128)
    (numeric : (parseU16 localPort).isSome) (isWorker : parseWorker (trim worker) = some workerId)
    (isCount : readDesiredCount (trim count) workerId = some desiredCount) :
    readGetconf password text =
      .ok ⟨localPort, ⟨deviceId, generationId, salt⟩, password, workerId, desiredCount, true⟩ := by
  have sized : ¬ (deviceId.isEmpty = true ∨ deviceId.length > 128) := by
    rw [List.isEmpty_iff]
    rintro (isNil | long)
    · exact named isNil
    · exact absurd short (Nat.not_le_of_lt long)
  have present : ¬ (parseU16 localPort).isNone = true := by
    rw [isNone_iff_eq_none]
    exact isSome_iff_ne_none.mp numeric
  have supported : ¬ (!isSupportedWireProtocol wireProtocolRevision) = true := by
    decide
  rw [readGetconf, parts]
  simp only [field, getElem?_cons_zero, getElem?_cons_succ, getD_some, port.trimmed,
    device.trimmed, sound.trimmed, salted.trimmed, (decimalText_plain _).trimmed,
    parseGenerationId_decimalText, trim_wireProtocolRevision, isWorker, isCount, if_neg supported,
    if_neg sized, if_neg present, if_neg (Nat.not_lt.mpr shortSalt), ne_eq, not_true_eq_false, if_false]
  rfl

/-- Both readers of a request agree, and both find what the client has put into it. -/
theorem readers_recover_request : (∀ payload epoch, parseGetconfEpoch payload = some epoch →
      readEpoch payload = some epoch ∧
        ∀ sessionPassword request, readGetconf sessionPassword payload = .ok request →
          request.epoch = epoch) ∧
    ∀ localPort deviceId password salt, Plain localPort → Plain deviceId → Plain password →
      Plain salt → deviceId ≠ [] → deviceId.length ≤ 128 → salt.length ≤ 128 →
      ∀ (generationId : UInt64) (workerId : Nat) (desiredCount : Option Nat),
      1 ≤ workerId → workerId ≤ 126 → (∀ count ∈ desiredCount, workerId ≤ count ∧ count ≤ 126) →
        let text := configRequest localPort deviceId password generationId salt workerId desiredCount
        parseGetconfEpoch text = some ⟨deviceId, generationId, salt⟩ ∧
          readEpoch text = some ⟨deviceId, generationId, salt⟩ ∧
          field (getconfParts text) 2 [] = password ∧
          parseWorker (field (getconfParts text) 5 []) = some (UInt16.ofNat workerId) ∧
          readDesiredCount (field (getconfParts text) 6 []) (UInt16.ofNat workerId) =
            some (UInt16.ofNat (desiredCount.getD 0)) ∧
          ((parseU16 localPort).isSome → readGetconf password text =
            .ok ⟨localPort, ⟨deviceId, generationId, salt⟩, password, UInt16.ofNat workerId,
              UInt16.ofNat (desiredCount.getD 0), true⟩) := by
  constructor
  · intro payload epoch parsed
    have same := readEpoch_of_parseGetconfEpoch parsed
    refine ⟨same, fun sessionPassword request read => ?_⟩
    exact Option.some.inj ((readGetconf_epoch read).symm.trans same)
  · intro localPort deviceId password salt port device sound salted named short shortSalt generationId
      workerId desiredCount positive below fits text
    have parsed : parseGetconfEpoch text = some ⟨deviceId, generationId, salt⟩ :=
      parseGetconfEpoch_configRequest port.bar port.utf8 device sound salted named short shortSalt
        generationId workerId desiredCount
    have parts := getconfParts_plain port device sound salted generationId workerId desiredCount
    have worker : parseWorker (trim (decimalText workerId)) = some (UInt16.ofNat workerId) := by
      rw [(decimalText_plain workerId).trimmed]
      exact parseWorker_decimalText positive below
    have workers : readDesiredCount (trim (desiredCount.elim [] decimalText)) (UInt16.ofNat workerId) =
        some (UInt16.ofNat (desiredCount.getD 0)) := by
      rw [(desiredCount_plain desiredCount).trimmed]
      exact readDesiredCount_decimalText positive fits
    refine ⟨parsed, readEpoch_of_parseGetconfEpoch parsed, ?_, ?_, ?_, fun numeric => ?_⟩
    · rw [parts]
      exact sound.trimmed
    · rw [parts]
      exact worker
    · rw [parts]
      exact workers
    · exact readGetconf_of_parts parts port device sound salted named short shortSalt numeric worker
        workers

/-- The request of the first of three workers. -/
theorem first_worker_is_recovered :
    parseGetconfEpoch (configRequest [0x39] [0x64] [0x70] 7 [0x73] 1 (some 3)) =
        some ⟨[0x64], 7, [0x73]⟩ ∧
      readGetconf [0x70] (configRequest [0x39] [0x64] [0x70] 7 [0x73] 1 (some 3)) =
        .ok ⟨[0x39], ⟨[0x64], 7, [0x73]⟩, [0x70], 1, 3, true⟩ := by
  have plain : ∀ byte ∈ ([0x39, 0x64, 0x70, 0x73] : Text), Plain [byte] := by
    intro byte member
    have small : ∀ byte ∈ ([0x39, 0x64, 0x70, 0x73] : Text),
        0x7c ∉ [byte] ∧ trim [byte] = [byte] ∧ fromUtf8 [byte] = true := by
      decide +kernel
    exact ⟨(small byte member).1, (small byte member).2.1, (small byte member).2.2⟩
  obtain ⟨parsed, -, -, -, -, read⟩ := readers_recover_request.2 [0x39] [0x64] [0x70] [0x73]
    (plain _ (by decide)) (plain _ (by decide)) (plain _ (by decide)) (plain _ (by decide)) (by decide)
    (by decide) (by decide) 7 1 (some 3) (by decide) (by decide) (by
      intro count same
      cases same
      decide)
  exact ⟨parsed, read rfl⟩

/-- Neither a worker with the number zero nor one beyond the number of workers is read. -/
theorem odd_workers_are_refused :
    parseGetconfEpoch (configRequest [0x39] [0x64] [0x70] 7 [0x73] 0 none) =
        some ⟨[0x64], 7, [0x73]⟩ ∧
      readGetconf [0x70] (configRequest [0x39] [0x64] [0x70] 7 [0x73] 0 none) =
        .error .invalidWorker ∧
      readGetconf [0x70] (configRequest [0x39] [0x64] [0x70] 7 [0x73] 127 none) =
        .error .invalidWorker ∧
      readGetconf [0x70] (configRequest [0x39] [0x64] [0x70] 7 [0x73] 2 (some 1)) =
        .error .invalidWorkerCount := by
  decide +kernel

end Csqtt.Control
