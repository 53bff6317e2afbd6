import Csqtt.Getconf
import Csqtt.TextFields

/-!
# The request that a client sends

A client puts the fields of a `GETCONF` one after the other, with vertical bars between them,
and does not look into them. The server finds the fields again if none of them has a bar in it
and none begins or ends with white space. Numbers are such fields. A password is one only if
whoever has set it took care of that; the panel looks at its length alone.
-/

namespace Csqtt.Control

open ControlText List Option

/-- Whether the panel takes a text for the main password: it is empty, or has from 4 to 128
bytes. -/
def acceptsMainPassword (password : Text) : Bool :=
  !(!password.isEmpty && (decide (password.length < 4) || decide (password.length > 128)))

/-- The request of a client. -/
def configRequest (localPort deviceId password : Text) (generationId : UInt64) (salt : Text)
    (workerId : Nat) (desiredCount : Option Nat) : Text :=
  getconfPrefix ++ (localPort ++ 0x7c :: (deviceId ++ 0x7c :: (password ++ 0x7c ::
    (decimalText generationId.toNat ++ 0x7c :: (salt ++ 0x7c :: (decimalText workerId ++ 0x7c ::
      (desiredCount.elim [] decimalText ++ 0x7c :: wireProtocolRevision)))))))

/-- A text that can be a field. -/
structure Plain (text : Text) : Prop where
  bar : 0x7c ∉ text
  trimmed : trim text = text
  utf8 : fromUtf8 text = true

/-! ## Numbers -/

theorem decimalText_plain (number : Nat) : Plain (decimalText number) where
  bar := by
    intro member
    exact absurd (decimalText_digit member).2 (by decide)
  trimmed := by
    refine trim_graphic fun byte member => ?_
    obtain ⟨low, high⟩ := decimalText_digit member
    exact decide_eq_true ⟨UInt8.le_trans (by decide : (0x21 : UInt8) ≤ 0x30) low,
      UInt8.lt_of_le_of_lt high (by decide : (0x39 : UInt8) < 0x80)⟩
  utf8 := fromUtf8_ascii fun byte member =>
    UInt8.lt_of_le_of_lt (decimalText_digit member).2 (by decide : (0x39 : UInt8) < 0x80)

theorem decimalText_isEmpty (number : Nat) : (decimalText number).isEmpty = false := by
  rw [isEmpty_eq_false_iff, decimalText, ne_eq, map_eq_nil_iff]
  exact Nat.toDigits_ne_nil

theorem parseGenerationId_decimalText (generationId : UInt64) :
    parseGenerationId (decimalText generationId.toNat) = some generationId := by
  have digits : (decimalText generationId.toNat).all fun byte =>
      decide (0x30 ≤ byte ∧ byte ≤ 0x39) :=
    all_eq_true.mpr fun byte member => decide_eq_true (decimalText_digit member)
  rw [parseGenerationId, digits, decimalText_isEmpty, decimal_decimalText, Bool.not_true, Bool.or_false,
    if_neg Bool.false_ne_true, if_pos generationId.toNat_lt, UInt64.ofNat_toNat]

/-! ## The fields of a request -/

theorem desiredCount_plain (desiredCount : Option Nat) : Plain (desiredCount.elim [] decimalText) := by
  cases desiredCount with
  | none => exact ⟨not_mem_nil, rfl, rfl⟩
  | some count => exact decimalText_plain count

/-- The text of a request after the password. -/
def requestTail (generationId : UInt64) (salt : Text) (workerId : Nat) (desiredCount : Option Nat) :
    Text :=
  decimalText generationId.toNat ++ 0x7c :: (salt ++ 0x7c :: (decimalText workerId ++ 0x7c ::
    (desiredCount.elim [] decimalText ++ 0x7c :: wireProtocolRevision)))

theorem requestTail_last (generationId : UInt64) (salt : Text) (workerId : Nat)
    (desiredCount : Option Nat) :
    ∃ first, requestTail generationId salt workerId desiredCount = first ++ [0x33] := by
  refine ⟨decimalText generationId.toNat ++ 0x7c :: (salt ++ 0x7c :: (decimalText workerId ++ 0x7c ::
    (desiredCount.elim [] decimalText ++ 0x7c :: wireProtocolRevision.dropLast))), ?_⟩
  simp only [requestTail, append_assoc, cons_append]
  rfl

section

variable {localPort deviceId : Text} (port : 0x7c ∉ localPort) (device : 0x7c ∉ deviceId)
  (password : Text) (generationId : UInt64) (salt : Text) (workerId : Nat)
  (desiredCount : Option Nat)

include port device

/-- The server finds the first two fields, and then what the client put after them. -/
theorem split_configRequest :
    ∃ trimmed : Text, (trim localPort = localPort → trimmed = localPort) ∧ ∀ limit,
      splitn 0x7c (limit + 3) (trim ((configRequest localPort deviceId password generationId salt
        workerId desiredCount).drop getconfPrefix.length)) =
      trimmed :: deviceId :: splitn 0x7c (limit + 1)
        (password ++ 0x7c :: requestTail generationId salt workerId desiredCount) := by
  obtain ⟨first, last⟩ := requestTail_last generationId salt workerId desiredCount
  obtain ⟨trimmed, none, whole, same⟩ := trim_bar port (deviceId ++ 0x7c :: (password ++ 0x7c :: first))
    (show graphic 0x33 = true from rfl)
  have fields : (configRequest localPort deviceId password generationId salt workerId
      desiredCount).drop getconfPrefix.length =
      localPort ++ 0x7c :: (deviceId ++ 0x7c :: (password ++ 0x7c :: first) ++ [0x33]) := by
    rw [append_assoc, cons_append, append_assoc, cons_append, ← last]
    exact drop_left
  refine ⟨trimmed, whole, fun limit => ?_⟩
  rw [fields, same, splitn_append _ none, append_assoc, cons_append, append_assoc,
    cons_append, ← last, splitn_append _ device]

theorem getconfParts_configRequest :
    ∃ trimmed : Text, (trim localPort = localPort → trimmed = localPort) ∧
      getconfParts (configRequest localPort deviceId password generationId salt workerId
          desiredCount) = trimmed :: deviceId :: splitn 0x7c 6
          (password ++ 0x7c :: requestTail generationId salt workerId desiredCount) := by
  obtain ⟨trimmed, whole, split⟩ := split_configRequest port device password generationId salt workerId
    desiredCount
  have opens : getconfPrefix.isPrefixOf (configRequest localPort deviceId password generationId salt
      workerId desiredCount) = true :=
    isPrefixOf_iff_prefix.mpr (prefix_append _ _)
  refine ⟨trimmed, whole, ?_⟩
  rw [getconfParts, if_pos opens]
  exact split 5

theorem field_configRequest_password :
    field (getconfParts (configRequest localPort deviceId password generationId salt workerId
      desiredCount)) 2 [] = trim (password.takeWhile (· != 0x7c)) := by
  obtain ⟨trimmed, -, parts⟩ := getconfParts_configRequest port device password generationId salt
    workerId desiredCount
  rw [parts, splitn, if_pos (mem_append_right password mem_cons_self), takeWhile_append_bar]
  rfl

theorem field_configRequest_password_iff :
    field (getconfParts (configRequest localPort deviceId password generationId salt workerId
      desiredCount)) 2 [] = password ↔ 0x7c ∉ password ∧ trim password = password := by
  rw [field_configRequest_password port device]
  constructor
  · intro same
    have none : 0x7c ∉ password := by
      intro member
      rw [← same] at member
      exact absurd (mem_takeWhile_imp (mem_of_mem_trim member)) (by decide)
    rw [takeWhile_bar none] at same
    exact ⟨none, same⟩
  · rintro ⟨none, same⟩
    rw [takeWhile_bar none, same]

end

/-- If all fields are plain, the first parser finds the device, the generation and the salt. -/
theorem parseGetconfEpoch_configRequest {localPort deviceId password salt : Text}
    (port : 0x7c ∉ localPort) (portUtf8 : fromUtf8 localPort = true) (device : Plain deviceId)
    (sound : Plain password) (salted : Plain salt) (named : deviceId ≠ [])
    (short : deviceId.length ≤ 128) (shortSalt : salt.length ≤ 128) (generationId : UInt64)
    (workerId : Nat) (desiredCount : Option Nat) :
    parseGetconfEpoch (configRequest localPort deviceId password generationId salt workerId
      desiredCount) = some ⟨deviceId, generationId, salt⟩ := by
  obtain ⟨trimmed, -, split⟩ := split_configRequest port device.bar password generationId salt workerId
    desiredCount
  have opens : getconfPrefix.isPrefixOf (configRequest localPort deviceId password generationId salt
      workerId desiredCount) = true :=
    isPrefixOf_iff_prefix.mpr (prefix_append _ _)
  have utf8 : fromUtf8 (configRequest localPort deviceId password generationId salt workerId
      desiredCount) = true := by
    rw [configRequest, fromUtf8_append rfl, fromUtf8_field portUtf8, fromUtf8_field device.utf8,
      fromUtf8_field sound.utf8, fromUtf8_field (decimalText_plain _).utf8,
      fromUtf8_field salted.utf8, fromUtf8_field (decimalText_plain _).utf8,
      fromUtf8_field (desiredCount_plain _).utf8]
    rfl
  have parts : splitn 0x7c 6 (trim ((configRequest localPort deviceId password generationId salt
      workerId desiredCount).drop getconfPrefix.length)) =
      [trimmed, deviceId, password, decimalText generationId.toNat, salt,
        decimalText workerId ++ 0x7c :: (desiredCount.elim [] decimalText ++ 0x7c ::
          wireProtocolRevision)] := by
    rw [split 3, splitn_append _ sound.bar, requestTail,
      splitn_append _ (decimalText_plain _).bar, splitn_append _ salted.bar]
    rfl
  have fits : ¬ (deviceId.isEmpty ∨ deviceId.length > 128 ∨ salt.length > 128) := by
    rw [List.isEmpty_iff]
    rintro (isNil | long | long)
    · exact named isNil
    · exact absurd short (Nat.not_le_of_lt long)
    · exact absurd shortSalt (Nat.not_le_of_lt long)
  rw [parseGetconfEpoch, utf8, opens, parts]
  simp only [Bool.not_true, Bool.or_self, Bool.false_eq_true, if_false, getElem?_cons_zero,
    getElem?_cons_succ, bind_eq_bind, bind_some, getD_some, device.trimmed,
    salted.trimmed, (decimalText_plain _).trimmed, parseGenerationId_decimalText, if_neg fits]

theorem readGetconf_ne_wrongPassword {password text : Text}
    (found : field (getconfParts text) 2 [] = password) :
    readGetconf password text ≠ .error .wrongPassword := by
  rw [readGetconf, found]
  split
  · intro same
    cases same
  split
  · intro same
    cases same
  split
  · rename_i differs
    exact absurd rfl differs
  split
  · intro same
    cases same
  split
  · intro same
    cases same
  split
  · intro same
    cases same
  split
  · intro same
    cases same
  split
  · intro same
    cases same
  · intro same
    cases same

/-- A password is found again by both parsers, and the request is not refused because of it,
exactly if the password has no bar and no white space around it. -/
theorem password_usable_iff (password : Text) (valid : fromUtf8 password = true)
    (localPort deviceId salt : Text) (port : 0x7c ∉ localPort) (portUtf8 : fromUtf8 localPort = true)
    (device : Plain deviceId) (salted : Plain salt) (named : deviceId ≠ [])
    (short : deviceId.length ≤ 128) (shortSalt : salt.length ≤ 128) (generationId : UInt64)
    (workerId : Nat) (desiredCount : Option Nat) :
    let text := configRequest localPort deviceId password generationId salt workerId desiredCount
    (parseGetconfEpoch text = some ⟨deviceId, generationId, salt⟩ ∧
        field (getconfParts text) 2 [] = password ∧
        readGetconf password text ≠ .error .wrongPassword) ↔
      0x7c ∉ password ∧ trim password = password := by
  intro text
  have found := field_configRequest_password_iff port device.bar password generationId salt workerId
    desiredCount
  constructor
  · exact fun usable => found.mp usable.2.1
  · intro sound
    have same := found.mpr sound
    exact ⟨parseGetconfEpoch_configRequest port portUtf8 device ⟨sound.1, sound.2, valid⟩ salted
      named short shortSalt generationId workerId desiredCount, same, readGetconf_ne_wrongPassword same⟩

/-- The password `pass` of the device `d`. -/
theorem pass_is_usable : acceptsMainPassword [0x70, 0x61, 0x73, 0x73] = true ∧
      let text := configRequest [0x39] [0x64] [0x70, 0x61, 0x73, 0x73] 7 [] 4 none
      parseGetconfEpoch text = some ⟨[0x64], 7, []⟩ ∧
        field (getconfParts text) 2 [] = [0x70, 0x61, 0x73, 0x73] ∧
        readGetconf [0x70, 0x61, 0x73, 0x73] text ≠ .error .wrongPassword :=
  ⟨rfl, (password_usable_iff [0x70, 0x61, 0x73, 0x73] (by decide +kernel) [0x39] [0x64] []
    (by decide) (by decide +kernel) ⟨by decide, by decide +kernel, by decide +kernel⟩
    ⟨by decide, by decide +kernel, by decide +kernel⟩ (by decide) (by decide) (by decide) 7 4 none).mpr
    ⟨by decide, by decide +kernel⟩⟩

/-- The panel takes `pass|word` for the main password, and the server reads `pass` from a
request with it; ` pass` is refused as a wrong password. -/
theorem unusable_passwords_are_accepted :
    acceptsMainPassword [0x70, 0x61, 0x73, 0x73, 0x7c, 0x77, 0x6f, 0x72, 0x64] = true ∧
      field (getconfParts (configRequest [0x39] [0x64]
        [0x70, 0x61, 0x73, 0x73, 0x7c, 0x77, 0x6f, 0x72, 0x64] 7 [] 4 none)) 2 [] =
        [0x70, 0x61, 0x73, 0x73] ∧ parseGetconfEpoch (configRequest [0x39] [0x64]
        [0x70, 0x61, 0x73, 0x73, 0x7c, 0x77, 0x6f, 0x72, 0x64] 7 [] 4 none) = none ∧
      acceptsMainPassword [0x20, 0x70, 0x61, 0x73, 0x73] = true ∧
      readGetconf [0x20, 0x70, 0x61, 0x73, 0x73] (configRequest [0x39] [0x64]
        [0x20, 0x70, 0x61, 0x73, 0x73] 7 [] 4 none) = .error .wrongPassword := by
  refine ⟨rfl, ?_, ?_, rfl, ?_⟩
  · decide +kernel
  · decide +kernel
  · rw [readGetconf]
    decide +kernel

end Csqtt.Control
