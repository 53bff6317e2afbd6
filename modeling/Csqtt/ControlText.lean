import Csqtt.Bytes

/-!
# Control payloads

A client opens a session with a text payload, `GETCONF:` followed by fields between
vertical bars. The server reads the device, the generation and the salt from it and
places the session by a hash of the device.

Texts are byte strings. The source checks that a payload is UTF-8 before it treats it
as text, so trimming is stated on the encodings of the white-space characters: in a
valid text a character's first byte occurs nowhere else, and a match of an encoding
is a match of the character.
-/

namespace Csqtt.ControlText

/-- A text as its UTF-8 bytes. -/
abbrev Text := List UInt8

/-- A byte that continues a character. -/
def continues (byte : UInt8) : Bool := decide (0x80 ≤ byte ∧ byte ≤ 0xbf)

/-- Whether the second byte of a character of three bytes fits its first byte. -/
def fitsThree (lead second : UInt8) : Bool :=
  if lead = 0xe0 then decide (0xa0 ≤ second ∧ second ≤ 0xbf)
  else if lead = 0xed then decide (0x80 ≤ second ∧ second ≤ 0x9f)
  else decide (0xe1 ≤ lead ∧ lead ≤ 0xef) && continues second

/-- Whether the second byte of a character of four bytes fits its first byte. -/
def fitsFour (lead second : UInt8) : Bool :=
  if lead = 0xf0 then decide (0x90 ≤ second ∧ second ≤ 0xbf)
  else if lead = 0xf4 then decide (0x80 ≤ second ∧ second ≤ 0x8f)
  else decide (0xf1 ≤ lead ∧ lead ≤ 0xf3) && continues second

/-- Whether a byte string is valid UTF-8. -/
def fromUtf8 : List UInt8 → Bool
  | [] => true
  | lead :: tail =>
    if lead < 0x80 then fromUtf8 tail
    else match tail with
      | [] => false
      | second :: tail =>
        if 0xc2 ≤ lead ∧ lead ≤ 0xdf then continues second && fromUtf8 tail
        else match tail with
          | [] => false
          | third :: tail =>
            if 0xe0 ≤ lead ∧ lead ≤ 0xef then
              fitsThree lead second && continues third && fromUtf8 tail
            else match tail with
              | [] => false
              | fourth :: tail =>
                fitsFour lead second && continues third && continues fourth && fromUtf8 tail

/-- The encodings of the white-space characters. -/
def whiteSpace : List Text :=
  [[0x09], [0x0a], [0x0b], [0x0c], [0x0d], [0x20], [0xc2, 0x85], [0xc2, 0xa0], [0xe1, 0x9a, 0x80],
    [0xe2, 0x80, 0x80], [0xe2, 0x80, 0x81], [0xe2, 0x80, 0x82], [0xe2, 0x80, 0x83],
    [0xe2, 0x80, 0x84], [0xe2, 0x80, 0x85], [0xe2, 0x80, 0x86], [0xe2, 0x80, 0x87],
    [0xe2, 0x80, 0x88], [0xe2, 0x80, 0x89], [0xe2, 0x80, 0x8a], [0xe2, 0x80, 0xa8],
    [0xe2, 0x80, 0xa9], [0xe2, 0x80, 0xaf], [0xe2, 0x81, 0x9f], [0xe3, 0x80, 0x80]]

/-- Drop white space from the front. Each round drops a character, so the length of
the text bounds the rounds. -/
def trimStartRounds : Nat → Text → Text
  | 0, text => text
  | rounds + 1, text =>
    match whiteSpace.find? fun space => space.isPrefixOf text with
    | none => text
    | some space => trimStartRounds rounds (text.drop space.length)

/-- Drop white space from the end. -/
def trimEndRounds : Nat → Text → Text
  | 0, text => text
  | rounds + 1, text =>
    match whiteSpace.find? fun space => space.isSuffixOf text with
    | none => text
    | some space => trimEndRounds rounds (text.take (text.length - space.length))

/-- Drop white space from both ends. -/
def trim (text : Text) : Text :=
  let text := trimStartRounds text.length text
  trimEndRounds text.length text

/-- Split at a byte into at most the given number of parts; the last one takes the
rest. -/
def splitn (separator : UInt8) : Nat → Text → List Text
  | 0, _ => []
  | 1, text => [text]
  | limit + 2, text =>
    if separator ∈ text then
      text.takeWhile (· != separator) ::
        splitn separator (limit + 1) (text.dropWhile (· != separator)).tail
    else [text]

/-- The value of a text of decimal digits. -/
def decimal (digits : Text) : Nat :=
  digits.foldl (fun value digit => value * 10 + (digit.toNat - 0x30)) 0

/-- A generation: decimal digits whose value fits sixty-four bits. -/
def parseGenerationId (text : Text) : Option UInt64 :=
  if text.isEmpty || !text.all fun byte => decide (0x30 ≤ byte ∧ byte ≤ 0x39) then none
  else if decimal text < 2 ^ 64 then some (UInt64.ofNat (decimal text)) else none

/-- The number of workers that a device may have. -/
def maxStreamWorkers : Nat := 126

/-- The number as it is compared with one that was read. -/
def maxStreamWorkersU16 : UInt16 := maxStreamWorkers.toUInt16

/-- `GETCONF:` -/
def getconfPrefix : Text := [0x47, 0x45, 0x54, 0x43, 0x4f, 0x4e, 0x46, 0x3a]

/-- `TUNCONF:` -/
def tunconfPrefix : Text := [0x54, 0x55, 0x4e, 0x43, 0x4f, 0x4e, 0x46, 0x3a]

/-- `NOCONF` -/
def noConfig : Text := [0x4e, 0x4f, 0x43, 0x4f, 0x4e, 0x46]

/-- `DENIED:` -/
def deniedPrefix : Text := [0x44, 0x45, 0x4e, 0x49, 0x45, 0x44, 0x3a]

/-- `DISCONNECT:` -/
def disconnectPrefix : Text := [0x44, 0x49, 0x53, 0x43, 0x4f, 0x4e, 0x4e, 0x45, 0x43, 0x54, 0x3a]

/-- `READY` -/
def ready : Text := [0x52, 0x45, 0x41, 0x44, 0x59]

/-- `READY_OK` -/
def readyOk : Text := [0x52, 0x45, 0x41, 0x44, 0x59, 0x5f, 0x4f, 0x4b]

/-- `OK:disconnected` -/
def disconnected : Text :=
  [0x4f, 0x4b, 0x3a, 0x64, 0x69, 0x73, 0x63, 0x6f, 0x6e, 0x6e, 0x65, 0x63, 0x74, 0x65, 0x64]

/-- A lease keeps a session alive: the byte 0xff and `CSQTT_LEASE`. -/
def sessionLease : Text :=
  [0xff, 0x43, 0x53, 0x51, 0x54, 0x54, 0x5f, 0x4c, 0x45, 0x41, 0x53, 0x45]

/-- What a session is opened for. -/
structure Epoch where
  deviceId : Text
  generationId : UInt64
  sessionSalt : Text
deriving DecidableEq, Repr

/-- Read device, generation and salt from an opening payload. -/
def parseGetconfEpoch (payload : List UInt8) : Option Epoch := do
  if !fromUtf8 payload || !getconfPrefix.isPrefixOf payload then none
  else
    let parts := splitn 0x7c 6 (trim (payload.drop getconfPrefix.length))
    let _ ← parts[0]?
    let deviceId := trim (← parts[1]?)
    let _ ← parts[2]?
    let generationId ← parseGenerationId (trim (← parts[3]?))
    let sessionSalt := trim (parts[4]?.getD [])
    if deviceId.isEmpty ∨ deviceId.length > 128 ∨ sessionSalt.length > 128 then none
    else some ⟨deviceId, generationId, sessionSalt⟩

/-- Payloads for the control task. -/
def isControlPayload (payload : List UInt8) : Bool :=
  getconfPrefix.isPrefixOf payload || disconnectPrefix.isPrefixOf payload || payload == ready ||
    payload.head? == some 0xff

/-- Payloads that only show that the client is there. -/
def isIdleKeepalive (payload : List UInt8) : Bool :=
  (!payload.isEmpty && payload.all (· == 0xff)) ||
    (decide (4 ≤ payload.length ∧ payload.length ≤ 9) && payload.head? == some 0xff)

/-- The shard of a device: an FNV-1a hash modulo the number of shards. -/
def shardForDevice (deviceId : Text) (shardCount : Nat) : Nat :=
  let value := deviceId.foldl (fun value byte => (value ^^^ byte.toUInt64) * 0x100000001b3)
    (0xcbf29ce484222325 : UInt64)
  value.toNat % max shardCount 1

theorem shardForDevice_lt (deviceId : Text) (shardCount : Nat) (some : 0 < shardCount) :
    shardForDevice deviceId shardCount < shardCount := by
  rw [shardForDevice, max_eq_left some]
  exact Nat.mod_lt _ some

/-- Spaces around the fields, an unused first and third field, and a sixth one. -/
example : parseGetconfEpoch (getconfPrefix ++ [0x20, 0x7c, 0x61, 0x62, 0x20, 0x7c, 0x7c, 0x31, 0x37,
    0x7c, 0x73, 0x7c, 0x7c, 0x0a]) = some ⟨[0x61, 0x62], 17, [0x73]⟩ := by
  decide +kernel

end Csqtt.ControlText
