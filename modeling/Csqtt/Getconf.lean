import Csqtt.Database

/-!
# Requests for a configuration

A `GETCONF` payload has eight fields between vertical bars: the client's port, the
device, the password, the generation, the salt, the number of the worker, the number of
workers and the revision of the protocol. `readGetconf` reads them and makes the checks
that need no database, in their order; each failed check has its own answer.

A payload reaches this point on a session, and the password in it has to be the one the
session was opened with.
-/

namespace Csqtt.Control

open ControlText

/-- The public record of a session. The control task and the engine share it. -/
structure Session where
  id : Nat
  password : Text
  epoch : Epoch
  workerId : UInt64
  desiredStreamCount : UInt64
  tunnelIp : Option Routes.Ipv4
  hasTunnel : Bool
  upBytes : Nat
  downBytes : Nat
deriving DecidableEq, Repr

/-- A record before the first request. -/
def Session.opened (id : Nat) (password : Text) (epoch : Epoch) : Session where
  id := id
  password := password
  epoch := epoch
  workerId := 0xffffffffffffffff
  desiredStreamCount := 0
  tunnelIp := none
  hasTunnel := false
  upBytes := 0
  downBytes := 0

/-- A request that passed the checks. -/
structure Getconf where
  clientPort : Text
  epoch : Epoch
  password : Text
  workerId : UInt16
  desiredCount : UInt16
  dataFrames : Bool
deriving DecidableEq, Repr

/-- `CSQTT-WIRE-3` -/
def wireProtocolRevision : Text :=
  [0x43, 0x53, 0x51, 0x54, 0x54, 0x2d, 0x57, 0x49, 0x52, 0x45, 0x2d, 0x33]

/-- `CSQTT-WIRE-2` -/
def legacyWireProtocolRevision : Text :=
  [0x43, 0x53, 0x51, 0x54, 0x54, 0x2d, 0x57, 0x49, 0x52, 0x45, 0x2d, 0x32]

def isSupportedWireProtocol (revision : Text) : Bool :=
  revision == wireProtocolRevision || revision == legacyWireProtocolRevision

def supportsDataFrames (revision : Text) : Bool := revision == wireProtocolRevision

/-- A number of sixteen bits; a plus sign may stand before it. -/
def parseU16 (text : Text) : Option UInt16 :=
  let digits := if text.head? = some 0x2b then text.tail else text
  if digits.isEmpty || !digits.all fun byte => decide (0x30 ≤ byte ∧ byte ≤ 0x39) then none
  else if decimal digits < 2 ^ 16 then some (UInt16.ofNat (decimal digits)) else none

/-- A number from one to the largest number of workers. -/
def parseWorker (text : Text) : Option UInt16 :=
  (parseU16 text).filter fun number => decide (1 ≤ number ∧ number ≤ maxStreamWorkersU16)

/-- How many workers a client wants; none are named by old clients. -/
def readDesiredCount (text : Text) (workerId : UInt16) : Option UInt16 :=
  if text.isEmpty then some 0 else (parseWorker text).filter fun count => !decide (workerId > count)

/-- The fields of a payload. -/
def getconfParts (text : Text) : List Text :=
  splitn 0x7c 8
    (if getconfPrefix.isPrefixOf text then trim (text.drop getconfPrefix.length) else [])

/-- One field. -/
def field (parts : List Text) (index : Nat) (default : Text) : Text :=
  trim (parts[index]?.getD default)

/-- Read a request on a session with a password. The defaults are `9000` for the port and
`unknown` for the device. -/
def readGetconf (sessionPassword text : Text) : Except Denial Getconf :=
  let parts := getconfParts text
  let clientPort := field parts 0 [0x39, 0x30, 0x30, 0x30]
  let deviceId := field parts 1 [0x75, 0x6e, 0x6b, 0x6e, 0x6f, 0x77, 0x6e]
  let password := field parts 2 []
  let sessionSalt := field parts 4 []
  let protocolRevision := field parts 7 []
  match parseGenerationId (field parts 3 []) with
  | none => .error .invalidEpoch
  | some generationId =>
    if !isSupportedWireProtocol protocolRevision then .error .protocolMismatch
    else if password ≠ sessionPassword then .error .wrongPassword
    else if deviceId.isEmpty ∨ deviceId.length > 128 then .error .invalidDevice
    else if (parseU16 clientPort).isNone then .error .invalidPort
    else if sessionSalt.length > 128 then .error .invalidEpoch
    else
      match parseWorker (field parts 5 []) with
      | none => .error .invalidWorker
      | some workerId =>
        match readDesiredCount (field parts 6 []) workerId with
        | none => .error .invalidWorkerCount
        | some desiredCount =>
          .ok ⟨clientPort, ⟨deviceId, generationId, sessionSalt⟩, password, workerId,
            desiredCount, supportsDataFrames protocolRevision⟩

/-- What a request is answered with. -/
inductive Answer
  | denied (denial : Denial)
  | noConfiguration
  | tunnel (ip dns clientPort : Text) (dataFrames : Bool)
deriving DecidableEq, Repr

/-- The text of an answer: `NOCONF`, or `TUNCONF` with the address, the name servers, the
port and `stream-v2` or `stream-v1`, between colons. -/
def Answer.text : Answer → Text
  | .denied denial => denial.text
  | .noConfiguration => noConfig
  | .tunnel ip dns clientPort dataFrames =>
    tunconfPrefix ++ ip ++ 0x3a :: dns ++ 0x3a :: clientPort ++
      [0x3a, 0x73, 0x74, 0x72, 0x65, 0x61, 0x6d, 0x2d, 0x76, if dataFrames then 0x32 else 0x31]

/-- The address in an answer. -/
def Answer.ip : Answer → Option Text
  | .tunnel ip _ _ _ => some ip
  | _ => none

/-- A request is read only if it names the password of its session. -/
theorem readGetconf_password {sessionPassword text : Text} {request : Getconf}
    (read : readGetconf sessionPassword text = .ok request) : request.password = sessionPassword := by
  unfold readGetconf at read
  dsimp only at read
  split at read
  · cases read
  split at read
  · cases read
  split at read
  · cases read
  rename_i samePassword
  split at read
  · cases read
  split at read
  · cases read
  split at read
  · cases read
  split at read
  · cases read
  split at read
  · cases read
  cases read
  exact not_not.mp samePassword

end Csqtt.Control
