import TsnProtocol.Lib.Documents
import TsnProtocol.Lib.TextFormat
import TsnProtocol.Lib.Transition

/-!
Authentication of Crankers at the Receiver: challenges, the sessions that answer them, and
the requests of a session. Calls interleave between their operations on the store.
-/

namespace TsnProtocol.Receiver.CrankerAuth

open Lib.ByteReader (Byte)
open Lib.Checked
open Lib.Documents
open Lib.TextFormat

def challengeTtlMs : Nat := 60000

def crankerSessionTtlMs : Nat := 30 * 60000

def crankerSessionIdleTtlMs : Nat := 5 * 60000

inductive AuthError where
  | motherDnaNotFound | alreadyExists
  | sessionInputInvalid | requestExpired | requestCounterInvalid
  | publicKeyInvalid | signatureInvalid | challengeInvalidOrReplayed
  | sessionInvalid | sessionExpired | requestReplayed
  | notPending
  deriving DecidableEq

/-- The hash in hexadecimal digits, signature verification, and the look-up of an operator
on chain. -/
structure Runtime where
  sha256 : String → String
  verify : String → List Byte → List Byte → Bool
  motherDnaCranker : String → Bool

structure Challenge where
  (publicKey nonce : String)
  expiresAt : Nat
  used : Bool
  usedAt : Option Nat
  deriving DecidableEq

structure Session where
  (publicKey tokenHash : String)
  (createdAt expiresAt lastSeenAt lastCounter : Nat)
  deriving DecidableEq

section Formats

/-- The characters of a text, and how many there are. -/
def isText (allowed : Char → Bool) (low high : Nat) (text : String) : Bool :=
  low ≤ text.length ∧ text.length ≤ high ∧ text.toList.all allowed = true

def base58Alphabet : List Char :=
  "123456789ABCDEFGHJKLMNPQRSTUVWXYZabcdefghijkmnopqrstuvwxyz".toList

def bigEndian : Nat → Nat → List Byte
  | 0, _ => []
  | fuel + 1, number =>
      if number = 0 then [] else bigEndian fuel (number / 256) ++ [BitVec.ofNat 8 number]

def decodeBase58 (value : String) : Except AuthError (List Byte) := do
  let digits ← okOr (value.toList.mapM base58Alphabet.idxOf?) .publicKeyInvalid
  let number := digits.foldl (fun number digit => number * 58 + digit) 0
  let zeros := (value.toList.takeWhile (· = '1')).length
  let bytes := List.replicate zeros 0 ++ bigEndian digits.length number
  require (bytes.length = 32) .publicKeyInvalid
  return bytes

/-- `Buffer.from` reads both alphabets once `-` and `_` are replaced. -/
def isBase64Char (character : Char) : Bool :=
  isBase64UrlChar character || character = '+' || character = '/'

def base64Bytes (text : String) : List Byte :=
  decodeBase64 (base64Value '+')
    ((stripPadding text.toList).map fun character =>
      if character = '-' then '+' else if character = '_' then '/' else character)

def decodeSignature (signature : String) : Except AuthError (List Byte) := do
  let digits := stripPadding signature.toList
  require (86 ≤ digits.length ∧ digits.length ≤ 88 ∧ signature.length ≤ digits.length + 2 ∧
    digits.all isBase64Char = true) .signatureInvalid
  let bytes := base64Bytes signature
  require (bytes.length = 64) .signatureInvalid
  return bytes

def isPublicKey (text : String) : Bool :=
  isText (fun character => base58Alphabet.contains character) 32 44 text

def challengeId (runtime : Runtime) (publicKey nonce : String) : String :=
  runtime.sha256 (publicKey ++ "|" ++ nonce)

def canonicalSessionRequest (runtime : Runtime)
    (method path timestamp sessionId counter body : String) : String :=
  "TSN_RECEIVER_CRANKER_SESSION_REQUEST_V1|" ++ method.toUpper ++ "|" ++ path ++ "|" ++
    timestamp ++ "|" ++ sessionId ++ "|" ++ counter ++ "|" ++ runtime.sha256 body

def sessionChallengeMessage (publicKey timestamp nonce : String) : String :=
  "TSN_RECEIVER_CRANKER_SESSION_V1|" ++ publicKey ++ "|" ++ timestamp ++ "|" ++ nonce

/-- The difference of two times. -/
def apart (first second : Nat) : Nat :=
  (first - second) + (second - first)

def validTimestamp (now : Nat) (timestamp : String) : Bool :=
  apart now (decimalValue timestamp.toList * 1000) ≤ challengeTtlMs

def verifySigned (runtime : Runtime) (message publicKey signature : String) :
    Except AuthError Unit := do
  let key ← decodeBase58 publicKey
  let bytes ← decodeSignature signature
  require (runtime.verify message key bytes = true) .signatureInvalid

end Formats

section Store

/-- The two collections, and the operations that calls in flight have still to make: ids to
delete, and the challenges consumed for a session. -/
structure State where
  challenges : Collection Challenge
  sessions : Collection Session
  (staleChallenges staleSessions : List String)
  consumed : List (String × String)

def State.initial : State :=
  ⟨∅, ∅, [], [], []⟩

def usedChallenges (state : State) : List String :=
  (query state.challenges (fun challenge => challenge.used) 100).map Prod.fst

def expiredChallenges (state : State) (now : Nat) : List String :=
  (query state.challenges (fun challenge => challenge.expiresAt ≤ now) 100).map Prod.fst

def expiredSessions (state : State) (now : Nat) : List String :=
  (query state.sessions (fun session => session.expiresAt ≤ now) 100).map Prod.fst

def idleSessions (state : State) (now : Nat) : List String :=
  (query state.sessions
    (fun session => session.lastSeenAt + crankerSessionIdleTtlMs ≤ now) 100).map Prod.fst

def deleteChallenge (id : String) (state : State) : Except AuthError State := do
  require (id ∈ state.staleChallenges) .notPending
  return { state with
    challenges := state.challenges.erase id
    staleChallenges := state.staleChallenges.erase id }

def deleteSession (id : String) (state : State) : Except AuthError State := do
  require (id ∈ state.staleSessions) .notPending
  return { state with
    sessions := state.sessions.erase id
    staleSessions := state.staleSessions.erase id }

/-- The last operation of `issueCrankerChallenge`. -/
def createChallenge (runtime : Runtime) (publicKey nonce : String) (now : Nat)
    (state : State) : Except AuthError State := do
  require (runtime.motherDnaCranker publicKey = true) .motherDnaNotFound
  let id := challengeId runtime publicKey nonce
  require (state.challenges[id]? = none) .alreadyExists
  return { state with
    challenges :=
      state.challenges.insert id ⟨publicKey, nonce, now + challengeTtlMs, false, none⟩ }

structure SessionInput where
  (publicKey nonce timestamp signature : String)

def checkSessionInput (runtime : Runtime) (input : SessionInput) (now : Nat) :
    Except AuthError Unit := do
  require (isPublicKey input.publicKey = true ∧
    isText isBase64UrlChar 43 43 input.nonce = true ∧
    isText Char.isDigit 1 13 input.timestamp = true ∧ input.signature ≠ "")
    .sessionInputInvalid
  require (validTimestamp now input.timestamp = true) .requestExpired
  verifySigned runtime (sessionChallengeMessage input.publicKey input.timestamp input.nonce)
    input.publicKey input.signature

/-- The transaction of `issueCrankerSession`, after the checks of its input. -/
def consumeChallenge (runtime : Runtime) (input : SessionInput) (arrivedAt now : Nat)
    (state : State) : Except AuthError State := do
  checkSessionInput runtime input arrivedAt
  let id := challengeId runtime input.publicKey input.nonce
  let challenge ← okOr state.challenges[id]? .challengeInvalidOrReplayed
  require (challenge.used = false ∧ challenge.publicKey = input.publicKey ∧
    now < challenge.expiresAt) .challengeInvalidOrReplayed
  return { state with
    challenges := state.challenges.insert id { challenge with used := true, usedAt := some now }
    consumed := (id, input.publicKey) :: state.consumed }

/-- The last operation of `issueCrankerSession`. -/
def createSession (runtime : Runtime) (challenge publicKey sessionId token : String)
    (now : Nat) (state : State) : Except AuthError State := do
  require ((challenge, publicKey) ∈ state.consumed) .notPending
  require (state.sessions[sessionId]? = none) .alreadyExists
  return { state with
    sessions := state.sessions.insert sessionId
      ⟨publicKey, runtime.sha256 token, now, now + crankerSessionTtlMs, now, 0⟩
    consumed := state.consumed.erase (challenge, publicKey) }

structure CrankerRequest where
  (publicKey sessionId token counter timestamp signature body method path : String)

def CrankerRequest.counterValue (request : CrankerRequest) : Nat :=
  decimalValue request.counter.toList

def maxSafeInteger : Nat := 2 ^ 53 - 1

def checkRequest (runtime : Runtime) (request : CrankerRequest) (now : Nat) :
    Except AuthError Unit := do
  require (isPublicKey request.publicKey = true ∧
    isText isBase64UrlChar 32 32 request.sessionId = true ∧
    isText isBase64UrlChar 43 43 request.token = true ∧
    isText Char.isDigit 1 16 request.counter = true ∧
    isText Char.isDigit 1 13 request.timestamp = true ∧ request.signature ≠ "")
    .sessionInputInvalid
  require (validTimestamp now request.timestamp = true) .requestExpired
  require (request.counterValue ≤ maxSafeInteger ∧ 1 ≤ request.counterValue)
    .requestCounterInvalid
  verifySigned runtime
    (canonicalSessionRequest runtime request.method request.path request.timestamp
      request.sessionId request.counter request.body)
    request.publicKey request.signature

def isHexDigit (character : Char) : Bool :=
  isLowerHexDigit character.toLower

def sameDigest (stored digest : String) : Bool :=
  isText isHexDigit 64 64 stored ∧ stored.toList.map Char.toLower = digest.toList

/-- `authenticateCrankerRequest`: its checks, and its transaction. -/
def authenticateCrankerRequest (runtime : Runtime) (request : CrankerRequest)
    (arrivedAt now : Nat) (state : State) : Except AuthError State := do
  checkRequest runtime request arrivedAt
  let session ← okOr state.sessions[request.sessionId]? .sessionInvalid
  require (session.publicKey = request.publicKey) .sessionInvalid
  require (sameDigest session.tokenHash (runtime.sha256 request.token) = true) .sessionInvalid
  require (now < session.expiresAt ∧ now - session.lastSeenAt ≤ crankerSessionIdleTtlMs)
    .sessionExpired
  require (session.lastCounter ≤ maxSafeInteger ∧ session.lastCounter < request.counterValue)
    .requestReplayed
  return { state with
    sessions := state.sessions.insert request.sessionId
      { session with lastCounter := request.counterValue, lastSeenAt := now } }

end Store

/-- One operation of some call on the store. -/
inductive Operation where
  | pruneUsedChallenges
  | pruneExpiredChallenges (now : Nat)
  | pruneExpiredSessions (now : Nat)
  | pruneIdleSessions (now : Nat)
  | deleteChallenge (id : String)
  | deleteSession (id : String)
  | createChallenge (publicKey nonce : String) (now : Nat)
  | consumeChallenge (input : SessionInput) (arrivedAt now : Nat)
  | createSession (challenge publicKey sessionId token : String) (now : Nat)
  | authenticate (request : CrankerRequest) (arrivedAt now : Nat)

def step (runtime : Runtime) (state : State) : Operation → Except AuthError State
  | .pruneUsedChallenges =>
      .ok { state with staleChallenges := usedChallenges state ++ state.staleChallenges }
  | .pruneExpiredChallenges now =>
      .ok { state with staleChallenges := expiredChallenges state now ++ state.staleChallenges }
  | .pruneExpiredSessions now =>
      .ok { state with staleSessions := expiredSessions state now ++ state.staleSessions }
  | .pruneIdleSessions now =>
      .ok { state with staleSessions := idleSessions state now ++ state.staleSessions }
  | .deleteChallenge id => deleteChallenge id state
  | .deleteSession id => deleteSession id state
  | .createChallenge publicKey nonce now => createChallenge runtime publicKey nonce now state
  | .consumeChallenge input arrivedAt now => consumeChallenge runtime input arrivedAt now state
  | .createSession challenge publicKey sessionId token now =>
      createSession runtime challenge publicKey sessionId token now state
  | .authenticate request arrivedAt now =>
      authenticateCrankerRequest runtime request arrivedAt now state

end TsnProtocol.Receiver.CrankerAuth
