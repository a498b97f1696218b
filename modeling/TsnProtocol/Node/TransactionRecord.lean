import TsnProtocol.Gpru.Verifier
import TsnProtocol.Lib.TextFormat

/-!
Owner-encrypted balance-action records of the Node, and the Ledger memos that carry them
behind the bindings of a settlement proof.
-/

namespace TsnProtocol.Node.TransactionRecord

open Bn254.Scalar
open Gpru.Verifier (asciiBytes)
open Lib.ByteReader
open Lib.Checked
open Lib.TextFormat
open Solana.Address

/-- The values a caller may put into a dictionary. -/
inductive PyValue where
  | int (value : Int)
  | bool (value : Bool)
  | str (text : Text)
  | other (tag : Nat)
  deriving DecidableEq

inductive PyObject where
  | dict (fields : List (String × PyValue))
  | other (value : PyValue)
  deriving DecidableEq

/-- What the Node takes from its platform: the conversions of Python, SHA-256, zlib and
SecretBox. -/
structure Platform where
  int : PyValue → Option Int
  str : PyValue → Text
  lower : Text → Text
  sha256 : List Byte → Bytes32
  compress : List Byte → List Byte
  secretBox : (key nonce plaintext : List Byte) → List Byte

inductive RecordError where
  | recordNotAnObject | unsupportedFieldSet | unsupportedRecord | booleanInteger | notAnInteger
  | sequenceOutOfRange | tokenIdOutOfRange | unsupportedActionKind | amountOutOfRange
  | notLowercaseHex | notCanonical | zeroCommitment | predecessorMismatch
  | sharedPointInvalid | ephemeralKeyInvalid | dnaInvalid
  | bindingFieldSet | bindingNotHex | bindingNotCanonical | bindingMismatch
  | deltaNotHex | deltaNotCanonical | notAscii
  deriving DecidableEq

def recordFields : List String :=
  ["version", "recordType", "sequence", "previousMemoCommitment", "actionCommitment",
    "authorizationCommitment", "nullifier", "actionKind", "tokenId", "amountBaseUnits"]

def bindingFields : List String :=
  ["successorPortfolioRoot", "successorBalanceX", "successorBalanceY", "actionCommitment",
    "authorizationCommitment", "nullifier"]

def recordType : Text :=
  "tsn-gpru-balance-action-v1".toList

/-- 64 zeros. -/
def zeroCommitment : Text :=
  List.replicate 64 '0'

def asDict (problem : RecordError) : PyObject → Except RecordError (List (String × PyValue))
  | .dict fields => .ok fields
  | .other _ => .error problem

/-- The keys of a dictionary are the names given. -/
def hasFields (fields : List (String × PyValue)) (names : List String) : Bool :=
  (fields.all fun field => names.contains field.1) &&
    names.all fun name => (fields.lookup name).isSome

def isHex32 (text : Text) : Bool :=
  text.length = 64 && text.all isLowerHexDigit

def isCanonicalHex (text : Text) : Bool :=
  hexTextValue text < bn254ScalarOrder

/-- A validated balance action. -/
structure BalanceAction where
  sequence : Nat
  (previousMemoCommitment actionCommitment authorizationCommitment nullifier : Text)
  (actionKind tokenId amountBaseUnits : Nat)
  deriving DecidableEq

section Validation

variable (platform : Platform)

def intField (fields : List (String × PyValue)) (name : String) : Except RecordError Int := do
  let value ← okOr (fields.lookup name) .unsupportedFieldSet
  okOr (platform.int value) .notAnInteger

def strField (fields : List (String × PyValue)) (name : String) : Except RecordError Text := do
  let value ← okOr (fields.lookup name) .unsupportedFieldSet
  return platform.str value

def isBool : Option PyValue → Bool
  | some (.bool _) => true
  | _ => false

def validateBalanceActionRecordV1 (value : PyObject) : Except RecordError BalanceAction := do
  let fields ← asDict .recordNotAnObject value
  require (hasFields fields recordFields = true) .unsupportedFieldSet
  require (fields.lookup "version" = some (.int 1) ∧
    fields.lookup "recordType" = some (.str recordType)) .unsupportedRecord
  require ((["sequence", "tokenId", "actionKind", "amountBaseUnits"].any fun name =>
    isBool (fields.lookup name)) = false) .booleanInteger
  let sequence ← intField platform fields "sequence"
  let tokenId ← intField platform fields "tokenId"
  let actionKind ← intField platform fields "actionKind"
  let amount ← intField platform fields "amountBaseUnits"
  let previous ← strField platform fields "previousMemoCommitment"
  let actionCommitment ← strField platform fields "actionCommitment"
  let authorizationCommitment ← strField platform fields "authorizationCommitment"
  let nullifier ← strField platform fields "nullifier"
  require (0 < sequence ∧ sequence ≤ 0xFFFFFFFFFFFFFFFF) .sequenceOutOfRange
  require (0 < tokenId ∧ tokenId ≤ 0xFFFFFFFF) .tokenIdOutOfRange
  require (actionKind = 1 ∨ actionKind = 2 ∨ actionKind = 3) .unsupportedActionKind
  require (0 < amount ∧ amount ≤ 0xFFFFFFFFFFFFFFFF) .amountOutOfRange
  require (isHex32 previous = true) .notLowercaseHex
  require ([actionCommitment, authorizationCommitment, nullifier].all isHex32 = true)
    .notLowercaseHex
  require ([previous, actionCommitment, authorizationCommitment, nullifier].all
    isCanonicalHex = true) .notCanonical
  require (hexTextValue actionCommitment ≠ 0) .zeroCommitment
  require (hexTextValue authorizationCommitment ≠ 0 ∧ hexTextValue nullifier ≠ 0)
    .zeroCommitment
  require (sequence = 1 ↔ previous = zeroCommitment) .predecessorMismatch
  return ⟨sequence.toNat, previous, actionCommitment, authorizationCommitment, nullifier,
    actionKind.toNat, tokenId.toNat, amount.toNat⟩

end Validation

/-- The record as the JSON object that is encrypted, its keys sorted. -/
def BalanceAction.object (action : BalanceAction) : JsonObject :=
  [("actionCommitment", .str action.actionCommitment),
    ("actionKind", .num action.actionKind),
    ("amountBaseUnits", .str (decimal action.amountBaseUnits)),
    ("authorizationCommitment", .str action.authorizationCommitment),
    ("nullifier", .str action.nullifier),
    ("previousMemoCommitment", .str action.previousMemoCommitment),
    ("recordType", .str recordType),
    ("sequence", .str (decimal action.sequence)),
    ("tokenId", .num action.tokenId),
    ("version", .num 1)]

/-- The bindings of a memo, in lowercase hexadecimal. -/
structure MemoFields where
  (successorPortfolioRoot successorBalanceX successorBalanceY actionCommitment
    encryptedBlindingDelta deltaEphemeralPublicX deltaEphemeralPublicY : Text)
  deriving DecidableEq

def MemoFields.toList (fields : MemoFields) : List Text :=
  [fields.successorPortfolioRoot, fields.successorBalanceX, fields.successorBalanceY,
    fields.actionCommitment, fields.encryptedBlindingDelta, fields.deltaEphemeralPublicX,
    fields.deltaEphemeralPublicY]

structure EncryptArgs where
  record : PyObject
  (sharedPoint recordEphemeralPublicKey dna : List Byte)
  (encryptedBlindingDelta deltaEphemeralPublicX deltaEphemeralPublicY : PyValue)
  memoBinding : PyObject

/-- The envelope around the ciphertext of a record. -/
structure Envelope where
  (dna recordEphemeralPublicKey ciphertext nonce : List Byte)
  compressed : Bool
  deriving DecidableEq

/-- The memo document, its keys sorted. -/
def Envelope.object (envelope : Envelope) : JsonObject :=
  [("algorithm", .str "dbrix-core-secretbox-v1".toList)] ++
  (if envelope.compressed then [("compression", .str "deflate".toList)] else []) ++
  [("data", .str (b64encode envelope.ciphertext)),
    ("dna", .str (hexText envelope.dna)),
    ("nonce", .str (b64encode envelope.nonce)),
    ("recordEphemeralPublicKey", .str (hexText envelope.recordEphemeralPublicKey)),
    ("version", .num 1)]

/-- The memo as the Node returns it. -/
structure EncryptedRecord where
  (memoBodyPayload memoPayload : Text)
  memoLedgerSlots : List Text
  (memoCommitment memoCommitmentField : Bytes32)
  memoDocument : Envelope
  deriving DecidableEq

/-- The reduction of a digest to a field element, highest byte first. -/
def sha256ToBn254ScalarHex (digest : Bytes32) : Bytes32 :=
  BitVec.ofNat 256 (digest.toNat % bn254ScalarOrder)

def ledgerMemoPayloadV1 (document : List Byte) : List Text × Text :=
  let ledgerSlots := slots 32 (stripPadding (urlsafeB64encode document))
  (ledgerSlots, (ledgerSlots.map stripPadding).flatten)

def recordKey (sha256 : List Byte → Bytes32)
    (sharedPoint dna recordEphemeralPublicKey : List Byte) : List Byte :=
  wordBytes (sha256 (asciiBytes "DBRIX_GPRU_TRANSACTION_RECORD_KEY_V1\x00" ++ sharedPoint ++
    dna ++ recordEphemeralPublicKey))

/-- The plaintext of a record: a type byte and its JSON text. -/
def typedPlaintext (members : JsonObject) : List Byte :=
  2 :: encodeAscii (dumps members)

def memoText (fields : MemoFields) (payload : Text) : Text :=
  "TSN_GPRU_HEAD_V1".toList ++
    (fields.toList.flatMap fun field => ':' :: field) ++ ':' :: payload

section Encryption

variable (platform : Platform)

def bindingText (fields : List (String × PyValue)) (name : String) : Except RecordError Text := do
  let value ← okOr (fields.lookup name) .bindingFieldSet
  let text := platform.lower (platform.str value)
  require (isHex32 text = true) .bindingNotHex
  require (isCanonicalHex text = true) .bindingNotCanonical
  return text

def deltaText : PyValue → Except RecordError Text
  | .str text => do
      require (isHex32 text = true) .deltaNotHex
      require (isCanonicalHex text = true) .deltaNotCanonical
      return text
  | _ => .error .deltaNotHex

/-- A string of 32 bytes that are not all zero. -/
def isNonzero32 (bytes : List Byte) : Bool :=
  bytes.length = 32 && bytes.any (· ≠ 0)

/-- The record under its key, compressed where that makes it shorter. -/
def sealRecord (args : EncryptArgs) (action : BalanceAction) (nonce : List Byte) : Envelope :=
  let key := recordKey platform.sha256 args.sharedPoint args.dna args.recordEphemeralPublicKey
  let plaintext := typedPlaintext action.object
  let compressed := platform.compress plaintext
  let shorter : Bool := compressed.length < plaintext.length
  { dna := args.dna
    recordEphemeralPublicKey := args.recordEphemeralPublicKey
    ciphertext := platform.secretBox key nonce (if shorter then compressed else plaintext)
    nonce := nonce
    compressed := shorter }

def encryptTransactionRecordV1 (args : EncryptArgs) (nonce : List Byte) :
    Except RecordError (BalanceAction × MemoFields × EncryptedRecord) := do
  require (isNonzero32 args.sharedPoint = true) .sharedPointInvalid
  require (isNonzero32 args.recordEphemeralPublicKey = true) .ephemeralKeyInvalid
  require (isNonzero32 args.dna = true) .dnaInvalid
  let action ← validateBalanceActionRecordV1 platform args.record
  let binding ← asDict .bindingFieldSet args.memoBinding
  require (hasFields binding bindingFields = true) .bindingFieldSet
  let portfolioRoot ← bindingText platform binding "successorPortfolioRoot"
  let balanceX ← bindingText platform binding "successorBalanceX"
  let balanceY ← bindingText platform binding "successorBalanceY"
  let actionCommitment ← bindingText platform binding "actionCommitment"
  let authorizationCommitment ← bindingText platform binding "authorizationCommitment"
  let nullifier ← bindingText platform binding "nullifier"
  require (action.actionCommitment = actionCommitment) .bindingMismatch
  require (action.authorizationCommitment = authorizationCommitment) .bindingMismatch
  require (action.nullifier = nullifier) .bindingMismatch
  let document := sealRecord platform args action nonce
  let payload := ledgerMemoPayloadV1 (encodeAscii (dumps document.object))
  let encryptedDelta ← deltaText args.encryptedBlindingDelta
  let ephemeralX ← deltaText args.deltaEphemeralPublicX
  let ephemeralY ← deltaText args.deltaEphemeralPublicY
  let fields : MemoFields := ⟨portfolioRoot, balanceX, balanceY, actionCommitment,
    encryptedDelta, ephemeralX, ephemeralY⟩
  let memo := memoText fields payload.2
  require (isAscii memo = true) .notAscii
  let digest := platform.sha256 (encodeAscii memo)
  return (action, fields, ⟨payload.2, memo, payload.1, digest, sha256ToBn254ScalarHex digest,
    document⟩)

end Encryption

end TsnProtocol.Node.TransactionRecord
