import TsnProtocol.Lib.TextFormat
import TsnProtocol.Sdk.DeltaCipher

/-!
The owner's reader of settlement memos: the bindings in front, the encrypted record behind
them, and the balance action that the record holds.
-/

namespace TsnProtocol.Sdk.TransactionRecord

open Bn254.Scalar
open Circomlib.BabyJub
open Gpru.Verifier (asciiBytes)
open Lib.ByteReader
open Lib.Checked
open Lib.TextFormat
open Sdk.DeltaCipher
open Solana.Address

/-- What the SDK takes from its platform: `Number` on strings, SHA-256, the slots and the
cipher of DBrix, and the Ristretto point shared with the sender of a record. -/
structure Platform where
  number : Text → Option Nat
  sha256 : List Byte → Bytes32
  decodeLedgerSlots : List Text → Option (List Byte)
  decrypt : (data nonce : Text) → (compression : Option Text) → (key : List Byte) →
    Option JsonObject
  recordSharedPoint : (masterSeed gpruElgamalPublicKey recordEphemeralPublicKey : List Byte) →
    Option (List Byte)

inductive SdkError where
  | noMemoBinding | notBase64Url | invalidEnvelope | unsupportedEnvelope
  | wrongLength | masterSeedTooShort | routeKeyMismatch | decryptionFailed | scanKeyMismatch
  | cipher (problem : CipherError)
  | duplicateDelta | unsupportedFields | unsupportedRecord | notAPositiveDecimal
  | notLowercaseHex | notCanonical | unsupportedActionKind | tokenIdOutOfRange | exceedsU64
  | deltaOutOfRange | predecessorMismatch | actionCommitmentMismatch
  deriving DecidableEq

section Binding

/-- A character of a pattern without regard to case, as Unicode folds it. -/
def foldsTo (expected character : Char) : Bool :=
  character.toLower = expected.toLower || (expected.toLower = 's' && character = 'ſ')

def matchPrefix : Text → Text → Option Text
  | [], text => some text
  | expected :: pattern, character :: text =>
      if foldsTo expected character then matchPrefix pattern text else none
  | _ :: _, [] => none

/-- A group of 64 hexadecimal digits of either case and the colon behind it. -/
def matchGroup (text : Text) : Option (Text × Text) :=
  let group := text.take 64
  if group.length = 64 ∧ (group.map Char.toLower).all isLowerHexDigit = true ∧
      (text.drop 64).head? = some ':' then
    some (group, text.drop 65)
  else none

def matchGroups : Nat → Text → Option (List Text × Text)
  | 0, text => some ([], text)
  | count + 1, text => do
      let (group, rest) ← matchGroup text
      let (groups, later) ← matchGroups count rest
      return (group :: groups, later)

/-- `MEMO_BINDING_PREFIX`: the groups it captures and the text behind the match. -/
def matchMemoBinding (memoPayload : Text) : Option (List Text × Text) := do
  let rest ← matchPrefix "TSN_GPRU_HEAD_V1:".toList memoPayload
  matchGroups 7 rest

structure GpruMemoBindingV1 where
  (successorPortfolioRoot successorBalanceX successorBalanceY actionCommitment
    encryptedBlindingDelta deltaEphemeralX deltaEphemeralY : Text)
  deriving DecidableEq

def parseGpruMemoBindingV1 (memoPayload : Text) : Except SdkError GpruMemoBindingV1 :=
  match matchMemoBinding memoPayload with
  | some ([root, x, y, action, delta, deltaX, deltaY], _) =>
      .ok ⟨root.map Char.toLower, x.map Char.toLower, y.map Char.toLower,
        action.map Char.toLower, delta.map Char.toLower, deltaX.map Char.toLower,
        deltaY.map Char.toLower⟩
  | _ => .error .noMemoBinding

end Binding

section Record

/-- A balance action with the blinding delta its owner recovered. -/
structure GpruBalanceActionRecordV1 where
  (sequence previousMemoCommitment actionCommitment authorizationCommitment nullifier : Text)
  (actionKind tokenId : Nat)
  amountBaseUnits : Text
  balanceBlindingDelta : Nat
  deriving DecidableEq

def expectedKeys : List String :=
  ["version", "recordType", "sequence", "previousMemoCommitment", "actionCommitment",
    "authorizationCommitment", "nullifier", "actionKind", "tokenId", "amountBaseUnits"]

/-- `sort().join("|")`. -/
def sortedKeys (keys : List String) : String :=
  String.intercalate "|" (keys.insertionSort (· ≤ ·))

/-- `String(value)`. -/
def stringOf : Option JsonValue → Text
  | some (.str text) => text
  | some (.num value) => decimal value
  | none => "undefined".toList

def isHex32 (text : Text) : Bool :=
  text.length = 64 && text.all isLowerHexDigit

def isCanonicalHex (text : Text) : Bool :=
  hexTextValue text < bn254ScalarOrder

def numberOf (platform : Platform) : Option JsonValue → Option Nat
  | some (.num value) => some value
  | some (.str text) => platform.number text
  | none => none

/-- The value where `Number.isInteger` holds of it. -/
def integerOf : Option JsonValue → Option Nat
  | some (.num value) => some value
  | _ => none

@[simp] theorem stringOf_str (text : Text) : stringOf (some (.str text)) = text := rfl

@[simp] theorem numberOf_num (platform : Platform) (value : Nat) :
    numberOf platform (some (.num value)) = some value := rfl

@[simp] theorem integerOf_num (value : Nat) : integerOf (some (.num value)) = some value := rfl

def validateGpruBalanceActionRecordV1 (platform : Platform) (members : JsonObject)
    (recoveredBlindingDelta : Nat) : Except SdkError GpruBalanceActionRecordV1 := do
  require ((members.lookup "balanceBlindingDelta").isNone = true) .duplicateDelta
  require (sortedKeys (members.map Prod.fst) =
    sortedKeys expectedKeys) .unsupportedFields
  require (members.lookup "version" = some (.num 1) ∧
    members.lookup "recordType" = some (.str "tsn-gpru-balance-action-v1".toList))
    .unsupportedRecord
  let sequence := stringOf (members.lookup "sequence")
  let previous := stringOf (members.lookup "previousMemoCommitment")
  let actionCommitment := stringOf (members.lookup "actionCommitment")
  let authorizationCommitment := stringOf (members.lookup "authorizationCommitment")
  let nullifier := stringOf (members.lookup "nullifier")
  let amount := stringOf (members.lookup "amountBaseUnits")
  require (isPositiveDecimal sequence = true) .notAPositiveDecimal
  require ([previous, actionCommitment, authorizationCommitment, nullifier].all isHex32 = true)
    .notLowercaseHex
  require ([previous, actionCommitment, authorizationCommitment, nullifier].all isCanonicalHex
    = true) .notCanonical
  require (hexTextValue actionCommitment ≠ 0 ∧ hexTextValue authorizationCommitment ≠ 0 ∧
    hexTextValue nullifier ≠ 0) .notCanonical
  let actionKind ← okOr (numberOf platform (members.lookup "actionKind")) .unsupportedActionKind
  require (actionKind = 1 ∨ actionKind = 2 ∨ actionKind = 3) .unsupportedActionKind
  let tokenId ← okOr (integerOf (members.lookup "tokenId")) .tokenIdOutOfRange
  require (0 < tokenId ∧ tokenId ≤ 0xFFFFFFFF) .tokenIdOutOfRange
  require (isPositiveDecimal amount = true) .notAPositiveDecimal
  require (decimalValue sequence ≤ 0xFFFFFFFFFFFFFFFF ∧
    decimalValue amount ≤ 0xFFFFFFFFFFFFFFFF) .exceedsU64
  require (recoveredBlindingDelta ≠ 0 ∧ recoveredBlindingDelta < babyJubSuborder)
    .deltaOutOfRange
  let predecessor := previous.map Char.toLower
  require (decimalValue sequence = 1 ↔ predecessor = List.replicate 64 '0')
    .predecessorMismatch
  return ⟨decimal (decimalValue sequence), predecessor, actionCommitment.map Char.toLower,
    authorizationCommitment.map Char.toLower, nullifier.map Char.toLower, actionKind, tokenId,
    decimal (decimalValue amount), recoveredBlindingDelta⟩

end Record

section Decryption

variable (platform : Platform)

/-- The registered keys and the seed an owner reads memos with. -/
structure Owner where
  (masterSeed gpruElgamalPublicKey gpruBalanceScanPublicKeyX gpruBalanceScanPublicKeyY : List Byte)

def deriveGpruTransactionRecordKeyV1 (owner : Owner) (dna recordEphemeralPublicKey : List Byte) :
    Except SdkError (List Byte) := do
  require (owner.gpruElgamalPublicKey.length = 32) .wrongLength
  require (dna.length = 32) .wrongLength
  require (recordEphemeralPublicKey.length = 32) .wrongLength
  require (32 ≤ owner.masterSeed.length) .masterSeedTooShort
  let sharedPoint ← okOr (platform.recordSharedPoint owner.masterSeed
    owner.gpruElgamalPublicKey recordEphemeralPublicKey) .routeKeyMismatch
  return wordBytes (platform.sha256 (asciiBytes "DBRIX_GPRU_TRANSACTION_RECORD_KEY_V1\x00" ++
    sharedPoint ++ dna ++ recordEphemeralPublicKey))

/-- `hexToBytes`, which takes digits of either case. -/
def hexField (members : JsonObject) (key : String) : Except SdkError (List Byte) := do
  match members.lookup key with
  | some (.str text) => okOr (bytesOfHex (text.map Char.toLower)) .invalidEnvelope
  | _ => .error .invalidEnvelope

def stringField (members : JsonObject) (key : String) : Except SdkError Text :=
  match members.lookup key with
  | some (.str text) => .ok text
  | _ => .error .decryptionFailed

def compressionField (members : JsonObject) : Option Text :=
  match members.lookup "compression" with
  | some (.str text) => if text = [] then none else some text
  | _ => none

def liftCipher {α : Type} : Except CipherError α → Except SdkError α
  | .ok value => .ok value
  | .error problem => .error (.cipher problem)

/-- A coordinate in 32 bytes, highest byte first. -/
def coordinateOfBytes (bytes : List Byte) : Option Nat :=
  if bytes.length = 32 then some (leValue bytes.reverse) else none

def decryptGpruLedgerMemoV1 (owner : Owner) (memoPayload : Text) :
    Except SdkError GpruBalanceActionRecordV1 := do
  let binding ← parseGpruMemoBindingV1 memoPayload
  let (_, ledgerPayload) ← okOr (matchMemoBinding memoPayload) .noMemoBinding
  require (ledgerPayload ≠ [] ∧ ledgerPayload.all isBase64UrlChar = true) .notBase64Url
  let documentBytes ← okOr (platform.decodeLedgerSlots (slots 32 ledgerPayload))
    .invalidEnvelope
  let document ← okOr (decodeAscii documentBytes) .invalidEnvelope
  let envelope ← okOr (parseObject document) .invalidEnvelope
  require (envelope.lookup "version" = some (.num 1) ∧
    envelope.lookup "algorithm" = some (.str "dbrix-core-secretbox-v1".toList))
    .unsupportedEnvelope
  let dna ← hexField envelope "dna"
  let recordEphemeralPublicKey ← hexField envelope "recordEphemeralPublicKey"
  let key ← deriveGpruTransactionRecordKeyV1 platform owner dna recordEphemeralPublicKey
  let data ← stringField envelope "data"
  let nonce ← stringField envelope "nonce"
  let record ← okOr (platform.decrypt data nonce (compressionField envelope) key)
    .decryptionFailed
  let scanKey ← liftCipher (deriveGpruBalanceScanKeyV1 platform.sha256 owner.masterSeed)
  require (coordinateOfBytes owner.gpruBalanceScanPublicKeyX = some scanKey.publicKey.1.val ∧
    coordinateOfBytes owner.gpruBalanceScanPublicKeyY = some scanKey.publicKey.2.val)
    .scanKeyMismatch
  let delta ← liftCipher (decryptBalanceBlindingDeltaV1
    (hexTextValue binding.encryptedBlindingDelta) (hexTextValue binding.deltaEphemeralX)
    (hexTextValue binding.deltaEphemeralY) scanKey.secret)
  let validated ← validateGpruBalanceActionRecordV1 platform record delta
  require (validated.actionCommitment = binding.actionCommitment) .actionCommitmentMismatch
  return validated

end Decryption

end TsnProtocol.Sdk.TransactionRecord
