import TsnProtocol.Lib.PythonValues
import TsnProtocol.Node.DepositTransaction
import TsnProtocol.Node.PaymentAuthorization
import TsnProtocol.Node.ThresholdAccess
import TsnProtocol.Sdk.TinCreation

/-!
The Node's reading of a request for a new TIN: its fields, the hash that the owner must have
signed, the proof of issuance and the signature.
-/

namespace TsnProtocol.Node.TinOperation

open Bn254.Scalar (bn254ScalarOrder)
open Gpru.Verifier (asciiBytes)
open Lib.ByteReader
open Lib.Checked
open Lib.MessageFields
open Lib.PythonText
open Lib.PythonValues
open Lib.TextFormat
open Lib.Utf16
open Node.DepositTransaction (b64decode b64decode_b64encode)
open Node.PaymentAuthorization (Failure Result)
open Node.ThresholdAccess (decodeBase58)
open Sdk.TinCreation (CreationParams Encodable hashedParts bufferOf
  elgamalKeyCommitmentDomain)
open Solana.Address (Bytes32)
open Tip.OwnerApproval (canonicalOwnerIntentMessage)
open Tip.State (vecBytes)

/-- Functions of the libraries, and the secret of the issuer as bytes. -/
structure Platform where
  unicode : Unicode
  sha256 : List Byte → Bytes32
  hmacSha256 : List Byte → List Byte → Bytes32
  /-- `VerifyKey(key).verify(message, signature)`. -/
  verify : List Byte → List Byte → List Byte → Bool
  utf8 : Text → List Byte
  tinsLookupSecret : List Byte

section Fields

def refused (detail : String) : Failure := .http 422 detail

def requireString (payload : Payload) (names : List String) : Result Text := do
  let value := stripText (str (field payload names .none))
  require (isNone (field payload names .none) = false ∧ value ≠ [])
    (refused (names.headD "" ++ " is required"))
  return value

def decodeHash32 (value : Value) (label : String) : Result (List Byte) := do
  let text := stripText (str (orEmpty value))
  require (text.length = 64) (refused (label ++ " must be a 32-byte hex value"))
  let decoded ← okOr (fromHex text) (refused (label ++ " must be a 32-byte hex value"))
  require (decoded.length = 32) (refused (label ++ " must be a 32-byte hex value"))
  return decoded

def decodeBase64Blob (value : Value) (label : String) : Result (List Byte) := do
  let decoded ← okOr (b64decode (str (orEmpty value))) (refused (label ++ " must be base64"))
  require (decoded ≠ []) (refused (label ++ " must not be empty"))
  return decoded

/-- `Pubkey.from_string`. -/
def pubkeyFromString (value : Text) : Option (List Byte) := do
  let raw ← decodeBase58 (points (stripText value))
  guard (stripText value ≠ [] ∧ raw.length = 32)
  return raw

def decodeOwnerPubkey (value : Text) : Result (List Byte) := do
  let ownerBytes ← okOr (decodeBase58 (points value)) (refused "owner_pubkey is not valid base58")
  require (ownerBytes.length = 32) (refused "owner_pubkey must decode to 32 bytes")
  require ((pubkeyFromString value).isSome = true)
    (refused "owner_pubkey is not a valid Solana pubkey")
  return ownerBytes

/-- An exception that nothing catches. -/
def uncaught : Raised → Failure
  | .typeError => .other "TypeError"
  | .valueError => .other "ValueError"
  | .overflowError => .other "OverflowError"

def expiryFromInput (platform : Platform) (now : Int) (value : Value) : Result Int := do
  let expiry ← (match int platform.unicode value with
    | .ok expiry => .ok expiry
    | .error .overflowError => .error (uncaught .overflowError)
    | .error _ => .error (refused "expiry must be a unix timestamp in seconds"))
  require (now < expiry) (.http 409 "TIN operation intent is expired")
  return expiry

def intOr (platform : Platform) (value : Value) : Result Int :=
  match int platform.unicode value with
  | .ok number => .ok number
  | .error raised => .error (uncaught raised)

/-- `to_bytes(size, "little", signed=False)`. -/
def toBytes (size : Nat) (value : Int) : Result (List Byte) := do
  require (0 ≤ value ∧ value < 256 ^ size) (uncaught .overflowError)
  return leBytes size value.toNat

def encodeU32Le (value : Nat) : Result (List Byte) :=
  toBytes 4 value

def encodeSignedI64Le (value : Int) : Result (List Byte) := do
  require (-2 ^ 63 ≤ value ∧ value < 2 ^ 63) (uncaught .overflowError)
  return numberBytes (BitVec.ofInt 64 value)

/-- `bytes([value])`. -/
def oneByte (value : Int) : Result (List Byte) := do
  require (0 ≤ value ∧ value < 256) (uncaught .valueError)
  return bufferOf value

end Fields

/-- The registry version and the route, as they are read. -/
structure RouteFields where
  routeVersion : Int
  routeNonce : Text
  routeNonceBytes : List Byte
  (tipRouteVersion gpruElgamalKeyVersion : Int)
  (gpruElgamalPublicKey gpruElgamalKeyCommitment : List Byte)
  gpruBalanceScanKeyVersion : Int
  (gpruBalanceScanPublicKeyX gpruBalanceScanPublicKeyY policyCommitment : List Byte)

/-- What the request says, as it is read: texts, and the bytes that they stand for. -/
structure TinFields where
  (intentId ownerPubkey : Text)
  ownerBytes : List Byte
  ownerSignature : Text
  signatureBytes : List Byte
  ownerIntentHash : Text
  intentHashBytes : List Byte
  nonce : Text
  nonceBytes : List Byte
  expiry : Int
  lookupCommitment : Text
  lookupCommitmentBytes : List Byte
  encryptedIdentityEnvelope : Text
  encryptedIdentityBytes : List Byte
  encryptedTinRecovery : Text
  encryptedTinRecoveryBytes : List Byte
  encryptedMasterSeed : Text
  encryptedMasterSeedBytes : List Byte
  encryptedMetadataHash : Text
  metadataHashBytes : List Byte
  route : RouteFields

section Request

def isCanonicalScanKey (scanX scanY : Nat) : Bool :=
  scanX < bn254ScalarOrder && scanY < bn254ScalarOrder &&
    decide ((168700 * (scanX : Int) * scanX + scanY * scanY - 1 -
      168696 * scanX * scanX * scanY * scanY) % bn254ScalarOrder = 0)

def readRoute (platform : Platform) (payload : Payload) (nonceBytes : List Byte) :
    Result RouteFields := do
  let routeVersion ← intOr platform (field payload ["route_version", "routeVersion"] (.int 0))
  require (routeVersion = 1) (refused "Current TIN V1 registry version must be 1")
  let routeNonce ← requireString payload ["route_nonce", "routeNonce"]
  let routeNonceBytes ← decodeHash32 (.str routeNonce) "route_nonce"
  require (routeNonceBytes = nonceBytes)
    (refused "TIN V1 registry nonce must match the signed operation nonce")
  let tipRouteVersion ←
    intOr platform (field payload ["tip_route_version", "tipRouteVersion"] (.int 0))
  require (tipRouteVersion = 1) (refused "Current TIN V1 requires TIP route version 1")
  let elgamalVersion ←
    intOr platform (field payload ["gpru_elgamal_key_version", "gpruElgamalKeyVersion"] (.int 0))
  let elgamalKey ← decodeHash32
    (field payload ["gpru_elgamal_public_key", "gpruElgamalPublicKey"] (.str []))
    "gpru_elgamal_public_key"
  let elgamalCommitment ← decodeHash32
    (field payload ["gpru_elgamal_key_commitment", "gpruElgamalKeyCommitment"] (.str []))
    "gpru_elgamal_key_commitment"
  let scanVersion ← intOr platform
    (field payload ["gpru_balance_scan_key_version", "gpruBalanceScanKeyVersion"] (.int 0))
  let scanX ← decodeHash32
    (field payload ["gpru_balance_scan_public_key_x", "gpruBalanceScanPublicKeyX"] (.str []))
    "gpru_balance_scan_public_key_x"
  let scanY ← decodeHash32
    (field payload ["gpru_balance_scan_public_key_y", "gpruBalanceScanPublicKeyY"] (.str []))
    "gpru_balance_scan_public_key_y"
  let policy ← decodeHash32 (field payload ["policy_commitment", "policyCommitment"] (.str []))
    "policy_commitment"
  require (elgamalVersion = 1 ∧ scanVersion = 1 ∧
      ([elgamalKey, elgamalCommitment, scanX, scanY, policy].any
        fun value => value = List.replicate 32 0) = false)
    (refused "TIP requires nonzero versioned GPRU ElGamal key data and policy commitment")
  require (isCanonicalScanKey (beValue scanX) (beValue scanY) = true)
    (refused "GPRU balance scan public key is not a canonical BabyJubjub point")
  let versionByte ← oneByte elgamalVersion
  require (wordBytes (platform.sha256 (elgamalKeyCommitmentDomain ++ versionByte ++ elgamalKey)) =
      elgamalCommitment)
    (refused "GPRU ElGamal public key does not match its versioned commitment")
  return ⟨routeVersion, routeNonce, routeNonceBytes, tipRouteVersion, elgamalVersion, elgamalKey,
    elgamalCommitment, scanVersion, scanX, scanY, policy⟩

/-- The text of an entry that must not be given. -/
def absentText (payload : Payload) (names : List String) : Text :=
  stripText (str (orEmpty (field payload names (.str []))))

def readTin (platform : Platform) (now : Int) (newIntentId : Text) (payload : Payload) :
    Result TinFields := do
  let intentType ← requireString payload ["intent_type", "intentType"]
  require (intentType = "tin_creation".toList)
    (refused "Only current private TIN V1 creation is supported")
  let intentId := stripText (str (field payload ["intent_id", "intentId"] (.str newIntentId)))
  require (intentId ≠ []) (refused "intent_id must not be empty")
  require (absentText payload ["tin"] = [])
    (refused "TIN V1 creation must not submit a plaintext TIN")
  require (absentText payload ["display_name", "displayName"] = [])
    (refused "TIN V1 creation must keep the display name encrypted")
  let ownerPubkey ← requireString payload ["owner_pubkey", "ownerPubkey"]
  let ownerBytes ← decodeOwnerPubkey ownerPubkey
  let ownerSignature ← requireString payload ["owner_signature", "ownerSignature"]
  let signatureBytes ← decodeBase64Blob (.str ownerSignature) "owner_signature"
  require (signatureBytes.length = 64)
    (refused "owner_signature must be a 64-byte Ed25519 signature")
  let ownerIntentHash ← requireString payload ["owner_intent_hash", "ownerIntentHash"]
  let intentHashBytes ← decodeHash32 (.str ownerIntentHash) "owner_intent_hash"
  let nonce ← requireString payload ["nonce"]
  let nonceBytes ← decodeHash32 (.str nonce) "nonce"
  let expiry ← expiryFromInput platform now
    (field payload ["expiry", "expiry_ts", "expiryTs"] .none)
  let lookupCommitment ← requireString payload ["lookup_commitment", "lookupCommitment"]
  let lookupCommitmentBytes ← decodeHash32 (.str lookupCommitment) "lookup_commitment"
  let identityEnvelope ←
    requireString payload ["encrypted_identity_envelope", "encryptedIdentityEnvelope"]
  let identityBytes ← decodeBase64Blob (.str identityEnvelope) "encrypted_identity_envelope"
  let tinRecovery ← requireString payload ["encrypted_tin_recovery", "encryptedTinRecovery"]
  let tinRecoveryBytes ← decodeBase64Blob (.str tinRecovery) "encrypted_tin_recovery"
  let masterSeed ← requireString payload ["encrypted_master_seed", "encryptedMasterSeed"]
  let masterSeedBytes ← decodeBase64Blob (.str masterSeed) "encrypted_master_seed"
  require (identityBytes ≠ [] ∧ 28 ≤ tinRecoveryBytes.length ∧ masterSeedBytes ≠ [])
    (refused "TIN V1 encrypted identity, recovery, and owner seed envelopes are required")
  let metadataHash ← requireString payload ["encrypted_metadata_hash", "encryptedMetadataHash"]
  let metadataHashBytes ← decodeHash32 (.str metadataHash) "encrypted_metadata_hash"
  let route ← readRoute platform payload nonceBytes
  return ⟨intentId, ownerPubkey, ownerBytes, ownerSignature, signatureBytes, ownerIntentHash,
    intentHashBytes, nonce, nonceBytes, expiry, lookupCommitment, lookupCommitmentBytes,
    identityEnvelope, identityBytes, tinRecovery, tinRecoveryBytes, masterSeed, masterSeedBytes,
    metadataHash, metadataHashBytes, route⟩

end Request

/-- `expected_hash`: the hash that the owner must have signed. -/
def expectedHash (platform : Platform) (fields : TinFields) : Result Bytes32 := do
  let recoveryLength ← encodeU32Le fields.encryptedTinRecoveryBytes.length
  let identityLength ← encodeU32Le fields.encryptedIdentityBytes.length
  let masterSeedLength ← encodeU32Le fields.encryptedMasterSeedBytes.length
  let routeVersion ← toBytes 8 fields.route.routeVersion
  let tipRouteVersion ← oneByte fields.route.tipRouteVersion
  let elgamalVersion ← oneByte fields.route.gpruElgamalKeyVersion
  let scanVersion ← oneByte fields.route.gpruBalanceScanKeyVersion
  let expiry ← encodeSignedI64Le fields.expiry
  return platform.sha256 ([asciiBytes "TSN_TIN_V1_CREATE", fields.ownerBytes,
    fields.lookupCommitmentBytes, recoveryLength, fields.encryptedTinRecoveryBytes,
    identityLength, fields.encryptedIdentityBytes, masterSeedLength,
    fields.encryptedMasterSeedBytes, fields.metadataHashBytes, routeVersion,
    fields.route.routeNonceBytes, tipRouteVersion, elgamalVersion,
    fields.route.gpruElgamalPublicKey, fields.route.gpruElgamalKeyCommitment, scanVersion,
    fields.route.gpruBalanceScanPublicKeyX, fields.route.gpruBalanceScanPublicKeyY,
    fields.route.policyCommitment, expiry] : List (List Byte)).flatten

/-- The creation that a request describes. -/
def creationOf (fields : TinFields) : CreationParams where
  ownerPubkey := wordOfBytes fields.ownerBytes
  lookupCommitment := fields.lookupCommitmentBytes
  encryptedTinRecovery := fields.encryptedTinRecoveryBytes
  encryptedIdentityEnvelope := fields.encryptedIdentityBytes
  encryptedMasterSeed := fields.encryptedMasterSeedBytes
  encryptedMetadataHash := fields.metadataHashBytes
  routeVersion := fields.route.routeVersion
  routeNonce := fields.route.routeNonceBytes
  tipRouteVersion := fields.route.tipRouteVersion
  gpruElgamalPublicKey := fields.route.gpruElgamalPublicKey
  gpruElgamalKeyCommitment := fields.route.gpruElgamalKeyCommitment
  policyCommitment := fields.route.policyCommitment
  gpruElgamalKeyVersion := fields.route.gpruElgamalKeyVersion
  gpruBalanceScanKeyVersion := fields.route.gpruBalanceScanKeyVersion
  gpruBalanceScanPublicKeyX := fields.route.gpruBalanceScanPublicKeyX
  gpruBalanceScanPublicKeyY := fields.route.gpruBalanceScanPublicKeyY
  expiryTs := fields.expiry

section Reading

variable {platform : Platform} {payload : Payload} {now : Int} {newIntentId : Text}

theorem length_of_decodeHash32 {value : Value} {label : String} {bytes : List Byte}
    (hdecode : decodeHash32 value label = .ok bytes) : bytes.length = 32 := by
  simp only [decodeHash32, bind_eq_ok, require_eq_ok, okOr_eq_ok, pure_eq_ok, exists_and_left,
    exists_const, exists_eq_right_right] at hdecode
  exact hdecode.2.2

theorem length_of_decodeOwnerPubkey {value : Text} {bytes : List Byte}
    (hdecode : decodeOwnerPubkey value = .ok bytes) : bytes.length = 32 := by
  simp only [decodeOwnerPubkey, bind_eq_ok, require_eq_ok, okOr_eq_ok, pure_eq_ok,
    exists_and_left, exists_const] at hdecode
  obtain ⟨_, -, hlength, -, rfl⟩ := hdecode
  exact hlength

/-- What the checks of the route leave. -/
structure RouteFields.Valid (route : RouteFields) : Prop where
  routeVersion : route.routeVersion = 1
  tipRouteVersion : route.tipRouteVersion = 1
  elgamalVersion : route.gpruElgamalKeyVersion = 1
  scanVersion : route.gpruBalanceScanKeyVersion = 1
  routeNonce : route.routeNonceBytes.length = 32
  elgamalPublicKey : route.gpruElgamalPublicKey.length = 32
  elgamalKeyCommitment : route.gpruElgamalKeyCommitment.length = 32
  scanPublicKeyX : route.gpruBalanceScanPublicKeyX.length = 32
  scanPublicKeyY : route.gpruBalanceScanPublicKeyY.length = 32
  policyCommitment : route.policyCommitment.length = 32

theorem valid_of_readRoute {nonceBytes : List Byte} {route : RouteFields}
    (hread : readRoute platform payload nonceBytes = .ok route) : route.Valid := by
  simp only [readRoute, bind_eq_ok, require_eq_ok, pure_eq_ok, exists_and_left,
    exists_const] at hread
  obtain ⟨_, -, hversion, _, -, _, hnonce, -, _, -, htip, _, -, _, hkey, _, hcommitment, _, -, _,
    hx, _, hy, _, hpolicy, ⟨helgamal, hscan, -⟩, -, _, -, -, rfl⟩ := hread
  exact ⟨hversion, htip, helgamal, hscan, length_of_decodeHash32 hnonce,
    length_of_decodeHash32 hkey, length_of_decodeHash32 hcommitment, length_of_decodeHash32 hx,
    length_of_decodeHash32 hy, length_of_decodeHash32 hpolicy⟩

/-- What the checks of a request leave. -/
structure TinFields.Valid (fields : TinFields) : Prop where
  owner : fields.ownerBytes.length = 32
  lookupCommitment : fields.lookupCommitmentBytes.length = 32
  metadataHash : fields.metadataHashBytes.length = 32
  route : fields.route.Valid

theorem valid_of_readTin {fields : TinFields}
    (hread : readTin platform now newIntentId payload = .ok fields) : fields.Valid := by
  simp only [readTin, bind_eq_ok, require_eq_ok, pure_eq_ok, exists_and_left,
    exists_const] at hread
  obtain ⟨_, -, -, -, -, -, _, -, _, howner, _, -, _, -, -, _, -, _, -, _, -, _, -, _, -, _, -,
    _, hlookup, _, -, _, -, _, -, _, -, _, -, _, -, -, _, -, _, hmetadata, _, hroute, rfl⟩ := hread
  exact ⟨length_of_decodeOwnerPubkey howner, length_of_decodeHash32 hlookup,
    length_of_decodeHash32 hmetadata, valid_of_readRoute hroute⟩

theorem toBytes_eq_ok {size : Nat} {value : Int} {bytes : List Byte} :
    toBytes size value = .ok bytes ↔
      (0 ≤ value ∧ value < 256 ^ size) ∧ leBytes size value.toNat = bytes := by
  simp only [toBytes, bind_eq_ok, require_eq_ok, pure_eq_ok, exists_and_left, exists_const]

theorem encodeU32Le_eq_ok {value : Nat} {bytes : List Byte} :
    encodeU32Le value = .ok bytes ↔ value < 2 ^ 32 ∧ leBytes 4 value = bytes := by
  rw [encodeU32Le, toBytes_eq_ok, Int.toNat_natCast]
  refine and_congr_left fun _ => ⟨fun hrange => by omega, fun hrange => by omega⟩

theorem encodeSignedI64Le_eq_ok {value : Int} {bytes : List Byte} :
    encodeSignedI64Le value = .ok bytes ↔
      (-2 ^ 63 ≤ value ∧ value < 2 ^ 63) ∧ numberBytes (BitVec.ofInt 64 value) = bytes := by
  simp only [encodeSignedI64Le, bind_eq_ok, require_eq_ok, pure_eq_ok, exists_and_left,
    exists_const]

theorem oneByte_one : oneByte 1 = .ok (bufferOf 1) := rfl

theorem flatten_nodeParts {fields : TinFields} (hvalid : fields.Valid) :
    ([asciiBytes "TSN_TIN_V1_CREATE", fields.ownerBytes, fields.lookupCommitmentBytes,
      leBytes 4 fields.encryptedTinRecoveryBytes.length, fields.encryptedTinRecoveryBytes,
      leBytes 4 fields.encryptedIdentityBytes.length, fields.encryptedIdentityBytes,
      leBytes 4 fields.encryptedMasterSeedBytes.length, fields.encryptedMasterSeedBytes,
      fields.metadataHashBytes, leBytes 8 (1 : Int).toNat, fields.route.routeNonceBytes,
      bufferOf 1, bufferOf 1, fields.route.gpruElgamalPublicKey,
      fields.route.gpruElgamalKeyCommitment, bufferOf 1, fields.route.gpruBalanceScanPublicKeyX,
      fields.route.gpruBalanceScanPublicKeyY, fields.route.policyCommitment,
      numberBytes (BitVec.ofInt 64 fields.expiry)] : List (List Byte)).flatten =
      (hashedParts (creationOf fields)).flatten := by
  simp only [hashedParts, creationOf, hvalid.route.routeVersion, hvalid.route.tipRouteVersion,
    hvalid.route.elgamalVersion, hvalid.route.scanVersion, wordBytes_wordOfBytes hvalid.owner,
    vecBytes, List.flatten_cons, List.flatten_nil, List.append_assoc]

theorem encodable_creationOf {fields : TinFields} (hvalid : fields.Valid)
    (hblobs : fields.encryptedTinRecoveryBytes.length < 2 ^ 32 ∧
      fields.encryptedIdentityBytes.length < 2 ^ 32 ∧
      fields.encryptedMasterSeedBytes.length < 2 ^ 32)
    (hexpiry : -2 ^ 63 ≤ fields.expiry ∧ fields.expiry < 2 ^ 63) :
    Encodable (creationOf fields) where
  routeVersion := by
    have hversion : (creationOf fields).routeVersion = 1 := hvalid.route.routeVersion
    rw [hversion]
    decide
  expiry := hexpiry
  lookupCommitment := hvalid.lookupCommitment
  recovery := hblobs.1
  identity := hblobs.2.1
  masterSeed := hblobs.2.2
  metadataHash := hvalid.metadataHash
  routeNonce := hvalid.route.routeNonce
  elgamalPublicKey := hvalid.route.elgamalPublicKey
  elgamalKeyCommitment := hvalid.route.elgamalKeyCommitment
  scanPublicKeyX := hvalid.route.scanPublicKeyX
  scanPublicKeyY := hvalid.route.scanPublicKeyY
  policyCommitment := hvalid.route.policyCommitment

/-- The Node hashes what the client hashes. -/
theorem expectedHash_eq_ok {fields : TinFields} {digest : Bytes32} (hvalid : fields.Valid) :
    expectedHash platform fields = .ok digest ↔
      Encodable (creationOf fields) ∧
        platform.sha256 (hashedParts (creationOf fields)).flatten = digest := by
  simp only [expectedHash, bind_eq_ok, pure_eq_ok, encodeU32Le_eq_ok, encodeSignedI64Le_eq_ok,
    toBytes_eq_ok, and_assoc, exists_and_left, exists_eq_left', hvalid.route.routeVersion,
    hvalid.route.tipRouteVersion, hvalid.route.elgamalVersion, hvalid.route.scanVersion,
    oneByte_one, Except.ok.injEq, flatten_nodeParts hvalid]
  constructor
  · rintro ⟨hrecovery, hidentity, hseed, -, -, hearly, hlate, rfl⟩
    exact ⟨encodable_creationOf hvalid ⟨hrecovery, hidentity, hseed⟩ ⟨hearly, hlate⟩, rfl⟩
  · rintro ⟨hparams, rfl⟩
    exact ⟨hparams.recovery, hparams.identity, hparams.masterSeed, by decide, by decide,
      hparams.expiry.1, hparams.expiry.2, rfl⟩

end Reading

end TsnProtocol.Node.TinOperation
