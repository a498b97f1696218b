import TsnProtocol.Sdk.DeltaCipher
import TsnProtocol.Tip.OwnerIntent

/-!
Creation of a TIN in the client: the hash its owner signs, and the instruction data.
-/

namespace TsnProtocol.Sdk.TinCreation

open Circomlib.BabyJub (babyJubSuborder)
open Gpru.Verifier (asciiBytes)
open Lib.ByteReader
open Lib.Checked
open Lib.MessageFields
open Sdk.DeltaCipher
open Solana.Address (Bytes32)
open Tip.OwnerIntent
open Tip.Registrar (CreateTinV1Params ownerIntentPreimage)
open Tip.State (TipRoute vecBytes elgamalKeyPreimage)

/-- An error with its text, or a number that a buffer does not take. -/
inductive Failure where
  | error (text : String)
  | rangeError
  deriving DecidableEq

abbrev Result := Except Failure

section Buffers

def normalizeHash32 (value : Option (List Byte)) (label : String) : Result (List Byte) :=
  match value with
  | none => .ok (List.replicate 32 0)
  | some bytes => do
      require (bytes.length = 32) (.error (label ++ " must be exactly 32 bytes"))
      return bytes

def requireHash32 (value : Option (List Byte)) (label : String) : Result (List Byte) :=
  match value with
  | none => .error (.error (label ++ " is required"))
  | some bytes => normalizeHash32 (some bytes) label

def writeBigUInt64LE (value : Int) : Result (List Byte) := do
  require (0 ≤ value ∧ value < 2 ^ 64) .rangeError
  return leBytes 8 value.toNat

def writeBigInt64LE (value : Int) : Result (List Byte) := do
  require (-2 ^ 63 ≤ value ∧ value < 2 ^ 63) .rangeError
  return numberBytes (BitVec.ofInt 64 value)

def u32LengthPrefixed (value : List Byte) : Result (List Byte) := do
  require (value.length < 2 ^ 32) .rangeError
  return vecBytes value

/-- `appendBytes`: the length and the bytes, pushed one after the other. -/
def appendBytes (parts : List (List Byte)) (value : List Byte) : Result (List (List Byte)) := do
  require (value.length < 2 ^ 32) .rangeError
  return parts ++ [leBytes 4 value.length, value]

/-- `Buffer.from([value])` keeps the lowest eight bits. -/
def bufferOf (value : Int) : List Byte :=
  [BitVec.ofInt 8 value]

def encodeInstruction (tag : Byte) (parts : List (List Byte)) : List Byte :=
  ([tag] :: parts).flatten

variable {value : List Byte} {label : String} {bytes : List Byte} {number : Int}

theorem normalizeHash32_eq_ok :
    normalizeHash32 (some value) label = .ok bytes ↔ value.length = 32 ∧ value = bytes := by
  simp only [normalizeHash32, bind_eq_ok, require_eq_ok, pure_eq_ok, exists_and_left,
    exists_const]

theorem requireHash32_eq_ok :
    requireHash32 (some value) label = .ok bytes ↔ value.length = 32 ∧ value = bytes :=
  normalizeHash32_eq_ok

theorem writeBigUInt64LE_eq_ok :
    writeBigUInt64LE number = .ok bytes ↔
      (0 ≤ number ∧ number < 2 ^ 64) ∧ leBytes 8 number.toNat = bytes := by
  simp only [writeBigUInt64LE, bind_eq_ok, require_eq_ok, pure_eq_ok, exists_and_left,
    exists_const]

theorem writeBigInt64LE_eq_ok :
    writeBigInt64LE number = .ok bytes ↔
      (-2 ^ 63 ≤ number ∧ number < 2 ^ 63) ∧ numberBytes (BitVec.ofInt 64 number) = bytes := by
  simp only [writeBigInt64LE, bind_eq_ok, require_eq_ok, pure_eq_ok, exists_and_left,
    exists_const]

theorem u32LengthPrefixed_eq_ok :
    u32LengthPrefixed value = .ok bytes ↔ value.length < 2 ^ 32 ∧ vecBytes value = bytes := by
  simp only [u32LengthPrefixed, bind_eq_ok, require_eq_ok, pure_eq_ok, exists_and_left,
    exists_const]

theorem appendBytes_eq_ok {parts result : List (List Byte)} :
    appendBytes parts value = .ok result ↔
      value.length < 2 ^ 32 ∧ parts ++ [leBytes 4 value.length, value] = result := by
  simp only [appendBytes, bind_eq_ok, require_eq_ok, pure_eq_ok, exists_and_left,
    exists_const]

end Buffers

section Route

/-- `isValidBabyJubPointV1`: a point of the subgroup other than the neutral one. -/
def isValidBabyJubPointV1 (x y : Nat) : Bool :=
  isCanonicalPoint x y && !(x = 0 && y = 1) && multiply (x, y) babyJubSuborder = (0, 1)

def elgamalKeyCommitmentDomain : List Byte :=
  asciiBytes "TSN_GPRU_ELGAMAL_KEY_COMMITMENT_V1" ++ [0]

def deriveGpruElgamalKeyCommitment (sha256 : List Byte → Bytes32) (version : Int)
    (publicKey : List Byte) : Result Bytes32 := do
  require (version = 1) (.error "Unsupported GPRU ElGamal key version")
  require (publicKey.length = 32 ∧ publicKey.all (· = 0) = false)
    (.error "GPRU ElGamal public key must be a nonzero 32-byte value")
  return sha256 (elgamalKeyCommitmentDomain ++ bufferOf version ++ publicKey)

def nonZero32 (value : List Byte) : Bool :=
  value.length = 32 && !value.all (· = 0)

/-- What a caller gives for a creation: byte strings of any length and integers. -/
structure CreationParams where
  ownerPubkey : Bytes32
  (lookupCommitment encryptedTinRecovery encryptedIdentityEnvelope encryptedMasterSeed
    encryptedMetadataHash : List Byte)
  routeVersion : Int
  routeNonce : List Byte
  tipRouteVersion : Int
  (gpruElgamalPublicKey gpruElgamalKeyCommitment policyCommitment : List Byte)
  (gpruElgamalKeyVersion gpruBalanceScanKeyVersion : Int)
  (gpruBalanceScanPublicKeyX gpruBalanceScanPublicKeyY : List Byte)
  expiryTs : Int
  deriving DecidableEq

def scanPointValid (params : CreationParams) : Bool :=
  params.gpruBalanceScanPublicKeyX.length = 32 && params.gpruBalanceScanPublicKeyY.length = 32 &&
    isValidBabyJubPointV1 (beValue params.gpruBalanceScanPublicKeyX)
      (beValue params.gpruBalanceScanPublicKeyY)

/-- The derivation of the commitment does not throw behind the checks before it. -/
def validateTinTipRoute (sha256 : List Byte → Bytes32) (params : CreationParams) : Bool :=
  params.tipRouteVersion = 1 && params.gpruElgamalKeyVersion = 1 &&
    params.gpruBalanceScanKeyVersion = 1 &&
    nonZero32 params.gpruElgamalPublicKey && nonZero32 params.gpruElgamalKeyCommitment &&
    nonZero32 params.gpruBalanceScanPublicKeyX && nonZero32 params.gpruBalanceScanPublicKeyY &&
    scanPointValid params && nonZero32 params.policyCommitment &&
    match deriveGpruElgamalKeyCommitment sha256 params.gpruElgamalKeyVersion
        params.gpruElgamalPublicKey with
    | .ok commitment => wordBytes commitment = params.gpruElgamalKeyCommitment
    | .error _ => false

end Route

/-- The hash that the owner of a new TIN signs. -/
def createTinV1OwnerIntentHash (sha256 : List Byte → Bytes32) (params : CreationParams) :
    Result Bytes32 := do
  let routeVersion ← writeBigUInt64LE params.routeVersion
  require (routeVersion ≠ List.replicate 8 0) (.error "routeVersion must be positive")
  let expiry ← writeBigInt64LE params.expiryTs
  let lookupCommitment ← normalizeHash32 (some params.lookupCommitment) "lookupCommitment"
  let encryptedTinRecovery ← u32LengthPrefixed params.encryptedTinRecovery
  let encryptedIdentityEnvelope ← u32LengthPrefixed params.encryptedIdentityEnvelope
  let encryptedMasterSeed ← u32LengthPrefixed params.encryptedMasterSeed
  let encryptedMetadataHash ←
    normalizeHash32 (some params.encryptedMetadataHash) "encryptedMetadataHash"
  let routeNonce ← requireHash32 (some params.routeNonce) "routeNonce"
  let gpruElgamalPublicKey ←
    normalizeHash32 (some params.gpruElgamalPublicKey) "gpruElgamalPublicKey"
  let gpruElgamalKeyCommitment ←
    normalizeHash32 (some params.gpruElgamalKeyCommitment) "gpruElgamalKeyCommitment"
  let gpruBalanceScanPublicKeyX ←
    normalizeHash32 (some params.gpruBalanceScanPublicKeyX) "gpruBalanceScanPublicKeyX"
  let gpruBalanceScanPublicKeyY ←
    normalizeHash32 (some params.gpruBalanceScanPublicKeyY) "gpruBalanceScanPublicKeyY"
  let policyCommitment ← normalizeHash32 (some params.policyCommitment) "policyCommitment"
  return sha256 ([asciiBytes "TSN_TIN_V1_CREATE", wordBytes params.ownerPubkey, lookupCommitment,
    encryptedTinRecovery, encryptedIdentityEnvelope, encryptedMasterSeed, encryptedMetadataHash,
    routeVersion, routeNonce, bufferOf params.tipRouteVersion,
    bufferOf params.gpruElgamalKeyVersion, gpruElgamalPublicKey, gpruElgamalKeyCommitment,
    bufferOf params.gpruBalanceScanKeyVersion, gpruBalanceScanPublicKeyX,
    gpruBalanceScanPublicKeyY, policyCommitment, expiry] : List (List Byte)).flatten

/-- The data of the instruction that creates a TIN. -/
def serializeTinV1CreationParams (sha256 : List Byte → Bytes32) (params : CreationParams)
    (intentHash : Option (List Byte)) : Result (List Byte) := do
  let lookupCommitment ← normalizeHash32 (some params.lookupCommitment) "lookupCommitment"
  let routeVersion ← writeBigUInt64LE params.routeVersion
  require (routeVersion ≠ List.replicate 8 0) (.error "routeVersion must be positive")
  let routeNonce ← requireHash32 (some params.routeNonce) "routeNonce"
  let gpruElgamalPublicKey ←
    normalizeHash32 (some params.gpruElgamalPublicKey) "gpruElgamalPublicKey"
  let gpruElgamalKeyCommitment ←
    normalizeHash32 (some params.gpruElgamalKeyCommitment) "gpruElgamalKeyCommitment"
  let policyCommitment ← normalizeHash32 (some params.policyCommitment) "policyCommitment"
  require (validateTinTipRoute sha256 params = true) (.error
    ("TIN creation requires a valid versioned GPRU ElGamal key commitment and TIP policy " ++
      "commitment"))
  let body ← appendBytes [wordBytes params.ownerPubkey, lookupCommitment]
    params.encryptedTinRecovery
  let body ← appendBytes body params.encryptedIdentityEnvelope
  let body ← appendBytes body params.encryptedMasterSeed
  let encryptedMetadataHash ←
    normalizeHash32 (some params.encryptedMetadataHash) "encryptedMetadataHash"
  let gpruBalanceScanPublicKeyX ←
    normalizeHash32 (some params.gpruBalanceScanPublicKeyX) "gpruBalanceScanPublicKeyX"
  let gpruBalanceScanPublicKeyY ←
    normalizeHash32 (some params.gpruBalanceScanPublicKeyY) "gpruBalanceScanPublicKeyY"
  let body := body ++ [encryptedMetadataHash, routeVersion, routeNonce,
    bufferOf params.tipRouteVersion, bufferOf params.gpruElgamalKeyVersion, gpruElgamalPublicKey,
    gpruElgamalKeyCommitment, bufferOf params.gpruBalanceScanKeyVersion,
    gpruBalanceScanPublicKeyX, gpruBalanceScanPublicKeyY, policyCommitment]
  let expiry ← writeBigInt64LE params.expiryTs
  let expectedIntentHash :=
    wordBytes (sha256 ((asciiBytes "TSN_TIN_V1_CREATE" :: body) ++ [expiry]).flatten)
  let intentHash ← requireHash32 intentHash "intentHash"
  require (expectedIntentHash = intentHash)
    (.error "intentHash does not match CreateTinV1 payload")
  return encodeInstruction 17 (body ++ [expectedIntentHash, expiry])

/-- What both functions ask of the fields that they hash. -/
structure Encodable (params : CreationParams) : Prop where
  routeVersion : 0 < params.routeVersion ∧ params.routeVersion < 2 ^ 64
  expiry : -2 ^ 63 ≤ params.expiryTs ∧ params.expiryTs < 2 ^ 63
  lookupCommitment : params.lookupCommitment.length = 32
  recovery : params.encryptedTinRecovery.length < 2 ^ 32
  identity : params.encryptedIdentityEnvelope.length < 2 ^ 32
  masterSeed : params.encryptedMasterSeed.length < 2 ^ 32
  metadataHash : params.encryptedMetadataHash.length = 32
  routeNonce : params.routeNonce.length = 32
  elgamalPublicKey : params.gpruElgamalPublicKey.length = 32
  elgamalKeyCommitment : params.gpruElgamalKeyCommitment.length = 32
  scanPublicKeyX : params.gpruBalanceScanPublicKeyX.length = 32
  scanPublicKeyY : params.gpruBalanceScanPublicKeyY.length = 32
  policyCommitment : params.policyCommitment.length = 32

/-- The parameters of the program that a creation stands for. -/
def programParams (params : CreationParams) (intentHash : Bytes32) : CreateTinV1Params where
  ownerPubkey := params.ownerPubkey
  lookupCommitment := wordOfBytes params.lookupCommitment
  encryptedTinRecovery := params.encryptedTinRecovery
  encryptedIdentityEnvelope := params.encryptedIdentityEnvelope
  encryptedMasterSeed := params.encryptedMasterSeed
  encryptedMetadataHash := wordOfBytes params.encryptedMetadataHash
  routeVersion := BitVec.ofInt 64 params.routeVersion
  routeNonce := wordOfBytes params.routeNonce
  route :=
    { tipRouteVersion := BitVec.ofInt 8 params.tipRouteVersion
      gpruElgamalKeyVersion := BitVec.ofInt 8 params.gpruElgamalKeyVersion
      gpruElgamalPublicKey := wordOfBytes params.gpruElgamalPublicKey
      gpruElgamalKeyCommitment := wordOfBytes params.gpruElgamalKeyCommitment
      gpruBalanceScanKeyVersion := BitVec.ofInt 8 params.gpruBalanceScanKeyVersion
      gpruBalanceScanPublicKeyX := wordOfBytes params.gpruBalanceScanPublicKeyX
      gpruBalanceScanPublicKeyY := wordOfBytes params.gpruBalanceScanPublicKeyY
      policyCommitment := wordOfBytes params.policyCommitment }
  intentHash := intentHash
  expiryTs := BitVec.ofInt 64 params.expiryTs

section Agreement

variable {sha256 : List Byte → Bytes32} {params : CreationParams}

theorem leBytes_zero_iff {number : Int} (hlow : 0 ≤ number) (hhigh : number < 2 ^ 64) :
    leBytes 8 number.toNat = List.replicate 8 0 ↔ number = 0 := by
  refine ⟨fun hbytes => ?_, fun hzero => by rw [hzero]; decide⟩
  have hvalue := congrArg leValue hbytes
  rw [leValue_leBytes, show leValue (List.replicate 8 0) = 0 by decide,
    Nat.mod_eq_of_lt (by omega)] at hvalue
  omega

theorem sized_programParams (hparams : Encodable params) (intentHash : Bytes32) :
    Sized (programParams params intentHash) :=
  ⟨hparams.recovery, hparams.identity, hparams.masterSeed⟩

theorem numberBytes_routeVersion {number : Int} (hlow : 0 ≤ number) (hhigh : number < 2 ^ 64) :
    numberBytes (BitVec.ofInt 64 number) = leBytes 8 number.toNat := by
  rw [numberBytes, BitVec.toNat_ofInt, Int.emod_eq_of_lt hlow (by omega)]

/-- The parts that are hashed, as the client and the Node list them. -/
def hashedParts (params : CreationParams) : List (List Byte) :=
  [asciiBytes "TSN_TIN_V1_CREATE", wordBytes params.ownerPubkey, params.lookupCommitment,
    vecBytes params.encryptedTinRecovery, vecBytes params.encryptedIdentityEnvelope,
    vecBytes params.encryptedMasterSeed, params.encryptedMetadataHash,
    leBytes 8 params.routeVersion.toNat, params.routeNonce, bufferOf params.tipRouteVersion,
    bufferOf params.gpruElgamalKeyVersion, params.gpruElgamalPublicKey,
    params.gpruElgamalKeyCommitment, bufferOf params.gpruBalanceScanKeyVersion,
    params.gpruBalanceScanPublicKeyX, params.gpruBalanceScanPublicKeyY, params.policyCommitment,
    numberBytes (BitVec.ofInt 64 params.expiryTs)]

theorem flatten_hashedParts (hparams : Encodable params) (intentHash : Bytes32) :
    (hashedParts params).flatten = ownerIntentPreimage (programParams params intentHash) := by
  have hversion := numberBytes_routeVersion (le_of_lt hparams.routeVersion.1)
    hparams.routeVersion.2
  simp only [ownerIntentPreimage, programParams, TipRoute.fields, hashedParts, List.flatten_cons,
    List.flatten_nil, List.append_nil, List.append_assoc,
    wordBytes_wordOfBytes hparams.lookupCommitment, wordBytes_wordOfBytes hparams.metadataHash,
    wordBytes_wordOfBytes hparams.routeNonce, wordBytes_wordOfBytes hparams.elgamalPublicKey,
    wordBytes_wordOfBytes hparams.elgamalKeyCommitment,
    wordBytes_wordOfBytes hparams.scanPublicKeyX, wordBytes_wordOfBytes hparams.scanPublicKeyY,
    wordBytes_wordOfBytes hparams.policyCommitment, ← hversion]
  rfl

/-- What is hashed are the bytes that the program hashes. -/
theorem createTinV1OwnerIntentHash_eq_ok {digest : Bytes32} :
    createTinV1OwnerIntentHash sha256 params = .ok digest ↔
      Encodable params ∧ sha256 (hashedParts params).flatten = digest := by
  simp only [createTinV1OwnerIntentHash, bind_eq_ok, require_eq_ok, pure_eq_ok,
    normalizeHash32_eq_ok, requireHash32_eq_ok, writeBigUInt64LE_eq_ok, writeBigInt64LE_eq_ok,
    u32LengthPrefixed_eq_ok, and_assoc, exists_and_left, exists_eq_left', exists_const]
  constructor
  · rintro ⟨hlow, hhigh, hpositive, hearly, hlate, hlookup, hrecovery, hidentity, hseed, hmetadata,
      hnonce, hkey, hcommitment, hx, hy, hpolicy, rfl⟩
    rw [Ne, leBytes_zero_iff hlow hhigh] at hpositive
    exact ⟨⟨⟨by omega, hhigh⟩, ⟨hearly, hlate⟩, hlookup, hrecovery, hidentity, hseed, hmetadata,
      hnonce, hkey, hcommitment, hx, hy, hpolicy⟩, rfl⟩
  · rintro ⟨hparams, rfl⟩
    have hlow := hparams.routeVersion.1
    refine ⟨le_of_lt hlow, hparams.routeVersion.2, ?_, hparams.expiry.1, hparams.expiry.2,
      hparams.lookupCommitment, hparams.recovery, hparams.identity, hparams.masterSeed,
      hparams.metadataHash, hparams.routeNonce, hparams.elgamalPublicKey,
      hparams.elgamalKeyCommitment, hparams.scanPublicKeyX, hparams.scanPublicKeyY,
      hparams.policyCommitment, rfl⟩
    rw [Ne, leBytes_zero_iff (le_of_lt hlow) hparams.routeVersion.2]
    omega

/-- What `serializeTinV1CreationParams` collects before the hash. -/
def serializedBody (params : CreationParams) : List (List Byte) :=
  [wordBytes params.ownerPubkey, params.lookupCommitment] ++
    [leBytes 4 params.encryptedTinRecovery.length, params.encryptedTinRecovery] ++
    [leBytes 4 params.encryptedIdentityEnvelope.length, params.encryptedIdentityEnvelope] ++
    [leBytes 4 params.encryptedMasterSeed.length, params.encryptedMasterSeed] ++
    [params.encryptedMetadataHash, leBytes 8 params.routeVersion.toNat, params.routeNonce,
      bufferOf params.tipRouteVersion, bufferOf params.gpruElgamalKeyVersion,
      params.gpruElgamalPublicKey, params.gpruElgamalKeyCommitment,
      bufferOf params.gpruBalanceScanKeyVersion, params.gpruBalanceScanPublicKeyX,
      params.gpruBalanceScanPublicKeyY, params.policyCommitment]

theorem flatten_preimage (params : CreationParams) :
    (asciiBytes "TSN_TIN_V1_CREATE" :: (serializedBody params ++
      [numberBytes (BitVec.ofInt 64 params.expiryTs)])).flatten = (hashedParts params).flatten := by
  simp only [serializedBody, hashedParts, vecBytes, List.flatten_cons, List.flatten_nil,
    List.append_assoc, List.cons_append, List.nil_append]

theorem encodeInstruction_body (hparams : Encodable params) (intentHash : Bytes32) :
    encodeInstruction 17 (serializedBody params ++
        [wordBytes intentHash, numberBytes (BitVec.ofInt 64 params.expiryTs)]) =
      17 :: creationBytes (programParams params intentHash) := by
  have hversion := numberBytes_routeVersion (le_of_lt hparams.routeVersion.1)
    hparams.routeVersion.2
  simp only [encodeInstruction, serializedBody, creationBytes, programParams, TipRoute.fields,
    vecBytes, List.flatten_cons, List.flatten_nil, List.append_nil, List.append_assoc,
    List.cons_append, List.nil_append,
    wordBytes_wordOfBytes hparams.lookupCommitment, wordBytes_wordOfBytes hparams.metadataHash,
    wordBytes_wordOfBytes hparams.routeNonce, wordBytes_wordOfBytes hparams.elgamalPublicKey,
    wordBytes_wordOfBytes hparams.elgamalKeyCommitment,
    wordBytes_wordOfBytes hparams.scanPublicKeyX, wordBytes_wordOfBytes hparams.scanPublicKeyY,
    wordBytes_wordOfBytes hparams.policyCommitment, hversion]
  rfl

/-- The data of the instruction are its tag and the parameters that were hashed. -/
theorem serializeTinV1CreationParams_eq_ok {intentHash data : List Byte} :
    serializeTinV1CreationParams sha256 params (some intentHash) = .ok data ↔
      Encodable params ∧ validateTinTipRoute sha256 params = true ∧
        intentHash = wordBytes (sha256 (hashedParts params).flatten) ∧
        data = 17 :: creationBytes
          (programParams params (sha256 (hashedParts params).flatten)) := by
  simp only [serializeTinV1CreationParams, bind_eq_ok, require_eq_ok, pure_eq_ok,
    normalizeHash32_eq_ok, requireHash32_eq_ok, writeBigUInt64LE_eq_ok, writeBigInt64LE_eq_ok,
    appendBytes_eq_ok, and_assoc, exists_and_left, exists_eq_left', exists_const]
  rw [← serializedBody, List.cons_append, flatten_preimage]
  constructor
  · rintro ⟨hlookup, hlow, hhigh, hpositive, hnonce, hkey, hcommitment, hpolicy, hroute, hrecovery,
      hidentity, hseed, hmetadata, hx, hy, hearly, hlate, hsize, hhash, rfl⟩
    rw [Ne, leBytes_zero_iff hlow hhigh] at hpositive
    have hparams : Encodable params := ⟨⟨by omega, hhigh⟩, ⟨hearly, hlate⟩, hlookup, hrecovery,
      hidentity, hseed, hmetadata, hnonce, hkey, hcommitment, hx, hy, hpolicy⟩
    exact ⟨hparams, hroute, hhash.symm, encodeInstruction_body hparams _⟩
  · rintro ⟨hparams, hroute, rfl, rfl⟩
    have hlow := hparams.routeVersion.1
    refine ⟨hparams.lookupCommitment, le_of_lt hlow, hparams.routeVersion.2, ?_,
      hparams.routeNonce, hparams.elgamalPublicKey, hparams.elgamalKeyCommitment,
      hparams.policyCommitment, hroute, hparams.recovery, hparams.identity, hparams.masterSeed,
      hparams.metadataHash, hparams.scanPublicKeyX, hparams.scanPublicKeyY, hparams.expiry.1,
      hparams.expiry.2, length_wordBytes _, rfl, encodeInstruction_body hparams _⟩
    rw [Ne, leBytes_zero_iff (le_of_lt hlow) hparams.routeVersion.2]
    omega

end Agreement

end TsnProtocol.Sdk.TinCreation
