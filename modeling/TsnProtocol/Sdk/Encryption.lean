import TsnProtocol.Sdk.DeviceAccess

/-!
The encryption of private receipts and the form in which they are stored. The stored form leaves
the tag out, and the reader takes it for a part of the ciphertext.
-/

namespace TsnProtocol.Sdk.Encryption

open Lib.ByteReader
open Lib.Checked
open Lib.TextFormat
open Sdk.DeviceAccess (JsString js textEncode)
open Solana.Address (Bytes32)

/-- What the module calls: X25519, HKDF, SHA-256 and AES-GCM, which appends its tag. -/
structure Suite where
  publicKey : List Byte → List Byte
  before : List Byte → List Byte → List Byte
  hkdf : List Byte → List Byte → Nat → List Byte
  sha256 : List Byte → Bytes32
  encrypt : List Byte → List Byte → List Byte → List Byte
  decrypt : List Byte → List Byte → List Byte → Option (List Byte)

structure Documented (suite : Suite) : Prop where
  length_publicKey : ∀ secret, secret.length = 32 → (suite.publicKey secret).length = 32
  before_comm : ∀ first second,
    suite.before (suite.publicKey first) second = suite.before (suite.publicKey second) first
  length_hkdf : ∀ secret info size, (suite.hkdf secret info size).length = size
  length_encrypt : ∀ key iv plaintext,
    (suite.encrypt key iv plaintext).length = plaintext.length + 16
  decrypt_iff : ∀ key iv data plaintext,
    suite.decrypt key iv data = some plaintext ↔ data = suite.encrypt key iv plaintext

structure EncryptionContext where
  (receiptId tinHash deviceId protocolVersion : JsString)
  deriving DecidableEq

structure EncryptedPayload where
  (ciphertext iv ephemeralPublicKey authTag : List Byte)
  context : EncryptionContext

structure EncryptionMetadata where
  (algorithm protocolVersion : String)
  (iv ephemeralPublicKey contextHash : Text)
  createdAt : JsString

structure EncryptedResult where
  ciphertext : Text
  metadata : EncryptionMetadata

/-- `Buffer.from(bytes).toString("base64")`. -/
def toBase64 (bytes : List Byte) : Text :=
  base64 '+' '/' bytes

/-- `Buffer.from(text, "base64")` of a text of base-64 digits. -/
def fromBase64 (text : Text) : List Byte :=
  decodeBase64 (base64Value '+') (stripPadding text)

def buildContextString (context : EncryptionContext) : List Byte :=
  textEncode ((js "|").intercalate [js "tsn_receipt_v1", context.protocolVersion,
    context.receiptId, context.tinHash, context.deviceId])

variable (suite : Suite)

def deriveSharedSecret (privateKey peerPublicKey : List Byte) : Except String (List Byte) := do
  require (privateKey.length = 32 ∧ peerPublicKey.length = 32) "Invalid key length for X25519"
  return suite.before peerPublicKey privateKey

def deriveEncryptionKey (sharedSecret : List Byte) (context : EncryptionContext) : List Byte :=
  suite.hkdf sharedSecret (buildContextString context) 32

def hashContext (context : EncryptionContext) : Bytes32 :=
  suite.sha256 (buildContextString context)

/-- The ciphertext and the tag; the plaintext is an array that owns its buffer. -/
def encryptAes256Gcm (plaintext key iv : List Byte) : Except String (List Byte × List Byte) := do
  require (key.length = 32) "Invalid key length"
  require (iv.length = 12) "Invalid IV length"
  let encrypted := suite.encrypt key iv plaintext
  return (encrypted.take (encrypted.length - 16), encrypted.drop (encrypted.length - 16))

def decryptAes256Gcm (ciphertext authTag key iv : List Byte) : Except String (List Byte) := do
  require (key.length = 32) "Invalid key length"
  require (iv.length = 12) "Invalid IV length"
  okOr (suite.decrypt key iv (ciphertext ++ authTag)) "OperationError"

/-- `iv` is what `generateIv` draws. -/
def encryptWithEcdh (plaintext senderPrivateKey recipientPublicKey : List Byte)
    (context : EncryptionContext) (iv : List Byte) : Except String EncryptedPayload := do
  let sharedSecret ← deriveSharedSecret suite senderPrivateKey recipientPublicKey
  let encryptionKey := deriveEncryptionKey suite sharedSecret context
  let (ciphertext, authTag) ← encryptAes256Gcm suite plaintext encryptionKey iv
  return ⟨ciphertext, iv, suite.publicKey senderPrivateKey, authTag, context⟩

def decryptWithEcdh (payload : EncryptedPayload) (recipientPrivateKey : List Byte) :
    Except String (List Byte) := do
  let sharedSecret ← deriveSharedSecret suite recipientPrivateKey payload.ephemeralPublicKey
  let decryptionKey := deriveEncryptionKey suite sharedSecret payload.context
  decryptAes256Gcm suite payload.ciphertext payload.authTag decryptionKey payload.iv

/-- `createdAt` is the time of the call. -/
def serializeEncryptedPayload (payload : EncryptedPayload) (createdAt : JsString) :
    EncryptedResult where
  ciphertext := toBase64 payload.ciphertext
  metadata := {
    algorithm := "x25519-ecdh-hkdf-sha256-aes256-gcm"
    protocolVersion := "1.0"
    iv := toBase64 payload.iv
    ephemeralPublicKey := toBase64 payload.ephemeralPublicKey
    contextHash := hexText (wordBytes (hashContext suite payload.context))
    createdAt }

def deserializeEncryptedPayload (ciphertext : Text) (metadata : EncryptionMetadata)
    (context : EncryptionContext) : EncryptedPayload where
  ciphertext := fromBase64 ciphertext
  iv := fromBase64 metadata.iv
  ephemeralPublicKey := fromBase64 metadata.ephemeralPublicKey
  authTag := []
  context

/-- A plaintext that is encrypted, stored, read again in the same context and decrypted. -/
def reopened (plaintext senderPrivateKey recipientPrivateKey : List Byte)
    (context : EncryptionContext) (iv : List Byte) (createdAt : JsString) :
    Except String (List Byte) := do
  let payload ← encryptWithEcdh suite plaintext senderPrivateKey
    (suite.publicKey recipientPrivateKey) context iv
  let stored := serializeEncryptedPayload suite payload createdAt
  decryptWithEcdh suite (deserializeEncryptedPayload stored.ciphertext stored.metadata context)
    recipientPrivateKey

section Storage

variable {suite} {plaintext senderPrivateKey recipientPrivateKey iv : List Byte}
  {context : EncryptionContext} {payload : EncryptedPayload}

theorem fromBase64_toBase64 (bytes : List Byte) : fromBase64 (toBase64 bytes) = bytes :=
  decodeBase64_base64 (by decide) (by decide) bytes

/-- The parts of an encrypted payload: the ciphertext is as long as the plaintext. -/
theorem encryptWithEcdh_spec (hsuite : Documented suite)
    (hencrypt : encryptWithEcdh suite plaintext senderPrivateKey
      (suite.publicKey recipientPrivateKey) context iv = .ok payload) :
    payload.ciphertext.length = plaintext.length ∧ payload.iv = iv ∧ iv.length = 12 ∧
      payload.ephemeralPublicKey = suite.publicKey senderPrivateKey ∧
      payload.context = context ∧ senderPrivateKey.length = 32 ∧
      payload.ciphertext ++ payload.authTag =
        suite.encrypt (deriveEncryptionKey suite
          (suite.before (suite.publicKey recipientPrivateKey) senderPrivateKey) context)
          iv plaintext := by
  simp only [encryptWithEcdh, deriveSharedSecret, encryptAes256Gcm, bind_eq_ok, require_eq_ok,
    pure_eq_ok] at hencrypt
  obtain ⟨secret, ⟨_, ⟨hsender, -⟩, rfl⟩, _, ⟨_, -, _, hiv, rfl⟩, rfl⟩ := hencrypt
  refine ⟨?_, rfl, hiv, rfl, rfl, hsender, List.take_append_drop _ _⟩
  rw [List.length_take, hsuite.length_encrypt]
  omega

end Storage

/-- A stored payload never opens: what is decrypted is sixteen bytes shorter than what an
encryption of the plaintext would be. -/
theorem stored_payload_never_opens (hsuite : Documented suite)
    (plaintext senderPrivateKey recipientPrivateKey : List Byte) (context : EncryptionContext)
    (iv : List Byte) (createdAt : JsString) :
    reopened suite plaintext senderPrivateKey recipientPrivateKey context iv createdAt ≠
      .ok plaintext := by
  intro hopened
  simp only [reopened, bind_eq_ok] at hopened
  obtain ⟨payload, hencrypt, hdecrypt⟩ := hopened
  have hlength := (encryptWithEcdh_spec hsuite hencrypt).1
  simp only [decryptWithEcdh, deserializeEncryptedPayload, serializeEncryptedPayload,
    decryptAes256Gcm, bind_eq_ok, okOr_eq_ok, fromBase64_toBase64, List.append_nil,
    hsuite.decrypt_iff] at hdecrypt
  obtain ⟨_, -, _, -, _, -, hdata⟩ := hdecrypt
  rw [hdata, hsuite.length_encrypt] at hlength
  omega

section Sample

/-- A suite with the sizes of the real one; the tag is taken from the key. -/
def sampleSuite : Suite where
  publicKey secret := secret
  before first second := List.zipWith (· ^^^ ·) first second
  hkdf secret info size := (secret ++ info ++ List.replicate size 0).take size
  sha256 _ := 7
  encrypt key _ plaintext := plaintext ++ (key ++ List.replicate 16 0).take 16
  decrypt key _ data :=
    let plaintext := data.take (data.length - 16)
    if data = plaintext ++ (key ++ List.replicate 16 0).take 16 then some plaintext else none

theorem documented_sampleSuite : Documented sampleSuite where
  length_publicKey _ hsecret := hsecret
  before_comm first second := List.zipWith_comm_of_comm BitVec.xor_comm
  length_hkdf secret info size := by
    simp only [sampleSuite, List.length_take, List.length_append, List.length_replicate]
    omega
  length_encrypt key iv plaintext := by
    simp only [sampleSuite, List.length_take, List.length_append, List.length_replicate]
    omega
  decrypt_iff key iv data plaintext := by
    simp only [sampleSuite, Option.ite_none_right_eq_some, Option.some.injEq]
    constructor
    · rintro ⟨hdata, hplaintext⟩
      rwa [hplaintext] at hdata
    · rintro rfl
      have hlength : ((key ++ List.replicate 16 0).take 16).length = 16 := by
        simp only [List.length_take, List.length_append, List.length_replicate]
        omega
      rw [List.length_append, hlength, Nat.add_sub_cancel, List.take_left]
      exact ⟨rfl, rfl⟩

def sampleContext : EncryptionContext where
  receiptId := js "a|b"
  tinHash := js "c"
  deviceId := js "d"
  protocolVersion := js "1.0"

/-- The separator has moved into another field. -/
def shiftedContext : EncryptionContext :=
  { sampleContext with
    receiptId := js "a"
    tinHash := js "b|c" }

theorem stored_payload_sample :
    reopened sampleSuite [1, 2, 3] (List.replicate 32 4) (List.replicate 32 5) sampleContext
      (List.replicate 12 6) (js "2026-07-03T00:00:00.000Z") ≠ .ok [1, 2, 3] :=
  stored_payload_never_opens sampleSuite documented_sampleSuite _ _ _ _ _ _

/-- Three bytes are lost in the storage, and two contexts derive one key. -/
theorem stored_payload_lost :
    reopened sampleSuite [1, 2, 3] (List.replicate 32 4) (List.replicate 32 5) sampleContext
        (List.replicate 12 6) (js "2026-07-03T00:00:00.000Z") = .error "OperationError" ∧
      sampleContext ≠ shiftedContext ∧
      buildContextString sampleContext = buildContextString shiftedContext := by
  decide +kernel

end Sample

end TsnProtocol.Sdk.Encryption
