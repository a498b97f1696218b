import TsnProtocol.Lib.Utf16
import TsnProtocol.Solana.Address

/-!
The SDK's proof that an authorized device takes part in a threshold action: the canonical
fields it signs, the wallet authorization it is bound to, and the request that carries both.
-/

namespace TsnProtocol.Sdk.DeviceAccess

open Lib.ByteReader
open Lib.Checked
open Lib.TextFormat
open Lib.Utf16
open Solana.Address (Bytes32)

/-- A string of JavaScript. -/
abbrev JsString := List CodeUnit

def js (text : String) : JsString :=
  units text.toList

/-- What both sides take from their platforms: SHA-256, Ed25519, `toISOString` of a time in
milliseconds, and `datetime.fromisoformat`, as microseconds and whether a zone is given. -/
structure Platform where
  sha256 : List Byte → Bytes32
  verify : (key message signature : List Byte) → Bool
  toIsoString : Int → Text
  fromIsoFormat : List CodePoint → Option (Int × Bool)

/-- `new TextEncoder().encode`. -/
def textEncode (string : JsString) : List Byte :=
  encodeReplacing (codePoints string)

def canonicalFields (fields : List JsString) : List Byte :=
  textEncode ((js "|").intercalate
    (fields.map fun field => units (decimal field.length) ++ (js ":" ++ field)))

def bytesToBase64Url (value : List Byte) : Text :=
  stripPadding (base64 '-' '_' value)

def sha256Hex (platform : Platform) (value : List Byte) : Text :=
  hexText (wordBytes (platform.sha256 value))

structure JsonWebKey where
  (kty crv x : JsString)

def fingerprintDeviceSigningPublicKey (platform : Platform) (key : JsonWebKey) : JsString :=
  units (sha256Hex platform
    (canonicalFields [js "TSN_DEVICE_SIGNING_KEY_V1", key.kty, key.crv, key.x]))

def fingerprintEncryptionPublicKey (platform : Platform) (key : JsonWebKey)
    (purpose : JsString) : JsString :=
  units (sha256Hex platform (canonicalFields
    [js "TSN_OWNER_CONTROLLED_ENCRYPTION_KEY_V1", purpose, key.kty, key.crv, key.x]))

/-- Lower case, of the letters of ASCII: it is only taken of hexadecimal texts. -/
def toLowerCase (string : JsString) : JsString :=
  string.map fun unit => if 65 ≤ unit.toNat ∧ unit.toNat ≤ 90 then unit + 32 else unit

/-- `/^[a-f0-9]{64}$/i`. -/
def isHash32 (string : JsString) : Bool :=
  string.length = 64 ∧ ∀ unit ∈ string, (48 ≤ unit.toNat ∧ unit.toNat ≤ 57) ∨
    (65 ≤ unit.toNat ∧ unit.toNat ≤ 70) ∨ (97 ≤ unit.toNat ∧ unit.toNat ≤ 102)

inductive SdkError where
  | routeVersion | hash32 (label : String) | resourceCommitment | signingKey | possession
  deriving DecidableEq

/-- What a wallet and a device authorize an action on. -/
structure AccessContext where
  (tin ownerPublicKey : JsString)
  routeVersion : Nat
  (pruConfigurationHash resourceCommitment deviceSessionBinding : JsString)

/-- The message of the main wallet; a route version is a positive safe integer. -/
def serializeTinMasterSeedWalletAuthorization (params : AccessContext) :
    Except SdkError (List Byte) := do
  require (1 ≤ params.routeVersion ∧ params.routeVersion < 2 ^ 53) .routeVersion
  require (isHash32 params.pruConfigurationHash) (.hash32 "pruConfigurationHash")
  require (isHash32 params.resourceCommitment) (.hash32 "resourceCommitment")
  return canonicalFields [js "TSN_TIN_MASTER_SEED_ACCESS", params.tin, params.ownerPublicKey,
    units (decimal params.routeVersion), toLowerCase params.pruConfigurationHash,
    toLowerCase params.resourceCommitment, params.deviceSessionBinding]

inductive Operation where
  | protectKey | releaseKey
  deriving DecidableEq

def Operation.text : Operation → String
  | .protectKey => "PROTECT_KEY"
  | .releaseKey => "RELEASE_KEY"

structure TinAuthorizedDeviceSigner where
  deviceId : JsString
  signingPublicKey : JsonWebKey
  signingKeyFingerprint : JsString
  encryptionPublicKey : JsonWebKey
  encryptionKeyFingerprint : JsString
  signMessage : List Byte → List Byte

/-- A proof, whose version and domain are constants. -/
structure TinDeviceAccessProof extends AccessContext where
  operation : Operation
  (deviceId deviceSigningKeyFingerprint : JsString)
  deviceSigningPublicKey : JsonWebKey
  deviceEncryptionKeyFingerprint : JsString
  deviceEncryptionPublicKey : JsonWebKey
  (walletAuthorizationCommitment requestNonce issuedAt expiresAt signatureBase64Url : JsString)

def proofVersion : String := "tsn-tin-device-access-proof"
def proofDomain : String := "TSN_TIN_DEVICE_THRESHOLD_ACCESS"

/-- A code point inside a string of JSON. -/
def escapeUnits : CodePoint → JsString
  | .char '"' => js "\\\""
  | .char '\\' => js "\\\\"
  | .char '\x08' => js "\\b"
  | .char '\x0c' => js "\\f"
  | .char '\n' => js "\\n"
  | .char '\r' => js "\\r"
  | .char '\t' => js "\\t"
  | .char other =>
      if other.toNat < 32 then js "\\u00" ++ units (hexText [BitVec.ofNat 8 other.toNat])
      else charUnits other
  | .lone unit => js "\\u" ++ units (hexText (beBytes 2 unit.toNat))

def quoteUnits (string : JsString) : JsString :=
  js "\"" ++ ((codePoints string).flatMap escapeUnits ++ js "\"")

def stringifyKey (key : JsonWebKey) : JsString :=
  js "\x7b\"kty\":" ++ quoteUnits key.kty ++ js ",\"crv\":" ++ quoteUnits key.crv ++
    js ",\"x\":" ++ quoteUnits key.x ++ js "\x7d"

def serializeTinDeviceAccessProof (proof : TinDeviceAccessProof) : List Byte :=
  canonicalFields [js proofDomain, js proofVersion, js proof.operation.text, proof.tin,
    proof.ownerPublicKey, units (decimal proof.routeVersion),
    toLowerCase proof.pruConfigurationHash, proof.deviceSessionBinding, proof.deviceId,
    proof.deviceSigningKeyFingerprint, stringifyKey proof.deviceSigningPublicKey,
    proof.deviceEncryptionKeyFingerprint, stringifyKey proof.deviceEncryptionPublicKey,
    proof.walletAuthorizationCommitment, proof.resourceCommitment, proof.requestNonce,
    proof.issuedAt, proof.expiresAt]

/-- `crypto.subtle.importKey` of an Ed25519 key: unpadded base64url of its 32 bytes. -/
def importSigningKey (key : JsonWebKey) : Option (List Byte) := do
  let text ← textOf (codePoints key.x)
  let bytes := decodeBase64 (base64Value '-') text
  if key.kty = js "OKP" ∧ key.crv = js "Ed25519" ∧ bytesToBase64Url bytes = text ∧
      bytes.length = 32 then
    some bytes
  else none

/-- `createTinDeviceAccessProof`, with the random nonce and the time it takes. -/
def createTinDeviceAccessProof (platform : Platform) (operation : Operation)
    (context : AccessContext) (walletAuthorizationMessage : List Byte)
    (device : TinAuthorizedDeviceSigner) (nonce : List Byte) (now : Int) :
    Except SdkError TinDeviceAccessProof := do
  require (isHash32 context.resourceCommitment) .resourceCommitment
  let unsigned : TinDeviceAccessProof := {
    toAccessContext := context
    operation
    deviceId := device.deviceId
    deviceSigningKeyFingerprint := device.signingKeyFingerprint
    deviceSigningPublicKey := device.signingPublicKey
    deviceEncryptionKeyFingerprint := device.encryptionKeyFingerprint
    deviceEncryptionPublicKey := device.encryptionPublicKey
    walletAuthorizationCommitment := units (sha256Hex platform walletAuthorizationMessage)
    requestNonce := units (bytesToBase64Url nonce)
    issuedAt := units (platform.toIsoString now)
    expiresAt := units (platform.toIsoString (now + 5 * 60 * 1000))
    signatureBase64Url := [] }
  let message := serializeTinDeviceAccessProof unsigned
  let signature := device.signMessage message
  let publicKey ← okOr (importSigningKey device.signingPublicKey) .signingKey
  require (platform.verify publicKey message signature = true) .possession
  return { unsigned with signatureBase64Url := units (bytesToBase64Url signature) }

def requestDomain : String := "TSN_TIN_THRESHOLD_KEY_ACTION"

/-- What the SDK sends for a threshold action, besides the key that the action is about. -/
structure LitTinActionRequest where
  operation : Operation
  access : AccessContext
  (walletAuthorizationMessageBase64Url walletAuthorizationSignatureBase64Url : JsString)
  deviceAccessProof : TinDeviceAccessProof

/-- `createLitTinProtectKeyRequest` and `createLitTinReleaseKeyRequest`. -/
def createLitTinActionRequest (operation : Operation) (access : AccessContext)
    (walletAuthorizationMessage walletAuthorizationSignature : List Byte)
    (deviceAccessProof : TinDeviceAccessProof) : LitTinActionRequest where
  operation
  access
  walletAuthorizationMessageBase64Url := units (bytesToBase64Url walletAuthorizationMessage)
  walletAuthorizationSignatureBase64Url := units (bytesToBase64Url walletAuthorizationSignature)
  deviceAccessProof

end TsnProtocol.Sdk.DeviceAccess
