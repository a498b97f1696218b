import TsnProtocol.Sdk.DeviceAccess

/-!
The Node's check of a threshold access request: the exact fields, the wallet authorization,
the keys of the device, the time window, and the signature of the device.
-/

namespace TsnProtocol.Node.ThresholdAccess

open Lib.ByteReader
open Lib.Checked
open Lib.TextFormat
open Lib.Utf16
open Sdk.DeviceAccess (Platform sha256Hex)

/-- A string of Python. -/
abbrev PyString := List CodePoint

def py (text : String) : PyString :=
  points text.toList

/-- A `ThresholdAccessError` with its text, or a string that has no UTF-8. -/
inductive AccessError where
  | refused (text : String)
  | unicodeEncode
  deriving DecidableEq

/-- An integer or a truth value, which counts as one. -/
inductive PyInt where
  | int (value : Int)
  | bool (flag : Bool)
  deriving DecidableEq

def PyInt.value : PyInt → Int
  | .int value => value
  | .bool flag => if flag then 1 else 0

def PyInt.text : PyInt → PyString
  | .int value => points (if value < 0 then '-' :: decimal value.natAbs else decimal value.natAbs)
  | .bool flag => py (if flag then "True" else "False")

/-- A key: the texts of its members, empty where there is none. -/
structure PyKey where
  (kty crv x : PyString)

/-- The dictionary under `access`; what is missing or of another type is `none`. -/
structure Access where
  (tin ownerPublicKey : Option PyString)
  routeVersion : Option PyInt
  (pruConfigurationHash resourceCommitment deviceSessionBinding : Option PyString)

/-- The dictionary under `deviceAccessProof`; its route version may be any number. -/
structure DeviceProof where
  (version domain operation tin ownerPublicKey : Option PyString)
  routeVersion : Option Rat
  (pruConfigurationHash resourceCommitment deviceSessionBinding deviceId
    deviceSigningKeyFingerprint : Option PyString)
  deviceSigningPublicKey : Option PyKey
  deviceEncryptionKeyFingerprint : Option PyString
  deviceEncryptionPublicKey : Option PyKey
  (walletAuthorizationCommitment requestNonce issuedAt expiresAt signatureBase64Url
    : Option PyString)

structure ThresholdRequest where
  (domain operation : Option PyString)
  access : Option Access
  deviceAccessProof : Option DeviceProof
  (walletAuthorizationMessageBase64Url walletAuthorizationSignatureBase64Url : Option PyString)

structure Verified where
  (operation tin ownerPublicKey resourceCommitment requestNonce issuedAt expiresAt deviceId
    : PyString)
  deriving DecidableEq

/-- `_canonical_fields`, without UTF-8 where a string has none. -/
def canonicalFields (fields : List PyString) : Option (List Byte) :=
  encodeStrict ((py "|").intercalate
    (fields.map fun field => points (decimal field.length) ++ (py ":" ++ field)))

/-- The loop of `binascii.a2b_base64`: the digits of the open group and the padding behind
them. Characters of no digit are passed over, and padding that fills a group ends the data. -/
def a2bBase64 : Text → Nat → Text → Option (List Byte)
  | digits, _, [] => if digits = [] then some [] else none
  | digits, pads, character :: rest =>
      if character = '=' then
        if 2 ≤ digits.length then
          if 4 ≤ digits.length + (pads + 1) then some (decodeBase64 (base64Value '+') digits)
          else a2bBase64 digits (pads + 1) rest
        else a2bBase64 digits pads rest
      else if character.isAlphanum ∨ character = '+' ∨ character = '/' then
        if digits.length = 3 then
          (decodeBase64 (base64Value '+') (digits ++ [character]) ++ ·) <$> a2bBase64 [] 0 rest
        else a2bBase64 (digits ++ [character]) 0 rest
      else a2bBase64 digits pads rest

/-- `base64.urlsafe_b64decode(value + "=" * (-len(value) % 4))`, of a text in ASCII. -/
def base64urlDecode (value : PyString) (label : String) : Except AccessError (List Byte) :=
  okOr (do
    let text ← textOf value
    if isAscii text then
      a2bBase64 [] 0 ((text ++ List.replicate ((4 - text.length % 4) % 4) '=').map fun character =>
        if character = '-' then '+' else if character = '_' then '/' else character)
    else none) (.refused (label ++ " is invalid"))

def hashHex (platform : Platform) (value : List Byte) : PyString :=
  points (sha256Hex platform value)

def requireString (value : Option PyString) (label : String) : Except AccessError PyString := do
  let text ← okOr value (.refused (label ++ " is required"))
  require (text ≠ []) (.refused (label ++ " is required"))
  return text

/-- Lower case, of the letters of ASCII: no other character becomes a hexadecimal digit. -/
def lower (value : PyString) : PyString :=
  value.map fun
    | .char character => .char character.toLower
    | .lone unit => .lone unit

def isHexDigit : CodePoint → Bool
  | .char character => isLowerHexDigit character
  | .lone _ => false

def requireHash (value : Option PyString) (label : String) : Except AccessError PyString := do
  let text := lower (← requireString value label)
  require (text.length = 64 ∧ text.all isHexDigit = true)
    (.refused (label ++ " must be a 32-byte hexadecimal commitment"))
  return text

/-- A key that is checked, and its 32 bytes. -/
def canonicalJwk (value : Option PyKey) (curve : String) (label : String) :
    Except AccessError (PyKey × List Byte) := do
  let canonical ← okOr value (.refused (label ++ " is invalid"))
  require (canonical.kty = py "OKP" ∧ canonical.crv = py curve)
    (.refused (label ++ " must be an OKP " ++ curve ++ " public key"))
  let raw ← base64urlDecode canonical.x label
  require (raw.length = 32) (.refused (label ++ " must contain a 32-byte public key"))
  return (canonical, raw)

/-- `text.replace("Z", "+00:00")`. -/
def replaceZone (text : PyString) : PyString :=
  text.flatMap fun point => if point = .char 'Z' then py "+00:00" else [point]

/-- A time in microseconds. -/
def parseTime (platform : Platform) (value : Option PyString) (label : String) :
    Except AccessError Int := do
  let text ← requireString value label
  let parsed ← okOr (platform.fromIsoFormat (replaceZone text)) (.refused (label ++ " is invalid"))
  require (parsed.2 = true) (.refused (label ++ " must include a timezone"))
  return parsed.1

def base58Alphabet : Text :=
  "123456789ABCDEFGHJKLMNPQRSTUVWXYZabcdefghijkmnopqrstuvwxyz".toList

/-- `decode_base58`: a number, in as many bytes as it takes, behind a zero for each leading
one. -/
def decodeBase58 (value : PyString) : Option (List Byte) := do
  let text ← textOf value
  let digits ← text.mapM base58Alphabet.idxOf?
  let number := digits.foldl (fun number digit => number * 58 + digit) 0
  return List.replicate (text.takeWhile (· = '1')).length 0 ++
    if number = 0 then [] else beBytes ((Nat.log2 number + 8) / 8) number

/-- A code point inside a string of JSON in ASCII. -/
def escapePoints : CodePoint → PyString
  | .char '"' => py "\\\""
  | .char '\\' => py "\\\\"
  | .char '\x08' => py "\\b"
  | .char '\x0c' => py "\\f"
  | .char '\n' => py "\\n"
  | .char '\r' => py "\\r"
  | .char '\t' => py "\\t"
  | .char other =>
      if 32 ≤ other.toNat ∧ other.toNat ≤ 126 then [.char other]
      else (charUnits other).flatMap fun unit =>
        py "\\u" ++ points (hexText (beBytes 2 unit.toNat))
  | .lone unit => py "\\u" ++ points (hexText (beBytes 2 unit.toNat))

def quotePoints (string : PyString) : PyString :=
  py "\"" ++ (string.flatMap escapePoints ++ py "\"")

def dumpKey (key : PyKey) : PyString :=
  py "\x7b\"kty\":" ++ quotePoints key.kty ++ py ",\"crv\":" ++ quotePoints key.crv ++
    py ",\"x\":" ++ quotePoints key.x ++ py "\x7d"

def accessDomain : String := "TSN_TIN_THRESHOLD_KEY_ACTION"
def deviceProofDomain : String := "TSN_TIN_DEVICE_THRESHOLD_ACCESS"
def deviceProofVersion : String := "tsn-tin-device-access-proof"
def walletAccessDomain : String := "TSN_TIN_MASTER_SEED_ACCESS"
def maxProofLifetime : Int := 5 * 60 * 1000000

def mismatch (field : String) : AccessError :=
  .refused ("authorized-device proof " ++ field ++ " does not match")

/-- The fields that the request and the proof both carry. -/
structure ExactFields where
  (operation tin owner : PyString)
  routeVersion : PyInt
  (pruHash resource session : PyString)

/-- The loop over `exact_fields`. -/
def requireExactFields (proof : DeviceProof) (fields : ExactFields) : Except AccessError Unit := do
  require (proof.operation = some fields.operation) (mismatch "operation")
  require (proof.tin = some fields.tin) (mismatch "tin")
  require (proof.ownerPublicKey = some fields.owner) (mismatch "ownerPublicKey")
  require (proof.routeVersion = some (fields.routeVersion.value : Rat)) (mismatch "routeVersion")
  require (proof.pruConfigurationHash.map lower = some fields.pruHash)
    (mismatch "pruConfigurationHash")
  require (proof.resourceCommitment.map lower = some fields.resource)
    (mismatch "resourceCommitment")
  require (proof.deviceSessionBinding = some fields.session) (mismatch "deviceSessionBinding")

def requireOperation (value : Option PyString) : Except AccessError PyString := do
  let operation ← requireString value "operation"
  require (operation = py "PROTECT_KEY" ∨ operation = py "RELEASE_KEY")
    (.refused "threshold action operation is invalid")
  return operation

def requireFields (operation : PyString) (access : Access) : Except AccessError ExactFields := do
  let tin ← requireString access.tin "access.tin"
  let owner ← requireString access.ownerPublicKey "access.ownerPublicKey"
  let routeVersion ← okOr access.routeVersion
    (.refused "access.routeVersion must be a positive integer")
  require (1 ≤ routeVersion.value) (.refused "access.routeVersion must be a positive integer")
  let pruHash ← requireHash access.pruConfigurationHash "access.pruConfigurationHash"
  let resource ← requireHash access.resourceCommitment "access.resourceCommitment"
  let session ← requireString access.deviceSessionBinding "access.deviceSessionBinding"
  return ⟨operation, tin, owner, routeVersion, pruHash, resource, session⟩

/-- The message of the main wallet, which has signed it. -/
def requireWallet (platform : Platform) (request : ThresholdRequest) (proof : DeviceProof)
    (fields : ExactFields) : Except AccessError Unit := do
  let walletMessage ← base64urlDecode (← requireString request.walletAuthorizationMessageBase64Url
    "wallet authorization message") "wallet authorization message"
  let expected ← okOr (canonicalFields [py walletAccessDomain, fields.tin, fields.owner,
    fields.routeVersion.text, fields.pruHash, fields.resource, fields.session]) .unicodeEncode
  require (walletMessage = expected) (.refused "main-wallet authorization message does not match")
  require (proof.walletAuthorizationCommitment = some (hashHex platform walletMessage))
    (.refused "device proof is not bound to the wallet authorization")
  let walletSignature ← base64urlDecode (← requireString
    request.walletAuthorizationSignatureBase64Url "wallet authorization signature")
    "wallet authorization signature"
  let ownerKey ← okOr (decodeBase58 fields.owner)
    (.refused "main-wallet authorization signature is invalid")
  require (ownerKey.length = 32 ∧ platform.verify ownerKey walletMessage walletSignature = true)
    (.refused "main-wallet authorization signature is invalid")

/-- The keys of the device, checked and bound to the session. -/
structure DeviceKeys where
  signingJwk : PyKey
  signingKey : List Byte
  encryptionJwk : PyKey
  (signingFingerprint encryptionFingerprint : PyString)

def requireDeviceKeys (platform : Platform) (proof : DeviceProof) (session : PyString) :
    Except AccessError DeviceKeys := do
  let signing ← canonicalJwk proof.deviceSigningPublicKey "Ed25519" "device signing public key"
  let encryption ← canonicalJwk proof.deviceEncryptionPublicKey "X25519"
    "device encryption public key"
  let signingFields ← okOr (canonicalFields [py "TSN_DEVICE_SIGNING_KEY_V1", signing.1.kty,
    signing.1.crv, signing.1.x]) .unicodeEncode
  let encryptionFields ← okOr (canonicalFields [py "TSN_OWNER_CONTROLLED_ENCRYPTION_KEY_V1",
    py "device", encryption.1.kty, encryption.1.crv, encryption.1.x]) .unicodeEncode
  let signingFingerprint := hashHex platform signingFields
  let encryptionFingerprint := hashHex platform encryptionFields
  require (proof.deviceSigningKeyFingerprint = some signingFingerprint)
    (.refused "device signing-key fingerprint is invalid")
  require (proof.deviceEncryptionKeyFingerprint = some encryptionFingerprint)
    (.refused "device encryption-key fingerprint is invalid")
  require (py ":device:" ++ signingFingerprint ++ py ":encryption:" ++ encryptionFingerprint <:+
    session) (.refused "threshold session is not bound to the authorized device")
  return ⟨signing.1, signing.2, encryption.1, signingFingerprint, encryptionFingerprint⟩

def requireWindow (platform : Platform) (proof : DeviceProof) (now : Int) :
    Except AccessError Unit := do
  let issuedAt ← parseTime platform proof.issuedAt "proof.issuedAt"
  let expiresAt ← parseTime platform proof.expiresAt "proof.expiresAt"
  require (0 < expiresAt - issuedAt ∧ expiresAt - issuedAt ≤ maxProofLifetime ∧
    issuedAt - now ≤ 30 * 1000000 ∧ now < expiresAt)
    (.refused "authorized-device proof is expired or invalid")

/-- The message that the device has signed. -/
def deviceMessage (fields : ExactFields) (keys : DeviceKeys) (deviceId commitment nonce issuedAt
    expiresAt : PyString) : Option (List Byte) :=
  canonicalFields [py deviceProofDomain, py deviceProofVersion, fields.operation, fields.tin,
    fields.owner, fields.routeVersion.text, fields.pruHash, fields.session, deviceId,
    keys.signingFingerprint, dumpKey keys.signingJwk, keys.encryptionFingerprint,
    dumpKey keys.encryptionJwk, commitment, fields.resource, nonce, issuedAt, expiresAt]

def requireDevice (platform : Platform) (proof : DeviceProof) (fields : ExactFields)
    (keys : DeviceKeys) : Except AccessError Verified := do
  let deviceId ← requireString proof.deviceId "proof.deviceId"
  let commitment ← requireHash proof.walletAuthorizationCommitment "walletAuthorizationCommitment"
  let nonce ← requireString proof.requestNonce "proof.requestNonce"
  let issuedAt ← requireString proof.issuedAt "proof.issuedAt"
  let expiresAt ← requireString proof.expiresAt "proof.expiresAt"
  let message ← okOr (deviceMessage fields keys deviceId commitment nonce issuedAt expiresAt)
    .unicodeEncode
  let signature ← base64urlDecode (← requireString proof.signatureBase64Url "device signature")
    "device signature"
  require (platform.verify keys.signingKey message signature = true)
    (.refused "authorized-device signature is invalid")
  return ⟨fields.operation, fields.tin, fields.owner, fields.resource, nonce, issuedAt, expiresAt,
    deviceId⟩

/-- `verify_threshold_access_request`, at a time in microseconds. -/
def verifyThresholdAccessRequest (platform : Platform) (now : Int) (request : ThresholdRequest) :
    Except AccessError Verified := do
  require (request.domain = some (py accessDomain))
    (.refused "threshold action request domain is invalid")
  let operation ← requireOperation request.operation
  let access ← okOr request.access (.refused "threshold action access proof is incomplete")
  let proof ← okOr request.deviceAccessProof
    (.refused "threshold action access proof is incomplete")
  let fields ← requireFields operation access
  require (proof.version = some (py deviceProofVersion) ∧
    proof.domain = some (py deviceProofDomain))
    (.refused "authorized-device proof version or domain is invalid")
  requireExactFields proof fields
  requireWallet platform request proof fields
  let keys ← requireDeviceKeys platform proof fields.session
  requireWindow platform proof now
  requireDevice platform proof fields keys

end TsnProtocol.Node.ThresholdAccess
