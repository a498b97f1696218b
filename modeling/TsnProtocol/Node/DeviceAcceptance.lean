import TsnProtocol.Node.DeviceProofs

/-!
Which of the proofs that the SDK makes for a registered device the Node accepts.
-/

namespace TsnProtocol.Node.DeviceAcceptance

open Lib.ByteReader
open Lib.Checked
open Lib.TextFormat
open Lib.Utf16
open Lib.Utf8
open Node.DeviceProofs
open Node.ThresholdAccess
open Sdk.DeviceAccess hiding canonicalFields

section Transport

def receivedKey (key : JsonWebKey) : PyKey :=
  ⟨codePoints key.kty, codePoints key.crv, codePoints key.x⟩

def receivedAccess (context : AccessContext) : Access where
  tin := some (codePoints context.tin)
  ownerPublicKey := some (codePoints context.ownerPublicKey)
  routeVersion := some (.int context.routeVersion)
  pruConfigurationHash := some (codePoints context.pruConfigurationHash)
  resourceCommitment := some (codePoints context.resourceCommitment)
  deviceSessionBinding := some (codePoints context.deviceSessionBinding)

def receivedProof (proof : TinDeviceAccessProof) : DeviceProof where
  version := some (py proofVersion)
  domain := some (py proofDomain)
  operation := some (py proof.operation.text)
  tin := some (codePoints proof.tin)
  ownerPublicKey := some (codePoints proof.ownerPublicKey)
  routeVersion := some proof.routeVersion
  pruConfigurationHash := some (codePoints proof.pruConfigurationHash)
  resourceCommitment := some (codePoints proof.resourceCommitment)
  deviceSessionBinding := some (codePoints proof.deviceSessionBinding)
  deviceId := some (codePoints proof.deviceId)
  deviceSigningKeyFingerprint := some (codePoints proof.deviceSigningKeyFingerprint)
  deviceSigningPublicKey := some (receivedKey proof.deviceSigningPublicKey)
  deviceEncryptionKeyFingerprint := some (codePoints proof.deviceEncryptionKeyFingerprint)
  deviceEncryptionPublicKey := some (receivedKey proof.deviceEncryptionPublicKey)
  walletAuthorizationCommitment := some (codePoints proof.walletAuthorizationCommitment)
  requestNonce := some (codePoints proof.requestNonce)
  issuedAt := some (codePoints proof.issuedAt)
  expiresAt := some (codePoints proof.expiresAt)
  signatureBase64Url := some (codePoints proof.signatureBase64Url)

/-- The request as the Node has it: JSON keeps the code points of a string. -/
def received (request : LitTinActionRequest) : ThresholdRequest where
  domain := some (py requestDomain)
  operation := some (py request.operation.text)
  access := some (receivedAccess request.access)
  deviceAccessProof := some (receivedProof request.deviceAccessProof)
  walletAuthorizationMessageBase64Url :=
    some (codePoints request.walletAuthorizationMessageBase64Url)
  walletAuthorizationSignatureBase64Url :=
    some (codePoints request.walletAuthorizationSignatureBase64Url)

end Transport

section Inputs

/-- A device whose keys and fingerprints are its own. -/
structure Registered (platform : Platform) (device : TinAuthorizedDeviceSigner)
    (signingKey encryptionKey : List Byte) : Prop where
  signingKey_length : signingKey.length = 32
  encryptionKey_length : encryptionKey.length = 32
  signingPublicKey : device.signingPublicKey =
    ⟨js "OKP", js "Ed25519", units (bytesToBase64Url signingKey)⟩
  encryptionPublicKey : device.encryptionPublicKey =
    ⟨js "OKP", js "X25519", units (bytesToBase64Url encryptionKey)⟩
  signingFingerprint : device.signingKeyFingerprint =
    fingerprintDeviceSigningPublicKey platform device.signingPublicKey
  encryptionFingerprint : device.encryptionKeyFingerprint =
    fingerprintEncryptionPublicKey platform device.encryptionPublicKey (js "device")
  deviceId : device.deviceId ≠ []
  signature_length : ∀ message, (device.signMessage message).length = 64
  signs : ∀ message, platform.verify signingKey message (device.signMessage message) = true

/-- A time that `toISOString` writes and `fromisoformat` reads, as they do in the years that
have four digits. -/
structure IsoTime (platform : Platform) (time : Int) : Prop where
  nonempty : platform.toIsoString time ≠ []
  ascii : isAscii (platform.toIsoString time) = true
  reads : platform.fromIsoFormat (replaceZone (points (platform.toIsoString time))) =
    some (1000 * time, true)

/-- What a proof is made from, with the wallet's signature. -/
structure ThresholdAction where
  operation : Operation
  device : TinAuthorizedDeviceSigner
  context : AccessContext
  nonce : List Byte
  now : Int
  walletSignature : List Byte

/-- The keys behind an action, and the part of the session that the provider chooses. -/
structure Parties where
  (signingKey encryptionKey : List Byte)
  owner : Text
  ownerKey : List Byte
  sessionBinding : JsString

structure Valid (platform : Platform) (action : ThresholdAction) (parties : Parties)
    (walletMessage : List Byte) : Prop where
  registered : Registered platform action.device parties.signingKey parties.encryptionKey
  tin : action.context.tin ≠ []
  owner : action.context.ownerPublicKey = units parties.owner
  ownerKey : decodeBase58 (points parties.owner) = some parties.ownerKey
  ownerKey_length : parties.ownerKey.length = 32
  session : action.context.deviceSessionBinding = parties.sessionBinding ++ (js ":device:" ++
    (action.device.signingKeyFingerprint ++ (js ":encryption:" ++
      action.device.encryptionKeyFingerprint)))
  message : serializeTinMasterSeedWalletAuthorization action.context = .ok walletMessage
  signature_length : action.walletSignature.length = 64
  signature : platform.verify parties.ownerKey walletMessage action.walletSignature = true
  nonce : action.nonce.length = 32
  issuedAt : IsoTime platform action.now
  expiresAt : IsoTime platform (action.now + 5 * 60 * 1000)

/-- The times, in microseconds, at which a proof counts: from half a minute before it is
issued until it expires. -/
def InWindow (action : ThresholdAction) (now : Int) : Prop :=
  1000 * action.now - 30 * 1000000 ≤ now ∧ now < 1000 * (action.now + 5 * 60 * 1000)

/-- The free texts have a code unit for each code point, and the resource is in lower case. -/
structure Plainly (action : ThresholdAction) (parties : Parties) : Prop where
  tin : Plain action.context.tin
  sessionBinding : Plain parties.sessionBinding
  deviceId : Plain action.device.deviceId
  resource : toLowerCase action.context.resourceCommitment = action.context.resourceCommitment

end Inputs

section Texts

theorem plain_units_of_isAscii {text : Text} (htext : isAscii text = true) : Plain (units text) := by
  refine plain_units fun character hcharacter => ?_
  have hsmall := of_decide_eq_true (List.all_eq_true.mp htext character hcharacter)
  omega

theorem plain_append {left right : JsString} : Plain (left ++ right) ↔ Plain left ∧ Plain right :=
  List.forall_mem_append

theorem codePoints_js (text : String) : codePoints (js text) = py text :=
  codePoints_units text.toList

theorem codePoints_ne_nil {string : JsString} (hstring : string ≠ []) : codePoints string ≠ [] := by
  rcases string with _ | ⟨unit, _ | ⟨next, rest⟩⟩
  · exact (hstring rfl).elim
  · exact List.cons_ne_nil _ _
  · rw [codePoints]
    split <;> exact List.cons_ne_nil _ _

theorem codePoints_append {left right : JsString} (hright : Plain right) :
    codePoints (left ++ right) = codePoints left ++ codePoints right := by
  rcases right with _ | ⟨unit, right⟩
  · rw [List.append_nil]
    exact (List.append_nil _).symm
  · exact codePoints_append_plain (hright unit List.mem_cons_self) left right

/-- A hexadecimal commitment, in any case, is a text of ASCII. -/
theorem exists_text_of_isHash32 {string : JsString} (hhash : isHash32 string = true) :
    ∃ text : Text, string = units text ∧ text.length = 64 ∧
      ∀ digit ∈ text, isLowerHexDigit digit.toLower = true ∧ digit.toNat < 128 := by
  have hall := of_decide_eq_true hhash
  have hdigit : ∀ value < 128, (48 ≤ value ∧ value ≤ 57) ∨ (65 ≤ value ∧ value ≤ 70) ∨
      (97 ≤ value ∧ value ≤ 102) → isLowerHexDigit (Char.ofNat value).toLower = true ∧
        (Char.ofNat value).toNat = value := by
    decide
  refine ⟨string.map fun unit => Char.ofNat unit.toNat, ?_, ?_, ?_⟩
  · rw [units, List.flatMap_map]
    nth_rewrite 1 [← List.flatMap_singleton' string]
    refine List.flatMap_congr fun unit hunit => ?_
    have hvalue := (hdigit unit.toNat (by have := hall.2 unit hunit; omega) (hall.2 unit hunit)).2
    rw [charUnits, hvalue, if_pos (by have := hall.2 unit hunit; omega), BitVec.ofNat_toNat,
      BitVec.setWidth_eq]
  · rw [List.length_map, hall.1]
  · intro digit hmem
    obtain ⟨unit, hunit, rfl⟩ := List.mem_map.mp hmem
    have hchar := hdigit unit.toNat (by have := hall.2 unit hunit; omega) (hall.2 unit hunit)
    exact ⟨hchar.1, by rw [hchar.2]; have := hall.2 unit hunit; omega⟩

theorem isHash32_units {text : Text} (hlength : text.length = 64)
    (hdigits : ∀ digit ∈ text, isLowerHexDigit digit = true) : isHash32 (units text) = true := by
  have hunits : units text = text.map fun digit => BitVec.ofNat 16 digit.toNat := by
    rw [units, List.map_eq_flatMap]
    refine List.flatMap_congr fun digit hdigit => if_pos ?_
    rcases lowerHexDigit_range (hdigits digit hdigit) with ⟨_, hbound, _⟩ | ⟨_, hbound, _⟩ <;> omega
  refine decide_eq_true ⟨by rw [hunits, List.length_map, hlength], fun unit hunit => ?_⟩
  rw [hunits] at hunit
  obtain ⟨digit, hdigit, rfl⟩ := List.mem_map.mp hunit
  rw [BitVec.toNat_ofNat]
  rcases lowerHexDigit_range (hdigits digit hdigit) with ⟨hlow, hhigh, _⟩ | ⟨hlow, hhigh, _⟩
  · exact .inl (by omega)
  · exact .inr (.inr (by omega))

theorem toLowerCase_units {text : Text} (htext : ∀ digit ∈ text, digit.toNat < 128) :
    toLowerCase (units text) = units (text.map Char.toLower) := by
  have hunit : ∀ value < 128, (if 65 ≤ (BitVec.ofNat 16 value).toNat ∧
      (BitVec.ofNat 16 value).toNat ≤ 90 then BitVec.ofNat 16 value + 32
      else BitVec.ofNat 16 value) = BitVec.ofNat 16 (Char.ofNat value).toLower.toNat ∧
      (Char.ofNat value).toLower.toNat < 0x10000 := by
    decide
  induction text with
  | nil => rfl
  | cons digit text ih =>
      obtain ⟨hdigit, htext⟩ := List.forall_mem_cons.mp htext
      have hlower := hunit digit.toNat hdigit
      rw [Char.ofNat_toNat] at hlower
      have hfirst : charUnits digit = [BitVec.ofNat 16 digit.toNat] := if_pos (by omega)
      have hsecond : charUnits digit.toLower = [BitVec.ofNat 16 digit.toLower.toNat] :=
        if_pos hlower.2
      have hrest := ih htext
      simp only [units, toLowerCase, List.flatMap_cons, List.map_cons, List.map_append, hfirst,
        hsecond, List.map_nil, hlower.1] at hrest ⊢
      rw [hrest]

theorem lower_points (text : Text) : lower (points text) = points (text.map Char.toLower) := by
  rw [lower, points, points, List.map_map, List.map_map]
  rfl

theorem lower_codePoints {string : JsString} (hhash : isHash32 string = true) :
    codePoints (toLowerCase string) = lower (codePoints string) := by
  obtain ⟨text, rfl, -, hdigits⟩ := exists_text_of_isHash32 hhash
  rw [toLowerCase_units fun digit hdigit => (hdigits digit hdigit).2, codePoints_units,
    codePoints_units, lower_points]

theorem plain_of_isHash32 {string : JsString} (hhash : isHash32 string = true) : Plain string := by
  obtain ⟨text, rfl, -, hdigits⟩ := exists_text_of_isHash32 hhash
  exact plain_units fun digit hdigit => by have := (hdigits digit hdigit).2; omega

theorem plain_toLowerCase {string : JsString} (hhash : isHash32 string = true) :
    Plain (toLowerCase string) := by
  have hvalue : ∀ value < 128, (Char.ofNat value).toLower.toNat < 0xD800 := by decide
  obtain ⟨text, rfl, -, hdigits⟩ := exists_text_of_isHash32 hhash
  rw [toLowerCase_units fun digit hdigit => (hdigits digit hdigit).2]
  refine plain_units fun digit hdigit => ?_
  obtain ⟨source, hsource, rfl⟩ := List.mem_map.mp hdigit
  have hsmall := hvalue source.toNat (hdigits source hsource).2
  rwa [Char.ofNat_toNat] at hsmall

theorem isAscii_hexText (bytes : List Byte) : isAscii (hexText bytes) = true :=
  isAscii_of_isPlain (all_isPlain_hexText bytes)

theorem isAscii_decimal (value : Nat) : isAscii (decimal value) = true :=
  isAscii_of_isPlain (all_isPlain_decimal value)

end Texts

section Checks

variable {platform : Platform} {action : ThresholdAction} {parties : Parties}
  {walletMessage : List Byte}

theorem requireString_some {text : PyString} {label : String} (htext : text ≠ []) :
    requireString (some text) label = .ok text := by
  simp [requireString, okOr, require, htext, bind, Except.bind, pure, Except.pure]

theorem requireHash_codePoints {string : JsString} {label : String}
    (hhash : isHash32 string = true) :
    requireHash (some (codePoints string)) label = .ok (lower (codePoints string)) := by
  obtain ⟨text, rfl, hlength, hdigits⟩ := exists_text_of_isHash32 hhash
  have hne : points text ≠ [] := by
    intro hempty
    have hzero := congrArg List.length hempty
    rw [points, List.length_map, hlength] at hzero
    cases hzero
  rw [codePoints_units, requireHash, requireString_some hne, lower_points]
  have hcheck : (points (text.map Char.toLower)).length = 64 ∧
      (points (text.map Char.toLower)).all isHexDigit = true := by
    refine ⟨by rw [points, List.length_map, List.length_map, hlength], ?_⟩
    rw [points, List.all_map, List.all_map]
    exact List.all_eq_true.mpr fun digit hdigit => (hdigits digit hdigit).1
  simp only [bind, Except.bind, require, if_pos hcheck, lower_points]
  rfl

/-- What the Node takes from the request and the proof. -/
def fieldsOf (action : ThresholdAction) (parties : Parties) : ExactFields where
  operation := py action.operation.text
  tin := codePoints action.context.tin
  owner := points parties.owner
  routeVersion := .int action.context.routeVersion
  pruHash := lower (codePoints action.context.pruConfigurationHash)
  resource := lower (codePoints action.context.resourceCommitment)
  session := codePoints action.context.deviceSessionBinding

/-- The proof before it is signed. -/
def unsignedProof (platform : Platform) (action : ThresholdAction) (walletMessage : List Byte) :
    TinDeviceAccessProof where
  toAccessContext := action.context
  operation := action.operation
  deviceId := action.device.deviceId
  deviceSigningKeyFingerprint := action.device.signingKeyFingerprint
  deviceSigningPublicKey := action.device.signingPublicKey
  deviceEncryptionKeyFingerprint := action.device.encryptionKeyFingerprint
  deviceEncryptionPublicKey := action.device.encryptionPublicKey
  walletAuthorizationCommitment := units (sha256Hex platform walletMessage)
  requestNonce := units (bytesToBase64Url action.nonce)
  issuedAt := units (platform.toIsoString action.now)
  expiresAt := units (platform.toIsoString (action.now + 5 * 60 * 1000))
  signatureBase64Url := []

def deviceSignature (platform : Platform) (action : ThresholdAction) (walletMessage : List Byte) :
    List Byte :=
  action.device.signMessage
    (serializeTinDeviceAccessProof (unsignedProof platform action walletMessage))

def signedProof (platform : Platform) (action : ThresholdAction) (walletMessage : List Byte) :
    TinDeviceAccessProof :=
  { unsignedProof platform action walletMessage with
    signatureBase64Url := units (bytesToBase64Url (deviceSignature platform action walletMessage)) }

theorem importSigningKey_of_registered {signingKey encryptionKey : List Byte}
    (hregistered : Registered platform action.device signingKey encryptionKey) :
    importSigningKey action.device.signingPublicKey = some signingKey := by
  have hdigits := @Lib.Base64.digits_stripPadding '-' '_' (by decide) (by decide) signingKey
  have hdecode : decodeBase64 (base64Value '-') (bytesToBase64Url signingKey) = signingKey :=
    hdigits.decodes _ (by decide)
  simp only [importSigningKey, hregistered.signingPublicKey, codePoints_units, textOf_points,
    Option.bind_eq_bind, Option.bind_some, hdecode, hregistered.signingKey_length, and_self, if_true]

/-- The hexadecimal fields and the version of a context that a wallet authorizes. -/
theorem valid_context (hvalid : Valid platform action parties walletMessage) :
    (1 ≤ action.context.routeVersion ∧ action.context.routeVersion < 2 ^ 53) ∧
      isHash32 action.context.pruConfigurationHash = true ∧
      isHash32 action.context.resourceCommitment = true := by
  have hmessage := hvalid.message
  simp only [serializeTinMasterSeedWalletAuthorization, bind_eq_ok, require_eq_ok] at hmessage
  obtain ⟨⟨⟩, hversion, ⟨⟩, hpru, ⟨⟩, hresource, -⟩ := hmessage
  exact ⟨hversion, hpru, hresource⟩

/-- The SDK makes the proof. -/
theorem createTinDeviceAccessProof_eq_ok (hvalid : Valid platform action parties walletMessage) :
    createTinDeviceAccessProof platform action.operation action.context walletMessage
      action.device action.nonce action.now = .ok (signedProof platform action walletMessage) := by
  simp only [createTinDeviceAccessProof, bind_eq_ok, require_eq_ok, okOr_eq_ok, pure_eq_ok]
  exact ⟨(), (valid_context hvalid).2.2, parties.signingKey,
    importSigningKey_of_registered hvalid.registered, (), hvalid.registered.signs _, rfl⟩

theorem owner_ne_nil (hvalid : Valid platform action parties walletMessage) :
    points parties.owner ≠ [] := by
  intro hempty
  have hkey := hvalid.ownerKey
  rw [hempty] at hkey
  have hlength := hvalid.ownerKey_length
  rw [← Option.some.inj hkey] at hlength
  exact absurd hlength (by decide)

theorem session_ne_nil (hvalid : Valid platform action parties walletMessage) :
    codePoints action.context.deviceSessionBinding ≠ [] := by
  apply codePoints_ne_nil
  rw [hvalid.session]
  intro hempty
  have hlength := congrArg List.length hempty
  simp only [List.length_append, List.length_nil] at hlength
  have hdevice : (js ":device:").length = 8 := rfl
  omega

theorem requireOperation_text (operation : Operation) :
    requireOperation (some (py operation.text)) = .ok (py operation.text) := by
  rcases operation <;> rfl

theorem requireFields_received (hvalid : Valid platform action parties walletMessage) :
    requireFields (py action.operation.text) (receivedAccess action.context) =
      .ok (fieldsOf action parties) := by
  obtain ⟨hversion, hpru, hresource⟩ := valid_context hvalid
  simp only [requireFields, receivedAccess, bind_eq_ok, require_eq_ok, okOr_eq_ok, pure_eq_ok]
  refine ⟨_, requireString_some (codePoints_ne_nil hvalid.tin), points parties.owner, ?_, _, rfl,
    (), ?_, _, requireHash_codePoints hpru, _, requireHash_codePoints hresource, _,
    requireString_some (session_ne_nil hvalid), rfl⟩
  · rw [hvalid.owner, codePoints_units]
    exact requireString_some (owner_ne_nil hvalid)
  · exact Int.ofNat_le.mpr hversion.1

theorem requireExactFields_received (hvalid : Valid platform action parties walletMessage) :
    requireExactFields (receivedProof (signedProof platform action walletMessage))
      (fieldsOf action parties) = .ok () := by
  simp only [requireExactFields, bind_eq_ok, require_eq_ok]
  refine ⟨(), rfl, (), rfl, (), ?_, (), ?_, (), rfl, (), rfl, rfl⟩
  · have howner := hvalid.owner
    simp only [receivedProof, signedProof, unsignedProof, howner, codePoints_units, fieldsOf]
  · simp only [receivedProof, signedProof, unsignedProof, fieldsOf, PyInt.value, Int.cast_natCast]

theorem points_base64_ne_nil {bytes : List Byte} (hbytes : bytes ≠ []) :
    points (bytesToBase64Url bytes) ≠ [] := by
  intro hempty
  have hdigits := @Lib.Base64.digits_stripPadding '-' '_' (by decide) (by decide) bytes
  have hdecode := hdigits.decodes (base64Value '-') (by decide)
  rw [← bytesToBase64Url, List.map_eq_nil_iff.mp hempty] at hdecode
  exact hbytes hdecode.symm

theorem sdk_canonicalFields_ne_nil (field : JsString) (fields : List JsString) :
    Sdk.DeviceAccess.canonicalFields (field :: fields) ≠ [] := by
  intro hempty
  rw [sdk_canonicalFields_eq, List.map_cons, joined_cons] at hempty
  obtain ⟨text, htext, hbytes⟩ := encodeReplacing_eq
    (prefixed field.length (codePoints field) ++ (fields.map fun field =>
      prefixed field.length (codePoints field)).flatMap (.char '|' :: ·))
  obtain rfl := encodeUtf8_injective ((hbytes.symm.trans hempty).trans encodeUtf8_nil.symm)
  simp [prefixed, points] at htext

theorem walletMessage_eq (hvalid : Valid platform action parties walletMessage) :
    walletMessage = Sdk.DeviceAccess.canonicalFields [js "TSN_TIN_MASTER_SEED_ACCESS",
      action.context.tin, action.context.ownerPublicKey,
      units (decimal action.context.routeVersion),
      toLowerCase action.context.pruConfigurationHash,
      toLowerCase action.context.resourceCommitment, action.context.deviceSessionBinding] := by
  have hmessage := hvalid.message
  simp only [serializeTinMasterSeedWalletAuthorization, bind_eq_ok, pure_eq_ok] at hmessage
  obtain ⟨⟨⟩, -, ⟨⟩, -, ⟨⟩, -, rfl⟩ := hmessage
  rfl

/-- The fields of the wallet message, as the Node has them. -/
def walletFields (action : ThresholdAction) (parties : Parties) : List PyString :=
  [py walletAccessDomain, (fieldsOf action parties).tin, (fieldsOf action parties).owner,
    (fieldsOf action parties).routeVersion.text, (fieldsOf action parties).pruHash,
    (fieldsOf action parties).resource, (fieldsOf action parties).session]

theorem walletFields_eq (hvalid : Valid platform action parties walletMessage) :
    walletFields action parties = [js "TSN_TIN_MASTER_SEED_ACCESS",
      action.context.tin, action.context.ownerPublicKey,
      units (decimal action.context.routeVersion),
      toLowerCase action.context.pruConfigurationHash,
      toLowerCase action.context.resourceCommitment,
      action.context.deviceSessionBinding].map codePoints := by
  obtain ⟨-, hpru, hresource⟩ := valid_context hvalid
  have hnonneg : ¬ (action.context.routeVersion : Int) < 0 := by omega
  simp only [walletFields, fieldsOf, List.map_cons, List.map_nil, codePoints_js,
    lower_codePoints hpru, lower_codePoints hresource, hvalid.owner, codePoints_units,
    PyInt.text, if_neg hnonneg, Int.natAbs_natCast, walletAccessDomain]

/-- The request that the Node receives. -/
def requestOf (platform : Platform) (action : ThresholdAction) (walletMessage : List Byte) :
    ThresholdRequest :=
  received (createLitTinActionRequest action.operation action.context walletMessage
    action.walletSignature (signedProof platform action walletMessage))

theorem requireWallet_eq_ok (hvalid : Valid platform action parties walletMessage) :
    requireWallet platform (requestOf platform action walletMessage)
        (receivedProof (signedProof platform action walletMessage)) (fieldsOf action parties) =
        .ok () ↔
      canonicalFields (walletFields action parties) = some walletMessage := by
  have hmessage : walletMessage ≠ [] := by
    rw [walletMessage_eq hvalid]
    exact sdk_canonicalFields_ne_nil _ _
  have hsignature : action.walletSignature ≠ [] := by
    intro hempty
    have hlength := hvalid.signature_length
    rw [hempty] at hlength
    cases hlength
  simp only [requireWallet, requestOf, received, createLitTinActionRequest, codePoints_units,
    bind_eq_ok, require_eq_ok, okOr_eq_ok]
  constructor
  · rintro ⟨text, htext, bytes, hbytes, expected, hexpected, ⟨⟩, hsame, -⟩
    rw [requireString_some (points_base64_ne_nil hmessage)] at htext
    obtain rfl := Except.ok.inj htext
    rw [base64urlDecode_bytes] at hbytes
    obtain rfl := Except.ok.inj hbytes
    rwa [hsame]
  · intro hfields
    refine ⟨_, requireString_some (points_base64_ne_nil hmessage), _,
      base64urlDecode_bytes _ _, _, hfields, (), rfl, (), ?_, _,
      requireString_some (points_base64_ne_nil hsignature), _, base64urlDecode_bytes _ _, _,
      hvalid.ownerKey, hvalid.ownerKey_length, hvalid.signature⟩
    simp only [receivedProof, signedProof, unsignedProof, codePoints_units, hashHex]

theorem canonicalJwk_of_bytes {key : List Byte} {curve label : String} (hkey : key.length = 32) :
    canonicalJwk (some ⟨py "OKP", py curve, points (bytesToBase64Url key)⟩) curve label =
      .ok (⟨py "OKP", py curve, points (bytesToBase64Url key)⟩, key) := by
  simp only [canonicalJwk, bind_eq_ok, require_eq_ok, okOr_eq_ok, pure_eq_ok]
  exact ⟨_, rfl, (), ⟨rfl, rfl⟩, _, base64urlDecode_bytes key label, (), hkey, rfl⟩

/-- The keys of the device, as the Node has them. -/
def keysOf (action : ThresholdAction) (parties : Parties) : DeviceKeys where
  signingJwk := receivedKey action.device.signingPublicKey
  signingKey := parties.signingKey
  encryptionJwk := receivedKey action.device.encryptionPublicKey
  signingFingerprint := codePoints action.device.signingKeyFingerprint
  encryptionFingerprint := codePoints action.device.encryptionKeyFingerprint

theorem isAscii_base64Url (bytes : List Byte) : isAscii (bytesToBase64Url bytes) = true := by
  have hdigits := @Lib.Base64.digits_stripPadding '-' '_' (by decide) (by decide) bytes
  refine List.all_eq_true.mpr fun digit hmem => ?_
  obtain ⟨value, hvalue, rfl⟩ := hdigits.alphabet digit hmem
  exact (by decide : ∀ value < 64, decide ((base64Digit '-' '_' value).toNat < 128) = true)
    value hvalue

/-- A fingerprint of fields without surrogates is the same on both sides. -/
theorem okOr_canonicalFields {fields : List JsString} (hplain : ∀ field ∈ fields, Plain field) :
    okOr (canonicalFields (fields.map codePoints)) AccessError.unicodeEncode =
      .ok (Sdk.DeviceAccess.canonicalFields fields) := by
  rw [(canonicalFields_agree_iff fields).mpr hplain]
  rfl

theorem plain_js {text : String} (htext : isAscii text.toList = true) : Plain (js text) :=
  plain_units_of_isAscii htext

theorem plain_key {curve : String} {bytes : List Byte} (hcurve : isAscii curve.toList = true) :
    Plain (js "OKP") ∧ Plain (js curve) ∧ Plain (units (bytesToBase64Url bytes)) :=
  ⟨plain_js (by decide), plain_js hcurve, plain_units_of_isAscii (isAscii_base64Url bytes)⟩

theorem plain_fingerprints (hvalid : Valid platform action parties walletMessage) :
    Plain action.device.signingKeyFingerprint ∧ Plain action.device.encryptionKeyFingerprint := by
  rw [hvalid.registered.signingFingerprint, hvalid.registered.encryptionFingerprint]
  exact ⟨plain_units_of_isAscii (isAscii_hexText _), plain_units_of_isAscii (isAscii_hexText _)⟩

theorem codePoints_session (hvalid : Valid platform action parties walletMessage) :
    codePoints action.context.deviceSessionBinding = codePoints parties.sessionBinding ++
      (py ":device:" ++ codePoints action.device.signingKeyFingerprint ++ py ":encryption:" ++
        codePoints action.device.encryptionKeyFingerprint) := by
  obtain ⟨hsigning, hencryption⟩ := plain_fingerprints hvalid
  have hlabel : Plain (js ":encryption:") := plain_js (by decide)
  have hdevice : Plain (js ":device:") := plain_js (by decide)
  have htail := plain_append.mpr ⟨hlabel, hencryption⟩
  have hmiddle := plain_append.mpr ⟨hsigning, htail⟩
  rw [hvalid.session, codePoints_append (plain_append.mpr ⟨hdevice, hmiddle⟩),
    codePoints_append hmiddle, codePoints_append htail, codePoints_append hencryption,
    codePoints_js, codePoints_js]
  simp only [List.append_assoc]

theorem requireDeviceKeys_received (hvalid : Valid platform action parties walletMessage) :
    requireDeviceKeys platform (receivedProof (signedProof platform action walletMessage))
      (codePoints action.context.deviceSessionBinding) = .ok (keysOf action parties) := by
  have hregistered := hvalid.registered
  have hsigningKey : receivedKey action.device.signingPublicKey =
      ⟨py "OKP", py "Ed25519", points (bytesToBase64Url parties.signingKey)⟩ := by
    rw [hregistered.signingPublicKey, receivedKey, codePoints_js, codePoints_js, codePoints_units]
  have hencryptionKey : receivedKey action.device.encryptionPublicKey =
      ⟨py "OKP", py "X25519", points (bytesToBase64Url parties.encryptionKey)⟩ := by
    rw [hregistered.encryptionPublicKey, receivedKey, codePoints_js, codePoints_js,
      codePoints_units]
  have hsigning : okOr (canonicalFields [py "TSN_DEVICE_SIGNING_KEY_V1",
      (receivedKey action.device.signingPublicKey).kty,
      (receivedKey action.device.signingPublicKey).crv,
      (receivedKey action.device.signingPublicKey).x]) AccessError.unicodeEncode =
      .ok (Sdk.DeviceAccess.canonicalFields [js "TSN_DEVICE_SIGNING_KEY_V1",
        action.device.signingPublicKey.kty, action.device.signingPublicKey.crv,
        action.device.signingPublicKey.x]) := by
    have hplain := @plain_key "Ed25519" parties.signingKey (by decide)
    rw [← codePoints_js]
    refine @okOr_canonicalFields [js "TSN_DEVICE_SIGNING_KEY_V1",
      action.device.signingPublicKey.kty, action.device.signingPublicKey.crv,
      action.device.signingPublicKey.x] ?_
    simp only [List.forall_mem_cons, hregistered.signingPublicKey]
    exact ⟨plain_js (by decide), hplain.1, hplain.2.1, hplain.2.2,
      fun _ hmem => (List.not_mem_nil hmem).elim⟩
  have hencryption : okOr (canonicalFields [py "TSN_OWNER_CONTROLLED_ENCRYPTION_KEY_V1",
      py "device", (receivedKey action.device.encryptionPublicKey).kty,
      (receivedKey action.device.encryptionPublicKey).crv,
      (receivedKey action.device.encryptionPublicKey).x]) AccessError.unicodeEncode =
      .ok (Sdk.DeviceAccess.canonicalFields [js "TSN_OWNER_CONTROLLED_ENCRYPTION_KEY_V1",
        js "device", action.device.encryptionPublicKey.kty,
        action.device.encryptionPublicKey.crv, action.device.encryptionPublicKey.x]) := by
    have hplain := @plain_key "X25519" parties.encryptionKey (by decide)
    rw [← codePoints_js, ← codePoints_js "device"]
    refine @okOr_canonicalFields [js "TSN_OWNER_CONTROLLED_ENCRYPTION_KEY_V1", js "device",
      action.device.encryptionPublicKey.kty, action.device.encryptionPublicKey.crv,
      action.device.encryptionPublicKey.x] ?_
    simp only [List.forall_mem_cons, hregistered.encryptionPublicKey]
    exact ⟨plain_js (by decide), plain_js (by decide), hplain.1, hplain.2.1, hplain.2.2,
      fun _ hmem => (List.not_mem_nil hmem).elim⟩
  simp only [requireDeviceKeys, bind_eq_ok, require_eq_ok, pure_eq_ok]
  refine ⟨(receivedKey action.device.signingPublicKey, parties.signingKey), ?_,
    (receivedKey action.device.encryptionPublicKey, parties.encryptionKey), ?_, _, hsigning, _,
    hencryption, (), ?_, (), ?_, (), ?_, ?_⟩
  · simp only [receivedProof, signedProof, unsignedProof, hsigningKey]
    exact canonicalJwk_of_bytes hregistered.signingKey_length
  · simp only [receivedProof, signedProof, unsignedProof, hencryptionKey]
    exact canonicalJwk_of_bytes hregistered.encryptionKey_length
  · simp only [receivedProof, signedProof, unsignedProof, hregistered.signingFingerprint,
      fingerprintDeviceSigningPublicKey, codePoints_units, hashHex]
  · simp only [receivedProof, signedProof, unsignedProof, hregistered.encryptionFingerprint,
      fingerprintEncryptionPublicKey, codePoints_units, hashHex]
  · rw [codePoints_session hvalid, hregistered.signingFingerprint,
      hregistered.encryptionFingerprint, fingerprintDeviceSigningPublicKey,
      fingerprintEncryptionPublicKey, codePoints_units, codePoints_units]
    exact List.suffix_append _ _
  · simp only [keysOf, hregistered.signingFingerprint, hregistered.encryptionFingerprint,
      fingerprintDeviceSigningPublicKey, fingerprintEncryptionPublicKey, codePoints_units, hashHex]

theorem parseTime_isoTime {time : Int} {label : String} (htime : IsoTime platform time) :
    parseTime platform (some (points (platform.toIsoString time))) label = .ok (1000 * time) := by
  have hne : points (platform.toIsoString time) ≠ [] := by
    intro hempty
    exact htime.nonempty (List.map_eq_nil_iff.mp hempty)
  simp only [parseTime, requireString_some hne, bind_eq_ok, okOr_eq_ok, require_eq_ok, pure_eq_ok]
  exact ⟨_, rfl, _, htime.reads, (), rfl, rfl⟩

theorem requireWindow_received (hvalid : Valid platform action parties walletMessage) {now : Int}
    (hwindow : InWindow action now) :
    requireWindow platform (receivedProof (signedProof platform action walletMessage)) now =
      .ok () := by
  obtain ⟨hearly, hlate⟩ := hwindow
  simp only [requireWindow, receivedProof, signedProof, unsignedProof, codePoints_units,
    parseTime_isoTime hvalid.issuedAt, parseTime_isoTime hvalid.expiresAt, bind_eq_ok,
    require_eq_ok]
  refine ⟨_, rfl, _, rfl, ?_⟩
  rw [maxProofLifetime]
  omega

end Checks

section Messages

variable {platform : Platform} {action : ThresholdAction} {parties : Parties}
  {walletMessage : List Byte}

/-- Characters that JSON writes as they are. -/
def isKeyChar (character : Char) : Bool :=
  character.isAlphanum || character = '-' || character = '_'

theorem escape_keyChar {character : Char} (hchar : isKeyChar character = true)
    (hascii : character.toNat < 128) :
    escapeUnits (.char character) = charUnits character ∧
      escapePoints (.char character) = [.char character] := by
  have hall : ∀ value < 128, isKeyChar (Char.ofNat value) = true →
      escapeUnits (.char (Char.ofNat value)) = charUnits (Char.ofNat value) ∧
        escapePoints (.char (Char.ofNat value)) = [.char (Char.ofNat value)] := by
    decide
  have hvalue := hall character.toNat hascii
  rw [Char.ofNat_toNat] at hvalue
  exact hvalue hchar

theorem units_append (left right : Text) : units (left ++ right) = units left ++ units right :=
  List.flatMap_append

theorem points_append (left right : Text) : points (left ++ right) = points left ++ points right :=
  List.map_append

theorem flatMap_escape {text : Text} (htext : isAscii text = true)
    (hkey : text.all isKeyChar = true) :
    (points text).flatMap escapeUnits = units text ∧
      (points text).flatMap escapePoints = points text := by
  induction text with
  | nil => exact ⟨rfl, rfl⟩
  | cons character text ih =>
      rw [isAscii, List.all_cons, Bool.and_eq_true, decide_eq_true_eq] at htext
      rw [List.all_cons, Bool.and_eq_true] at hkey
      obtain ⟨hunits, hpoints⟩ := escape_keyChar hkey.1 htext.1
      obtain ⟨hunits', hpoints'⟩ := ih htext.2 hkey.2
      rw [points, List.map_cons, ← points, List.flatMap_cons, List.flatMap_cons, hunits, hpoints,
        hunits', hpoints']
      exact ⟨rfl, rfl⟩

/-- The SDK's text of a key is the Node's, and in ASCII. -/
theorem stringifyKey_units {kty crv x : Text}
    (hkty : isAscii kty = true ∧ kty.all isKeyChar = true)
    (hcrv : isAscii crv = true ∧ crv.all isKeyChar = true)
    (hx : isAscii x = true ∧ x.all isKeyChar = true) :
    codePoints (stringifyKey ⟨units kty, units crv, units x⟩) =
        dumpKey ⟨points kty, points crv, points x⟩ ∧
      Plain (stringifyKey ⟨units kty, units crv, units x⟩) := by
  have hunits : stringifyKey ⟨units kty, units crv, units x⟩ =
      units ("\x7b\"kty\":\"".toList ++ (kty ++ ("\",\"crv\":\"".toList ++ (crv ++
        ("\",\"x\":\"".toList ++ (x ++ "\"\x7d".toList)))))) := by
    simp only [stringifyKey, quoteUnits, codePoints_units, (flatMap_escape hkty.1 hkty.2).1,
      (flatMap_escape hcrv.1 hcrv.2).1, (flatMap_escape hx.1 hx.2).1, units_append,
      List.append_assoc]
    rfl
  have hpoints : dumpKey ⟨points kty, points crv, points x⟩ =
      points ("\x7b\"kty\":\"".toList ++ (kty ++ ("\",\"crv\":\"".toList ++ (crv ++
        ("\",\"x\":\"".toList ++ (x ++ "\"\x7d".toList)))))) := by
    simp only [dumpKey, quotePoints, (flatMap_escape hkty.1 hkty.2).2,
      (flatMap_escape hcrv.1 hcrv.2).2, (flatMap_escape hx.1 hx.2).2, points_append,
      List.append_assoc]
    rfl
  rw [hunits, hpoints]
  refine ⟨codePoints_units _, plain_units_of_isAscii ?_⟩
  simp only [isAscii_append, hkty.1, hcrv.1, hx.1, true_and]
  exact ⟨by decide, by decide, by decide, by decide⟩

theorem all_isKeyChar_base64Url (bytes : List Byte) :
    isAscii (bytesToBase64Url bytes) = true ∧ (bytesToBase64Url bytes).all isKeyChar = true := by
  refine ⟨isAscii_base64Url bytes, List.all_eq_true.mpr fun digit hmem => ?_⟩
  have hdigits := @Lib.Base64.digits_stripPadding '-' '_' (by decide) (by decide) bytes
  obtain ⟨value, hvalue, rfl⟩ := hdigits.alphabet digit hmem
  exact (by decide : ∀ value < 64, isKeyChar (base64Digit '-' '_' value) = true) value hvalue

/-- The fields that the device signs, with a text for the resource. -/
def signedFields (platform : Platform) (action : ThresholdAction) (walletMessage : List Byte)
    (resource : JsString) : List JsString :=
  [js proofDomain, js proofVersion, js action.operation.text, action.context.tin,
    action.context.ownerPublicKey, units (decimal action.context.routeVersion),
    toLowerCase action.context.pruConfigurationHash, action.context.deviceSessionBinding,
    action.device.deviceId, action.device.signingKeyFingerprint,
    stringifyKey action.device.signingPublicKey, action.device.encryptionKeyFingerprint,
    stringifyKey action.device.encryptionPublicKey, units (sha256Hex platform walletMessage),
    resource, units (bytesToBase64Url action.nonce), units (platform.toIsoString action.now),
    units (platform.toIsoString (action.now + 5 * 60 * 1000))]

theorem serialize_unsignedProof : serializeTinDeviceAccessProof
      (unsignedProof platform action walletMessage) =
    Sdk.DeviceAccess.canonicalFields (signedFields platform action walletMessage
      action.context.resourceCommitment) :=
  rfl

theorem stringifyKeys (hvalid : Valid platform action parties walletMessage) :
    (codePoints (stringifyKey action.device.signingPublicKey) =
        dumpKey (receivedKey action.device.signingPublicKey) ∧
      Plain (stringifyKey action.device.signingPublicKey)) ∧
    (codePoints (stringifyKey action.device.encryptionPublicKey) =
        dumpKey (receivedKey action.device.encryptionPublicKey) ∧
      Plain (stringifyKey action.device.encryptionPublicKey)) := by
  rw [hvalid.registered.signingPublicKey, hvalid.registered.encryptionPublicKey]
  simp only [receivedKey, codePoints_js, codePoints_units]
  exact ⟨stringifyKey_units ⟨by decide, by decide⟩ ⟨by decide, by decide⟩
      (all_isKeyChar_base64Url _),
    stringifyKey_units ⟨by decide, by decide⟩ ⟨by decide, by decide⟩ (all_isKeyChar_base64Url _)⟩

/-- The message that the Node checks is about the resource in lower case. -/
theorem deviceMessage_eq (hvalid : Valid platform action parties walletMessage) :
    deviceMessage (fieldsOf action parties) (keysOf action parties)
        (codePoints action.device.deviceId) (points (sha256Hex platform walletMessage))
        (points (bytesToBase64Url action.nonce)) (points (platform.toIsoString action.now))
        (points (platform.toIsoString (action.now + 5 * 60 * 1000))) =
      canonicalFields ((signedFields platform action walletMessage
        (toLowerCase action.context.resourceCommitment)).map codePoints) := by
  obtain ⟨-, hpru, hresource⟩ := valid_context hvalid
  obtain ⟨⟨hsigning, -⟩, hencryption, -⟩ := stringifyKeys hvalid
  have hnonneg : ¬ (action.context.routeVersion : Int) < 0 := by omega
  simp only [deviceMessage, signedFields, fieldsOf, keysOf, List.map_cons, List.map_nil,
    codePoints_js, lower_codePoints hpru, lower_codePoints hresource, hvalid.owner,
    codePoints_units, PyInt.text, if_neg hnonneg, Int.natAbs_natCast, hsigning, hencryption,
    deviceProofDomain, deviceProofVersion, proofDomain, proofVersion]

theorem mem_of_mapM_idxOf? {alphabet text : Text} {digits : List Nat}
    (hdigits : text.mapM alphabet.idxOf? = some digits) : ∀ character ∈ text,
      character ∈ alphabet := by
  induction text generalizing digits with
  | nil => exact fun _ hcharacter => (List.not_mem_nil hcharacter).elim
  | cons character text ih =>
      simp only [List.mapM_cons, Option.bind_eq_bind, Option.bind_eq_some_iff] at hdigits
      obtain ⟨digit, hdigit, rest, hrest, -⟩ := hdigits
      refine List.forall_mem_cons.mpr ⟨List.isSome_idxOf?.mp ?_, ih hrest⟩
      rw [hdigit]
      rfl

theorem plain_owner (hvalid : Valid platform action parties walletMessage) :
    Plain action.context.ownerPublicKey := by
  have hall : (base58Alphabet.all fun digit => digit.toNat < 0xD800) = true := by decide
  have hdigit : ∀ digit ∈ base58Alphabet, digit.toNat < 0xD800 := fun digit hmem =>
    of_decide_eq_true (List.all_eq_true.mp hall digit hmem)
  have hkey := hvalid.ownerKey
  simp only [decodeBase58, textOf_points, Option.bind_eq_bind, Option.bind_some,
    Option.bind_eq_some_iff] at hkey
  obtain ⟨digits, hdigits, -⟩ := hkey
  rw [hvalid.owner]
  exact plain_units fun character hcharacter =>
    hdigit character (mem_of_mapM_idxOf? hdigits character hcharacter)

theorem plain_session_iff (hvalid : Valid platform action parties walletMessage) :
    Plain action.context.deviceSessionBinding ↔ Plain parties.sessionBinding := by
  obtain ⟨hsigning, hencryption⟩ := plain_fingerprints hvalid
  have hlabel : Plain (js ":encryption:") := plain_js (by decide)
  have hdevice : Plain (js ":device:") := plain_js (by decide)
  rw [hvalid.session]
  simp only [plain_append, hsigning, hencryption, hlabel, hdevice, and_true]

/-- The Node builds the wallet message that was signed exactly from texts without surrogates. -/
theorem walletFields_iff (hvalid : Valid platform action parties walletMessage) :
    canonicalFields (walletFields action parties) = some walletMessage ↔
      Plain action.context.tin ∧ Plain parties.sessionBinding := by
  obtain ⟨-, hpru, hresource⟩ := valid_context hvalid
  nth_rewrite 1 [walletMessage_eq hvalid]
  rw [walletFields_eq hvalid, canonicalFields_agree_iff]
  simp only [List.forall_mem_cons, plain_js (show isAscii
    "TSN_TIN_MASTER_SEED_ACCESS".toList = true by decide), plain_owner hvalid,
    plain_units_of_isAscii (isAscii_decimal _), plain_toLowerCase hpru,
    plain_toLowerCase hresource, plain_session_iff hvalid, List.not_mem_nil, false_implies,
    implies_true, true_and, and_true]

theorem forall_signedFields (hvalid : Valid platform action parties walletMessage)
    {resource : JsString} (hresource : Plain resource) :
    (∀ field ∈ signedFields platform action walletMessage resource, Plain field) ↔
      Plain action.context.tin ∧ Plain parties.sessionBinding ∧ Plain action.device.deviceId := by
  obtain ⟨-, hpru, -⟩ := valid_context hvalid
  obtain ⟨⟨-, hsigning⟩, -, hencryption⟩ := stringifyKeys hvalid
  have hoperation : Plain (js action.operation.text) := by
    rcases action.operation <;> exact plain_js (by decide)
  simp only [signedFields, List.forall_mem_cons, plain_js (show isAscii
    proofDomain.toList = true by decide), plain_js (show isAscii proofVersion.toList = true
    by decide), hoperation, plain_owner hvalid, plain_units_of_isAscii (isAscii_decimal _),
    plain_toLowerCase hpru, plain_session_iff hvalid, (plain_fingerprints hvalid).1,
    (plain_fingerprints hvalid).2, hsigning, hencryption, sha256Hex,
    plain_units_of_isAscii (isAscii_hexText _), hresource,
    plain_units_of_isAscii (isAscii_base64Url _), plain_units_of_isAscii hvalid.issuedAt.ascii,
    plain_units_of_isAscii hvalid.expiresAt.ascii, List.not_mem_nil, false_implies,
    implies_true, true_and, and_true]

/-- Where the Node builds the message that the device signed, the identifier of the device has
no surrogates and the resource was in lower case. -/
theorem plain_of_signedFields (hvalid : Valid platform action parties walletMessage)
    (hsame : canonicalFields ((signedFields platform action walletMessage
        (toLowerCase action.context.resourceCommitment)).map codePoints) =
      some (Sdk.DeviceAccess.canonicalFields (signedFields platform action walletMessage
        action.context.resourceCommitment))) :
    Plain action.device.deviceId ∧
      toLowerCase action.context.resourceCommitment = action.context.resourceCommitment := by
  obtain ⟨-, -, hresource⟩ := valid_context hvalid
  obtain ⟨text, htext, -, hdigits⟩ := exists_text_of_isHash32 hresource
  have hlower := toLowerCase_units fun digit hdigit => (hdigits digit hdigit).2
  rw [← htext] at hlower
  have hlengths : List.Forall₂ (fun field string => (codePoints field).length = string.length)
      (signedFields platform action walletMessage action.context.resourceCommitment)
      ((signedFields platform action walletMessage
        (toLowerCase action.context.resourceCommitment)).map codePoints) := by
    simp only [signedFields, List.map_cons, List.map_nil, List.forall₂_cons, List.Forall₂.nil,
      true_and, and_true]
    rw [hlower, htext, codePoints_units, codePoints_units]
    simp [points]
  have hfields := fields_of_canonicalFields hlengths hsame
  simp only [signedFields, List.map_cons, List.map_nil, List.forall₂_cons, List.Forall₂.nil,
    and_true] at hfields
  obtain ⟨-, -, -, -, -, -, -, -, hdevice, -, -, -, -, -, hcase, -⟩ := hfields
  refine ⟨plain_of_replaced hdevice.1 hdevice.2, ?_⟩
  have hsameText := hcase.1
  rw [hlower, htext, codePoints_units, codePoints_units, map_replaced_points] at hsameText
  rw [hlower, htext, ← points_injective hsameText]

end Messages

section Acceptance

variable {platform : Platform} {action : ThresholdAction} {parties : Parties}
  {walletMessage : List Byte}

theorem requireHash_sha256Hex (value : List Byte) (label : String) :
    requireHash (some (points (sha256Hex platform value))) label =
      .ok (points (sha256Hex platform value)) := by
  have hdigits : (sha256Hex platform value).all isLowerHexDigit = true :=
    List.all_eq_true.mpr fun digit hdigit => (mem_hexText hdigit)
  have hlength : (sha256Hex platform value).length = 64 := by
    rw [sha256Hex, hexText, List.length_flatMap]
    simp
  have hne : points (sha256Hex platform value) ≠ [] := by
    intro hempty
    rw [List.map_eq_nil_iff.mp hempty] at hlength
    cases hlength
  have hcheck : (points (sha256Hex platform value)).length = 64 ∧
      (points (sha256Hex platform value)).all isHexDigit = true := by
    refine ⟨by rw [points, List.length_map, hlength], ?_⟩
    rw [points, List.all_map]
    exact hdigits
  rw [requireHash, requireString_some hne]
  simp only [bind, Except.bind, require, lower_points, map_toLower_of_lowerHex hdigits,
    if_pos hcheck]
  rfl

/-- The last check: the device has signed the message that the Node builds. -/
theorem requireDevice_isOk (hvalid : Valid platform action parties walletMessage) :
    (∃ verified, requireDevice platform
        (receivedProof (signedProof platform action walletMessage)) (fieldsOf action parties)
        (keysOf action parties) = .ok verified) ↔
      ∃ message, canonicalFields ((signedFields platform action walletMessage
          (toLowerCase action.context.resourceCommitment)).map codePoints) = some message ∧
        platform.verify parties.signingKey message
          (deviceSignature platform action walletMessage) = true := by
  have hnonce : action.nonce ≠ [] := by
    intro hempty
    have hlength := hvalid.nonce
    rw [hempty] at hlength
    cases hlength
  have hsignature : deviceSignature platform action walletMessage ≠ [] := by
    intro hempty
    have hlength := hvalid.registered.signature_length
      (serializeTinDeviceAccessProof (unsignedProof platform action walletMessage))
    rw [← deviceSignature, hempty] at hlength
    cases hlength
  have htime : ∀ {time : Int}, IsoTime platform time → points (platform.toIsoString time) ≠ [] :=
    fun htime hempty => htime.nonempty (List.map_eq_nil_iff.mp hempty)
  simp only [requireDevice, receivedProof, signedProof, unsignedProof, codePoints_units,
    bind_eq_ok, okOr_eq_ok, require_eq_ok, pure_eq_ok]
  rw [← deviceMessage_eq hvalid]
  constructor
  · rintro ⟨verified, deviceId, hdeviceId, commitment, hcommitment, nonce, hnonceText, issuedAt,
      hissuedAt, expiresAt, hexpiresAt, message, hmessage, text, htext, signature, hbytes, ⟨⟩,
      hverify, -⟩
    rw [requireString_some (codePoints_ne_nil hvalid.registered.deviceId)] at hdeviceId
    rw [requireHash_sha256Hex] at hcommitment
    rw [requireString_some (points_base64_ne_nil hnonce)] at hnonceText
    rw [requireString_some (htime hvalid.issuedAt)] at hissuedAt
    rw [requireString_some (htime hvalid.expiresAt)] at hexpiresAt
    rw [requireString_some (points_base64_ne_nil hsignature)] at htext
    obtain rfl := Except.ok.inj hdeviceId
    obtain rfl := Except.ok.inj hcommitment
    obtain rfl := Except.ok.inj hnonceText
    obtain rfl := Except.ok.inj hissuedAt
    obtain rfl := Except.ok.inj hexpiresAt
    obtain rfl := Except.ok.inj htext
    rw [base64urlDecode_bytes] at hbytes
    obtain rfl := Except.ok.inj hbytes
    exact ⟨message, hmessage, hverify⟩
  · rintro ⟨message, hmessage, hverify⟩
    exact ⟨_, _, requireString_some (codePoints_ne_nil hvalid.registered.deviceId), _,
      requireHash_sha256Hex _ _, _, requireString_some (points_base64_ne_nil hnonce), _,
      requireString_some (htime hvalid.issuedAt), _, requireString_some (htime hvalid.expiresAt),
      message, hmessage, _, requireString_some (points_base64_ne_nil hsignature), _,
      base64urlDecode_bytes _ _, (), hverify, rfl⟩

/-- Whether the Node accepts the SDK's proof comes down to the two messages it builds. -/
theorem verify_isOk_iff (hvalid : Valid platform action parties walletMessage) {now : Int}
    (hwindow : InWindow action now) :
    (∃ verified, verifyThresholdAccessRequest platform now
        (requestOf platform action walletMessage) = .ok verified) ↔
      canonicalFields (walletFields action parties) = some walletMessage ∧
        ∃ message, canonicalFields ((signedFields platform action walletMessage
            (toLowerCase action.context.resourceCommitment)).map codePoints) = some message ∧
          platform.verify parties.signingKey message
            (deviceSignature platform action walletMessage) = true := by
  rw [← requireWallet_eq_ok hvalid, ← requireDevice_isOk hvalid]
  have hoperation : requireOperation (requestOf platform action walletMessage).operation =
      .ok (py action.operation.text) := requireOperation_text action.operation
  have hproof : (requestOf platform action walletMessage).deviceAccessProof =
      some (receivedProof (signedProof platform action walletMessage)) := rfl
  have haccess : (requestOf platform action walletMessage).access =
      some (receivedAccess action.context) := rfl
  simp only [verifyThresholdAccessRequest, bind_eq_ok, require_eq_ok, okOr_eq_ok]
  constructor
  · rintro ⟨verified, ⟨⟩, -, operation, hoperation', access, haccess', proof, hproof', fields,
      hfields, ⟨⟩, -, ⟨⟩, -, ⟨⟩, hwallet, keys, hkeys, ⟨⟩, -, hdevice⟩
    obtain rfl := Except.ok.inj (hoperation.symm.trans hoperation')
    obtain rfl := Option.some.inj (haccess.symm.trans haccess')
    obtain rfl := Option.some.inj (hproof.symm.trans hproof')
    rw [requireFields_received hvalid] at hfields
    obtain rfl := Except.ok.inj hfields
    obtain rfl := Except.ok.inj ((requireDeviceKeys_received hvalid).symm.trans hkeys)
    exact ⟨hwallet, verified, hdevice⟩
  · rintro ⟨hwallet, verified, hdevice⟩
    exact ⟨verified, (), rfl, _, hoperation, _, haccess, _, hproof, _,
      requireFields_received hvalid, (), ⟨rfl, rfl⟩, (), requireExactFields_received hvalid, (),
      hwallet, _, requireDeviceKeys_received hvalid, (), requireWindow_received hvalid hwindow,
      hdevice⟩

/-- What the Node returns for a proof of the SDK. -/
def verifiedOf (platform : Platform) (action : ThresholdAction) (parties : Parties) :
    Verified where
  operation := (fieldsOf action parties).operation
  tin := (fieldsOf action parties).tin
  ownerPublicKey := (fieldsOf action parties).owner
  resourceCommitment := (fieldsOf action parties).resource
  requestNonce := points (bytesToBase64Url action.nonce)
  issuedAt := points (platform.toIsoString action.now)
  expiresAt := points (platform.toIsoString (action.now + 5 * 60 * 1000))
  deviceId := codePoints action.device.deviceId

/-- Only in its window is a proof accepted. -/
theorem verified_of_accepted (hvalid : Valid platform action parties walletMessage) {now : Int}
    {verified : Verified} (haccepted : verifyThresholdAccessRequest platform now
      (requestOf platform action walletMessage) = .ok verified) :
    verified = verifiedOf platform action parties ∧ InWindow action now := by
  have hoperation : requireOperation (requestOf platform action walletMessage).operation =
      .ok (py action.operation.text) := requireOperation_text action.operation
  have hproof : (requestOf platform action walletMessage).deviceAccessProof =
      some (receivedProof (signedProof platform action walletMessage)) := rfl
  have haccess : (requestOf platform action walletMessage).access =
      some (receivedAccess action.context) := rfl
  simp only [verifyThresholdAccessRequest, bind_eq_ok, require_eq_ok, okOr_eq_ok] at haccepted
  obtain ⟨⟨⟩, -, operation, hoperation', access, haccess', proof, hproof', fields, hfields, ⟨⟩, -,
    ⟨⟩, -, ⟨⟩, -, keys, -, ⟨⟩, hwindow, hdevice⟩ := haccepted
  obtain rfl := Except.ok.inj (hoperation.symm.trans hoperation')
  obtain rfl := Option.some.inj (haccess.symm.trans haccess')
  obtain rfl := Option.some.inj (hproof.symm.trans hproof')
  obtain rfl := Except.ok.inj ((requireFields_received hvalid).symm.trans hfields)
  constructor
  · simp only [requireDevice, bind_eq_ok, pure_eq_ok] at hdevice
    obtain ⟨deviceId, hdeviceId, _, -, nonce, hnonce, issuedAt, hissuedAt, expiresAt, hexpiresAt,
      _, -, _, -, _, -, _, -, rfl⟩ := hdevice
    have hkept : ∀ {text label : _} {value : PyString},
        requireString (some text) label = .ok value → value = text := by
      intro text label value hvalue
      simp only [requireString, bind_eq_ok, okOr_eq_ok, pure_eq_ok] at hvalue
      obtain ⟨_, htext, _, -, rfl⟩ := hvalue
      exact (Option.some.inj htext).symm
    rw [hkept hdeviceId, hkept hnonce, hkept hissuedAt, hkept hexpiresAt]
    simp only [signedProof, unsignedProof, codePoints_units, verifiedOf]
  · simp only [requireWindow, receivedProof, signedProof, unsignedProof, codePoints_units,
      parseTime_isoTime hvalid.issuedAt, parseTime_isoTime hvalid.expiresAt, bind_eq_ok,
      require_eq_ok] at hwindow
    obtain ⟨issued, hissued, expires, hexpires, -, -, hearly, hlate⟩ := hwindow
    obtain rfl := Except.ok.inj hissued
    obtain rfl := Except.ok.inj hexpires
    exact ⟨by omega, hlate⟩

/-- What the device signs for one message is no signature of another. -/
def Binding (platform : Platform) (device : TinAuthorizedDeviceSigner) (key : List Byte) : Prop :=
  ∀ message other, platform.verify key other (device.signMessage message) = true →
    other = message

/-- Plain inputs are enough, whatever the platform is. -/
theorem accepted_of_plainly (hvalid : Valid platform action parties walletMessage) {now : Int}
    (hwindow : InWindow action now) (hplainly : Plainly action parties) :
    ∃ verified, verifyThresholdAccessRequest platform now
      (requestOf platform action walletMessage) = .ok verified := by
  obtain ⟨-, -, hresource⟩ := valid_context hvalid
  refine (verify_isOk_iff hvalid hwindow).mpr ⟨(walletFields_iff hvalid).mpr
    ⟨hplainly.tin, hplainly.sessionBinding⟩, _, ?_, hvalid.registered.signs _⟩
  rw [serialize_unsignedProof, hplainly.resource]
  exact (canonicalFields_agree_iff _).mpr ((forall_signedFields hvalid
    (plain_of_isHash32 hresource)).mpr
      ⟨hplainly.tin, hplainly.sessionBinding, hplainly.deviceId⟩)

/-- Where a signature binds the device to its message, they are also necessary. -/
theorem plainly_of_accepted (hvalid : Valid platform action parties walletMessage) {now : Int}
    (hwindow : InWindow action now)
    (hbinding : Binding platform action.device parties.signingKey)
    (haccepted : ∃ verified, verifyThresholdAccessRequest platform now
      (requestOf platform action walletMessage) = .ok verified) :
    Plainly action parties := by
  obtain ⟨hwallet, message, hmessage, hverify⟩ := (verify_isOk_iff hvalid hwindow).mp haccepted
  obtain rfl := hbinding _ _ hverify
  obtain ⟨htin, hsession⟩ := (walletFields_iff hvalid).mp hwallet
  obtain ⟨hdevice, hresource⟩ := plain_of_signedFields hvalid hmessage
  exact ⟨htin, hsession, hdevice, hresource⟩

def sampleSigningKey : List Byte :=
  beBytes 32 0x809667cd5bfecdc84bdd7b544e61ef258b96005f90bf87b623fa4fe06183347b

def sampleEncryptionKey : List Byte :=
  beBytes 32 0xda2508c14e0597af040af12819967a87223c5d16c77edc782dc77ae3f483aad4

def sampleOwnerKey : List Byte :=
  beBytes 32 0x03759fed0728796dd086f924e7a29f34ba223fce5c871f7db782a737aa6676d8

def sampleWalletSignature : List Byte :=
  beBytes 32 0xa855f5c2b42f43205d147828783a254020b85e6d9d739dcb4802642593883d70 ++
    beBytes 32 0xa9cf7264fb97daa038a32cae94fef4acfebe106c706e19bd91959eeca7275903

def sampleDeviceSignature : List Byte :=
  beBytes 32 0x39ca595fc0e18ea7d3ea4725fd9122f6e13cc2f1c45d1530d2f181de9b90173f ++
    beBytes 32 0xfb02fffd738631e2f6c607ff55997ed83b6686d17939a1802855ac709f609603

/-- SHA-256, Ed25519 and the clock as they are on the texts that are hashed, the two signatures
and the two times of the sample. -/
def samplePlatform : Platform where
  sha256 := fun bytes =>
    if bytes.length = 91 then
      0xdbbc89b18783df0b1d609d0f80baa8a46a675b95aa760f33b7bdaf46b6e01f81
    else if bytes.length = 112 then
      0x44f25ae87b19b66a4fea6429ef28998b830b314ac53b66a9b160fd329bc9053e
    else if bytes.length = 225 then
      0xb677de49a0f3da20b4fa7c53bc671a8a6ada1bf904b6f192a3bff9eda700e8d0
    else if bytes.length = 2639 then
      0x75cb23f9ee0659923a0496ac424b1b088f5eede728f72bb0147c99aeaa2ce9de
    else 0x788e44343f50bafff5378586172d90a66ce3d115f4a4ab8b501ede731c0bb62d
  verify := fun key _ signature =>
    decide (key = sampleOwnerKey ∧ signature = sampleWalletSignature ∨
      key = sampleSigningKey ∧ signature = sampleDeviceSignature)
  toIsoString := fun time =>
    if time = 1767225600000 then "2026-01-01T00:00:00.000Z".toList
    else "2026-01-01T00:05:00.000Z".toList
  fromIsoFormat := fun text =>
    if text = py "2026-01-01T00:00:00.000+00:00" then some (1767225600000000, true)
    else if text = py "2026-01-01T00:05:00.000+00:00" then some (1767225900000000, true)
    else none

def sampleSigningJwk : JsonWebKey :=
  ⟨js "OKP", js "Ed25519", units (bytesToBase64Url sampleSigningKey)⟩

def sampleEncryptionJwk : JsonWebKey :=
  ⟨js "OKP", js "X25519", units (bytesToBase64Url sampleEncryptionKey)⟩

def sampleDevice : TinAuthorizedDeviceSigner where
  deviceId := js "device-1"
  signingPublicKey := sampleSigningJwk
  signingKeyFingerprint := fingerprintDeviceSigningPublicKey samplePlatform sampleSigningJwk
  encryptionPublicKey := sampleEncryptionJwk
  encryptionKeyFingerprint :=
    fingerprintEncryptionPublicKey samplePlatform sampleEncryptionJwk (js "device")
  signMessage := fun _ => sampleDeviceSignature

def sampleOwner : Text :=
  "EWFZJuFzfx1bdWH5wa67KL1joEvYhGF5m6cL9mjHp1V".toList

def sampleContext : AccessContext where
  tin := js "1000000008"
  ownerPublicKey := units sampleOwner
  routeVersion := 2
  pruConfigurationHash := units (List.replicate 64 '1')
  resourceCommitment := units (List.replicate 64 '2')
  deviceSessionBinding := js "lit-session:test" ++ (js ":device:" ++
    (sampleDevice.signingKeyFingerprint ++ (js ":encryption:" ++
      sampleDevice.encryptionKeyFingerprint)))

def sampleAction : ThresholdAction where
  operation := .protectKey
  device := sampleDevice
  context := sampleContext
  nonce := (List.range' 32 32).map (BitVec.ofNat 8)
  now := 1767225600000
  walletSignature := sampleWalletSignature

def sampleParties : Parties where
  signingKey := sampleSigningKey
  encryptionKey := sampleEncryptionKey
  owner := sampleOwner
  ownerKey := sampleOwnerKey
  sessionBinding := js "lit-session:test"

def sampleWalletMessage : List Byte :=
  Sdk.DeviceAccess.canonicalFields [js "TSN_TIN_MASTER_SEED_ACCESS", sampleContext.tin,
    sampleContext.ownerPublicKey, units (decimal sampleContext.routeVersion),
    toLowerCase sampleContext.pruConfigurationHash,
    toLowerCase sampleContext.resourceCommitment, sampleContext.deviceSessionBinding]

theorem registered_sampleDevice :
    Registered samplePlatform sampleDevice sampleSigningKey sampleEncryptionKey where
  signingKey_length := by rw [sampleSigningKey, length_beBytes]
  encryptionKey_length := by rw [sampleEncryptionKey, length_beBytes]
  signingPublicKey := by rw [sampleDevice, sampleSigningJwk]
  encryptionPublicKey := by rw [sampleDevice, sampleEncryptionJwk]
  signingFingerprint := by rw [sampleDevice]
  encryptionFingerprint := by rw [sampleDevice]
  deviceId := by rw [sampleDevice]; decide
  signature_length := fun _ => by simp [sampleDevice, sampleDeviceSignature]
  signs := by
    intro message
    unfold samplePlatform sampleDevice
    rw [decide_eq_true_iff]
    exact .inr ⟨rfl, rfl⟩

theorem serialize_sampleContext :
    serializeTinMasterSeedWalletAuthorization sampleContext = .ok sampleWalletMessage := by
  have hversion : 1 ≤ sampleContext.routeVersion ∧ sampleContext.routeVersion < 2 ^ 53 := by
    decide
  have hpru : isHash32 sampleContext.pruConfigurationHash = true :=
    isHash32_units List.length_replicate fun _ hdigit =>
      List.eq_of_mem_replicate hdigit ▸ by decide
  have hresource : isHash32 sampleContext.resourceCommitment = true :=
    isHash32_units List.length_replicate fun _ hdigit =>
      List.eq_of_mem_replicate hdigit ▸ by decide
  simp only [serializeTinMasterSeedWalletAuthorization, bind_eq_ok, require_eq_ok, pure_eq_ok]
  refine ⟨(), hversion, (), hpru, (), hresource, ?_⟩
  unfold sampleWalletMessage
  with_reducible rfl

theorem valid_sampleAction :
    Valid samplePlatform sampleAction sampleParties sampleWalletMessage where
  registered := registered_sampleDevice
  tin := by rw [sampleAction, sampleContext]; decide
  owner := by rw [sampleAction, sampleContext, sampleParties]
  ownerKey := by decide +kernel
  ownerKey_length := by rw [sampleParties, sampleOwnerKey, length_beBytes]
  session := by rw [sampleAction, sampleContext, sampleParties]
  message := serialize_sampleContext
  signature_length := by simp [sampleAction, sampleWalletSignature]
  signature := by
    unfold samplePlatform sampleAction sampleParties
    rw [decide_eq_true_iff]
    exact .inl ⟨rfl, rfl⟩
  nonce := by decide
  issuedAt := ⟨by decide +kernel, by decide +kernel, by decide +kernel⟩
  expiresAt := ⟨by decide +kernel, by decide +kernel, by decide +kernel⟩

theorem plainly_sampleAction : Plainly sampleAction sampleParties where
  tin := plain_js (by decide)
  sessionBinding := plain_js (by decide)
  deviceId := plain_js (by decide)
  resource := by decide +kernel

end Acceptance

end TsnProtocol.Node.DeviceAcceptance
