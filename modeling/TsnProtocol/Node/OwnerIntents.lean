import TsnProtocol.Node.TinOperation

/-!
The owner of a new TIN signs one hash, which the client, the Node and the program each compute
from what they hold of the request.
-/

namespace TsnProtocol.Node.OwnerIntents

open Circomlib.BabyJub (balanceG suborder_nsmul_balanceG)
open Lib.ByteReader
open Lib.Checked
open Lib.PythonText
open Lib.PythonValues
open Lib.TextFormat
open Node.DepositTransaction (b64decode_b64encode)
open Node.TinOperation
open Sdk.DeltaCipher (multiply_coordinates)
open Sdk.TinCreation
open Solana.Address (Bytes32)
open Tip.OwnerIntent
open Tip.Registrar hiding Result
open Tip.State (Runtime)

/-- `process_instruction` on the data of the instruction that creates a TIN. -/
def readCreateTinV1 : List Byte → Tip.Registrar.Result CreateTinV1Params
  | [] => .error .invalidInstructionData
  | tag :: data => do
      require (tag = 17) .invalidInstructionData
      tryFromSlice data

section Submission

/-- What a caller adds to a creation that it submits. -/
structure Submission where
  (intentId ownerPubkey ownerSignature ownerIntentMessage lookupIssuanceProof : Text)

/-- The body that `submitTinV1Creation` posts; `number` is the conversion `Number`. -/
def submittedPayload (number : Int → Int) (params : CreationParams) (intentHash : Bytes32)
    (submission : Submission) : Payload := fun key => List.lookup key
  [("intentType", .str "tin_creation".toList),
    ("intentId", .str submission.intentId),
    ("ownerPubkey", .str submission.ownerPubkey),
    ("ownerSignature", .str submission.ownerSignature),
    ("ownerIntentHash", .str (hexText (wordBytes intentHash))),
    ("ownerIntentMessage", .str submission.ownerIntentMessage),
    ("nonce", .str (hexText params.routeNonce)),
    ("expiry", .int (number params.expiryTs)),
    ("lookupCommitment", .str (hexText params.lookupCommitment)),
    ("encryptedTinRecovery", .str (b64encode params.encryptedTinRecovery)),
    ("encryptedIdentityEnvelope", .str (b64encode params.encryptedIdentityEnvelope)),
    ("encryptedMasterSeed", .str (b64encode params.encryptedMasterSeed)),
    ("encryptedMetadataHash", .str (hexText params.encryptedMetadataHash)),
    ("routeVersion", .int (number params.routeVersion)),
    ("routeNonce", .str (hexText params.routeNonce)),
    ("tipRouteVersion", .int params.tipRouteVersion),
    ("gpruElgamalKeyVersion", .int params.gpruElgamalKeyVersion),
    ("gpruElgamalPublicKey", .str (hexText params.gpruElgamalPublicKey)),
    ("gpruElgamalKeyCommitment", .str (hexText params.gpruElgamalKeyCommitment)),
    ("gpruBalanceScanKeyVersion", .int params.gpruBalanceScanKeyVersion),
    ("gpruBalanceScanPublicKeyX", .str (hexText params.gpruBalanceScanPublicKeyX)),
    ("gpruBalanceScanPublicKeyY", .str (hexText params.gpruBalanceScanPublicKeyY)),
    ("policyCommitment", .str (hexText params.policyCommitment)),
    ("lookupIssuanceProof", .str submission.lookupIssuanceProof)]

variable {platform : Platform} {number : Int → Int} {params : CreationParams}
  {intentHash : Bytes32} {submission : Submission}

theorem isSpace_hexDigit {nibble : Nat} (hnibble : nibble < 16) :
    isSpace (lowerHexDigit nibble) = false := by
  interval_cases nibble <;> decide

theorem stripText_hexText (bytes : List Byte) : stripText (hexText bytes) = hexText bytes := by
  apply trimmed_eq_self
  intro digit hdigit
  obtain ⟨byte, -, hmem⟩ := List.mem_flatMap.mp hdigit
  have hbyte := byte.isLt
  simp only [List.mem_cons, List.not_mem_nil, or_false] at hmem
  rcases hmem with rfl | rfl
  · exact isSpace_hexDigit (by omega)
  · exact isSpace_hexDigit (by omega)

theorem isSpace_base64Digit {value : Nat} (hvalue : value < 64) :
    isSpace (base64Digit '+' '/' value) = false := by
  interval_cases value <;> decide

theorem stripText_b64encode (bytes : List Byte) :
    stripText (b64encode bytes) = b64encode bytes := by
  obtain ⟨digits, padding, hbytes, hdigits, -⟩ := base64_eq_append '+' '/' bytes
  apply trimmed_eq_self
  intro digit hdigit
  rw [b64encode, hbytes, List.mem_append] at hdigit
  rcases hdigit with hmem | hmem
  · obtain ⟨value, hvalue, rfl⟩ := hdigits digit hmem
    exact isSpace_base64Digit hvalue
  · rw [List.eq_of_mem_replicate hmem]
    rfl

theorem length_hexText (bytes : List Byte) : (hexText bytes).length = 2 * bytes.length := by
  induction bytes with
  | nil => rfl
  | cons byte bytes ih =>
      rw [hexText] at ih
      rw [hexText, List.flatMap_cons, List.length_append, ih, List.length_cons]
      simp only [List.length_cons, List.length_nil]
      omega

theorem decodeHash32_hexText {bytes : List Byte} {label : String} (hlength : bytes.length = 32) :
    decodeHash32 (.str (hexText bytes)) label = .ok bytes := by
  simp only [decodeHash32, str_orEmpty_text, stripText_hexText, bind_eq_ok, require_eq_ok,
    okOr_eq_ok, pure_eq_ok, fromHex_hexText]
  exact ⟨(), by rw [length_hexText, hlength], bytes, rfl, (), hlength, rfl⟩

theorem requireString_eq_ok {payload : Payload} {names : List String} {text found : Text}
    (hfield : field payload names .none = .str text)
    (hread : requireString payload names = .ok found) : found = stripText text := by
  simp only [requireString, hfield, bind_eq_ok, pure_eq_ok] at hread
  obtain ⟨_, -, rfl⟩ := hread
  rfl

theorem hash_of_field {payload : Payload} {names : List String} {label : String}
    {bytes found : List Byte} {text : Text} (hlength : bytes.length = 32)
    (hfield : field payload names .none = .str (hexText bytes))
    (htext : requireString payload names = .ok text)
    (hread : decodeHash32 (.str text) label = .ok found) : found = bytes := by
  rw [requireString_eq_ok hfield htext, stripText_hexText, decodeHash32_hexText hlength] at hread
  exact (Except.ok.inj hread).symm

theorem blob_of_field {payload : Payload} {names : List String} {label : String}
    {bytes found : List Byte} {text : Text}
    (hfield : field payload names .none = .str (b64encode bytes))
    (htext : requireString payload names = .ok text)
    (hread : decodeBase64Blob (.str text) label = .ok found) : found = bytes := by
  rw [requireString_eq_ok hfield htext, stripText_b64encode, decodeBase64Blob,
    str_orEmpty_text, b64decode_b64encode] at hread
  simp only [okOr, bind_eq_ok, pure_eq_ok, Except.ok.injEq, exists_eq_left'] at hread
  obtain ⟨_, -, rfl⟩ := hread
  rfl

theorem expiry_of_field {now value expiry : Int}
    (hread : expiryFromInput platform now (.int value) = .ok expiry) : value = expiry := by
  simp only [expiryFromInput, int, bind_eq_ok, pure_eq_ok, Except.ok.injEq,
    exists_eq_left'] at hread
  obtain ⟨_, -, rfl⟩ := hread
  rfl

theorem routeOf_submitted {nonceBytes : List Byte} {route : RouteFields}
    (hparams : Encodable params) (hversion : number params.routeVersion = params.routeVersion)
    (hread : readRoute platform (submittedPayload number params intentHash submission)
      nonceBytes = .ok route) :
    route.routeVersion = params.routeVersion ∧ route.routeNonceBytes = params.routeNonce ∧
      route.tipRouteVersion = params.tipRouteVersion ∧
      route.gpruElgamalKeyVersion = params.gpruElgamalKeyVersion ∧
      route.gpruElgamalPublicKey = params.gpruElgamalPublicKey ∧
      route.gpruElgamalKeyCommitment = params.gpruElgamalKeyCommitment ∧
      route.gpruBalanceScanKeyVersion = params.gpruBalanceScanKeyVersion ∧
      route.gpruBalanceScanPublicKeyX = params.gpruBalanceScanPublicKeyX ∧
      route.gpruBalanceScanPublicKeyY = params.gpruBalanceScanPublicKeyY ∧
      route.policyCommitment = params.policyCommitment := by
  simp only [readRoute, bind_eq_ok, require_eq_ok, pure_eq_ok, exists_and_left,
    exists_const] at hread
  obtain ⟨_, hroute, -, _, hnonceText, _, hnonce, -, _, htip, -, _, helgamal, _, hkey, _,
    hcommitment, _, hscan, _, hx, _, hy, _, hpolicy, -, -, _, -, -, rfl⟩ := hread
  have hnumber : ∀ {value found : Int}, intOr platform (.int value) = .ok found → found = value :=
    fun hint => (Except.ok.inj hint).symm
  have hhash : ∀ {bytes found : List Byte} {label : String}, bytes.length = 32 →
      decodeHash32 (.str (hexText bytes)) label = .ok found → found = bytes := by
    intro bytes found label hlength hdecode
    rw [decodeHash32_hexText hlength] at hdecode
    exact (Except.ok.inj hdecode).symm
  refine ⟨(hnumber hroute).trans hversion, hash_of_field hparams.routeNonce rfl hnonceText hnonce,
    hnumber htip, hnumber helgamal, hhash hparams.elgamalPublicKey hkey,
    hhash hparams.elgamalKeyCommitment hcommitment, hnumber hscan,
    hhash hparams.scanPublicKeyX hx, hhash hparams.scanPublicKeyY hy,
    hhash hparams.policyCommitment hpolicy⟩

/-- What the client posts is read back as the creation it was made from, where the numbers in
it survive the conversion to `Number`. -/
theorem creationOf_submitted {now : Int} {newIntentId : Text} {fields : TinFields}
    (hparams : Encodable params) (hversion : number params.routeVersion = params.routeVersion)
    (hexpiry : number params.expiryTs = params.expiryTs)
    (howner : decodeOwnerPubkey (stripText submission.ownerPubkey) =
      .ok (wordBytes params.ownerPubkey))
    (hread : readTin platform now newIntentId
      (submittedPayload number params intentHash submission) = .ok fields) :
    creationOf fields = params := by
  simp only [readTin, bind_eq_ok, require_eq_ok, pure_eq_ok, exists_and_left,
    exists_const] at hread
  obtain ⟨_, -, -, -, -, -, _, hownerText, _, hownerBytes, _, -, _, -, -, _, -, _, -, _, -, _, -,
    _, hexpiryRead, _, hlookupText, _, hlookup, _, hidentityText, _, hidentity, _, hrecoveryText,
    _, hrecovery, _, hseedText, _, hseed, -, _, hmetadataText, _, hmetadata, _, hroute,
    rfl⟩ := hread
  have hownerBytes' := hownerBytes
  rw [@requireString_eq_ok _ _ submission.ownerPubkey _ rfl hownerText, howner] at hownerBytes'
  obtain rfl := Except.ok.inj hownerBytes'
  obtain ⟨hrouteVersion, hnonce, htip, helgamal, hkey, hcommitment, hscan, hx, hy, hpolicy⟩ :=
    routeOf_submitted hparams hversion hroute
  have hexpiryValue : number params.expiryTs = _ := expiry_of_field hexpiryRead
  rcases params
  simp only [creationOf, CreationParams.mk.injEq]
  exact ⟨wordOfBytes_wordBytes _, hash_of_field hparams.lookupCommitment rfl hlookupText hlookup,
    blob_of_field rfl hrecoveryText hrecovery, blob_of_field rfl hidentityText hidentity,
    blob_of_field rfl hseedText hseed,
    hash_of_field hparams.metadataHash rfl hmetadataText hmetadata, hrouteVersion, hnonce, htip,
    hkey, hcommitment, hpolicy, helgamal, hscan, hx, hy, hexpiryValue.symm.trans hexpiry⟩

end Submission

theorem serialize_of_hash {sha256 : List Byte → Bytes32} {params : CreationParams}
    {digest : Bytes32} (hhash : createTinV1OwnerIntentHash sha256 params = .ok digest)
    (hroute : validateTinTipRoute sha256 params = true) :
    serializeTinV1CreationParams sha256 params (some (wordBytes digest)) =
      .ok (17 :: creationBytes (programParams params digest)) := by
  obtain ⟨hparams, rfl⟩ := createTinV1OwnerIntentHash_eq_ok.mp hhash
  exact serializeTinV1CreationParams_eq_ok.mpr ⟨hparams, hroute, rfl, rfl⟩

theorem readCreateTinV1_of_serialize {sha256 : List Byte → Bytes32} {params : CreationParams}
    {intentHash data : List Byte}
    (hdata : serializeTinV1CreationParams sha256 params (some intentHash) = .ok data) :
    ∃ digest, createTinV1OwnerIntentHash sha256 params = .ok digest ∧
      intentHash = wordBytes digest ∧
      readCreateTinV1 data = .ok (programParams params digest) := by
  obtain ⟨hparams, -, hhash, rfl⟩ := serializeTinV1CreationParams_eq_ok.mp hdata
  refine ⟨_, createTinV1OwnerIntentHash_eq_ok.mpr ⟨hparams, rfl⟩, hhash, ?_⟩
  simp only [readCreateTinV1, bind_eq_ok, require_eq_ok]
  exact ⟨(), trivial, tryFromSlice_creationBytes (sized_programParams hparams _)⟩

/-- What the client hashes for the owner, what the Node recomputes from a request that says
the same, and what the program recomputes are digests of one byte string; and the data of the
instruction decode to the parameters that were hashed. -/
theorem owner_intents_agree {node : Platform} {program : Runtime}
    (hsha256 : node.sha256 = program.sha256) (params : CreationParams) :
    (∀ digest, createTinV1OwnerIntentHash program.sha256 params = .ok digest →
      ∃ preimage, digest = program.sha256 preimage ∧
        preimage = ownerIntentPreimage (programParams params digest) ∧
        ownerIntentHash program (programParams params digest) = digest ∧
        ∀ now newIntentId payload fields, readTin node now newIntentId payload = .ok fields →
          creationOf fields = params → expectedHash node fields = .ok (node.sha256 preimage)) ∧
    (∀ now newIntentId payload fields digest,
      readTin node now newIntentId payload = .ok fields →
        expectedHash node fields = .ok digest →
          createTinV1OwnerIntentHash program.sha256 (creationOf fields) = .ok digest) ∧
    (∀ intentHash data,
      serializeTinV1CreationParams program.sha256 params (some intentHash) = .ok data →
        ∃ digest, createTinV1OwnerIntentHash program.sha256 params = .ok digest ∧
          intentHash = wordBytes digest ∧
          readCreateTinV1 data = .ok (programParams params digest)) ∧
    (∀ digest, createTinV1OwnerIntentHash program.sha256 params = .ok digest →
      validateTinTipRoute program.sha256 params = true →
        serializeTinV1CreationParams program.sha256 params (some (wordBytes digest)) =
          .ok (17 :: creationBytes (programParams params digest))) := by
  refine ⟨?_, ?_, fun _ _ => readCreateTinV1_of_serialize, fun _ => serialize_of_hash⟩
  · intro digest hhash
    obtain ⟨hparams, rfl⟩ := createTinV1OwnerIntentHash_eq_ok.mp hhash
    refine ⟨(hashedParts params).flatten, rfl, flatten_hashedParts hparams _, ?_, ?_⟩
    · rw [ownerIntentHash, ← flatten_hashedParts hparams]
    · rintro now newIntentId payload fields hread rfl
      exact (expectedHash_eq_ok (valid_of_readTin hread)).mpr ⟨hparams, rfl⟩
  · intro now newIntentId payload fields digest hread hexpected
    rw [expectedHash_eq_ok (valid_of_readTin hread), hsha256] at hexpected
    exact createTinV1OwnerIntentHash_eq_ok.mpr hexpected

section Sample

def sampleCommitment : Bytes32 :=
  0x596aab0fa920df1d144605343772707f58f41cf81323323459c3aa55ebbaa49f

def sampleIntentHash : Bytes32 :=
  0xff21bfc1773575b277b48994032d59c8cb18bf29fc337173b14dd7213a3d689c

def sampleCreation : CreationParams where
  ownerPubkey := wordOfBytes (List.replicate 32 7)
  lookupCommitment := List.replicate 32 8
  encryptedTinRecovery := List.replicate 28 1
  encryptedIdentityEnvelope := [2, 3]
  encryptedMasterSeed := [4]
  encryptedMetadataHash := List.replicate 32 0
  routeVersion := 1
  routeNonce := List.replicate 32 9
  tipRouteVersion := 1
  gpruElgamalPublicKey := List.replicate 32 5
  gpruElgamalKeyCommitment := wordBytes sampleCommitment
  policyCommitment := List.replicate 32 6
  gpruElgamalKeyVersion := 1
  gpruBalanceScanKeyVersion := 1
  gpruBalanceScanPublicKeyX := beBytes 32 balanceG.x.val
  gpruBalanceScanPublicKeyY := beBytes 32 balanceG.y.val
  expiryTs := 1900000000

/-- SHA-256 on the two byte strings that are hashed here. -/
def sampleSha256 (bytes : List Byte) : Bytes32 :=
  if bytes.length = 68 then sampleCommitment else sampleIntentHash

def sampleNode : Platform where
  unicode := ⟨id, fun _ => none⟩
  sha256 := sampleSha256
  hmacSha256 _ _ := 0
  verify _ _ _ := true
  utf8 := encodeAscii
  tinsLookupSecret := List.replicate 16 1

def sampleProgram : Runtime where
  bump _ := 255
  sha256 := sampleSha256
  poseidon _ := none

def sampleSubmission : Submission where
  intentId := "intent".toList
  ownerPubkey := "US517G5965aydkZ46HS38QLi7UQiSojurfbQfKCELFx".toList
  ownerSignature := b64encode (List.replicate 64 3)
  ownerIntentMessage := []
  lookupIssuanceProof := []

def samplePayload : Payload :=
  submittedPayload id sampleCreation sampleIntentHash sampleSubmission

theorem createHash_sample :
    createTinV1OwnerIntentHash sampleSha256 sampleCreation = .ok sampleIntentHash := by
  decide +kernel

theorem isValidBabyJubPoint_sample :
    isValidBabyJubPointV1 balanceG.x.val balanceG.y.val = true := by
  simp only [isValidBabyJubPointV1, Bool.and_eq_true, decide_eq_true_eq]
  refine ⟨⟨by decide +kernel, by decide +kernel⟩, ?_⟩
  rw [ZMod.natCast_zmod_val, ZMod.natCast_zmod_val]
  exact (multiply_coordinates balanceG _).trans (by rw [suborder_nsmul_balanceG]; rfl)

example : sampleIntentHash ≠ 0 := by
  decide +kernel

theorem validateRoute_sample : validateTinTipRoute sampleSha256 sampleCreation = true := by
  have hx : beValue sampleCreation.gpruBalanceScanPublicKeyX = balanceG.x.val := by decide +kernel
  have hy : beValue sampleCreation.gpruBalanceScanPublicKeyY = balanceG.y.val := by decide +kernel
  have hscan : scanPointValid sampleCreation = true := by
    rw [scanPointValid, hx, hy, isValidBabyJubPoint_sample]
    decide +kernel
  rw [validateTinTipRoute, hscan]
  decide +kernel

theorem readTin_sample :
    ∃ fields, readTin sampleNode 1800000000 [] samplePayload = .ok fields :=
  exists_ok_of_isOk (by decide +kernel)

example : sampleNode.tinsLookupSecret.length = 16 := by
  decide +kernel

theorem creationOf_sample {fields : TinFields}
    (hread : readTin sampleNode 1800000000 [] samplePayload = .ok fields) :
    creationOf fields = sampleCreation := by
  have hparams := (createTinV1OwnerIntentHash_eq_ok.mp createHash_sample).1
  exact creationOf_submitted hparams rfl rfl (by decide +kernel) hread

theorem owner_intents_agree_sample :
    ∃ fields data, readTin sampleNode 1800000000 [] samplePayload = .ok fields ∧
      createTinV1OwnerIntentHash sampleSha256 sampleCreation = .ok sampleIntentHash ∧
      expectedHash sampleNode fields = .ok sampleIntentHash ∧
      ownerIntentHash sampleProgram (programParams sampleCreation sampleIntentHash) =
        sampleIntentHash ∧
      serializeTinV1CreationParams sampleSha256 sampleCreation
        (some (wordBytes sampleIntentHash)) = .ok data ∧
      readCreateTinV1 data = .ok (programParams sampleCreation sampleIntentHash) ∧
      createTinV1OwnerIntentHash sampleSha256 (creationOf fields) = .ok sampleIntentHash := by
  obtain ⟨hclient, hnode, hdecode, hserialize⟩ :=
    @owner_intents_agree sampleNode sampleProgram rfl sampleCreation
  obtain ⟨fields, hread⟩ := readTin_sample
  obtain ⟨preimage, hdigest, -, hprogram, hexpected⟩ := hclient _ createHash_sample
  have hhash := hexpected _ _ _ _ hread (creationOf_sample hread)
  rw [show sampleNode.sha256 preimage = sampleIntentHash from hdigest.symm] at hhash
  have hdata := hserialize _ createHash_sample validateRoute_sample
  obtain ⟨digest, hagain, -, hparams⟩ := hdecode _ _ hdata
  obtain rfl : digest = sampleIntentHash :=
    Except.ok.inj (hagain.symm.trans createHash_sample)
  exact ⟨fields, _, hread, createHash_sample, hhash, hprogram, hdata, hparams,
    hnode _ _ _ _ _ hread hhash⟩

end Sample

end TsnProtocol.Node.OwnerIntents
