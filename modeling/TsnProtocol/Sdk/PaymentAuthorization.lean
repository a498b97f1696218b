import TsnProtocol.Lib.Utf16
import TsnProtocol.Sdk.TokenAmounts

/-!
The authorization of a payment by the wallet of its sender: the message it signs, and the
check that writes the message again.
-/

namespace TsnProtocol.Sdk.PaymentAuthorization

open Lib.ByteReader
open Lib.Checked
open Lib.JsonData
open Lib.JsonText
open Lib.TextFormat
open Lib.Utf16 (append_cons_cancel)
open Lib.Utf8
open Sdk.CanonicalMessage
open Sdk.TokenAmounts

/-- What the SDK takes from its platform. -/
structure Platform where
  conversions : Conversions
  /-- `Date.parse`, in milliseconds. -/
  dateParse : String → Option Int
  /-- `new Date(time).toISOString()`. -/
  isoText : Int → String
  /-- The bytes of `new PublicKey(text)`. -/
  publicKey : String → Result (List Byte)
  fromBase64 : String → List Byte
  /-- Ed25519, by key, message and signature. -/
  verify : List Byte → List Byte → List Byte → Bool

inductive DisplayNameSource where
  | ownerProvided | notProvided
  deriving DecidableEq, Repr

def DisplayNameSource.text : DisplayNameSource → String
  | .ownerProvided => "owner-provided"
  | .notProvided => "not provided"

/-- Parameters that a payment is authorized with; amounts as `String(value)`. -/
structure PaymentParams where
  (senderWallet senderIdentity receiverIdentity : String)
  recipientDisplayName : Option String
  recipientDisplayNameSource : Option DisplayNameSource
  recipientVerifiedCredentials : List VerifiedRecipientCredential
  tokenMintAddress : String
  tokenDecimals : Nat
  (amount senderFeeAmount : String)
  totalTokenRequiredUi : Rat

section Messages

/-- `tin:` and digits, at the front of a text. -/
def tinAt (text : Text) : Option Text :=
  if "tin:".toList.isPrefixOf text = true then
    let digits := (text.drop 4).takeWhile Char.isDigit
    if digits = [] then none else some digits
  else none

/-- The first that stands behind a bar. -/
def tinBehindBar : Text → Option Text
  | [] => none
  | '|' :: rest => (tinAt rest).or (tinBehindBar rest)
  | _ :: rest => tinBehindBar rest

def recipientTinOf (receiverIdentity : String) : Option String :=
  ((tinAt receiverIdentity.toList).or (tinBehindBar receiverIdentity.toList)).map String.ofList

variable (platform : Platform) (now : Int)

/-- The message of an intent that expires at the time a text is read as. -/
def intentMessage (intent : PaymentIntentParams) (expires : String) : Result String := do
  let time := platform.dateParse expires
  let fields ← paymentIntentFields platform.conversions
    { intent with expires := ((time.map platform.isoText).getD "") }
  require (time ≠ none) "Invalid time value"
  return buildMessage paymentAction fields

def createSenderPaymentAuthorizationMessage (params : PaymentParams)
    (nonce expiresAt : Option String) : Result String := do
  let recipientTin ← okOr (recipientTinOf params.receiverIdentity)
    "recipient TIN is required for canonical TSN payment authorization"
  let amountBaseUnits ← parseTokenAmountToBaseUnits params.amount params.tokenDecimals false
  let feeBaseUnits ←
    parseTokenAmountToBaseUnits params.senderFeeAmount params.tokenDecimals true
  intentMessage platform
    { amountBaseUnits := amountBaseUnits
      tokenMintAddress := params.tokenMintAddress
      tokenDecimals := params.tokenDecimals
      recipientTin := recipientTin
      recipientDisplayName := params.recipientDisplayName
      recipientDisplayNameSource :=
        params.recipientDisplayNameSource.map DisplayNameSource.text
      recipientVerifiedCredentials := params.recipientVerifiedCredentials
      feeBaseUnits := feeBaseUnits
      sender := "Main Wallet"
      nonce := nonce.getD ""
      expires := "" }
    (expiresAt.getD (platform.isoText (now + 5 * 60000)))

structure Authorization where
  (message amountBaseUnits feeBaseUnits nonce issuedAt expiresAt : String)
  deriving DecidableEq

/-- The nonce that is drawn where none is given comes from the caller's platform. -/
def createPaymentAuthorization (drawn : String) (params : PaymentParams)
    (nonce issuedAt expiresAt : Option String) : Result Authorization := do
  let nonce := nonce.getD drawn
  let issuedAt := issuedAt.getD (platform.isoText now)
  let expiresAt := expiresAt.getD (platform.isoText (now + 5 * 60000))
  let amountBaseUnits ← parseTokenAmountToBaseUnits params.amount params.tokenDecimals false
  let feeBaseUnits ←
    parseTokenAmountToBaseUnits params.senderFeeAmount params.tokenDecimals true
  let message ← createSenderPaymentAuthorizationMessage platform now params (some nonce)
    (some expiresAt)
  return ⟨message, String.ofList (decimal amountBaseUnits),
    String.ofList (decimal feeBaseUnits), nonce, issuedAt, expiresAt⟩

end Messages

section Verification

structure TsnSenderBalance where
  balance : Rat
  symbol : Option String

variable (platform : Platform) (now : Int)

def spkiPrefix : List Byte :=
  [0x30, 0x2a, 0x30, 0x05, 0x06, 0x03, 0x2b, 0x65, 0x70, 0x03, 0x21, 0x00]

def verifySenderPaymentAuthorization (senderWallet signatureBase64 message : String) :
    Result Bool := do
  let publicKey ← platform.publicKey senderWallet
  return platform.verify (spkiPrefix ++ publicKey) (encodeUtf8 message.toList)
    (platform.fromBase64 signatureBase64)

/-- `Number.isFinite(issuedAtMs)` and not further from now than the age allows. -/
def isFresh (issuedAt : String) (maxAgeMs : Int) : Bool :=
  match platform.dateParse issuedAt with
  | some issuedAtMs => |now - issuedAtMs| ≤ maxAgeMs
  | none => false

/-- Without the name, source and credentials of the recipient. -/
def withoutRecipient (params : PaymentParams) : PaymentParams :=
  { params with
    recipientDisplayName := none
    recipientDisplayNameSource := none
    recipientVerifiedCredentials := [] }

def checkBalance (params : PaymentParams)
    (getSenderTokenBalance : Option (String → String → TsnSenderBalance)) : Result Unit :=
  match getSenderTokenBalance with
  | none => .ok ()
  | some balanceOf =>
      let senderToken := balanceOf params.senderWallet params.tokenMintAddress
      require (params.totalTokenRequiredUi ≤ senderToken.balance)
        ("Insufficient " ++ senderToken.symbol.getD "token" ++ " balance. Required " ++
          platform.conversions.numberText params.totalTokenRequiredUi ++ ", available " ++
          platform.conversions.numberText senderToken.balance ++ ".")

/-- Of the parameters, those of the recipient are not read. -/
def verifyAuthorizedTsnPaymentRequest (params : PaymentParams) (issuedAt : String)
    (nonce expiresAt : Option String) (signatureBase64 : String) (maxAgeMs : Option Int)
    (getSenderTokenBalance : Option (String → String → TsnSenderBalance)) :
    Result String := do
  require (isFresh platform now issuedAt (maxAgeMs.getD (5 * 60 * 1000)) = true)
    "Sender wallet authorization expired. Please review and sign again."
  let message ← createSenderPaymentAuthorizationMessage platform now
    (withoutRecipient params) nonce expiresAt
  let valid ←
    verifySenderPaymentAuthorization platform params.senderWallet signatureBase64 message
  require (valid = true) "Sender wallet authorization signature is invalid"
  checkBalance platform params getSenderTokenBalance
  return message

end Verification

section Lines

/-- A line of a message, behind the end of the line before. -/
def lineOf (field : String × String) : Text :=
  '\n' :: (field.1.toList ++ ':' :: ' ' :: field.2.toList)

theorem intercalate_newline (first : Text) (rest : List Text) :
    ['\n'].intercalate (first :: rest) = first ++ rest.flatMap ('\n' :: ·) := by
  induction rest generalizing first with
  | nil => simp
  | cons next rest ih =>
      rw [List.intercalate_cons_cons, ih, List.flatMap_cons]
      simp

theorem toList_buildMessage (action : String) (fields : List (String × String)) :
    (buildMessage action fields).toList =
      ("TSN " ++ action).toList ++ "\n---".toList ++ fields.flatMap lineOf ++
        lineOf ("Domain", canonicalDomainDisplay) := by
  rw [buildMessage, String.toList_ofList, intercalate_newline, List.flatMap_cons,
    List.flatMap_append, List.flatMap_map, List.flatMap_singleton]
  simp only [List.append_assoc]
  rfl

/-- The three lines about the recipient. -/
def recipientFields (name source credentials : String) : List (String × String) :=
  [("Recipient Display Name", name), ("Recipient Display Name Source", source),
    ("Recipient Verified Credentials", credentials)]

theorem recipientLines_inj {name name' source source' credentials credentials' : String}
    (hname : '\n' ∉ name.toList) (hname' : '\n' ∉ name'.toList)
    (hsource : '\n' ∉ source.toList) (hsource' : '\n' ∉ source'.toList)
    (hlines : (recipientFields name source credentials).flatMap lineOf =
      (recipientFields name' source' credentials').flatMap lineOf) :
    name = name' ∧ source = source' ∧ credentials = credentials' := by
  simp only [recipientFields, lineOf, List.flatMap_cons, List.flatMap_nil, List.append_nil,
    List.cons_append, List.append_assoc] at hlines
  have hnames := List.append_cancel_left (List.cons.inj hlines).2
  obtain ⟨hname, hlines⟩ := append_cons_cancel hname hname'
    (List.cons.inj (List.cons.inj hnames).2).2
  have hsources := List.append_cancel_left hlines
  obtain ⟨hsource, hlines⟩ := append_cons_cancel hsource hsource'
    (List.cons.inj (List.cons.inj hsources).2).2
  have hcredentials := List.append_cancel_left hlines
  have hcredentials := (List.cons.inj (List.cons.inj hcredentials).2).2
  exact ⟨String.toList_injective hname, String.toList_injective hsource,
    String.toList_injective hcredentials⟩

/-- Messages that differ at most in the lines about the recipient are equal where these are. -/
theorem buildMessage_recipient_inj {action : String} {front back : List (String × String)}
    {name name' source source' credentials credentials' : String}
    (hname : '\n' ∉ name.toList) (hname' : '\n' ∉ name'.toList)
    (hsource : '\n' ∉ source.toList) (hsource' : '\n' ∉ source'.toList) :
    buildMessage action (front ++ recipientFields name source credentials ++ back) =
        buildMessage action (front ++ recipientFields name' source' credentials' ++ back) ↔
      name = name' ∧ source = source' ∧ credentials = credentials' := by
  constructor
  · intro hmessages
    have htexts := congrArg String.toList hmessages
    simp only [toList_buildMessage, List.flatMap_append, List.append_assoc] at htexts
    have hlines := List.append_cancel_left (List.append_cancel_left
      (List.append_cancel_left htexts))
    exact recipientLines_inj hname hname' hsource hsource' (List.append_cancel_right hlines)
  · rintro ⟨rfl, rfl, rfl⟩
    rfl

end Lines

section Completeness

variable {platform : Platform} {now : Int} {params : PaymentParams}

/-- The recipient is shown as one of whom nothing is known. -/
def ShownAsUnknown (params : PaymentParams) : Prop :=
  (trim (params.recipientDisplayName.getD "") = "" ∨
    trim (params.recipientDisplayName.getD "") = namePlaceholder ∧
      params.recipientDisplayNameSource = some .notProvided) ∧
  params.recipientVerifiedCredentials = []

def shownSource (params : PaymentParams) : String :=
  displayNameSource params.recipientDisplayName
    (params.recipientDisplayNameSource.map DisplayNameSource.text)

theorem shownSource_eq (params : PaymentParams) :
    shownSource params = "owner-provided" ∨ shownSource params = "not provided" := by
  rw [shownSource, displayNameSource]
  split
  · exact .inr rfl
  · rcases params.recipientDisplayNameSource with _ | ⟨_ | _⟩
    · exact .inl rfl
    · exact .inl rfl
    · exact .inr rfl

theorem newline_not_mem_shownSource (params : PaymentParams) :
    '\n' ∉ (shownSource params).toList := by
  rcases shownSource_eq params with hsource | hsource <;> rw [hsource] <;> decide

theorem canonicalDisplayName_eq_ok {value : Option String} {name : String} :
    canonicalDisplayName value = .ok name ↔
      (trim (value.getD "")).toList.any isControl = false ∧
        (if trim (value.getD "") = "" then namePlaceholder else trim (value.getD "")) =
          name := by
  simp only [canonicalDisplayName, bind_eq_ok, require_eq_ok, pure_eq_ok, exists_const]

theorem newline_not_mem_displayName {value : Option String} {name : String}
    (hname : canonicalDisplayName value = .ok name) : '\n' ∉ name.toList := by
  obtain ⟨hcontrol, rfl⟩ := canonicalDisplayName_eq_ok.mp hname
  split
  · decide
  · intro hmem
    rw [List.any_eq_false] at hcontrol
    exact absurd rfl (hcontrol '\n' hmem)

/-- No list of credentials but the empty one is written as the empty list. -/
theorem credentials_eq_empty {conversions : Conversions}
    {credentials : List VerifiedRecipientCredential} {text : String}
    (hcredentials : canonicalRecipientCredentials conversions credentials = .ok text) :
    text = "[]" ↔ credentials = [] := by
  simp only [canonicalRecipientCredentials, bind_eq_ok, pure_eq_ok] at hcredentials
  obtain ⟨normalized, hnormalized, rfl⟩ := hcredentials
  rcases credentials with _ | ⟨credential, credentials⟩
  · obtain rfl := Except.ok.inj hnormalized
    exact iff_of_true rfl rfl
  · simp only [List.mapM_cons, bind_eq_ok, pure_eq_ok] at hnormalized
    obtain ⟨first, -, rest, -, rfl⟩ := hnormalized
    have hlength : (sortCredentials conversions (first :: rest)).length = rest.length + 1 :=
      List.length_insertionSort _ _
    obtain ⟨head, tail, htext⟩ : ∃ head tail,
        sortCredentials conversions (first :: rest) = head :: tail :=
      List.exists_cons_of_length_eq_add_one hlength
    refine iff_of_false ?_ (List.cons_ne_nil _ _)
    intro hempty
    have hchars := congrArg String.toList hempty
    rw [stringify, String.toList_ofList, htext, List.map_cons, render, render.itemTexts,
      intercalate_cons_eq, credentialJson, render] at hchars
    simp at hchars

def frontFields (intent : PaymentIntentParams) (amount recipientTin : String) :
    List (String × String) :=
  [("Token Mint", trim intent.tokenMintAddress),
    ("Token Decimals", String.ofList (decimal intent.tokenDecimals)), ("Amount", amount),
    ("Recipient TIN", recipientTin)]

def backFields (intent : PaymentIntentParams) (fee expires : String) :
    List (String × String) :=
  [("Fee", fee), ("Sender", intent.sender), ("Nonce", intent.nonce), ("Expires", expires)]

/-- An intent without what it says of its recipient. -/
def unknownRecipient (intent : PaymentIntentParams) : PaymentIntentParams :=
  { intent with
    recipientDisplayName := none
    recipientDisplayNameSource := none
    recipientVerifiedCredentials := [] }

/-- Where a message is written, one for an unknown recipient is written as well. -/
theorem intentMessage_unknown {intent : PaymentIntentParams} {expires message : String}
    (hmessage : intentMessage platform intent expires = .ok message) :
    ∃ front back name credentials,
      canonicalDisplayName intent.recipientDisplayName = .ok name ∧
        canonicalRecipientCredentials platform.conversions
          intent.recipientVerifiedCredentials = .ok credentials ∧
        message = buildMessage paymentAction (front ++ recipientFields name
          (displayNameSource intent.recipientDisplayName intent.recipientDisplayNameSource)
            credentials ++ back) ∧
        intentMessage platform (unknownRecipient intent) expires =
          .ok (buildMessage paymentAction (front ++
            recipientFields namePlaceholder "not provided" "[]" ++ back)) := by
  simp only [intentMessage, paymentIntentFields, bind_eq_ok, require_eq_ok, pure_eq_ok]
    at hmessage
  obtain ⟨_, ⟨_, hmint, amount, hamount, recipientTin, htin, name, hname, credentials,
    hcredentials, fee, hfee, rfl⟩, _, htime, rfl⟩ := hmessage
  refine ⟨frontFields intent amount recipientTin, backFields intent fee
    (((platform.dateParse expires).map platform.isoText).getD ""), name, credentials, hname,
    hcredentials, rfl, ?_⟩
  simp only [intentMessage, paymentIntentFields, bind_eq_ok, require_eq_ok, pure_eq_ok]
  exact ⟨_, ⟨⟨⟩, hmint, amount, hamount, recipientTin, htin, namePlaceholder, rfl, "[]", rfl,
    fee, hfee, rfl⟩, ⟨⟩, htime, rfl⟩

/-- The parameters of `params` as `createSenderPaymentAuthorizationMessage` passes them on. -/
theorem createSenderMessage_eq_ok {nonce expiresAt message : String} :
    createSenderPaymentAuthorizationMessage platform now params (some nonce)
        (some expiresAt) = .ok message ↔
      ∃ recipientTin amount fee,
        recipientTinOf params.receiverIdentity = some recipientTin ∧
        parseTokenAmountToBaseUnits params.amount params.tokenDecimals false = .ok amount ∧
        parseTokenAmountToBaseUnits params.senderFeeAmount params.tokenDecimals true =
          .ok fee ∧
        intentMessage platform ⟨amount, params.tokenMintAddress, params.tokenDecimals,
          recipientTin, params.recipientDisplayName,
          params.recipientDisplayNameSource.map DisplayNameSource.text,
          params.recipientVerifiedCredentials, fee, "Main Wallet", nonce, ""⟩ expiresAt =
            .ok message := by
  simp only [createSenderPaymentAuthorizationMessage, bind_eq_ok, okOr_eq_ok,
    Option.getD_some]
  constructor
  · rintro ⟨recipientTin, htin, amount, hamount, fee, hfee, hmessage⟩
    exact ⟨recipientTin, amount, fee, htin, hamount, hfee, hmessage⟩
  · rintro ⟨recipientTin, amount, fee, htin, hamount, hfee, hmessage⟩
    exact ⟨recipientTin, htin, amount, hamount, fee, hfee, hmessage⟩

/-- The message that the verifier writes. -/
theorem rebuilt_of_created {nonce expiresAt message : String}
    (hmessage : createSenderPaymentAuthorizationMessage platform now params (some nonce)
      (some expiresAt) = .ok message) (later : Int) :
    ∃ rebuilt, createSenderPaymentAuthorizationMessage platform later
        (withoutRecipient params) (some nonce) (some expiresAt) = .ok rebuilt ∧
      (rebuilt = message ↔ ShownAsUnknown params) := by
  obtain ⟨recipientTin, amount, fee, htin, hamount, hfee, hmessage⟩ :=
    createSenderMessage_eq_ok.mp hmessage
  obtain ⟨front, back, name, credentials, hname, hcredentials, rfl, hrebuilt⟩ :=
    intentMessage_unknown hmessage
  refine ⟨_, createSenderMessage_eq_ok.mpr ⟨recipientTin, amount, fee, htin, hamount, hfee,
    hrebuilt⟩, ?_⟩
  refine (buildMessage_recipient_inj (by decide) (newline_not_mem_displayName hname)
    (by decide) (newline_not_mem_shownSource params)).trans ?_
  obtain ⟨-, rfl⟩ := canonicalDisplayName_eq_ok.mp hname
  have hempty : "[]" = credentials ↔ params.recipientVerifiedCredentials = [] :=
    eq_comm.trans (credentials_eq_empty hcredentials)
  rw [hempty, ← and_assoc]
  refine and_congr_left fun _ => ?_
  by_cases hblank : trim (params.recipientDisplayName.getD "") = ""
  · have hsource : "not provided" = shownSource params := by
      rw [shownSource, displayNameSource, if_pos hblank]
    rw [if_pos hblank]
    exact iff_of_true ⟨rfl, hsource⟩ (.inl hblank)
  · have hsource : "not provided" = shownSource params ↔
        params.recipientDisplayNameSource = some .notProvided := by
      rw [shownSource, displayNameSource, if_neg hblank]
      rcases params.recipientDisplayNameSource with _ | ⟨_ | _⟩ <;> decide
    rw [if_neg hblank, or_iff_right hblank, ← hsource]
    exact and_congr_left fun _ => eq_comm

theorem rebuilt_of_authorization {drawn : String} {nonce issuedAt expiresAt : Option String}
    {authorization : Authorization}
    (hcreated : createPaymentAuthorization platform now drawn params nonce issuedAt expiresAt =
      .ok authorization) (later : Int) :
    ∃ rebuilt, createSenderPaymentAuthorizationMessage platform later
        (withoutRecipient params) (some authorization.nonce)
        (some authorization.expiresAt) = .ok rebuilt ∧
      (rebuilt = authorization.message ↔ ShownAsUnknown params) := by
  simp only [createPaymentAuthorization, bind_eq_ok, pure_eq_ok] at hcreated
  obtain ⟨_, -, _, -, message, hmessage, rfl⟩ := hcreated
  exact rebuilt_of_created hmessage later

/-- The verifier accepts the message that the wallet signed exactly where the recipient is
shown as unknown: of the name, its source and the credentials it knows nothing. -/
theorem authorization_complete_iff {drawn signatureBase64 : String}
    {nonce issuedAt expiresAt : Option String} {authorization : Authorization}
    {maxAgeMs : Option Int} {later : Int}
    (hcreated : createPaymentAuthorization platform now drawn params nonce issuedAt expiresAt =
      .ok authorization)
    (hsigned : verifySenderPaymentAuthorization platform params.senderWallet signatureBase64
      authorization.message = .ok true)
    (hfresh : isFresh platform later authorization.issuedAt
      (maxAgeMs.getD (5 * 60 * 1000)) = true) :
    verifyAuthorizedTsnPaymentRequest platform later params authorization.issuedAt
        (some authorization.nonce) (some authorization.expiresAt) signatureBase64 maxAgeMs
        none = .ok authorization.message ↔
      ShownAsUnknown params := by
  obtain ⟨rebuilt, hrebuilt, hsame⟩ := rebuilt_of_authorization hcreated later
  rw [← hsame]
  simp only [verifyAuthorizedTsnPaymentRequest, bind_eq_ok, require_eq_ok, pure_eq_ok]
  constructor
  · rintro ⟨_, -, message', hmessage', _, -, _, -, _, -, rfl⟩
    rw [hrebuilt] at hmessage'
    exact Except.ok.inj hmessage'
  · rintro rfl
    exact ⟨⟨⟩, hfresh, _, hrebuilt, true, hsigned, ⟨⟩, rfl, ⟨⟩, rfl, rfl⟩

end Completeness

section Samples

def sampleTime : String := "2030-01-01T00:00:00.000Z"

/-- A platform on which a signature is one of the given message. -/
def samplePlatform (message : String) : Platform where
  conversions := ⟨fun _ => "0", fun _ => none, quoteText, codePointLe⟩
  dateParse text := if text = sampleTime then some 1893456000000 else none
  isoText _ := sampleTime
  publicKey _ := .ok (List.replicate 32 7)
  fromBase64 _ := List.replicate 64 9
  verify _ signed _ := signed = encodeUtf8 message.toList

/-- A payment of 1.5 tokens. -/
def sampleParams (name : Option String) : PaymentParams where
  senderWallet := "GRfMydyHZNYwBiHBNNUnSLPS2ww2KkmKqxAKmh3q6EvN"
  senderIdentity := "wallet"
  receiverIdentity := "user|tin:7"
  recipientDisplayName := name
  recipientDisplayNameSource := none
  recipientVerifiedCredentials := []
  tokenMintAddress := "4zMMC9srt5Ri5X14GAgXhaHii3GnPAEERYPJgZJDncDU"
  tokenDecimals := 6
  amount := "1.5"
  senderFeeAmount := "0"
  totalTokenRequiredUi := 3 / 2

/-- The authorization of a sample payment, on a platform where its message has been signed. -/
theorem exists_signed (name : Option String) (hname : name = none ∨ name = some "Ada") :
    ∃ authorization,
      createPaymentAuthorization (samplePlatform authorization.message) 1893456000000 ""
          (sampleParams name) (some "00ff") (some sampleTime) (some sampleTime) =
        .ok authorization ∧
      verifySenderPaymentAuthorization (samplePlatform authorization.message)
          (sampleParams name).senderWallet "" authorization.message = .ok true ∧
      isFresh (samplePlatform authorization.message) 1893456060000 authorization.issuedAt
          ((none : Option Int).getD (5 * 60 * 1000)) = true := by
  have hcreated : (createPaymentAuthorization (samplePlatform "") 1893456000000 ""
      (sampleParams name) (some "00ff") (some sampleTime) (some sampleTime)).isOk = true := by
    rcases hname with rfl | rfl <;> decide +kernel
  obtain ⟨authorization, hcreated⟩ := exists_ok_of_isOk hcreated
  refine ⟨authorization, hcreated, congrArg Except.ok (decide_eq_true rfl), ?_⟩
  simp only [createPaymentAuthorization, bind_eq_ok, pure_eq_ok] at hcreated
  obtain ⟨_, -, _, -, _, -, rfl⟩ := hcreated
  simp [isFresh, samplePlatform]

theorem authorization_complete_sample :
    ∃ authorization : Authorization,
      verifyAuthorizedTsnPaymentRequest (samplePlatform authorization.message) 1893456060000
          (sampleParams none) authorization.issuedAt (some authorization.nonce)
          (some authorization.expiresAt) "" none none =
        .ok authorization.message := by
  obtain ⟨authorization, hcreated, hsigned, hfresh⟩ := exists_signed none (.inl rfl)
  exact ⟨authorization, (authorization_complete_iff hcreated hsigned hfresh).mpr
    ⟨.inl (by decide), rfl⟩⟩

/-- The signature for a recipient who is shown by name is refused. -/
theorem named_recipient_refused :
    ¬ ∀ (platform : Platform) (now later : Int) (drawn signatureBase64 : String)
      (params : PaymentParams) (nonce issuedAt expiresAt : Option String)
      (authorization : Authorization) (maxAgeMs : Option Int),
      createPaymentAuthorization platform now drawn params nonce issuedAt expiresAt =
          .ok authorization →
        verifySenderPaymentAuthorization platform params.senderWallet signatureBase64
            authorization.message = .ok true →
          isFresh platform later authorization.issuedAt
              (maxAgeMs.getD (5 * 60 * 1000)) = true →
            verifyAuthorizedTsnPaymentRequest platform later params authorization.issuedAt
                (some authorization.nonce) (some authorization.expiresAt) signatureBase64
                maxAgeMs none = .ok authorization.message := by
  intro hclaim
  obtain ⟨authorization, hcreated, hsigned, hfresh⟩ := exists_signed (some "Ada") (.inr rfl)
  have haccepted := hclaim _ _ _ _ _ _ _ _ _ _ none hcreated hsigned hfresh
  obtain ⟨rebuilt, hrebuilt, hsame⟩ := rebuilt_of_authorization hcreated 1893456060000
  simp only [verifyAuthorizedTsnPaymentRequest, bind_eq_ok, require_eq_ok, pure_eq_ok]
    at haccepted
  obtain ⟨_, -, message', hmessage', _, -, _, -, _, -, hmessage⟩ := haccepted
  have hrebuilt := (Except.ok.inj (hrebuilt.symm.trans hmessage')).trans hmessage
  rcases (hsame.mp hrebuilt).1 with hblank | ⟨-, hsource⟩
  · exact absurd hblank (by decide +kernel)
  · cases hsource

end Samples

end TsnProtocol.Sdk.PaymentAuthorization
