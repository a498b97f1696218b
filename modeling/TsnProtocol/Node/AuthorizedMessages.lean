import TsnProtocol.Node.SignedIntent
import TsnProtocol.Receiver.StableText
import TsnProtocol.Sdk.CanonicalMessage

/-!
Which of the payments that the SDK writes messages for a Node accepts.
-/

namespace TsnProtocol.Node.AuthorizedMessages

open Lib.ByteReader
open Lib.Checked
open Lib.JsonData
open Lib.JsonText
open Lib.PythonText
open Lib.TextFormat
open Node.PaymentAuthorization
open Node.SignedIntent
open Receiver.StableText
open Sdk.CanonicalMessage (PaymentIntentParams VerifiedRecipientCredential
  buildPaymentIntentMessage canonicalRecipientCredentials claimsJson credentialJson
  decimalValue_append enumerated formatTokenBaseUnits fractionDigits fractionDigits_spec
  normalizeCredential paymentIntentFields sortCredentials stringify)

variable {python : Python} {chain : Chain} {now : Int} {request : Request} {fields : Fields}

section Amounts

/-- A text that Python reads as so many base units. -/
def Shows (python : Python) (text : String) (decimals units : Nat) : Prop :=
  ∃ negative coefficient exponent,
    decimalOf python.unicode text = some (.finite negative coefficient exponent) ∧
      finiteValue negative coefficient exponent * 10 ^ decimals = units

theorem uiAmount_of_shows {text : String} {decimals units : Nat} {allowZero : Bool}
    (hshows : Shows python text decimals units) (hunits : units < 2 ^ 64)
    (hzero : units ≠ 0 ∨ allowZero = true) :
    uiAmountToBaseUnits python (some text) decimals allowZero = .ok units := by
  obtain ⟨negative, coefficient, exponent, hread, hvalue⟩ := hshows
  have hscale : (0 : Rat) < 10 ^ decimals := by positivity
  have hamount : finiteValue negative coefficient exponent = units / 10 ^ decimals := by
    rw [← hvalue, mul_div_cancel_right₀ _ hscale.ne']
  have hround : roundInContext (finiteValue negative coefficient exponent * 10 ^ decimals) =
      some (units : Rat) := by
    rw [hvalue]
    exact roundInContext_natCast (by omega)
  have hnonneg : 0 ≤ finiteValue negative coefficient exponent := by
    rw [hamount]
    positivity
  have hpositive : finiteValue negative coefficient exponent ≠ 0 ∨ allowZero = true := by
    refine hzero.imp_left fun hunits => ?_
    rw [hamount]
    exact div_ne_zero (Nat.cast_ne_zero.mpr hunits) hscale.ne'
  rw [uiAmountToBaseUnits, Option.getD_some, hread]
  simp only [bind_eq_ok, okOr_eq_ok, require_eq_ok, pure_eq_ok]
  refine ⟨units, hround, (), ⟨hnonneg, hpositive⟩, (), Rat.den_natCast units, (), ?_, ?_⟩
  · rw [Rat.num_natCast, Int.toNat_natCast]
    omega
  · rw [Rat.num_natCast, Int.toNat_natCast]

theorem finiteValue_mul {whole rest places fraction decimals : Nat}
    (hfraction : fraction * 10 ^ decimals = rest * 10 ^ places) :
    finiteValue false (whole * 10 ^ places + fraction) (0 - places) * 10 ^ decimals =
      ((whole * 10 ^ decimals + rest : Nat) : Rat) := by
  have hplaces : (10 : Rat) ^ places ≠ 0 := by positivity
  have hpower : (10 : Rat) ^ ((0 : Int) - places) = ((10 : Rat) ^ places)⁻¹ := by
    rw [zero_sub, zpow_neg, zpow_natCast]
  have hcast : (fraction : Rat) * 10 ^ decimals = rest * 10 ^ places := by exact_mod_cast hfraction
  rw [finiteValue, hpower]
  push_cast
  calc (if false = true then (-1 : Rat) else 1) * (whole * 10 ^ places + fraction) *
        ((10 : Rat) ^ places)⁻¹ * 10 ^ decimals =
        (whole * 10 ^ decimals * 10 ^ places + fraction * 10 ^ decimals) *
          ((10 : Rat) ^ places)⁻¹ := by
        rw [if_neg (by decide)]
        ring
    _ = whole * 10 ^ decimals + rest := by
        rw [hcast, ← add_mul, mul_assoc, mul_inv_cancel₀ hplaces, mul_one]

theorem keptExactly_small {coefficient places : Nat} (hcoefficient : coefficient < 10 ^ 40)
    (hplaces : places ≤ 18) : keptExactly coefficient (0 - places) := by
  have hlength : (decimal coefficient).length ≤ 40 :=
    (Nat.length_toDigits_le_iff (by decide) (by decide)).mpr hcoefficient
  exact ⟨by omega, by omega⟩

/-- What the SDK writes for an amount, Python reads as that amount. -/
theorem shows_format {units decimals : Nat} {text : String}
    (hascii : AsciiDigits python.unicode) (hunits : units < 2 ^ 64)
    (hformat : formatTokenBaseUnits units decimals = .ok text) :
    Shows python text decimals units := by
  have hwhole : (decimal (units / 10 ^ decimals)).all Char.isDigit = true :=
    List.all_eq_true.mpr fun _ => isDigit_of_mem_decimal
  have hnonempty : decimal (units / 10 ^ decimals) ≠ [] :=
    List.ne_nil_of_length_pos Nat.length_toDigits_pos
  have hsplit : units / 10 ^ decimals * 10 ^ decimals + units % 10 ^ decimals = units := by
    rw [Nat.mul_comm]
    exact Nat.div_add_mod _ _
  have hquotient : units / 10 ^ decimals < 2 ^ 64 :=
    Nat.lt_of_le_of_lt (Nat.div_le_self _ _) hunits
  -- one argument for the three ways of writing the fraction
  have hread : ∀ fraction point : Text, fraction.all Char.isDigit = true →
      (point = [] ∧ fraction = [] ∨ point = '.' :: fraction) → fraction.length ≤ 18 →
      decimalValue fraction < 10 ^ 18 →
      decimalValue fraction * 10 ^ decimals = units % 10 ^ decimals * 10 ^ fraction.length →
      Shows python (String.ofList (decimal (units / 10 ^ decimals) ++ point)) decimals units := by
    intro fraction point hfraction hpoint hplaces hsmall hvalue
    have hcoefficient : decimalValue (decimal (units / 10 ^ decimals) ++ fraction) =
        units / 10 ^ decimals * 10 ^ fraction.length + decimalValue fraction := by
      rw [decimalValue_append, decimalValue_decimal]
    have hbound : decimalValue (decimal (units / 10 ^ decimals) ++ fraction) < 10 ^ 40 := by
      have hpower : 10 ^ fraction.length ≤ 10 ^ 18 := Nat.pow_le_pow_right (by decide) hplaces
      have hproduct : units / 10 ^ decimals * 10 ^ fraction.length ≤ 2 ^ 64 * 10 ^ 18 :=
        Nat.mul_le_mul hquotient.le hpower
      rw [hcoefficient]
      omega
    refine ⟨false, _, _, decimalOf_plain hascii hwhole hfraction hnonempty hpoint
      (keptExactly_small hbound hplaces), ?_⟩
    rw [hcoefficient, finiteValue_mul hvalue, hsplit]
  simp only [formatTokenBaseUnits, bind_eq_ok, require_eq_ok] at hformat
  obtain ⟨_, hdecimals, hformat⟩ := hformat
  split at hformat
  · rename_i hzero
    subst hzero
    obtain rfl := Except.ok.inj hformat
    have hplain := hread [] [] rfl (.inl ⟨rfl, rfl⟩) (by decide) (by decide)
    rw [List.append_nil] at hplain
    exact hplain (by rw [pow_zero, Nat.mod_one]; rfl)
  · rename_i hzero
    obtain ⟨hdigits, hlength, hvalue⟩ :=
      @fractionDigits_spec units decimals (Nat.pos_of_ne_zero hzero)
    split at hformat
    · rename_i hempty
      obtain rfl := Except.ok.inj hformat
      rw [hempty] at hvalue
      refine hread "00".toList _ rfl (.inr rfl) (by decide) (by decide) ?_
      have hzeros : decimalValue "00".toList = 0 := by decide
      have hnone : decimalValue [] = 0 := rfl
      rw [← hvalue, hzeros, hnone, Nat.zero_mul, Nat.zero_mul, Nat.zero_mul]
    · obtain rfl := Except.ok.inj hformat
      refine hread _ _ hdigits (.inr rfl) (by omega) ?_ ?_
      · calc decimalValue (fractionDigits units decimals) ≤ units % 10 ^ decimals := by
              rw [← hvalue]
              exact Nat.le_mul_of_pos_right _ (Nat.pow_pos (by decide))
          _ < 10 ^ decimals := Nat.mod_lt _ (Nat.pow_pos (by decide))
          _ ≤ 10 ^ 18 := Nat.pow_le_pow_right (by decide) hdecimals
      · rw [← hvalue, Nat.mul_assoc, ← Nat.pow_add]
        congr 2
        omega

end Amounts

section Names

theorem mem_dropWhile_iff {drop : Char → Bool} {character : Char}
    (hkept : drop character = false) (text : Text) :
    character ∈ text.dropWhile drop ↔ character ∈ text := by
  constructor
  · exact fun hmem => (List.dropWhile_suffix drop).subset hmem
  · intro hmem
    rw [← @List.takeWhile_append_dropWhile _ drop text, List.mem_append] at hmem
    rcases hmem with hmem | hmem
    · rw [List.mem_takeWhile_imp hmem] at hkept
      cases hkept
    · exact hmem

theorem mem_trimmed_iff {drop : Char → Bool} {character : Char}
    (hkept : drop character = false) (text : Text) :
    character ∈ (text.dropWhile drop).rdropWhile drop ↔ character ∈ text := by
  rw [List.rdropWhile, List.mem_reverse, mem_dropWhile_iff hkept, List.mem_reverse,
    mem_dropWhile_iff hkept]

/-- A name that the SDK writes and the Node reads alike: the two strip the same off it, and
it is not the word for a missing name. -/
def IsPayableName (name : String) : Prop :=
  trim name = strip name ∧ trim name ≠ namePlaceholder

/-- A name one side finds blank is not the placeholder to the other. -/
theorem ne_placeholder_of_blank {name : String} (hblank : trim name = "") :
    strip name ≠ namePlaceholder := by
  intro hplaceholder
  have hmem : '(' ∈ (strip name).toList := by
    rw [hplaceholder]
    decide
  rw [strip, String.toList_ofList, stripText, mem_trimmed_iff (by decide)] at hmem
  have hkept : '(' ∈ (trim name).toList := by
    rw [trim, String.toList_ofList, mem_trimmed_iff (by decide)]
    exact hmem
  rw [hblank] at hkept
  exact absurd hkept (by decide)

/-- Name and source as the SDK signs them are those the Node expects. -/
theorem names_agree_iff {name : String} {source : Option String}
    (hsource : source = none ∨ source = some "owner-provided") :
    ((if trim name = "" then Sdk.CanonicalMessage.namePlaceholder else trim name) =
          (if strip name = "" then namePlaceholder else strip name) ∧
        Sdk.CanonicalMessage.displayNameSource (some name) source =
          if (if strip name = "" then namePlaceholder else strip name) ≠ namePlaceholder
            then "owner-provided" else "not provided") ↔
      IsPayableName name := by
  have hgiven : source.getD "owner-provided" = "owner-provided" := by
    rcases hsource with rfl | rfl <;> rfl
  have hdistinct : "owner-provided" ≠ "not provided" := by decide
  rw [Sdk.CanonicalMessage.displayNameSource, Option.getD_some, hgiven, IsPayableName]
  by_cases hblank : trim name = ""
  · rw [if_pos hblank, if_pos hblank]
    have hother := ne_placeholder_of_blank hblank
    by_cases hstripped : strip name = ""
    · rw [if_pos hstripped, hblank, hstripped]
      simp [Sdk.CanonicalMessage.namePlaceholder, namePlaceholder]
    · rw [if_neg hstripped]
      constructor
      · rintro ⟨hsame, -⟩
        exact absurd hsame.symm hother
      · rintro ⟨hsame, -⟩
        exact absurd (hsame ▸ hblank) hstripped
  · rw [if_neg hblank, if_neg hblank]
    by_cases hstripped : strip name = ""
    · rw [if_pos hstripped]
      constructor
      · rintro ⟨-, hsame⟩
        exact absurd hsame (by simp)
      · rintro ⟨hsame, -⟩
        exact absurd (hsame.trans hstripped) hblank
    · rw [if_neg hstripped]
      constructor
      · rintro ⟨hsame, hsources⟩
        refine ⟨hsame, ?_⟩
        intro hplaceholder
        rw [← hsame, hplaceholder] at hsources
        exact absurd hsources (by simp)
      · rintro ⟨hsame, hplaceholder⟩
        refine ⟨hsame, ?_⟩
        rw [if_pos (hsame ▸ hplaceholder)]

end Names

section Credentials

variable {conversions : Conversions}

/-- A credential with its claims in the order in which the SDK writes them. -/
def sortedClaims (localeLe : String → String → Bool) (credential : VerifiedRecipientCredential) :
    VerifiedRecipientCredential :=
  { credential with
    claims := enumerated ((enumerated credential.claims).insertionSort fun left right =>
      localeLe left.1 right.1 = true) }

/-- The credentials as the SDK signs them. -/
def signedCredentials (conversions : Conversions)
    (credentials : List VerifiedRecipientCredential) : List VerifiedRecipientCredential :=
  sortCredentials conversions (credentials.map (sortedClaims conversions.localeLe))

/-- A credential but for the order of its claims. -/
def keyed (credential : VerifiedRecipientCredential) :
    String × String × List (String × String) :=
  (credential.credentialType, credential.issuer,
    credential.claims.insertionSort fun left right => codePointLe left.1 right.1 = true)

/-- Credentials that are listed in the order in which the SDK sorts them. -/
def InSignedOrder (conversions : Conversions)
    (credentials : List VerifiedRecipientCredential) : Prop :=
  (signedCredentials conversions credentials).map keyed = credentials.map keyed

theorem eq_sortedClaims_of_normalize {localeLe : String → String → Bool}
    {credential normalized : VerifiedRecipientCredential}
    (hnormalize : normalizeCredential localeLe credential = .ok normalized) :
    normalized = sortedClaims localeLe credential := by
  simp only [normalizeCredential, bind_eq_ok, require_eq_ok, pure_eq_ok] at hnormalize
  obtain ⟨_, _, _, _, hnormalized⟩ := hnormalize
  exact hnormalized.symm

theorem eq_map_of_mapM_normalize {localeLe : String → String → Bool}
    {credentials normalized : List VerifiedRecipientCredential}
    (hnormalize : credentials.mapM (normalizeCredential localeLe) = .ok normalized) :
    normalized = credentials.map (sortedClaims localeLe) := by
  induction credentials generalizing normalized with
  | nil => exact (Except.ok.inj hnormalize).symm
  | cons credential credentials ih =>
      rw [List.mapM_cons] at hnormalize
      simp only [bind_eq_ok, pure_eq_ok] at hnormalize
      obtain ⟨first, hfirst, rest, hrest, rfl⟩ := hnormalize
      rw [eq_sortedClaims_of_normalize hfirst, ih hrest, List.map_cons]

theorem eq_stringify_of_canonical {credentials : List VerifiedRecipientCredential}
    {text : String} (hcanonical : canonicalRecipientCredentials conversions credentials =
      .ok text) :
    text = stringify conversions
      (.arr ((signedCredentials conversions credentials).map credentialJson)) := by
  simp only [canonicalRecipientCredentials, bind_eq_ok, pure_eq_ok] at hcanonical
  obtain ⟨normalized, hnormalized, rfl⟩ := hcanonical
  rw [eq_map_of_mapM_normalize hnormalized, signedCredentials]

theorem normal_claimsJson (claims : List (String × String)) :
    normal codePointLe (claimsJson claims) =
      claimsJson (claims.insertionSort fun left right => codePointLe left.1 right.1 = true) := by
  rw [claimsJson, normal, normalFields_eq_map, List.map_map]
  have hvalues : (fun field : String × Json => (field.1, normal codePointLe field.2)) ∘
      (fun claim : String × String => (claim.1, Json.str claim.2)) =
        fun claim => (claim.1, Json.str claim.2) := rfl
  rw [hvalues, sort_map, claimsJson]

theorem claimsJson_inj {first second : List (String × String)} :
    claimsJson first = claimsJson second ↔ first = second := by
  constructor
  · intro heq
    have hmaps := Json.obj.inj heq
    refine List.map_injective_iff.mpr ?_ hmaps
    intro claim claim' hclaims
    obtain ⟨hkey, hvalue⟩ := Prod.mk.inj hclaims
    exact Prod.ext hkey (Json.str.inj hvalue)
  · rintro rfl
    rfl

theorem normal_credentialJson_inj {first second : VerifiedRecipientCredential} :
    normal codePointLe (credentialJson first) = normal codePointLe (credentialJson second) ↔
      keyed first = keyed second := by
  constructor
  · intro heq
    have hfields : ∀ key, ((credentialJson first).get key).map (normal codePointLe) =
        ((credentialJson second).get key).map (normal codePointLe) := by
      intro key
      rw [← get_normal codePointLe_refl, heq, get_normal codePointLe_refl]
    have htype : some (Json.str first.credentialType) = some (.str second.credentialType) :=
      hfields "credentialType"
    have hissuer : some (Json.str first.issuer) = some (.str second.issuer) := hfields "issuer"
    have hclaims : some (normal codePointLe (claimsJson first.claims)) =
        some (normal codePointLe (claimsJson second.claims)) := hfields "claims"
    rw [normal_claimsJson, normal_claimsJson, Option.some.injEq, claimsJson_inj] at hclaims
    exact Prod.ext (Json.str.inj (Option.some.inj htype))
      (Prod.ext (Json.str.inj (Option.some.inj hissuer)) hclaims)
  · intro heq
    obtain ⟨htype, hrest⟩ := Prod.mk.inj heq
    obtain ⟨hissuer, hclaims⟩ := Prod.mk.inj hrest
    simp only [credentialJson, normal, normalFields_eq_map, List.map_cons, List.map_nil,
      normal_claimsJson, htype, hissuer, hclaims]

theorem hasNumbersIn_credentialJson (credential : VerifiedRecipientCredential) :
    HasNumbersIn ∅ (credentialJson credential) := by
  refine ⟨trivial, trivial, ?_, trivial⟩
  rw [claimsJson, HasNumbersIn, fieldsIn_iff]
  intro field hfield
  obtain ⟨claim, _, rfl⟩ := List.mem_map.mp hfield
  trivial

theorem hasNumbersIn_credentials (credentials : List VerifiedRecipientCredential) :
    HasNumbersIn ∅ (.arr (credentials.map credentialJson)) := by
  rw [HasNumbersIn, itemsIn_iff]
  intro item hitem
  obtain ⟨credential, _, rfl⟩ := List.mem_map.mp hitem
  exact hasNumbersIn_credentialJson credential

theorem writesNumbers_empty (numberText : Rat → String) : WritesNumbers numberText ∅ :=
  ⟨nofun, nofun, Set.injOn_empty _⟩

theorem canonicalCredentials_inj {first second : List VerifiedRecipientCredential} :
    canonicalCredentials python (first.map credentialJson) =
        canonicalCredentials python (second.map credentialJson) ↔
      first.map keyed = second.map keyed := by
  rw [canonicalCredentials, canonicalCredentials,
    stableText_inj rfl (writesNumbers_empty _) (hasNumbersIn_credentials first)
      (hasNumbersIn_credentials second), normal, normal, normalItems_eq_map,
    normalItems_eq_map, Json.arr.injEq, List.map_map, List.map_map]
  induction first generalizing second with
  | nil => cases second <;> simp
  | cons credential credentials ih =>
      cases second with
      | nil => simp
      | cons credential' credentials' =>
          rw [List.map_cons, List.map_cons, List.map_cons, List.map_cons, List.cons.injEq,
            List.cons.injEq, ih]
          exact and_congr_left' normal_credentialJson_inj

end Credentials

section Messages

variable {conversions : Conversions} {params : PaymentIntentParams} {name message : String}
  {nonces : Nonces}

/-- A payment in range of a registered asset, to a recipient that the Node resolves, before
it expires. -/
structure IsPayment (python : Python) (chain : Chain) (now : Int)
    (params : PaymentIntentParams) (name : String) (token : TokenMetadata) : Prop where
  asset : resolveTcapRegisteredAsset chain params.tokenMintAddress = .ok token
  decimals : token.decimals = params.tokenDecimals
  mint : params.tokenMintAddress.toList.all Char.isAlphanum = true
  amount : 0 < params.amountBaseUnits ∧ params.amountBaseUnits < 2 ^ 64
  fee : params.feeBaseUnits < 2 ^ 64
  displayName : params.recipientDisplayName = some name
  source : params.recipientDisplayNameSource = none ∨
    params.recipientDisplayNameSource = some "owner-provided"
  identity : chain.resolveTinIdentity params.recipientTin =
    .ok (some ⟨name, params.recipientVerifiedCredentials.map credentialJson⟩)
  sender : '\n' ∉ params.sender.toList
  nonce : '\n' ∉ params.nonce.toList ∧ strip params.nonce ≠ ""
  line : '\n' ∉ params.expires.toList
  expires : ∃ moment, momentOf python params.expires = some moment ∧
    moment.offset ≠ none ∧ now < moment.instant

/-- The key that the nonce of a payment is used under. -/
def paymentKey (python : Python) (params : PaymentIntentParams) (wallet : String) : String :=
  python.sha256 (strip canonicalDomainDisplay ++ "|" ++ "Payment Intent" ++ "|" ++
    strip wallet ++ "|" ++ strip params.nonce)

/-- The request that a payment is submitted with. -/
structure Submits (python : Python) (chain : Chain) (params : PaymentIntentParams)
    (message : String) (request : Request) (nonces : Nonces) : Prop where
  mode : request.senderFundingMode = "tcap_deposit_v2"
  message : request.senderAuthorizationMessage = message
  mint : request.tokenMintAddress = params.tokenMintAddress
  recipientTin : request.recipientTin = params.recipientTin
  amount : Shows python request.amount params.tokenDecimals params.amountBaseUnits
  fee : Shows python (request.senderFeeAmount.getD "0") params.tokenDecimals
    params.feeBaseUnits
  nonce : request.senderAuthorizationNonce = params.nonce
  expires : request.senderAuthorizationExpiresAt = some params.expires
  wallet : strip request.senderWallet ≠ ""
  signature : checkSignature chain request = .ok ()
  unused : paymentKey python params request.senderWallet ∉ nonces
  route : ∃ route, chain.readTinTipRoute params.recipientTin = .ok (some route) ∧
    assertRecipientHash python request.recipientHash route.ownerPubkeyHash = .ok ()

/-- Python reads back the list of credentials that JavaScript writes. -/
def ReadsCredentials (python : Python) (conversions : Conversions)
    (credentials : List VerifiedRecipientCredential) : Prop :=
  python.loads (stringify conversions
      (.arr ((signedCredentials conversions credentials).map credentialJson))) =
    some (.arr ((signedCredentials conversions credentials).map credentialJson))

/-- The fields of a payment message. -/
def messageFields (conversions : Conversions) (params : PaymentIntentParams) (name : String)
    (amount fee : String) : Fields :=
  [("Token Mint", trim params.tokenMintAddress),
    ("Token Decimals", String.ofList (decimal params.tokenDecimals)),
    ("Amount", amount), ("Recipient TIN", params.recipientTin),
    ("Recipient Display Name",
      if trim name = "" then Sdk.CanonicalMessage.namePlaceholder else trim name),
    ("Recipient Display Name Source", Sdk.CanonicalMessage.displayNameSource (some name)
      params.recipientDisplayNameSource),
    ("Recipient Verified Credentials", stringify conversions (.arr
      ((signedCredentials conversions params.recipientVerifiedCredentials).map credentialJson))),
    ("Fee", fee), ("Sender", params.sender), ("Nonce", params.nonce),
    ("Expires", params.expires)]

/-- What the SDK checks before it writes a message, and what it writes. -/
theorem message_of_build (hname : params.recipientDisplayName = some name)
    (hbuild : buildPaymentIntentMessage conversions params = .ok message) :
    ∃ amount fee,
      formatTokenBaseUnits params.amountBaseUnits params.tokenDecimals = .ok amount ∧
        formatTokenBaseUnits params.feeBaseUnits params.tokenDecimals = .ok fee ∧
        trim params.tokenMintAddress ≠ "" ∧
        (params.recipientTin ≠ "" ∧ params.recipientTin.toList.all Char.isDigit = true) ∧
        (trim name).toList.any Sdk.CanonicalMessage.isControl = false ∧
        message = buildCanonicalMessage "Payment Intent"
          (messageFields conversions params name amount fee) := by
  simp only [buildPaymentIntentMessage, paymentIntentFields, Sdk.CanonicalMessage.parseTin,
    Sdk.CanonicalMessage.canonicalDisplayName, bind_eq_ok, require_eq_ok, pure_eq_ok, hname,
    Option.getD_some] at hbuild
  obtain ⟨_, ⟨_, hmint, amount, hamount, tin, ⟨_, htin, rfl⟩, displayName,
    ⟨_, hcontrol, rfl⟩, credentials, hcredentials, fee, hfee, rfl⟩, rfl⟩ := hbuild
  refine ⟨amount, fee, hamount, hfee, hmint, htin, hcontrol, ?_⟩
  rw [Sdk.CanonicalMessage.buildMessage, buildCanonicalMessage, messageFields,
    eq_stringify_of_canonical hcredentials]
  rfl

theorem newline_not_mem_digits {text : Text} (htext : text.all Char.isDigit = true) :
    '\n' ∉ text := by
  intro hmem
  exact absurd (List.all_eq_true.mp htext '\n' hmem) (by decide)

theorem newline_not_mem_format {units decimals : Nat} {text : String}
    (hformat : formatTokenBaseUnits units decimals = .ok text) : '\n' ∉ text.toList := by
  have hwhole : '\n' ∉ decimal (units / 10 ^ decimals) :=
    newline_not_mem_digits (List.all_eq_true.mpr fun _ => isDigit_of_mem_decimal)
  simp only [formatTokenBaseUnits, bind_eq_ok, require_eq_ok] at hformat
  obtain ⟨_, _, hformat⟩ := hformat
  split at hformat
  · obtain rfl := Except.ok.inj hformat
    rwa [String.toList_ofList]
  · rename_i hzero
    have hfraction := newline_not_mem_digits
      (@fractionDigits_spec units decimals (Nat.pos_of_ne_zero hzero)).1
    split at hformat
    · obtain rfl := Except.ok.inj hformat
      rw [String.toList_ofList, List.mem_append, not_or]
      exact ⟨hwhole, by decide⟩
    · obtain rfl := Except.ok.inj hformat
      rw [String.toList_ofList, List.mem_append, not_or]
      exact ⟨hwhole, by simp [hfraction]⟩

theorem range_of_isAlphanum {character : Char} (halnum : character.isAlphanum = true) :
    48 ≤ character.toNat ∧ character.toNat ≤ 122 := by
  simp only [Char.isAlphanum, Char.isAlpha, Char.isUpper, Char.isLower, Char.isDigit,
    Bool.or_eq_true, Bool.and_eq_true, decide_eq_true_eq, UInt32.le_iff_toNat_le] at halnum
  change ((65 ≤ character.toNat ∧ character.toNat ≤ 90) ∨
    (97 ≤ character.toNat ∧ character.toNat ≤ 122)) ∨
      (48 ≤ character.toNat ∧ character.toNat ≤ 57) at halnum
  omega

/-- Neither side strips anything off letters and digits. -/
theorem trim_alphanum {text : String} (htext : text.toList.all Char.isAlphanum = true) :
    trim text = text ∧ strip text = text := by
  have hrange : ∀ character ∈ text.toList,
      48 ≤ character.toNat ∧ character.toNat ≤ 122 := fun character hmem =>
    range_of_isAlphanum (List.all_eq_true.mp htext character hmem)
  constructor
  · rw [trim, trimmed_eq_self, String.ofList_toList]
    intro character hmem
    obtain ⟨hlow, hhigh⟩ := hrange character hmem
    rw [Lib.JsonData.isSpace]
    interval_cases character.toNat <;> rfl
  · rw [strip, stripText, trimmed_eq_self, String.ofList_toList]
    intro character hmem
    obtain ⟨hlow, hhigh⟩ := hrange character hmem
    rw [Lib.PythonText.isSpace]
    interval_cases character.toNat <;> rfl

theorem newline_not_mem_alphanum {text : String}
    (htext : text.toList.all Char.isAlphanum = true) : '\n' ∉ text.toList := by
  intro hmem
  exact absurd (List.all_eq_true.mp htext '\n' hmem) (by decide)

theorem newline_not_mem_name (hcontrol : (trim name).toList.any
    Sdk.CanonicalMessage.isControl = false) :
    '\n' ∉ (if trim name = "" then Sdk.CanonicalMessage.namePlaceholder
      else trim name).toList := by
  split
  · decide
  · intro hmem
    exact absurd (List.any_eq_false.mp hcontrol '\n' hmem) (by decide)

theorem newline_not_mem_source {source : Option String}
    (hsource : source = none ∨ source = some "owner-provided") :
    '\n' ∉ (Sdk.CanonicalMessage.displayNameSource (some name) source).toList := by
  rw [Sdk.CanonicalMessage.displayNameSource]
  split
  · decide
  · rcases hsource with rfl | rfl <;> decide

theorem newline_not_mem_stringify (credentials : List VerifiedRecipientCredential) :
    '\n' ∉ (stringify conversions (.arr (credentials.map credentialJson))).toList := by
  rw [stringify, String.toList_ofList]
  exact newline_not_mem_render (writesNumbers_empty _) _ (hasNumbersIn_credentials credentials)

theorem isField_of {label value : String}
    (hlabel : ':' ∉ label.toList ∧ '\n' ∉ label.toList) (hvalue : '\n' ∉ value.toList) :
    IsField (label, value) :=
  ⟨hlabel.1, hlabel.2, hvalue⟩

theorem isField_messageFields {token : TokenMetadata} {amount fee : String}
    (hpayment : IsPayment python chain now params name token)
    (htin : params.recipientTin.toList.all Char.isDigit = true)
    (hcontrol : (trim name).toList.any Sdk.CanonicalMessage.isControl = false)
    (hamount : formatTokenBaseUnits params.amountBaseUnits params.tokenDecimals = .ok amount)
    (hfee : formatTokenBaseUnits params.feeBaseUnits params.tokenDecimals = .ok fee) :
    ∀ field ∈ messageFields conversions params name amount fee, IsField field := by
  have hmint : '\n' ∉ (trim params.tokenMintAddress).toList := by
    rw [(trim_alphanum hpayment.mint).1]
    exact newline_not_mem_alphanum hpayment.mint
  have hdecimals : '\n' ∉ (String.ofList (decimal params.tokenDecimals)).toList := by
    rw [String.toList_ofList]
    exact newline_not_mem_digits (List.all_eq_true.mpr fun _ => isDigit_of_mem_decimal)
  simp only [messageFields, List.forall_mem_cons]
  exact ⟨isField_of (by decide) hmint, isField_of (by decide) hdecimals,
    isField_of (by decide) (newline_not_mem_format hamount),
    isField_of (by decide) (newline_not_mem_digits htin),
    isField_of (by decide) (newline_not_mem_name hcontrol),
    isField_of (by decide) (newline_not_mem_source hpayment.source),
    isField_of (by decide) (newline_not_mem_stringify _),
    isField_of (by decide) (newline_not_mem_format hfee),
    isField_of (by decide) hpayment.sender, isField_of (by decide) hpayment.nonce.1,
    isField_of (by decide) hpayment.line, fun _ hfield => absurd hfield List.not_mem_nil⟩

/-- The fields that the Node reads from the message. -/
def readFields (conversions : Conversions) (params : PaymentIntentParams)
    (name amount fee : String) : Fields :=
  messageFields conversions params name amount fee ++ [("Domain", canonicalDomainDisplay)]

theorem parse_message {token : TokenMetadata} {amount fee : String}
    (hpayment : IsPayment python chain now params name token)
    (htin : params.recipientTin.toList.all Char.isDigit = true)
    (hcontrol : (trim name).toList.any Sdk.CanonicalMessage.isControl = false)
    (hamount : formatTokenBaseUnits params.amountBaseUnits params.tokenDecimals = .ok amount)
    (hfee : formatTokenBaseUnits params.feeBaseUnits params.tokenDecimals = .ok fee) :
    parseCanonicalMessage (buildCanonicalMessage "Payment Intent"
        (messageFields conversions params name amount fee)) "Payment Intent" =
      .ok (readFields conversions params name amount fee) := by
  refine parse_build (by decide) (isField_messageFields hpayment htin hcontrol hamount hfee)
    ?_ ?_
  · rw [messageFields]
    exact List.cons_ne_nil _ _
  · simp only [messageFields, List.map_append, List.map_cons, List.map_nil]
    decide

/-- The identity check passes just when both sides have the same name for the recipient, and
the credentials in the same order. -/
theorem checkIdentity_iff {token : TokenMetadata} {amount fee : String}
    (hloads : ReadsCredentials python conversions params.recipientVerifiedCredentials)
    (hpayment : IsPayment python chain now params name token) :
    checkIdentity python chain (readFields conversions params name amount fee)
        params.recipientTin = .ok () ↔
      IsPayableName name ∧
        InSignedOrder conversions params.recipientVerifiedCredentials := by
  have hname : (readFields conversions params name amount fee).lookup
      "Recipient Display Name" = some (if trim name = ""
        then Sdk.CanonicalMessage.namePlaceholder else trim name) := rfl
  have hsource : (readFields conversions params name amount fee).lookup
      "Recipient Display Name Source" = some (Sdk.CanonicalMessage.displayNameSource (some name)
        params.recipientDisplayNameSource) := rfl
  have hjson : (readFields conversions params name amount fee).lookup
      "Recipient Verified Credentials" = some (stringify conversions (.arr
        ((signedCredentials conversions params.recipientVerifiedCredentials).map
          credentialJson))) := rfl
  simp only [checkIdentity, hname, hsource, hjson, hpayment.identity,
    show python.loads _ = _ from hloads, bind_eq_ok,
    okOr_eq_ok, require_eq_ok, Option.some.injEq, exists_eq_left', Except.ok.injEq,
    canonicalCredentials_inj, names_agree_iff hpayment.source, InSignedOrder]
  exact exists_const Unit

theorem isCrossChain_message (fields : Fields) :
    isCrossChain (buildCanonicalMessage "Payment Intent" fields) = false := by
  obtain ⟨rest, hrest⟩ := toList_build "Payment Intent" fields
  rw [isCrossChain, hrest]
  rfl

/-- The expiry of a payment passes, whatever else is signed. -/
theorem checkExpiry_payment {moment : Moment} (hmoment : momentOf python params.expires =
    some moment) (hexpires : request.senderAuthorizationExpiresAt = some params.expires) :
    checkExpiry python request moment = .ok () := by
  rw [checkExpiry, hexpires, given]
  by_cases hempty : params.expires = ""
  · rw [Option.filter_some_neg (by simp [hempty])]
  · rw [Option.filter_some_pos (by simp [hempty])]
    simp only [bind_eq_ok, okOr_eq_ok, require_eq_ok]
    exact ⟨moment, hmoment, rfl, rfl⟩

theorem isDigits_of_ascii (hascii : AsciiDigits python.unicode) {text : Text}
    (hnonempty : text ≠ []) (htext : text.all Char.isDigit = true) :
    isDigits python text = true := by
  rw [isDigits, Bool.and_eq_true, List.all_eq_true]
  refine ⟨decide_eq_true hnonempty, fun character hmem => ?_⟩
  have hdigit := List.all_eq_true.mp htext character hmem
  have hbounds := isDigit_range hdigit
  rw [hascii character (by omega), if_pos hdigit]
  rfl

/-- What the Node makes of the message of a payment. -/
def signedPayment (conversions : Conversions) (params : PaymentIntentParams) (name : String)
    (amount fee : String) (token : TokenMetadata) (moment : Moment) : Signed :=
  { fields := readFields conversions params name amount fee
    recipientTin := params.recipientTin
    token := token
    amount := params.amountBaseUnits
    fee := params.feeBaseUnits
    expiresAt := moment
    crossChain := none }

theorem paymentAmounts_payment {token : TokenMetadata} {amount fee : String}
    (hascii : AsciiDigits python.unicode)
    (hpayment : IsPayment python chain now params name token)
    (hamount : formatTokenBaseUnits params.amountBaseUnits params.tokenDecimals = .ok amount)
    (hfee : formatTokenBaseUnits params.feeBaseUnits params.tokenDecimals = .ok fee)
    (hmint : request.tokenMintAddress = params.tokenMintAddress) :
    paymentAmounts python chain request (readFields conversions params name amount fee) =
      .ok (token, params.amountBaseUnits, params.feeBaseUnits) := by
  have hstrip : strip (trim params.tokenMintAddress) = params.tokenMintAddress := by
    rw [(trim_alphanum hpayment.mint).1, (trim_alphanum hpayment.mint).2]
  have hdecimals : params.tokenDecimals ≤ 18 := by
    simp only [formatTokenBaseUnits, bind_eq_ok, require_eq_ok] at hamount
    obtain ⟨_, hdecimals, _⟩ := hamount
    exact hdecimals
  have hlength : (decimal params.tokenDecimals).length ≤ 4300 :=
    ((Nat.length_toDigits_le_iff (by decide) (by decide)).mpr
      (show params.tokenDecimals < 10 ^ 2 by omega)).trans (by decide)
  have hread : intOf python.unicode (String.ofList (decimal params.tokenDecimals)) =
      some (params.tokenDecimals : Int) := by
    have hdigits := intOf_digits hascii
      (List.all_eq_true.mpr fun _ => isDigit_of_mem_decimal)
      (List.ne_nil_of_length_pos Nat.length_toDigits_pos) hlength
    rwa [decimalValue_decimal] at hdigits
  refine paymentAmounts_eq_ok.mpr ⟨?_, ?_, ?_, ?_, ?_⟩
  · exact hstrip.trans hmint.symm
  · have hasset : (resolveTcapRegisteredAsset chain (strip (trim params.tokenMintAddress))).mapError
        (refuseValueError 422) = .ok token := by
      rw [hstrip, hpayment.asset]
      rfl
    exact hasset
  · rw [hpayment.decimals]
    exact hread
  · rw [hpayment.decimals]
    exact uiAmount_of_shows (shows_format hascii hpayment.amount.2 hamount) hpayment.amount.2
      (.inl hpayment.amount.1.ne')
  · rw [hpayment.decimals]
    exact uiAmount_of_shows (shows_format hascii hpayment.fee hfee) hpayment.fee (.inr rfl)

/-- All checks before the nonce pass but for that of the recipient's identity. -/
theorem checkSigned_payment {token : TokenMetadata} {amount fee : String} {moment : Moment}
    (hascii : AsciiDigits python.unicode)
    (hloads : ReadsCredentials python conversions params.recipientVerifiedCredentials)
    (hpayment : IsPayment python chain now params name token)
    (hsubmits : Submits python chain params message request nonces)
    (hmessage : message = buildCanonicalMessage "Payment Intent"
      (messageFields conversions params name amount fee))
    (htin : params.recipientTin ≠ "" ∧ params.recipientTin.toList.all Char.isDigit = true)
    (hcontrol : (trim name).toList.any Sdk.CanonicalMessage.isControl = false)
    (hamount : formatTokenBaseUnits params.amountBaseUnits params.tokenDecimals = .ok amount)
    (hfee : formatTokenBaseUnits params.feeBaseUnits params.tokenDecimals = .ok fee)
    (hmoment : momentOf python params.expires = some moment ∧
      moment.offset ≠ none ∧ now < moment.instant)
    (hidentity : IsPayableName name ∧
      InSignedOrder conversions params.recipientVerifiedCredentials) :
    checkSigned python chain now request =
      .ok (signedPayment conversions params name amount fee token moment) := by
  have hplain : isCrossChain request.senderAuthorizationMessage = false := by
    rw [hsubmits.message, hmessage]
    exact isCrossChain_message _
  refine checkSigned_eq_ok.mpr ⟨hsubmits.mode, ?_, ?_, ?_, ?_, ?_, ?_, ?_, ?_,
    hsubmits.signature, ?_⟩
  · rw [actionOf, hplain, hsubmits.message, hmessage]
    exact parse_message hpayment htin.2 hcontrol hamount hfee
  · rw [signedAmounts, hplain]
    exact paymentAmounts_payment hascii hpayment hamount hfee hsubmits.mint
  · have hdigits : isDigits python params.recipientTin.toList = true := by
      apply isDigits_of_ascii hascii _ htin.2
      intro hempty
      exact htin.1 (String.toList_eq_nil_iff.mp hempty)
    simp only [signedRecipientTin, bind_eq_ok, require_eq_ok, pure_eq_ok]
    exact ⟨(), hdigits, (), .inr hsubmits.recipientTin, (), ⟨rfl, rfl⟩, rfl⟩
  · refine checkAmounts_eq_ok.mpr ⟨?_, ?_⟩
    · rw [requestAmount, signedPayment, hpayment.decimals]
      exact uiAmount_of_shows hsubmits.amount hpayment.amount.2 (.inl hpayment.amount.1.ne')
    · rw [requestFee, signedPayment, hpayment.decimals]
      exact uiAmount_of_shows hsubmits.fee hpayment.fee (.inr rfl)
  · refine require_eq_ok.mpr (.inr ?_)
    rw [hsubmits.nonce]
    rfl
  · obtain ⟨hread, hoffset, hlive⟩ := hmoment
    simp only [parseCanonicalExpiry, bind_eq_ok, okOr_eq_ok, require_eq_ok, pure_eq_ok]
    exact ⟨moment, hread, (), hoffset, (), hlive, rfl⟩
  · exact checkExpiry_payment hmoment.1 hsubmits.expires
  · rw [signedCrossChainFields, hplain]
    rfl
  · rw [checkSignedIdentity, hplain]
    exact (checkIdentity_iff hloads hpayment).mpr hidentity

/-- The identity of the recipient is checked against the chain before a payment is
accepted. -/
theorem identity_of_checkSigned {token : TokenMetadata} {amount fee : String} {signed : Signed}
    (hloads : ReadsCredentials python conversions params.recipientVerifiedCredentials)
    (hpayment : IsPayment python chain now params name token)
    (hsubmits : Submits python chain params message request nonces)
    (hmessage : message = buildCanonicalMessage "Payment Intent"
      (messageFields conversions params name amount fee))
    (htin : params.recipientTin.toList.all Char.isDigit = true)
    (hcontrol : (trim name).toList.any Sdk.CanonicalMessage.isControl = false)
    (hamount : formatTokenBaseUnits params.amountBaseUnits params.tokenDecimals = .ok amount)
    (hfee : formatTokenBaseUnits params.feeBaseUnits params.tokenDecimals = .ok fee)
    (hchecked : checkSigned python chain now request = .ok signed) :
    IsPayableName name ∧ InSignedOrder conversions params.recipientVerifiedCredentials := by
  have hplain : isCrossChain request.senderAuthorizationMessage = false := by
    rw [hsubmits.message, hmessage]
    exact isCrossChain_message _
  obtain ⟨_, hparse, _, htins, _, _, _, _, _, _, hidentity⟩ := checkSigned_eq_ok.mp hchecked
  rw [actionOf, hplain, hsubmits.message, hmessage] at hparse
  have hfields := Except.ok.inj
    ((parse_message hpayment htin hcontrol hamount hfee).symm.trans hparse)
  have hrecipient := recipientTin_eq_of_signed htins
  rw [← hfields] at hrecipient hidentity
  rw [checkSignedIdentity, hplain, hrecipient] at hidentity
  exact (checkIdentity_iff hloads hpayment).mp hidentity

theorem assertNonceUnused_payment {token : TokenMetadata} {amount fee : String}
    {moment : Moment} (hpayment : IsPayment python chain now params name token)
    (hsubmits : Submits python chain params message request nonces)
    (hplain : isCrossChain request.senderAuthorizationMessage = false) :
    assertNonceUnused python request
        (signedPayment conversions params name amount fee token moment) nonces =
      (.ok (), paymentKey python params request.senderWallet :: nonces) := by
  have hkey : nonceKey python request
      (signedPayment conversions params name amount fee token moment) =
        .ok (paymentKey python params request.senderWallet) := by
    simp only [nonceKey, bind_eq_ok, require_eq_ok, pure_eq_ok, actionOf, hplain]
    refine ⟨(), ⟨?_, hsubmits.wallet, hpayment.nonce.2⟩, rfl⟩
    have hdomain : strip canonicalDomainDisplay ≠ "" := by decide +kernel
    exact hdomain
  have hnew : nonces.contains (paymentKey python params request.senderWallet) = false := by
    simpa using hsubmits.unused
  rw [assertNonceUnused, hkey]
  simp only [consumeOnce, hnew]
  rfl

/-- A payment message of the SDK is accepted with its amounts just when SDK and Node have the
same name for the recipient, and list its credentials in the same order. -/
theorem accepted_iff {token : TokenMetadata} (hascii : AsciiDigits python.unicode)
    (hloads : ReadsCredentials python conversions params.recipientVerifiedCredentials)
    (hpayment : IsPayment python chain now params name token)
    (hbuild : buildPaymentIntentMessage conversions params = .ok message)
    (hsubmits : Submits python chain params message request nonces) :
    (∃ intent used,
      verifyPaymentAuthorization python chain now request nonces = (.ok intent, used) ∧
        verified python request intent =
          (intent, .ok params.amountBaseUnits, .ok params.feeBaseUnits)) ↔
      IsPayableName name ∧
        InSignedOrder conversions params.recipientVerifiedCredentials := by
  obtain ⟨amount, fee, hamount, hfee, -, htin, hcontrol, hmessage⟩ :=
    message_of_build hpayment.displayName hbuild
  constructor
  · rintro ⟨intent, used, hverify, -⟩
    obtain ⟨signed, hchecked, -, -⟩ := verify_eq_ok.mp hverify
    exact identity_of_checkSigned hloads hpayment hsubmits hmessage htin.2 hcontrol hamount
      hfee hchecked
  · intro hidentity
    obtain ⟨moment, hmoment⟩ := hpayment.expires
    obtain ⟨route, hroute, hhash⟩ := hsubmits.route
    have hchecked := checkSigned_payment hascii hloads hpayment hsubmits hmessage htin
      hcontrol hamount hfee hmoment hidentity
    have hplain : isCrossChain request.senderAuthorizationMessage = false := by
      rw [hsubmits.message, hmessage]
      exact isCrossChain_message _
    have hresolved : resolveRoute python chain request
        (signedPayment conversions params name amount fee token moment) =
          .ok (intentOf python (signedPayment conversions params name amount fee token moment)
            route) :=
      resolveRoute_eq_ok.mpr ⟨rfl, route, hroute, hhash, rfl⟩
    exact ⟨_, _, verify_eq_ok.mpr ⟨_, hchecked,
      assertNonceUnused_payment hpayment hsubmits hplain, hresolved⟩, verified_intentOf hchecked⟩

end Messages

section Samples

def sampleKeys : List (String × List Byte) :=
  [(usdcMint,
      wordBytes 0x3b442cb3912157f13a933d0134282d032b5ffecd01a2dbf1b7790608df002ea7),
    (tokenProgramId,
      wordBytes 0x06ddf6e1d765a193d9cbe146ceeb79ac1cb485ed5f5b37913a8cf5857eff00a9),
    (token2022ProgramId,
      wordBytes 0x06ddf6e1ee758fde18425dbce46ccddab61afc4d83b90d27febdf928d8a18bfc),
    ("tCaP5R8LZFL1ridm3JCAtiqFzNnZCQYj3Hb7kw42YZF",
      wordBytes 0x0d1db5b270ec29533703581e1b0d917164c0e8260765cf3e39c92fd9a1f54582),
    ("C8XzWaejCD4QfMpjGL8zp8jVhVVMWtaXzusqc98HTJLm",
      wordBytes 0xa55eaa034a6fd842f1da4b4706cfee74484ed5205711d838b7bf733f946c11ce),
    ("AVWxnem32oZGoSKEfiufcLFb1CZ5V9HbWqD9hNbeST67",
      wordBytes 0x8d0752ad6f6ad2ac3a08521b46e8a74de075af236399afc7ae9e98b01ed4d688)]

def sampleKey (index : Nat) : List Byte :=
  (sampleKeys.map Prod.snd).getD index []

def sampleMintData : List Byte :=
  List.replicate 44 0 ++ [6]

def sampleEntryData : List Byte :=
  assetEntryDiscriminator ++ List.replicate 4 0 ++ sampleKey 4 ++ [1, 0, 0, 0] ++
    sampleKey 1 ++ sampleKey 0 ++ List.replicate 132 0 ++ [6, 1, 0, 0] ++
    List.replicate 35 0 ++ [1, 1, 0, 0]

def samplePaymentFields : Fields :=
  [("Token Mint", usdcMint), ("Token Decimals", "6"), ("Amount", "1.5"), ("Recipient TIN", "7"),
    ("Recipient Display Name", "Ada"), ("Recipient Display Name Source", "owner-provided"),
    ("Recipient Verified Credentials", "[]"), ("Fee", "0.00"), ("Sender", "Main Wallet"),
    ("Nonce", "00ff"), ("Expires", sampleExpiry)]

def samplePaymentMessage : String :=
  buildCanonicalMessage "Payment Intent" samplePaymentFields

def samplePaymentSignature : String :=
  "UkRON+LeW0rWULpS3U08IcAEbqNHXJT3Can48+AlUNX9/Wek9ZRb61oBLnZEAYdLD2DhJvI8fDZvAdYy0C1VCA=="

def samplePaymentPython : Python :=
  { samplePython with
    sha256 := fun text => if text =
        "...d772e0a4|Payment Intent|GRfMydyHZNYwBiHBNNUnSLPS2ww2KkmKqxAKmh3q6EvN|00ff"
      then "ece43d0e181b74f0595b43669af009c7a9e9deba5a703523d63b900fa4d346d0" else "" }

/-- A chain with one asset, and one recipient of the given name. -/
def samplePaymentChain (name : String) : Chain :=
  { account := fun address =>
      if address = usdcMint then .ok (some ⟨tokenProgramId, some sampleMintData⟩)
      else if address = "AVWxnem32oZGoSKEfiufcLFb1CZ5V9HbWqD9hNbeST67" then
        .ok (some ⟨"tCaP5R8LZFL1ridm3JCAtiqFzNnZCQYj3Hb7kw42YZF", some sampleEntryData⟩)
      else .ok none
    pubkeyOf := fun text => sampleKeys.lookup text
    pubkeyText := fun bytes =>
      ((sampleKeys.find? fun key => key.2 = bytes).map Prod.fst).getD ""
    findProgramAddress := fun seeds _ => if seeds.length = 1 then sampleKey 4 else sampleKey 5
    tcapProgramId := "tCaP5R8LZFL1ridm3JCAtiqFzNnZCQYj3Hb7kw42YZF"
    resolveTinIdentity := fun _ => .ok (some ⟨name, []⟩)
    readTinTipRoute := fun _ => .ok (some ⟨sampleOwnerHash, "c0ffee", 1⟩)
    verifyDestinationRoute := fun _ _ => .error (.valueError "")
    verifyEd25519Signature := fun key message signature =>
      if key = sampleWallet ∧ message = samplePaymentMessage ∧
          signature = samplePaymentSignature then .ok ()
      else .error (.http 403 "signature verification failed") }

def sampleConversions : Conversions :=
  ⟨fun _ => "0", fun _ => none, quoteText, codePointLe⟩

def samplePayment (name : String) : PaymentIntentParams :=
  { amountBaseUnits := 1500000, tokenMintAddress := usdcMint, tokenDecimals := 6
    recipientTin := "7", recipientDisplayName := some name, recipientDisplayNameSource := none
    recipientVerifiedCredentials := [], feeBaseUnits := 0, sender := "Main Wallet"
    nonce := "00ff", expires := sampleExpiry }

def samplePaymentRequest : Request :=
  { paymentId := "pay-1", recipientHash := sampleOwnerHash, recipientTin := "7"
    tokenMintAddress := usdcMint, amount := "1.5", senderWallet := sampleWallet
    senderAuthorizationMessage := samplePaymentMessage
    senderAuthorizationSignature := samplePaymentSignature
    senderAuthorizationNonce := "00ff", senderAuthorizationExpiresAt := some sampleExpiry
    senderFeeAmount := none, senderFundingMode := "tcap_deposit_v2"
    destinationNetwork := none, destinationExecutor := none, destinationToken := none
    settlementRouteId := none }

def sampleToken : TokenMetadata :=
  { mint := usdcMint, decimals := 6, tokenId := 1
    assetEntry := "AVWxnem32oZGoSKEfiufcLFb1CZ5V9HbWqD9hNbeST67"
    tokenProgram := tokenProgramId }

/-- A name as it is, and with a mark in front that only JavaScript takes for white space. -/
def sampleNames : List String :=
  ["Ada", String.ofList (Char.ofNat 0xfeff :: "Ada".toList)]

theorem build_samplePayment :
    ∀ name ∈ sampleNames, buildPaymentIntentMessage sampleConversions (samplePayment name) =
      .ok samplePaymentMessage := by
  have hfields : ∀ name ∈ sampleNames,
      paymentIntentFields sampleConversions (samplePayment name) = .ok samplePaymentFields := by
    decide +kernel
  intro name hname
  rw [buildPaymentIntentMessage, hfields name hname]
  rfl

example : sampleNames.map trim = ["Ada", "Ada"] := by
  decide +kernel

theorem isPayment_samplePayment (name : String) :
    IsPayment samplePaymentPython (samplePaymentChain name) 0 (samplePayment name) name
      sampleToken := by
  have hasset : resolveTcapRegisteredAsset (samplePaymentChain "") usdcMint =
      .ok sampleToken := by decide +kernel
  have hmint : usdcMint.toList.all Char.isAlphanum = true := by decide +kernel
  have hlines : '\n' ∉ "Main Wallet".toList ∧ '\n' ∉ sampleExpiry.toList := by decide +kernel
  have hnonce : '\n' ∉ "00ff".toList ∧ strip "00ff" ≠ "" := by decide +kernel
  have hexpires : momentOf samplePaymentPython sampleExpiry = some sampleMoment ∧
      sampleMoment.offset ≠ none ∧ 0 < sampleMoment.instant := by decide +kernel
  have hamount : 0 < 1500000 ∧ 1500000 < 2 ^ 64 := by decide
  have hfee : 0 < 2 ^ 64 := by decide
  exact
    { asset := hasset
      decimals := rfl
      mint := hmint
      amount := hamount
      fee := hfee
      displayName := rfl
      source := .inl rfl
      identity := rfl
      sender := hlines.1
      nonce := hnonce
      line := hlines.2
      expires := ⟨sampleMoment, hexpires⟩ }

theorem submits_samplePayment (name : String) :
    Submits samplePaymentPython (samplePaymentChain name) (samplePayment name)
      samplePaymentMessage samplePaymentRequest [] := by
  have hamount : decimalOf samplePython.unicode "1.5" = some (.finite false 15 (-1)) := by
    decide +kernel
  have hfee : decimalOf samplePython.unicode "0" = some (.finite false 0 0) := by
    decide +kernel
  have hwallet : strip sampleWallet = sampleWallet ∧ strip sampleWallet ≠ "" := by
    decide +kernel
  have hhash : assertRecipientHash samplePaymentPython sampleOwnerHash sampleOwnerHash =
      .ok () := by decide +kernel
  have hsignature : checkSignature (samplePaymentChain name) samplePaymentRequest = .ok () := by
    simp only [checkSignature, samplePaymentChain, samplePaymentRequest, hwallet.1, and_self,
      if_true]
  exact
    { mode := rfl
      message := rfl
      mint := rfl
      recipientTin := rfl
      amount := ⟨false, 15, -1, hamount, by norm_num [finiteValue, samplePayment]⟩
      fee := ⟨false, 0, 0, hfee, by norm_num [finiteValue, samplePayment]⟩
      nonce := rfl
      expires := rfl
      wallet := hwallet.2
      signature := hsignature
      unused := List.not_mem_nil
      route := ⟨⟨sampleOwnerHash, "c0ffee", 1⟩, rfl, hhash⟩ }

theorem ascii_samplePayment : AsciiDigits samplePaymentPython.unicode :=
  fun _ _ => rfl

example : strip "00ff" = "00ff" := by
  decide +kernel

theorem readsCredentials_samplePayment :
    ReadsCredentials samplePaymentPython sampleConversions [] := by
  have htext : stringify sampleConversions (.arr []) = "[]" := by decide +kernel
  rw [ReadsCredentials, signedCredentials, sortCredentials]
  change samplePaymentPython.loads (stringify sampleConversions (.arr [])) = _
  rw [htext]
  rfl

/-- The message for a recipient whose name starts with a byte order mark is refused: the SDK
strips the mark off the name, the Node keeps it. -/
theorem marked_name_refused :
    ∃ name message,
      buildPaymentIntentMessage sampleConversions (samplePayment name) = .ok message ∧
        IsPayment samplePaymentPython (samplePaymentChain name) 0 (samplePayment name) name
          sampleToken ∧
        Submits samplePaymentPython (samplePaymentChain name) (samplePayment name) message
          samplePaymentRequest [] ∧
        ReadsCredentials samplePaymentPython sampleConversions [] ∧
        ∀ intent used, verifyPaymentAuthorization samplePaymentPython
          (samplePaymentChain name) 0 samplePaymentRequest [] ≠ (.ok intent, used) := by
  have hmarked : String.ofList (Char.ofNat 0xfeff :: "Ada".toList) ∈ sampleNames :=
    List.mem_cons_of_mem _ List.mem_cons_self
  refine ⟨_, samplePaymentMessage, build_samplePayment _ hmarked, isPayment_samplePayment _,
    submits_samplePayment _, readsCredentials_samplePayment, ?_⟩
  intro intent used hverify
  obtain ⟨signed, hchecked, -, -⟩ := verify_eq_ok.mp hverify
  obtain ⟨amount, fee, hamount, hfee, -, htin, hcontrol, hmessage⟩ :=
    message_of_build rfl (build_samplePayment _ hmarked)
  have hloads : ReadsCredentials samplePaymentPython sampleConversions
      (samplePayment (String.ofList
        (Char.ofNat 0xfeff :: "Ada".toList))).recipientVerifiedCredentials :=
    readsCredentials_samplePayment
  have hidentity := identity_of_checkSigned hloads (isPayment_samplePayment _)
    (submits_samplePayment _) hmessage htin.2 hcontrol hamount hfee hchecked
  have hnames : trim (String.ofList (Char.ofNat 0xfeff :: "Ada".toList)) ≠
      strip (String.ofList (Char.ofNat 0xfeff :: "Ada".toList)) := by decide +kernel
  exact hnames hidentity.1.1

example : strip (String.ofList (Char.ofNat 0xfeff :: "Ada".toList)) ≠ "Ada" := by
  decide +kernel

theorem accepted_plain_name :
    ∃ intent used,
      verifyPaymentAuthorization samplePaymentPython (samplePaymentChain "Ada") 0
          samplePaymentRequest [] = (.ok intent, used) ∧
        verified samplePaymentPython samplePaymentRequest intent =
          (intent, .ok 1500000, .ok 0) := by
  have hloads : ReadsCredentials samplePaymentPython sampleConversions
      (samplePayment "Ada").recipientVerifiedCredentials := readsCredentials_samplePayment
  refine (accepted_iff ascii_samplePayment hloads (isPayment_samplePayment "Ada")
    (build_samplePayment "Ada" List.mem_cons_self) (submits_samplePayment "Ada")).mpr ⟨?_, rfl⟩
  have hname : trim "Ada" = strip "Ada" ∧
      trim "Ada" ≠ PaymentAuthorization.namePlaceholder := by decide +kernel
  exact hname

end Samples

end TsnProtocol.Node.AuthorizedMessages
