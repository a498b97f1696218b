import TsnProtocol.Node.MessageParsers

/-!
Canonical messages from the SDK to the Node: what is read of them is what was written.
-/

namespace TsnProtocol.Node.CanonicalMessages

open Lib.Checked
open Lib.JsonData
open Lib.PythonValues (intText)
open Lib.TextFormat
open Node.AuthorizedMessages (sampleConversions)
open Node.MessageParsers
open Node.PaymentAuthorization (parseCanonicalMessage)
open Sdk.MessageParsing
open Sdk.MessageRoundTrip
open Sdk.BuiltMessages

theorem canonical_messages_iff {platform : Platform} (hlawful : IsLawful platform) :
    (∀ (params : PaymentInput) (time : Time) (message : String),
      params.expires.time platform = some time →
      platform.jsonParse (Sdk.CanonicalMessage.stringify platform.conversions
        (credentialsOf platform params)) = some (credentialsOf platform params) →
      buildPaymentIntentMessage platform params = .ok message →
      (parsePaymentIntentMessage platform message =
        .ok (normalizedPayment platform params time) ↔ IsPayment params)) ∧
    (∀ (params : CrossChainInput) (time : Time) (message : String),
      params.expires.time platform = some time →
      buildCrossChainPaymentIntentMessage platform params = .ok message →
      (parseCrossChainPaymentIntentMessage platform message =
        .ok (normalizedCrossChain platform params time) ↔ IsCrossChain platform params)) ∧
    (∀ (params : TinCreationInput) (time : Time) (message : String),
      params.expires.time platform = some time →
      buildTinCreationMessage platform params = .ok message →
      (parseTinCreationMessage platform message = .ok (normalizedCreation params time) ↔
        IsCreation params)) ∧
    (∀ (params : TinWalletBindingInput) (time : Time) (message : String),
      params.issuedAt.time platform = some time →
      buildTinWalletBindingMessage platform params = .ok message →
      (parseTinWalletBindingMessage platform message = .ok (normalizedBinding params time) ↔
        IsBinding params)) ∧
    ∀ action message : String,
      SameMap (parseMessage message action).toOption
          (parseCanonicalMessage message action).toOption ↔
        (FitsSdk action message ∨ FitsNode action message → IsClean message) :=
  ⟨fun _ _ _ htime hjson hbuild => parsePaymentIntent_build hlawful htime hjson hbuild,
    fun _ _ _ htime hbuild => parseCrossChain_build hlawful htime hbuild,
    fun _ _ _ htime hbuild => parseTinCreation_build hlawful htime hbuild,
    fun _ _ _ htime hbuild => parseTinWalletBinding_build hlawful htime hbuild,
    fun _ _ => sameMap_iff⟩

section Samples

def sampleTime : Time :=
  ⟨1783036800000, by decide⟩

def sampleIso : String := "2026-07-03T00:00:00.000Z"

def intOf : Text → Int
  | '-' :: digits => -(decimalValue digits : Int)
  | digits => decimalValue digits

/-- The time of a number of milliseconds. -/
def timeOf (text : Text) : Option Time :=
  if htime : |intOf text| ≤ 8640000000000000 then some ⟨intOf text, htime⟩ else none

def samplePlatform : Platform where
  conversions := { sampleConversions with
    numberOf := fun text => some (decimalValue text.toList : Rat) }
  dateParse text := if text = sampleIso then some sampleTime else timeOf text.toList.dropLast
  isoText time := if time = sampleTime then sampleIso else String.ofList (intText time.1 ++ ['Z'])
  jsonParse text := if text = "[]" then some (.arr []) else none
  toLowerCase text := String.ofList (text.toList.map Char.toLower)

theorem intOf_digits {text : Text} (hminus : '-' ∉ text) : intOf text = decimalValue text := by
  rw [intOf]
  rintro digits rfl
  exact hminus List.mem_cons_self

theorem intOf_intText (value : Int) : intOf (intText value) = value := by
  rw [intText]
  split_ifs with hnegative
  · rw [intOf, decimalValue_decimal]
    omega
  · rw [intOf_digits, decimalValue_decimal]
    · omega
    · intro hmem
      exact absurd (isDigit_of_mem_decimal hmem) (by decide)

theorem timeOf_intText (time : Time) : timeOf (intText time.1) = some time := by
  have htime : |intOf (intText time.1)| ≤ 8640000000000000 := by
    rw [intOf_intText]
    exact time.2
  rw [timeOf, dif_pos htime]
  exact congrArg some (Subtype.ext (intOf_intText time.1))

theorem intText_ne_sampleIso (value : Int) : String.ofList (intText value ++ ['Z']) ≠ sampleIso := by
  intro hsame
  have hmem : 'T' ∈ intText value ++ ['Z'] := by
    rw [← @String.toList_ofList (intText value ++ ['Z']), hsame]
    decide
  rcases List.mem_append.mp hmem with hmem | hmem
  · rw [intText] at hmem
    split_ifs at hmem
    · rcases List.mem_cons.mp hmem with hminus | hmem
      · exact absurd hminus (by decide)
      · exact absurd (isDigit_of_mem_decimal hmem) (by decide)
    · exact absurd (isDigit_of_mem_decimal hmem) (by decide)
  · exact absurd hmem (by decide)

theorem toLower_spec (character : Char) :
    isSpace character.toLower = isSpace character ∧
      (character.toLower = '\n' ↔ character = '\n') ∧
      character.toLower.toLower = character.toLower := by
  rcases toLower_cases character with hsame | ⟨hlow, hhigh⟩
  · rw [hsame]
    exact ⟨rfl, Iff.rfl, hsame⟩
  · rw [← Char.ofNat_toNat character]
    interval_cases character.toNat <;> decide

theorem isLine_toLower {text : String} (hline : IsLine text) :
    IsLine (String.ofList (text.toList.map Char.toLower)) := by
  have hnonempty : text.toList ≠ [] := by
    rw [Ne, String.toList_eq_nil_iff]
    exact hline.nonempty
  have hlast := List.rdropWhile_eq_self_iff.mp hline.trimmed hnonempty
  refine isLine_of_getLast ?_ (by simpa using hnonempty) ?_
  · intro hmem
    obtain ⟨character, hcharacter, hlower⟩ := List.mem_map.mp hmem
    exact hline.oneLine ((toLower_spec character).2.1.mp hlower ▸ hcharacter)
  · rw [List.getLast_map, (toLower_spec _).1]
    simpa using hlast

theorem isLawful_sample : IsLawful samplePlatform := by
  refine ⟨?_, ?_, ?_, ?_, fun _ => isLine_toLower, fun _ _ => rfl⟩
  · intro time
    by_cases hsample : time = sampleTime
    · rw [hsample]
      rfl
    · have htext : samplePlatform.isoText time = String.ofList (intText time.1 ++ ['Z']) :=
        if_neg hsample
      rw [htext]
      refine (if_neg (intText_ne_sampleIso _)).trans ?_
      rw [String.toList_ofList, List.dropLast_concat]
      exact timeOf_intText time
  · intro time
    by_cases hsample : time = sampleTime
    · exact ⟨sampleIso.toList.dropLast, by rw [hsample]; decide⟩
    · have htext : samplePlatform.isoText time = String.ofList (intText time.1 ++ ['Z']) :=
        if_neg hsample
      refine ⟨intText time.1, ?_, by rw [htext, String.toList_ofList]⟩
      intro hmem
      exact absurd (isSpace_of_mem_intText hmem) (by decide)
  · intro value _
    exact congrArg some (by rw [String.toList_ofList, decimalValue_decimal])
  · intro text
    have hlower : (samplePlatform.toLowerCase text).toList = text.toList.map Char.toLower :=
      String.toList_ofList
    have htwice : ∀ lower, samplePlatform.toLowerCase lower =
        String.ofList (lower.toList.map Char.toLower) := fun _ => rfl
    rw [htwice, hlower, htwice, List.map_map]
    exact congrArg String.ofList
      (List.map_congr_left fun character _ => (toLower_spec character).2.2)

def samplePayment : PaymentInput :=
  { amountBaseUnits := 1500000, tokenMintAddress := " EPjFWdd5AufqSSqeM2qN1xzybapC8G4w "
    tokenDecimals := 6, recipientTin := "7", recipientDisplayName := some "Ann"
    recipientDisplayNameSource := none, recipientVerifiedCredentials := [], feeBaseUnits := 0
    sender := "Main Wallet", nonce := "00ff", expires := .date (some sampleTime) }

def sampleCrossChain : CrossChainInput :=
  { intentId := "intent-1", amountBaseUnits := 1500000, destinationToken := "USDC"
    recipientTin := "7", feeBaseUnits := 0, sender := "Main Wallet", nonce := "00ff"
    expires := .text "2026-07-03T00:00:00.000Z", destinationNetwork := "base-sepolia"
    destinationExecutor := "0x00000000000000000000000000000000000000AB"
    settlementRouteId :=
      "0x00000000000000000000000000000000000000000000000000000000000000AB" }

def sampleCreation : TinCreationInput :=
  { tin := "7", displayName := "Ann", privacy := none, nonce := "00ff"
    expires := .date (some sampleTime) }

def sampleBinding : TinWalletBindingInput :=
  { tin := "7", walletPublicKey := "Main Wallet", identityPublicKey := "Ann"
    programId := "TIP", issuedAt := .date (some sampleTime) }

def sampleMessage : String := "TSN TIN Update\n---\nTIN: 7\nDomain: ...d772e0a4"

theorem canonical_messages_sample :
    (∃ message, buildPaymentIntentMessage samplePlatform samplePayment = .ok message ∧
      parsePaymentIntentMessage samplePlatform message =
        .ok (normalizedPayment samplePlatform samplePayment sampleTime)) ∧
    (∃ message, buildCrossChainPaymentIntentMessage samplePlatform sampleCrossChain =
        .ok message ∧
      parseCrossChainPaymentIntentMessage samplePlatform message =
        .ok (normalizedCrossChain samplePlatform sampleCrossChain sampleTime)) ∧
    (∃ message, buildTinCreationMessage samplePlatform sampleCreation = .ok message ∧
      parseTinCreationMessage samplePlatform message =
        .ok (normalizedCreation sampleCreation sampleTime)) ∧
    (∃ message, buildTinWalletBindingMessage samplePlatform sampleBinding = .ok message ∧
      parseTinWalletBindingMessage samplePlatform message =
        .ok (normalizedBinding sampleBinding sampleTime)) ∧
    SameMap (parseMessage sampleMessage "TIN Update").toOption
      (parseCanonicalMessage sampleMessage "TIN Update").toOption := by
  obtain ⟨hpayment, hcrossChain, hcreation, hbinding, hparsers⟩ :=
    canonical_messages_iff isLawful_sample
  obtain ⟨payment, hpaymentBuilt⟩ := exists_ok_of_isOk
    (by decide +kernel : (buildPaymentIntentMessage samplePlatform samplePayment).isOk = true)
  obtain ⟨crossChain, hcrossChainBuilt⟩ := exists_ok_of_isOk (by decide +kernel :
    (buildCrossChainPaymentIntentMessage samplePlatform sampleCrossChain).isOk = true)
  obtain ⟨creation, hcreationBuilt⟩ := exists_ok_of_isOk
    (by decide +kernel : (buildTinCreationMessage samplePlatform sampleCreation).isOk = true)
  obtain ⟨binding, hbindingBuilt⟩ := exists_ok_of_isOk
    (by decide +kernel : (buildTinWalletBindingMessage samplePlatform sampleBinding).isOk = true)
  refine ⟨⟨payment, hpaymentBuilt, ?_⟩, ⟨crossChain, hcrossChainBuilt, ?_⟩,
    ⟨creation, hcreationBuilt, ?_⟩, ⟨binding, hbindingBuilt, ?_⟩, ?_⟩
  · refine (hpayment samplePayment sampleTime payment rfl ?_ hpaymentBuilt).mpr
      ⟨by decide +kernel, by decide +kernel, by decide, by decide, ?_, ?_⟩
    · have htext : Sdk.CanonicalMessage.stringify samplePlatform.conversions
          (credentialsOf samplePlatform samplePayment) = "[]" := by decide +kernel
      rw [htext]
      rfl
    · exact ⟨by decide, by decide⟩
    · exact ⟨by decide, by decide⟩
  · exact (hcrossChain sampleCrossChain sampleTime crossChain rfl hcrossChainBuilt).mpr
      ⟨by decide, by decide +kernel, by decide, by decide, by decide, by decide, by decide⟩
  · exact (hcreation sampleCreation sampleTime creation rfl hcreationBuilt).mpr
      ⟨by decide, by decide, by decide⟩
  · exact (hbinding sampleBinding sampleTime binding rfl hbindingBuilt).mpr
      ⟨by decide, by decide, by decide⟩
  · refine (hparsers "TIN Update" sampleMessage).mpr fun _ => ?_
    exact ⟨by decide +kernel, by decide +kernel, by decide +kernel⟩

example : (parseMessage sampleMessage "TIN Update").isOk = true := by
  decide +kernel

/-- A name of two lines, the second of which looks like a field. -/
def twoLines : TinCreationInput :=
  { sampleCreation with displayName := "Ann\nRole: admin" }

def domainOnly : String := "TSN TIN Creation\n---\nDomain: ...d772e0a4"

/-- What stands behind the line end of a name is read as a field of its own, and the Node
refuses a message of the domain alone that the SDK reads. -/
theorem second_line_of_name_lost :
    (∃ message, buildTinCreationMessage samplePlatform twoLines = .ok message ∧
      parseTinCreationMessage samplePlatform message =
        .ok (normalizedCreation sampleCreation sampleTime) ∧
      (parseMessage message creationAction).map (List.lookup "Role") = .ok (some "admin") ∧
      parseTinCreationMessage samplePlatform message ≠
        .ok (normalizedCreation twoLines sampleTime)) ∧
    ¬ SameMap (parseMessage domainOnly creationAction).toOption
      (parseCanonicalMessage domainOnly creationAction).toOption := by
  have hbuild : buildTinCreationMessage samplePlatform twoLines =
      .ok (Sdk.CanonicalMessage.buildMessage creationAction [("TIN", "7"),
        ("Display Name", "Ann"), ("Role", "admin"), ("Privacy", "30 PRUs"), ("Nonce", "00ff"),
        ("Expires", sampleIso)]) := by
    decide +kernel
  have haction : IsLine ("TSN " ++ creationAction) := by decide
  have hparse := parseMessage_written haction
    (by decide : AreLabels (List.map Prod.fst [("TIN", "7"), ("Display Name", "Ann"),
      ("Role", "admin"), ("Privacy", "30 PRUs"), ("Nonce", "00ff"), ("Expires", sampleIso)]))
    (by decide)
  have hread : parseTinCreationMessage samplePlatform
      (Sdk.CanonicalMessage.buildMessage creationAction [("TIN", "7"), ("Display Name", "Ann"),
        ("Role", "admin"), ("Privacy", "30 PRUs"), ("Nonce", "00ff"), ("Expires", sampleIso)]) =
      .ok (normalizedCreation sampleCreation sampleTime) := by
    rw [parseTinCreationMessage, hparse]
    rfl
  refine ⟨⟨_, hbuild, hread, by rw [hparse]; rfl, ?_⟩, ?_⟩
  · rw [hread]
    intro hsame
    have hname := congrArg TinCreation.displayName (Except.ok.inj hsame)
    exact absurd hname (by decide)
  · intro hsame
    have hread := isSome_of_sameMap hsame
    exact absurd hread (by decide +kernel)

example : (parseMessage domainOnly creationAction).isOk = true := by
  decide +kernel

end Samples

end TsnProtocol.Node.CanonicalMessages
