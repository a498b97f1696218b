import TsnProtocol.Sdk.MessageRoundTrip
import TsnProtocol.Sdk.PaymentAuthorization

/-!
When the message that is built of parameters is read as these parameters.
-/

namespace TsnProtocol.Sdk.BuiltMessages

open Lib.Checked
open Lib.JsonData
open Lib.TextFormat
open Node.AuthorizedMessages (signedCredentials)
open Sdk.CanonicalMessage
open Sdk.MessageParsing
open Sdk.MessageRoundTrip
open Sdk.PaymentAuthorization (canonicalDisplayName_eq_ok)

/-- What the texts of dates, numbers and letters keep. -/
structure IsLawful (platform : Platform) : Prop where
  dateParse_isoText : ∀ time, platform.dateParse (platform.isoText time) = some time
  isoText_zone : ∀ time, ∃ front : Text,
    '\n' ∉ front ∧ (platform.isoText time).toList = front ++ ['Z']
  numberOf_decimal : ∀ value : Nat, value ≤ 18 →
    platform.conversions.numberOf (String.ofList (decimal value)) = some (value : Rat)
  toLowerCase_idempotent : ∀ text,
    platform.toLowerCase (platform.toLowerCase text) = platform.toLowerCase text
  isLine_toLowerCase : ∀ text, IsLine text → IsLine (platform.toLowerCase text)
  toLowerCase_ascii : ∀ text : String, isAscii text.toList = true →
    platform.toLowerCase text = String.ofList (text.toList.map Char.toLower)

section Reading

variable {platform : Platform} {action label value : String} {message : String} {fields : Fields}

theorem requireField_eq_ok :
    requireField fields label = .ok value ↔ fields.lookup label = some value ∧ value ≠ "" := by
  simp only [requireField, okOr_eq_ok, Option.filter_eq_some_iff, decide_eq_true_eq]

theorem isLine_of_requireField (hparse : parseMessage message action = .ok fields)
    (hfield : requireField fields label = .ok value) : IsLine value :=
  isLine_of_lookup hparse (requireField_eq_ok.mp hfield).1

theorem parseExpiry_eq_ok {time : Time} :
    parseExpiry platform value = .ok time ↔
      platform.dateParse value = some time ∧ platform.isoText time = value := by
  simp only [parseExpiry, okOr_eq_ok, Option.filter_eq_some_iff, decide_eq_true_eq]

theorem isLine_isoText (hlawful : IsLawful platform) (time : Time) :
    IsLine (platform.isoText time) := by
  obtain ⟨front, hnewline, htext⟩ := hlawful.isoText_zone time
  rw [← @String.ofList_toList (platform.isoText time), htext]
  refine isLine_of_getLast ?_ (by simp) ?_
  · simp [hnewline]
  · rw [List.getLast_append_singleton]
    decide

theorem parseExpiry_isoText (hlawful : IsLawful platform) (time : Time) :
    parseExpiry platform (platform.isoText time) = .ok time :=
  parseExpiry_eq_ok.mpr ⟨hlawful.dateParse_isoText time, rfl⟩

theorem isoOf_eq_ok {date : DateInput} {time : Time} (htime : date.time platform = some time) :
    isoOf platform date = .ok value ↔ platform.isoText time = value := by
  simp only [isoOf, htime, okOr_eq_ok, Option.map_some, Option.some_inj]

end Reading

section Built

variable {action message : String} {fields written : Fields}

/-- Labels that a message of this protocol may have. -/
def AreLabels (labels : List String) : Prop :=
  (∀ label ∈ labels, ':' ∉ label.toList ∧ '\n' ∉ label.toList ∧ label ≠ "") ∧
    (labels ++ ["Domain"]).Nodup

instance (labels : List String) : Decidable (AreLabels labels) :=
  inferInstanceAs (Decidable (_ ∧ _))

theorem parseMessage_written (haction : IsLine ("TSN " ++ action))
    (hlabels : AreLabels (written.map Prod.fst)) (hlines : ∀ field ∈ written, IsLine field.2) :
    parseMessage (buildMessage action written) action =
      .ok (written ++ [("Domain", canonicalDomainDisplay)]) := by
  refine parseMessage_buildMessage haction hlines ?_ ?_
  · intro field hfield
    obtain ⟨hcolon, hnewline, hnonempty⟩ := hlabels.1 field.1 (List.mem_map_of_mem hfield)
    exact ⟨hcolon, hnewline, hnonempty⟩
  · rw [List.map_append]
    exact hlabels.2

theorem lookup_of_mem {fields : Fields} (hnodup : (fields.map Prod.fst).Nodup)
    {field : String × String} (hfield : field ∈ fields) :
    fields.lookup field.1 = some field.2 := by
  induction fields with
  | nil => cases hfield
  | cons first fields ih =>
      rw [List.map_cons, List.nodup_cons] at hnodup
      rcases List.mem_cons.mp hfield with rfl | hfield
      · rw [List.lookup_cons, beq_self_eq_true]
      · have hne : field.1 ≠ first.1 := by
          rintro hsame
          exact hnodup.1 (hsame ▸ List.mem_map_of_mem hfield)
        rw [List.lookup_cons, beq_eq_false_iff_ne.mpr hne]
        exact ih hnodup.2 hfield

/-- A message of fields that fill their lines has each of them. -/
theorem requireField_written (hlabels : AreLabels (written.map Prod.fst))
    (hlines : ∀ field ∈ written, IsLine field.2) :
    ∀ field ∈ written, requireField (written ++ [("Domain", canonicalDomainDisplay)]) field.1 =
      .ok field.2 := by
  intro field hfield
  refine requireField_eq_ok.mpr ⟨lookup_of_mem ?_ (List.mem_append_left _ hfield),
    (hlines field hfield).nonempty⟩
  rw [List.map_append]
  exact hlabels.2

end Built

section Identities

variable {platform : Platform} {message : String} {time : Time}

def normalizedCreation (params : TinCreationInput) (time : Time) : TinCreation :=
  ⟨params.tin, params.displayName, privacyOf params, params.nonce, time⟩

def normalizedBinding (params : TinWalletBindingInput) (time : Time) : TinWalletBinding :=
  ⟨params.tin, params.walletPublicKey, params.identityPublicKey, params.programId, time⟩

/-- The free texts of a creation fill their lines. -/
structure IsCreation (params : TinCreationInput) : Prop where
  displayName : IsLine params.displayName
  privacy : IsLine (privacyOf params)
  nonce : IsLine params.nonce

/-- The free texts of a binding fill their lines. -/
structure IsBinding (params : TinWalletBindingInput) : Prop where
  walletPublicKey : IsLine params.walletPublicKey
  identityPublicKey : IsLine params.identityPublicKey
  programId : IsLine params.programId

theorem creationFields_eq_ok {params : TinCreationInput} {fields : Fields}
    (htime : params.expires.time platform = some time) :
    creationFields platform params = .ok fields ↔
      (params.tin ≠ "" ∧ params.tin.toList.all Char.isDigit = true) ∧
        [("TIN", params.tin), ("Display Name", params.displayName),
          ("Privacy", privacyOf params), ("Nonce", params.nonce),
          ("Expires", platform.isoText time)] = fields := by
  simp only [creationFields, bind_eq_ok, parseTin_eq_ok, isoOf_eq_ok htime, pure_eq_ok,
    and_assoc, exists_and_left, exists_eq_left']

theorem parseTinCreation_build (hlawful : IsLawful platform) {params : TinCreationInput}
    (htime : params.expires.time platform = some time)
    (hbuild : buildTinCreationMessage platform params = .ok message) :
    parseTinCreationMessage platform message = .ok (normalizedCreation params time) ↔
      IsCreation params := by
  simp only [buildTinCreationMessage, bind_eq_ok, pure_eq_ok, creationFields_eq_ok htime]
    at hbuild
  obtain ⟨written, ⟨htin, hwritten⟩, rfl⟩ := hbuild
  have hlabels : AreLabels (written.map Prod.fst) := by
    rw [← hwritten]
    exact (by decide : AreLabels ["TIN", "Display Name", "Privacy", "Nonce", "Expires"])
  simp only [parseTinCreationMessage, bind_eq_ok, parseTin_eq_ok, pure_eq_ok, and_assoc,
    exists_and_left, exists_eq_left']
  constructor
  · rintro ⟨fields, hparse, tin, -, -, -, name, hname, privacy, hprivacy, nonce, hnonce, text,
      -, expires, -, hresult⟩
    obtain ⟨-, rfl, rfl, rfl, -⟩ := TinCreation.mk.inj hresult
    exact ⟨isLine_of_requireField hparse hname, isLine_of_requireField hparse hprivacy,
      isLine_of_requireField hparse hnonce⟩
  · rintro ⟨hname, hprivacy, hnonce⟩
    have hlines : ∀ field ∈ written, IsLine field.2 := by
      rw [← hwritten]
      simp only [List.forall_mem_cons, List.not_mem_nil, false_implies, implies_true, and_true]
      exact ⟨isLine_of_digits htin, hname, hprivacy, hnonce,
        isLine_isoText hlawful time⟩
    have hfields := requireField_written hlabels hlines
    nth_rewrite 1 [← hwritten] at hfields
    simp only [List.forall_mem_cons, List.not_mem_nil, false_implies, implies_true, and_true]
      at hfields
    obtain ⟨htinField, hnameField, hprivacyField, hnonceField, hexpires⟩ := hfields
    exact ⟨_, parseMessage_written (by decide) hlabels hlines, _, htinField, htin.1, htin.2,
      _, hnameField, _, hprivacyField, _, hnonceField, _, hexpires, _,
      parseExpiry_isoText hlawful time, rfl⟩

theorem bindingFields_eq_ok {params : TinWalletBindingInput} {fields : Fields}
    (htime : params.issuedAt.time platform = some time) :
    bindingFields platform params = .ok fields ↔
      (params.tin ≠ "" ∧ params.tin.toList.all Char.isDigit = true) ∧
        [("TIN", params.tin), ("Wallet", params.walletPublicKey),
          ("Identity", params.identityPublicKey), ("Program", params.programId),
          ("Issued At", platform.isoText time)] = fields := by
  simp only [bindingFields, bind_eq_ok, parseTin_eq_ok, isoOf_eq_ok htime, pure_eq_ok,
    and_assoc, exists_and_left, exists_eq_left']

theorem parseTinWalletBinding_build (hlawful : IsLawful platform)
    {params : TinWalletBindingInput} (htime : params.issuedAt.time platform = some time)
    (hbuild : buildTinWalletBindingMessage platform params = .ok message) :
    parseTinWalletBindingMessage platform message = .ok (normalizedBinding params time) ↔
      IsBinding params := by
  simp only [buildTinWalletBindingMessage, bind_eq_ok, pure_eq_ok, bindingFields_eq_ok htime]
    at hbuild
  obtain ⟨written, ⟨htin, hwritten⟩, rfl⟩ := hbuild
  have hlabels : AreLabels (written.map Prod.fst) := by
    rw [← hwritten]
    exact (by decide : AreLabels ["TIN", "Wallet", "Identity", "Program", "Issued At"])
  simp only [parseTinWalletBindingMessage, bind_eq_ok, parseTin_eq_ok, pure_eq_ok, and_assoc,
    exists_and_left, exists_eq_left']
  constructor
  · rintro ⟨fields, hparse, tin, -, -, -, wallet, hwallet, identity, hidentity, program,
      hprogram, text, -, issuedAt, -, hresult⟩
    obtain ⟨-, rfl, rfl, rfl, -⟩ := TinWalletBinding.mk.inj hresult
    exact ⟨isLine_of_requireField hparse hwallet, isLine_of_requireField hparse hidentity,
      isLine_of_requireField hparse hprogram⟩
  · rintro ⟨hwallet, hidentity, hprogram⟩
    have hlines : ∀ field ∈ written, IsLine field.2 := by
      rw [← hwritten]
      simp only [List.forall_mem_cons, List.not_mem_nil, false_implies, implies_true, and_true]
      exact ⟨isLine_of_digits htin, hwallet, hidentity, hprogram, isLine_isoText hlawful time⟩
    have hfields := requireField_written hlabels hlines
    nth_rewrite 1 [← hwritten] at hfields
    simp only [List.forall_mem_cons, List.not_mem_nil, false_implies, implies_true, and_true]
      at hfields
    obtain ⟨htinField, hwalletField, hidentityField, hprogramField, hissuedAt⟩ := hfields
    exact ⟨_, parseMessage_written (by decide) hlabels hlines, _, htinField, htin.1, htin.2,
      _, hwalletField, _, hidentityField, _, hprogramField, _, hissuedAt, _,
      parseExpiry_isoText hlawful time, rfl⟩

end Identities

section CrossChain

variable {platform : Platform} {message : String} {time : Time}

def normalizedCrossChain (platform : Platform) (params : CrossChainInput) (time : Time) :
    CrossChainIntent :=
  ⟨params.intentId, params.amountBaseUnits, platform.toLowerCase params.destinationToken,
    params.recipientTin, params.feeBaseUnits, params.sender, params.nonce, time,
    params.destinationNetwork, platform.toLowerCase params.destinationExecutor,
    platform.toLowerCase (trim (withoutHexPrefix params.settlementRouteId))⟩

/-- The free texts of an intent fill their lines, and its amounts are not negative. -/
structure IsCrossChain (platform : Platform) (params : CrossChainInput) : Prop where
  intentId : IsLine params.intentId
  destinationToken : IsLine (platform.toLowerCase params.destinationToken)
  sender : IsLine params.sender
  nonce : IsLine params.nonce
  destinationNetwork : IsLine params.destinationNetwork
  amount : 0 ≤ params.amountBaseUnits
  fee : 0 ≤ params.feeBaseUnits

theorem parseHash32_eq_ok {value label hash : String} :
    parseHash32 platform value label = .ok hash ↔
      isHex 64 (platform.toLowerCase (trim value)).toList = true ∧
        platform.toLowerCase (trim value) = hash := by
  simp only [parseHash32, bind_eq_ok, require_eq_ok, pure_eq_ok, exists_const]

theorem crossChainFields_eq_ok {params : CrossChainInput} {fields : Fields}
    (htime : params.expires.time platform = some time) :
    crossChainFields platform params = .ok fields ↔
      (trim params.intentId ≠ "" ∧ trim params.destinationToken ≠ "" ∧
          trim params.destinationNetwork ≠ "") ∧
        isExecutor params.destinationExecutor.toList = true ∧
        (params.recipientTin ≠ "" ∧ params.recipientTin.toList.all Char.isDigit = true) ∧
        isHex 64 (platform.toLowerCase
          (trim (withoutHexPrefix params.settlementRouteId))).toList = true ∧
        [("Intent ID", params.intentId), ("Amount", formatUsdcBaseUnits params.amountBaseUnits),
          ("Asset", platform.toLowerCase params.destinationToken),
          ("Recipient TIN", params.recipientTin),
          ("Fee", formatUsdcBaseUnits params.feeBaseUnits), ("Sender", params.sender),
          ("Nonce", params.nonce), ("Expires", platform.isoText time),
          ("Destination Network", params.destinationNetwork),
          ("Destination Executor", platform.toLowerCase params.destinationExecutor),
          ("Settlement Route ID",
            platform.toLowerCase (trim (withoutHexPrefix params.settlementRouteId)))] =
          fields := by
  simp only [crossChainFields, bind_eq_ok, require_eq_ok, parseTin_eq_ok, parseHash32_eq_ok,
    isoOf_eq_ok htime, pure_eq_ok, and_assoc, exists_and_left, exists_eq_left', exists_const]

theorem toLower_cases (character : Char) :
    character.toLower = character ∨ 65 ≤ character.toNat ∧ character.toNat ≤ 90 := by
  by_cases hupper : character.val ≥ 'A'.val ∧ character.val ≤ 'Z'.val
  · exact .inr hupper
  · refine .inl ?_
    unfold Char.toLower
    exact dif_neg hupper

theorem range_of_lower {digit : Char} (hdigit : (digit.toLower.isDigit ||
    ('a' ≤ digit.toLower && digit.toLower ≤ 'f')) = true) :
    33 ≤ digit.toNat ∧ digit.toNat < 128 := by
  rcases toLower_cases digit with hsame | hupper
  · rw [hsame, Bool.or_eq_true, Bool.and_eq_true, decide_eq_true_eq, decide_eq_true_eq] at hdigit
    rcases hdigit with hdigit | ⟨hlow, hhigh⟩
    · obtain ⟨hlow, hhigh⟩ := Lib.PythonText.isDigit_range hdigit
      omega
    · have hlow' : 97 ≤ digit.toNat := hlow
      have hhigh' : digit.toNat ≤ 102 := hhigh
      omega
  · omega

theorem isExecutor_eq_true {text : Text} :
    isExecutor text = true ↔
      ∃ digits, text = '0' :: 'x' :: digits ∧ isHex 40 (digits.map Char.toLower) = true := by
  rw [isExecutor, Bool.and_eq_true, List.isPrefixOf_iff_prefix]
  constructor
  · rintro ⟨⟨digits, rfl⟩, hdigits⟩
    exact ⟨digits, rfl, hdigits⟩
  · rintro ⟨digits, rfl, hdigits⟩
    exact ⟨⟨digits, rfl⟩, hdigits⟩

theorem range_of_isExecutor {text : Text} (htext : isExecutor text = true) :
    ∀ character ∈ text, 33 ≤ character.toNat ∧ character.toNat < 128 := by
  obtain ⟨digits, rfl, hdigits⟩ := isExecutor_eq_true.mp htext
  rw [isHex, Bool.and_eq_true, List.all_map] at hdigits
  intro character hcharacter
  rcases List.mem_cons.mp hcharacter with rfl | hcharacter
  · decide
  rcases List.mem_cons.mp hcharacter with rfl | hcharacter
  · decide
  · exact range_of_lower (List.all_eq_true.mp hdigits.2 character hcharacter)

theorem isLine_of_printed {value : String} (hnonempty : value ≠ "")
    (hprinted : ∀ character ∈ value.toList, 33 ≤ character.toNat ∧ character.toNat < 128) :
    IsLine value := by
  rw [← @String.ofList_toList value]
  refine isLine_of_solid ?_ ?_
  · rwa [Ne, String.toList_eq_nil_iff]
  · intro character hcharacter
    exact isSpace_of_printed (hprinted character hcharacter).1 (hprinted character hcharacter).2

theorem isLine_of_isExecutor {executor : String} (htext : isExecutor executor.toList = true) :
    IsLine executor := by
  refine isLine_of_printed ?_ (range_of_isExecutor htext)
  rintro rfl
  exact absurd htext (by decide)

theorem range_of_isHex {size : Nat} {text : Text} (htext : isHex size text = true) :
    ∀ character ∈ text, 33 ≤ character.toNat ∧ character.toNat < 128 := by
  rw [isHex, Bool.and_eq_true] at htext
  intro character hcharacter
  have hdigit := List.all_eq_true.mp htext.2 character hcharacter
  rw [Bool.or_eq_true, Bool.and_eq_true, decide_eq_true_eq, decide_eq_true_eq] at hdigit
  rcases hdigit with hdigit | ⟨hlow, hhigh⟩
  · obtain ⟨hlow, hhigh⟩ := Lib.PythonText.isDigit_range hdigit
    omega
  · have hlow' : 97 ≤ character.toNat := hlow
    have hhigh' : character.toNat ≤ 102 := hhigh
    omega

theorem isLine_of_isHex {hash : String} (hhash : isHex 64 hash.toList = true) : IsLine hash := by
  refine isLine_of_printed ?_ (range_of_isHex hhash)
  rintro rfl
  exact absurd hhash (by decide)

theorem trim_of_isHex {size : Nat} {hash : String} (hhash : isHex size hash.toList = true) :
    trim hash = hash := by
  have hsolid : ∀ character ∈ hash.toList, isSpace character = false := fun character hmem =>
    isSpace_of_printed (range_of_isHex hhash character hmem).1
      (range_of_isHex hhash character hmem).2
  have hfront : hash.toList.dropWhile isSpace = hash.toList := by
    rw [List.dropWhile_eq_self_iff]
    intro hnonempty
    simp [hsolid _ (List.getElem_mem hnonempty)]
  have hback : hash.toList.rdropWhile isSpace = hash.toList := by
    rw [List.rdropWhile_eq_self_iff]
    intro hnonempty
    simp [hsolid _ (List.getLast_mem hnonempty)]
  rw [trim, hfront, hback, String.ofList_toList]

theorem isLowerExecutor_toLowerCase (hlawful : IsLawful platform) {executor : String}
    (htext : isExecutor executor.toList = true) :
    isLowerExecutor (platform.toLowerCase executor).toList = true := by
  have hascii : isAscii executor.toList = true := by
    rw [isAscii, List.all_eq_true]
    intro character hcharacter
    exact decide_eq_true (range_of_isExecutor htext character hcharacter).2
  obtain ⟨digits, hexecutor, hdigits⟩ := isExecutor_eq_true.mp htext
  rw [hlawful.toLowerCase_ascii executor hascii, String.toList_ofList, hexecutor]
  exact hdigits

theorem parseCrossChain_build (hlawful : IsLawful platform) {params : CrossChainInput}
    (htime : params.expires.time platform = some time)
    (hbuild : buildCrossChainPaymentIntentMessage platform params = .ok message) :
    parseCrossChainPaymentIntentMessage platform message =
        .ok (normalizedCrossChain platform params time) ↔
      IsCrossChain platform params := by
  simp only [buildCrossChainPaymentIntentMessage, bind_eq_ok, pure_eq_ok,
    crossChainFields_eq_ok htime] at hbuild
  obtain ⟨written, ⟨-, hexecutor, htin, hroute, hwritten⟩, rfl⟩ := hbuild
  have hlabels : AreLabels (written.map Prod.fst) := by
    rw [← hwritten]
    exact (by decide : AreLabels ["Intent ID", "Amount", "Asset", "Recipient TIN", "Fee",
      "Sender", "Nonce", "Expires", "Destination Network", "Destination Executor",
      "Settlement Route ID"])
  have hlines (hid : IsLine params.intentId)
      (htoken : IsLine (platform.toLowerCase params.destinationToken))
      (hsender : IsLine params.sender) (hnonce : IsLine params.nonce)
      (hnetwork : IsLine params.destinationNetwork) : ∀ field ∈ written, IsLine field.2 := by
    rw [← hwritten]
    simp only [List.forall_mem_cons, List.not_mem_nil, false_implies, implies_true, and_true]
    exact ⟨hid, isLine_formatUsdc _, htoken, isLine_of_digits htin, isLine_formatUsdc _, hsender,
      hnonce, isLine_isoText hlawful time, hnetwork,
      hlawful.isLine_toLowerCase _ (isLine_of_isExecutor hexecutor), isLine_of_isHex hroute⟩
  have hread (hall : ∀ field ∈ written, IsLine field.2) := requireField_written hlabels hall
  nth_rewrite 2 [← hwritten] at hread
  simp only [List.forall_mem_cons, List.not_mem_nil, false_implies, implies_true, and_true]
    at hread
  simp only [parseCrossChainPaymentIntentMessage, bind_eq_ok, require_eq_ok, parseTin_eq_ok,
    parseHash32_eq_ok, pure_eq_ok, and_assoc, exists_and_left, exists_eq_left', exists_const]
  constructor
  · rintro ⟨fields, hparse, executor, -, -, id, hid, amountText, hamountText, amount, hamount,
      token, htoken, tin, -, -, -, feeText, hfeeText, fee, hfee, sender, hsender, nonce, hnonce,
      text, -, expires, -, network, hnetwork, route, -, -, hresult⟩
    obtain ⟨rfl, rfl, htokenText, -, rfl, rfl, rfl, -, rfl, -, -⟩ :=
      CrossChainIntent.mk.inj hresult
    have hall := hlines (isLine_of_requireField hparse hid)
      (htokenText ▸ hlawful.isLine_toLowerCase _ (isLine_of_requireField hparse htoken))
      (isLine_of_requireField hparse hsender) (isLine_of_requireField hparse hnonce)
      (isLine_of_requireField hparse hnetwork)
    obtain rfl := Except.ok.inj (hparse.symm.trans
      (parseMessage_written (by decide) hlabels hall))
    obtain ⟨-, hamountField, -, -, hfeeField, -⟩ := hread hall
    obtain rfl := Except.ok.inj (hamountText.symm.trans hamountField)
    obtain rfl := Except.ok.inj (hfeeText.symm.trans hfeeField)
    refine ⟨isLine_of_requireField hparse hid, ?_, isLine_of_requireField hparse hsender,
      isLine_of_requireField hparse hnonce, isLine_of_requireField hparse hnetwork,
      (parseUsdc_format.mp hamount).1, (parseUsdc_format.mp hfee).1⟩
    exact htokenText ▸ hlawful.isLine_toLowerCase _ (isLine_of_requireField hparse htoken)
  · rintro ⟨hid, htoken, hsender, hnonce, hnetwork, hamount, hfee⟩
    have hall := hlines hid htoken hsender hnonce hnetwork
    obtain ⟨hidField, hamountField, htokenField, htinField, hfeeField, hsenderField, hnonceField,
      hexpiresField, hnetworkField, hexecutorField, hrouteField⟩ := hread hall
    have hexecutor' := isLowerExecutor_toLowerCase hlawful hexecutor
    have hhash := trim_of_isHex hroute
    refine ⟨_, parseMessage_written (by decide) hlabels hall, _, hexecutorField, ?_, _, hidField,
      _, hamountField, _, parseUsdc_format.mpr ⟨hamount, rfl⟩, _, htokenField, _, htinField,
      htin.1, htin.2, _, hfeeField, _, parseUsdc_format.mpr ⟨hfee, rfl⟩, _, hsenderField, _,
      hnonceField, _, hexpiresField, _, parseExpiry_isoText hlawful time, _, hnetworkField, _,
      hrouteField, ?_, ?_⟩
    · rwa [hlawful.toLowerCase_idempotent]
    · rwa [hhash, hlawful.toLowerCase_idempotent]
    · rw [hhash, hlawful.toLowerCase_idempotent, hlawful.toLowerCase_idempotent,
        hlawful.toLowerCase_idempotent]
      rfl

end CrossChain

section Payments

variable {platform : Platform} {message : String} {time : Time}

/-- The name of the recipient as it is shown. -/
def shownName (name : Option String) : String :=
  if trim (name.getD "") = "" then namePlaceholder else trim (name.getD "")

/-- The credentials as they are signed. -/
def credentialsOf (platform : Platform) (params : PaymentInput) : Json :=
  .arr ((signedCredentials platform.conversions
    params.recipientVerifiedCredentials).map credentialJson)

def normalizedPayment (platform : Platform) (params : PaymentInput) (time : Time) :
    PaymentIntent :=
  ⟨trim params.tokenMintAddress, params.tokenDecimals, params.amountBaseUnits,
    params.recipientTin, shownName params.recipientDisplayName,
    displayNameSource params.recipientDisplayName params.recipientDisplayNameSource,
    credentialsOf platform params, params.feeBaseUnits, params.sender, params.nonce, time⟩

/-- The free texts of a payment fill their lines, and its amounts are read back. -/
structure IsPayment (params : PaymentInput) : Prop where
  tokenMintAddress : IsLine (trim params.tokenMintAddress)
  source : IsLine
    (displayNameSource params.recipientDisplayName params.recipientDisplayNameSource)
  sender : IsLine params.sender
  nonce : IsLine params.nonce
  amount : IsReadable params.amountBaseUnits params.tokenDecimals
  fee : IsReadable params.feeBaseUnits params.tokenDecimals

theorem formatBaseUnits_eq_ok {baseUnits : Int} {decimals : Nat} {text : String} :
    formatBaseUnits baseUnits decimals = .ok text ↔
      decimals ≤ 18 ∧ String.ofList (formatPlaces baseUnits decimals) = text := by
  simp only [formatBaseUnits, bind_eq_ok, require_eq_ok, pure_eq_ok, exists_const]

theorem trimEnd_trim (text : String) : trimEnd (trim text).toList = (trim text).toList := by
  rw [trim, String.toList_ofList, trimEnd]
  exact List.rdropWhile_idempotent _ _

theorem isLine_shownName {name : Option String}
    (hcontrol : (trim (name.getD "")).toList.any isControl = false) :
    IsLine (shownName name) := by
  rw [shownName]
  split_ifs with hempty
  · decide
  · refine ⟨?_, hempty, trimEnd_trim _⟩
    intro hmem
    exact absurd (List.any_eq_false.mp hcontrol '\n' hmem) (by decide)

theorem isLine_credentials (platform : Platform) (params : PaymentInput) :
    IsLine (stringify platform.conversions (credentialsOf platform params)) := by
  have hnewline : '\n' ∉ (stringify platform.conversions (.arr
      ((signedCredentials platform.conversions params.recipientVerifiedCredentials).map
        credentialJson))).toList :=
    Node.AuthorizedMessages.newline_not_mem_stringify _
  rw [stringify, String.toList_ofList] at hnewline
  have hlast : ∃ front, Lib.JsonText.render platform.conversions.numberText
      (credentialsOf platform params) = front ++ [']'] :=
    ⟨_, List.cons_append.symm⟩
  obtain ⟨front, hfront⟩ := hlast
  refine isLine_of_getLast hnewline ?_ ?_
  · rw [hfront]
    simp
  · simp only [hfront, List.getLast_append_singleton]
    decide

theorem parseDecimals_decimal (hlawful : IsLawful platform) {decimals : Nat}
    (hdecimals : decimals ≤ 18) :
    parseDecimals platform (String.ofList (decimal decimals)) = .ok decimals := by
  simp only [parseDecimals, bind_eq_ok, okOr_eq_ok, pure_eq_ok, Option.filter_eq_some_iff,
    decide_eq_true_eq, hlawful.numberOf_decimal decimals hdecimals]
  refine ⟨_, ⟨rfl, Rat.den_natCast _, Nat.cast_nonneg _, by exact_mod_cast hdecimals⟩, ?_⟩
  exact Int.toNat_natCast decimals

theorem canonicalRecipientCredentials_eq_ok {params : PaymentInput} {text : String}
    (hcredentials : canonicalRecipientCredentials platform.conversions
      params.recipientVerifiedCredentials = .ok text) :
    text = stringify platform.conversions (credentialsOf platform params) :=
  Node.AuthorizedMessages.eq_stringify_of_canonical hcredentials

/-- The fields of a payment message. -/
def paymentLines (platform : Platform) (params : PaymentInput) (time : Time) : Fields :=
  [("Token Mint", trim params.tokenMintAddress),
    ("Token Decimals", String.ofList (decimal params.tokenDecimals)),
    ("Amount", String.ofList (formatPlaces params.amountBaseUnits params.tokenDecimals)),
    ("Recipient TIN", params.recipientTin),
    ("Recipient Display Name", shownName params.recipientDisplayName),
    ("Recipient Display Name Source",
      displayNameSource params.recipientDisplayName params.recipientDisplayNameSource),
    ("Recipient Verified Credentials",
      stringify platform.conversions (credentialsOf platform params)),
    ("Fee", String.ofList (formatPlaces params.feeBaseUnits params.tokenDecimals)),
    ("Sender", params.sender), ("Nonce", params.nonce), ("Expires", platform.isoText time)]

theorem paymentFields_eq_ok {params : PaymentInput} {fields : Fields}
    (htime : params.expires.time platform = some time)
    (hfields : paymentFields platform params = .ok fields) :
    params.tokenDecimals ≤ 18 ∧
      (params.recipientTin ≠ "" ∧ params.recipientTin.toList.all Char.isDigit = true) ∧
      (trim (params.recipientDisplayName.getD "")).toList.any isControl = false ∧
      fields = paymentLines platform params time := by
  simp only [paymentFields, bind_eq_ok, require_eq_ok, parseTin_eq_ok, formatBaseUnits_eq_ok,
    canonicalDisplayName_eq_ok, isoOf_eq_ok htime, pure_eq_ok, and_assoc, exists_and_left,
    exists_eq_left', exists_const] at hfields
  obtain ⟨-, hdecimals, hnonempty, hdigits, hcontrol, credentials, hcredentials, -, hfields⟩ :=
    hfields
  rw [canonicalRecipientCredentials_eq_ok hcredentials] at hfields
  exact ⟨hdecimals, ⟨hnonempty, hdigits⟩, hcontrol, hfields.symm⟩

theorem parsePaymentIntent_build (hlawful : IsLawful platform) {params : PaymentInput}
    (htime : params.expires.time platform = some time)
    (hjson : platform.jsonParse (stringify platform.conversions
      (credentialsOf platform params)) = some (credentialsOf platform params))
    (hbuild : MessageParsing.buildPaymentIntentMessage platform params = .ok message) :
    parsePaymentIntentMessage platform message = .ok (normalizedPayment platform params time) ↔
      IsPayment params := by
  simp only [MessageParsing.buildPaymentIntentMessage, bind_eq_ok, pure_eq_ok] at hbuild
  obtain ⟨written, hfields, rfl⟩ := hbuild
  obtain ⟨hdecimals, htin, hcontrol, hwritten⟩ := paymentFields_eq_ok htime hfields
  have hlabels : AreLabels (written.map Prod.fst) := by
    rw [hwritten]
    exact (by decide : AreLabels ["Token Mint", "Token Decimals", "Amount", "Recipient TIN",
      "Recipient Display Name", "Recipient Display Name Source",
      "Recipient Verified Credentials", "Fee", "Sender", "Nonce", "Expires"])
  have hlines (hmint : IsLine (trim params.tokenMintAddress))
      (hsource : IsLine (displayNameSource params.recipientDisplayName
        params.recipientDisplayNameSource))
      (hsender : IsLine params.sender) (hnonce : IsLine params.nonce) :
      ∀ field ∈ written, IsLine field.2 := by
    rw [hwritten, paymentLines]
    simp only [List.forall_mem_cons, List.not_mem_nil, false_implies, implies_true, and_true]
    exact ⟨hmint, isLine_decimal _, isLine_formatPlaces _ _, isLine_of_digits htin,
      isLine_shownName hcontrol, hsource, isLine_credentials _ _, isLine_formatPlaces _ _,
      hsender, hnonce, isLine_isoText hlawful time⟩
  have hread (hall : ∀ field ∈ written, IsLine field.2) := requireField_written hlabels hall
  nth_rewrite 2 [hwritten] at hread
  simp only [paymentLines, List.forall_mem_cons, List.not_mem_nil, false_implies, implies_true,
    and_true] at hread
  simp only [parsePaymentIntentMessage, bind_eq_ok, parseTin_eq_ok, pure_eq_ok, and_assoc,
    exists_and_left, exists_eq_left']
  constructor
  · rintro ⟨fields, hparse, decimalsText, hdecimalsText, decimals, hdecimals', mint, hmint,
      amountText, hamountText, amount, hamount, tin, -, -, -, name, -, source, hsource,
      credentialsText, -, credentials, -, feeText, hfeeText, fee, hfee, sender, hsender, nonce,
      hnonce, text, -, expires, -, hresult⟩
    obtain ⟨rfl, rfl, rfl, -, -, rfl, -, rfl, rfl, rfl, -⟩ := PaymentIntent.mk.inj hresult
    have hall := hlines (isLine_of_requireField hparse hmint)
      (isLine_of_requireField hparse hsource) (isLine_of_requireField hparse hsender)
      (isLine_of_requireField hparse hnonce)
    obtain rfl := Except.ok.inj (hparse.symm.trans
      (parseMessage_written (by decide) hlabels hall))
    obtain ⟨-, -, hamountField, -, -, -, -, hfeeField, -⟩ := hread hall
    obtain rfl := Except.ok.inj (hamountText.symm.trans hamountField)
    obtain rfl := Except.ok.inj (hfeeText.symm.trans hfeeField)
    exact ⟨isLine_of_requireField hparse hmint, isLine_of_requireField hparse hsource,
      isLine_of_requireField hparse hsender, isLine_of_requireField hparse hnonce,
      (parseTokenAmount_format.mp hamount).1, (parseTokenAmount_format.mp hfee).1⟩
  · rintro ⟨hmint, hsource, hsender, hnonce, hamount, hfee⟩
    have hall := hlines hmint hsource hsender hnonce
    obtain ⟨hmintField, hdecimalsField, hamountField, htinField, hnameField, hsourceField,
      hcredentialsField, hfeeField, hsenderField, hnonceField, hexpiresField⟩ := hread hall
    exact ⟨_, parseMessage_written (by decide) hlabels hall, _, hdecimalsField, _,
      parseDecimals_decimal hlawful hdecimals, _, hmintField, _, hamountField, _,
      parseTokenAmount_format.mpr ⟨hamount, rfl⟩, _, htinField, htin.1, htin.2, _, hnameField, _,
      hsourceField, _, hcredentialsField, _, okOr_eq_ok.mpr hjson, _, hfeeField, _,
      parseTokenAmount_format.mpr ⟨hfee, rfl⟩, _, hsenderField, _, hnonceField, _,
      hexpiresField, _, parseExpiry_isoText hlawful time, rfl⟩

end Payments

end TsnProtocol.Sdk.BuiltMessages
