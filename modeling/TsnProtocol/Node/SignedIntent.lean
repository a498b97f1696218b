import TsnProtocol.Node.PaymentAuthorization

/-!
How far the signed message alone decides the intent that is verified from it.
-/

namespace TsnProtocol.Node.SignedIntent

open Lib.Checked
open Lib.PythonText
open Node.PaymentAuthorization

variable {python : Python} {chain : Chain} {now : Int} {request : Request} {fields : Fields}
  {signed : Signed} {intent : Intent} {nonces used : Nonces}

section Destination

/-- The destination that the fields of a message name. -/
def destinationOf (python : Python) (fields : Fields) : CrossChainFields :=
  { destinationNetwork := strip (fields.text "Destination Network")
    destinationExecutor := python.unicode.lower (strip (fields.text "Destination Executor"))
    destinationToken := python.unicode.lower (strip (fields.text "Asset"))
    settlementRouteId :=
      "0x" ++ python.unicode.lower (strip (fields.text "Settlement Route ID")) }

theorem destination_eq_of_signed {destination : CrossChainFields}
    (hsigned : signedDestination python request fields = .ok destination) :
    destination = destinationOf python fields := by
  simp only [signedDestination, bind_eq_ok, require_eq_ok, pure_eq_ok] at hsigned
  obtain ⟨_, _, _, _, _, _, _, _, _, _, _, _, _, _, _, _, hdestination⟩ := hsigned
  exact hdestination.symm

theorem crossChainFields_eq_of_signed {crossChain : Option CrossChainFields}
    (hsigned : signedCrossChainFields python request fields = .ok crossChain) :
    crossChain = if isCrossChain request.senderAuthorizationMessage = true
      then some (destinationOf python fields) else none := by
  rw [signedCrossChainFields] at hsigned
  by_cases hcross : isCrossChain request.senderAuthorizationMessage = true
  · rw [if_pos hcross, map_eq_ok] at hsigned
    obtain ⟨destination, hdestination, hsome⟩ := hsigned
    rw [if_pos hcross, ← hsome, destination_eq_of_signed hdestination]
  · rw [if_neg hcross] at hsigned ⊢
    exact (Except.ok.inj hsigned).symm

end Destination

section Content

/-- What follows of a message from its text, the chain and the token it is paid with. -/
structure Describes (python : Python) (chain : Chain) (message mint : String)
    (signed : Signed) : Prop where
  fields : parseCanonicalMessage message (actionOf message) = .ok signed.fields
  recipientTin : signed.recipientTin = signed.fields.text "Recipient TIN"
  expiresAt : momentOf python (signed.fields.text "Expires") = some signed.expiresAt
  crossChain : signed.crossChain =
    if isCrossChain message = true then some (destinationOf python signed.fields) else none
  crossChainToken : isCrossChain message = true →
    parseUsdcBaseUnits python (signed.fields.text "Amount") "Amount" = .ok signed.amount ∧
      parseUsdcBaseUnits python (signed.fields.text "Fee") "Fee" = .ok signed.fee ∧
      signed.token = ⟨mint, 6, 0, "", ""⟩
  token : isCrossChain message = false →
    (resolveTcapRegisteredAsset chain (strip (signed.fields.text "Token Mint"))).mapError
        (refuseValueError 422) = .ok signed.token ∧
      uiAmountToBaseUnits python (signed.fields.lookup "Amount") signed.token.decimals false =
        .ok signed.amount ∧
      uiAmountToBaseUnits python (signed.fields.lookup "Fee") signed.token.decimals true =
        .ok signed.fee

theorem recipientTin_eq_of_signed {recipientTin : String}
    (hsigned : signedRecipientTin python request fields = .ok recipientTin) :
    recipientTin = fields.text "Recipient TIN" := by
  simp only [signedRecipientTin, bind_eq_ok, require_eq_ok, pure_eq_ok] at hsigned
  obtain ⟨_, _, _, _, _, _, htin⟩ := hsigned
  exact htin.symm

theorem moment_of_parse {text : String} {expiresAt : Moment}
    (hparse : parseCanonicalExpiry python now text = .ok expiresAt) :
    momentOf python text = some expiresAt := by
  simp only [parseCanonicalExpiry, bind_eq_ok, okOr_eq_ok, require_eq_ok, pure_eq_ok] at hparse
  obtain ⟨moment, hmoment, _, _, _, _, hsame⟩ := hparse
  rw [hmoment, hsame]

theorem crossChainAmounts_eq_ok {token : TokenMetadata} {amount fee : Nat} :
    crossChainAmounts python request fields = .ok (token, amount, fee) ↔
      parseUsdcBaseUnits python (fields.text "Amount") "Amount" = .ok amount ∧
        parseUsdcBaseUnits python (fields.text "Fee") "Fee" = .ok fee ∧
        token = ⟨request.tokenMintAddress, 6, 0, "", ""⟩ := by
  simp only [crossChainAmounts, bind_eq_ok, pure_eq_ok, Prod.mk.injEq]
  constructor
  · rintro ⟨amount', hamount, fee', hfee, htoken, rfl, rfl⟩
    exact ⟨hamount, hfee, htoken.symm⟩
  · rintro ⟨hamount, hfee, htoken⟩
    exact ⟨amount, hamount, fee, hfee, htoken.symm, rfl, rfl⟩

theorem paymentAmounts_eq_ok {token : TokenMetadata} {amount fee : Nat} :
    paymentAmounts python chain request fields = .ok (token, amount, fee) ↔
      strip (fields.text "Token Mint") = request.tokenMintAddress ∧
        (resolveTcapRegisteredAsset chain (strip (fields.text "Token Mint"))).mapError
          (refuseValueError 422) = .ok token ∧
        intOf python.unicode (fields.text "Token Decimals") = some (token.decimals : Int) ∧
        uiAmountToBaseUnits python (fields.lookup "Amount") token.decimals false = .ok amount ∧
        uiAmountToBaseUnits python (fields.lookup "Fee") token.decimals true = .ok fee := by
  simp only [paymentAmounts, bind_eq_ok, okOr_eq_ok, require_eq_ok, pure_eq_ok, Prod.mk.injEq]
  constructor
  · rintro ⟨_, hmint, token', htoken, decimals, hdecimals, _, hsame, amount', hamount, fee',
      hfee, rfl, rfl, rfl⟩
    exact ⟨hmint, htoken, hsame ▸ hdecimals, hamount, hfee⟩
  · rintro ⟨hmint, htoken, hdecimals, hamount, hfee⟩
    exact ⟨(), hmint, token, htoken, token.decimals, hdecimals, (), rfl, amount, hamount, fee,
      hfee, rfl, rfl, rfl⟩

theorem checkAmounts_eq_ok {token : TokenMetadata} {amount fee : Nat} {result : Unit} :
    checkAmounts python request token amount fee = .ok result ↔
      requestAmount python request token.decimals = .ok amount ∧
        requestFee python request token.decimals = .ok fee := by
  simp only [checkAmounts, bind_eq_ok, require_eq_ok]
  constructor
  · rintro ⟨requested, hrequested, _, rfl, requestedFee, hfee, rfl⟩
    exact ⟨hrequested, hfee⟩
  · rintro ⟨hamount, hfee⟩
    exact ⟨amount, hamount, (), rfl, fee, hfee, rfl⟩

/-- The checks before the nonce, one after the other. -/
theorem checkSigned_eq_ok :
    checkSigned python chain now request = .ok signed ↔
      request.senderFundingMode = "tcap_deposit_v2" ∧
      parseCanonicalMessage request.senderAuthorizationMessage
        (actionOf request.senderAuthorizationMessage) = .ok signed.fields ∧
      signedAmounts python chain request signed.fields =
        .ok (signed.token, signed.amount, signed.fee) ∧
      signedRecipientTin python request signed.fields = .ok signed.recipientTin ∧
      checkAmounts python request signed.token signed.amount signed.fee = .ok () ∧
      checkNonce request signed.fields = .ok () ∧
      parseCanonicalExpiry python now (signed.fields.text "Expires") = .ok signed.expiresAt ∧
      checkExpiry python request signed.expiresAt = .ok () ∧
      signedCrossChainFields python request signed.fields = .ok signed.crossChain ∧
      checkSignature chain request = .ok () ∧
      checkSignedIdentity python chain request signed.fields signed.recipientTin = .ok () := by
  simp only [checkSigned, bind_eq_ok, require_eq_ok, pure_eq_ok]
  constructor
  · rintro ⟨_, hmode, fields, hfields, ⟨token, amount, fee⟩, hamounts, recipientTin, htin, _,
      hrequested, _, hnonce, expiresAt, hexpiresAt, _, hexpiry, crossChain, hcross, _,
      hsignature, _, hidentity, rfl⟩
    exact ⟨hmode, hfields, hamounts, htin, hrequested, hnonce, hexpiresAt, hexpiry, hcross,
      hsignature, hidentity⟩
  · rintro ⟨hmode, hfields, hamounts, htin, hrequested, hnonce, hexpiresAt, hexpiry, hcross,
      hsignature, hidentity⟩
    exact ⟨(), hmode, signed.fields, hfields, (signed.token, signed.amount, signed.fee),
      hamounts, signed.recipientTin, htin, (), hrequested, (), hnonce, signed.expiresAt,
      hexpiresAt, (), hexpiry, signed.crossChain, hcross, (), hsignature, (), hidentity, rfl⟩

theorem describes_of_checkSigned (hchecked : checkSigned python chain now request = .ok signed) :
    Describes python chain request.senderAuthorizationMessage request.tokenMintAddress
      signed := by
  rw [checkSigned_eq_ok] at hchecked
  obtain ⟨_, hfields, hamounts, htin, _, _, hexpiresAt, _, hcross, _, _⟩ := hchecked
  refine ⟨hfields, recipientTin_eq_of_signed htin, moment_of_parse hexpiresAt,
    crossChainFields_eq_of_signed hcross, ?_, ?_⟩
  · intro hbranch
    rw [signedAmounts, if_pos hbranch] at hamounts
    exact crossChainAmounts_eq_ok.mp hamounts
  · intro hbranch
    rw [signedAmounts, if_neg (Bool.not_eq_true _ ▸ hbranch)] at hamounts
    obtain ⟨_, htoken, _, hamount, hfee⟩ := paymentAmounts_eq_ok.mp hamounts
    exact ⟨htoken, hamount, hfee⟩

/-- Two messages of one text differ in nothing but the token a cross-chain one is paid
with. -/
theorem Describes.agree {message mint mint' : String} {signed' : Signed}
    (hsigned : Describes python chain message mint signed)
    (hsigned' : Describes python chain message mint' signed') :
    signed' = { signed with
      token.mint := if isCrossChain message = true then mint' else signed.token.mint } := by
  obtain ⟨fields, recipientTin, token, amount, fee, expiresAt, crossChain⟩ := signed
  obtain ⟨fields', recipientTin', token', amount', fee', expiresAt', crossChain'⟩ := signed'
  obtain ⟨hfields, htin, hexpiresAt, hcross, hcrossToken, htoken⟩ := hsigned
  obtain ⟨hfields', htin', hexpiresAt', hcross', hcrossToken', htoken'⟩ := hsigned'
  obtain rfl : fields = fields' := Except.ok.inj (hfields.symm.trans hfields')
  obtain rfl : expiresAt = expiresAt' := Option.some.inj (hexpiresAt.symm.trans hexpiresAt')
  obtain rfl : recipientTin = recipientTin' := htin.trans htin'.symm
  obtain rfl : crossChain = crossChain' := hcross.trans hcross'.symm
  cases hbranch : isCrossChain message with
  | true =>
      obtain ⟨hamount, hfee, rfl⟩ := hcrossToken hbranch
      obtain ⟨hamount', hfee', rfl⟩ := hcrossToken' hbranch
      obtain rfl : amount = amount' := Except.ok.inj (hamount.symm.trans hamount')
      obtain rfl : fee = fee' := Except.ok.inj (hfee.symm.trans hfee')
      rfl
  | false =>
      obtain ⟨hresolved, hamount, hfee⟩ := htoken hbranch
      obtain ⟨hresolved', hamount', hfee'⟩ := htoken' hbranch
      obtain rfl : token = token' := Except.ok.inj (hresolved.symm.trans hresolved')
      obtain rfl : amount = amount' := Except.ok.inj (hamount.symm.trans hamount')
      obtain rfl : fee = fee' := Except.ok.inj (hfee.symm.trans hfee')
      rfl

end Content

section Intents

theorem verify_eq_ok :
    verifyPaymentAuthorization python chain now request nonces = (.ok intent, used) ↔
      ∃ signed, checkSigned python chain now request = .ok signed ∧
        assertNonceUnused python request signed nonces = (.ok (), used) ∧
        resolveRoute python chain request signed = .ok intent := by
  rw [verifyPaymentAuthorization]
  constructor
  · intro hverify
    split at hverify
    · cases hverify
    · rename_i signed hsigned
      split at hverify
      · cases hverify
      · rename_i kept hnonce
        obtain ⟨hroute, rfl⟩ := Prod.mk.inj hverify
        exact ⟨signed, hsigned, hnonce, hroute⟩
  · rintro ⟨signed, hsigned, hnonce, hroute⟩
    simp only [hsigned, hnonce, hroute]

/-- The intent that a message and the route of its recipient make up. -/
def intentOf (python : Python) (signed : Signed) (route : TipRoute) : Intent :=
  { recipientTin := signed.recipientTin
    recipientRouteCommitment := python.unicode.lower route.gpruElgamalKeyCommitment
    recipientRouteVersion := route.tipRouteVersion
    tokenMintAddress := signed.token.mint
    tokenId := signed.token.tokenId
    tokenDecimals := signed.token.decimals
    tcapAssetEntry := signed.token.assetEntry
    tokenProgram := signed.token.tokenProgram
    senderAuthorizationNonce := signed.fields.text "Nonce"
    senderAuthorizationExpiresAt := python.isoText signed.expiresAt
    crossChain := signed.crossChain }

theorem resolveRoute_eq_ok :
    resolveRoute python chain request signed = .ok intent ↔
      checkDestination chain signed = .ok () ∧
        ∃ route, chain.readTinTipRoute signed.recipientTin = .ok (some route) ∧
          assertRecipientHash python request.recipientHash route.ownerPubkeyHash = .ok () ∧
          intentOf python signed route = intent := by
  simp only [resolveRoute, bind_eq_ok, okOr_eq_ok, pure_eq_ok]
  constructor
  · rintro ⟨_, hdestination, found, hfound, route, rfl, _, hhash, hintent⟩
    exact ⟨hdestination, route, hfound, hhash, hintent⟩
  · rintro ⟨hdestination, route, hfound, hhash, hintent⟩
    exact ⟨(), hdestination, some route, hfound, route, rfl, (), hhash, hintent⟩

/-- The amounts of a request are those of the message it is accepted with. -/
theorem amounts_of_checkSigned (hchecked : checkSigned python chain now request = .ok signed) :
    requestAmount python request signed.token.decimals = .ok signed.amount ∧
      requestFee python request signed.token.decimals = .ok signed.fee :=
  checkAmounts_eq_ok.mp (checkSigned_eq_ok.mp hchecked).2.2.2.2.1

/-- The intent of an accepted request, and its amount and fee in base units. -/
def verified (python : Python) (request : Request) (intent : Intent) :
    Intent × Result Nat × Result Nat :=
  (intent, requestAmount python request intent.tokenDecimals,
    requestFee python request intent.tokenDecimals)

theorem verified_intentOf {route : TipRoute}
    (hchecked : checkSigned python chain now request = .ok signed) :
    verified python request (intentOf python signed route) =
      (intentOf python signed route, .ok signed.amount, .ok signed.fee) := by
  obtain ⟨hamount, hfee⟩ := amounts_of_checkSigned hchecked
  have hdecimals : (intentOf python signed route).tokenDecimals = signed.token.decimals := rfl
  rw [verified, hdecimals, hamount, hfee]

/-- Two accepted requests with one message are verified alike just when the message names
the token, or when the requests name the same one. -/
theorem verified_eq_iff {now' : Int} {request' : Request} {intent' : Intent}
    {nonces' used' : Nonces}
    (hmessage : request'.senderAuthorizationMessage = request.senderAuthorizationMessage)
    (haccepted : verifyPaymentAuthorization python chain now request nonces =
      (.ok intent, used))
    (haccepted' : verifyPaymentAuthorization python chain now' request' nonces' =
      (.ok intent', used')) :
    verified python request intent = verified python request' intent' ↔
      isCrossChain request.senderAuthorizationMessage = false ∨
        request.tokenMintAddress = request'.tokenMintAddress := by
  obtain ⟨signed, hsigned, _, hroute⟩ := verify_eq_ok.mp haccepted
  obtain ⟨signed', hsigned', _, hroute'⟩ := verify_eq_ok.mp haccepted'
  obtain ⟨_, route, hfound, _, rfl⟩ := resolveRoute_eq_ok.mp hroute
  obtain ⟨_, route', hfound', _, rfl⟩ := resolveRoute_eq_ok.mp hroute'
  have hdescribes := describes_of_checkSigned hsigned
  have hdescribes' := describes_of_checkSigned hsigned'
  rw [hmessage] at hdescribes'
  have hsame := hdescribes.agree hdescribes'
  have htin : signed'.recipientTin = signed.recipientTin := by rw [hsame]
  rw [htin, hfound] at hfound'
  obtain rfl : route = route' := Option.some.inj (Except.ok.inj hfound')
  rw [verified_intentOf hsigned, verified_intentOf hsigned', hsame]
  cases hbranch : isCrossChain request.senderAuthorizationMessage with
  | false => simp [intentOf]
  | true =>
      obtain ⟨_, _, htoken⟩ := hdescribes.crossChainToken hbranch
      simp [intentOf, htoken]

end Intents

section Samples

def sampleExpiry : String := "2030-01-01T00:00:00.000Z"

def sampleMoment : Moment := ⟨1893456000000000, some 0⟩

def sampleWallet : String := "GRfMydyHZNYwBiHBNNUnSLPS2ww2KkmKqxAKmh3q6EvN"

def sampleNonceText : String :=
  "...d772e0a4|Cross-Chain Payment Intent|GRfMydyHZNYwBiHBNNUnSLPS2ww2KkmKqxAKmh3q6EvN|00ff"

def sampleNonceKey : String :=
  "284333ee17293283383dda15b852e6e3c0e67853d5c98a7a637257c77657e68d"

def samplePython : Python :=
  { unicode :=
      ⟨fun text => String.ofList (text.toList.map Char.toLower),
        fun digit => if digit.isDigit then some (digit.toNat - 48) else none⟩
    fromIso := fun text =>
      if text = "2030-01-01T00:00:00.000+00:00" then some sampleMoment else none
    isoText := fun _ => sampleExpiry
    loads := fun text => if text = "[]" then some (.arr []) else none
    numberText := fun _ => "0"
    sha256 := fun text => if text = sampleNonceText then sampleNonceKey else "" }

def sampleOwnerHash : String := String.ofList (List.replicate 64 'a')

def sampleSignedFields : Fields :=
  [("Intent ID", "pay-1"), ("Amount", "1.50 USDC"), ("Asset", "0xfeed"),
    ("Recipient TIN", "7"), ("Fee", "0.00 USDC"), ("Sender", "Main Wallet"),
    ("Nonce", "00ff"), ("Expires", sampleExpiry), ("Destination Network", "creditcoin"),
    ("Destination Executor", "0x" ++ String.ofList (List.replicate 40 'b')),
    ("Settlement Route ID", String.ofList (List.replicate 64 'c'))]

def sampleMessage : String :=
  buildCanonicalMessage crossChainAction sampleSignedFields

def sampleSignature : String :=
  "ppUfY/Bf7gAXkz4gUxX5GIqnM7mRVq06Pb46EZ92qtyVMBs569UZ4cPon6EEWnOtSuTPxKUJM5H5XQyv5QmSBQ=="

def sampleChain : Chain :=
  { account := fun _ => .ok none
    pubkeyOf := fun _ => none
    pubkeyText := fun _ => ""
    findProgramAddress := fun _ _ => []
    tcapProgramId := ""
    resolveTinIdentity := fun _ => .ok none
    readTinTipRoute := fun _ => .ok (some ⟨sampleOwnerHash, "c0ffee", 1⟩)
    verifyDestinationRoute := fun _ _ => .ok ()
    verifyEd25519Signature := fun key message signature =>
      if key = sampleWallet ∧ message = sampleMessage ∧ signature = sampleSignature then .ok ()
      else .error (.http 403 "signature verification failed") }

/-- A request for the cross-chain payment, with the mint that the sender is to pay in. -/
def sampleRequest (mint : String) : Request :=
  { paymentId := "pay-1", recipientHash := sampleOwnerHash, recipientTin := "7"
    tokenMintAddress := mint, amount := "1.5", senderWallet := sampleWallet
    senderAuthorizationMessage := sampleMessage
    senderAuthorizationSignature := sampleSignature
    senderAuthorizationNonce := "00ff", senderAuthorizationExpiresAt := none
    senderFeeAmount := none, senderFundingMode := "tcap_deposit_v2"
    destinationNetwork := none, destinationExecutor := none
    destinationToken := some "0xfeed", settlementRouteId := none }

def sampleIntent (mint : String) : Intent :=
  { recipientTin := "7", recipientRouteCommitment := "c0ffee", recipientRouteVersion := 1
    tokenMintAddress := mint, tokenId := 0, tokenDecimals := 6, tcapAssetEntry := ""
    tokenProgram := "", senderAuthorizationNonce := "00ff"
    senderAuthorizationExpiresAt := sampleExpiry
    crossChain := some
      ⟨"creditcoin", "0x" ++ String.ofList (List.replicate 40 'b'), "0xfeed",
        "0x" ++ String.ofList (List.replicate 64 'c')⟩ }

def usdcMint : String := "4zMMC9srt5Ri5X14GAgXhaHii3GnPAEERYPJgZJDncDU"

def wrappedSolMint : String := "So11111111111111111111111111111111111111112"

def sampleFields : Fields :=
  sampleSignedFields ++ [("Domain", canonicalDomainDisplay)]

def sampleSigned (mint : String) : Signed :=
  { fields := sampleFields, recipientTin := "7", token := ⟨mint, 6, 0, "", ""⟩
    amount := 1500000, fee := 0, expiresAt := sampleMoment
    crossChain := (sampleIntent mint).crossChain }

theorem isCrossChain_sampleMessage : isCrossChain sampleMessage = true := by
  obtain ⟨rest, hrest⟩ := toList_build crossChainAction sampleSignedFields
  rw [isCrossChain, sampleMessage, hrest, List.isPrefixOf_iff_prefix]
  refine ⟨rest, ?_⟩
  simp only [String.toList_append, List.append_assoc]
  rfl

theorem parse_sampleMessage :
    parseCanonicalMessage sampleMessage (actionOf sampleMessage) = .ok sampleFields := by
  rw [actionOf, if_pos isCrossChain_sampleMessage]
  exact parse_build (by decide +kernel) (by decide +kernel) (by decide +kernel)
    (by decide +kernel)

example : usdcMint ≠ wrappedSolMint := by
  decide +kernel

theorem checkSigned_sampleRequest (mint : String) :
    checkSigned samplePython sampleChain 0 (sampleRequest mint) = .ok (sampleSigned mint) := by
  have hcross : isCrossChain (sampleRequest mint).senderAuthorizationMessage = true :=
    isCrossChain_sampleMessage
  have hamount :
      parseUsdcBaseUnits samplePython (sampleFields.text "Amount") "Amount" = .ok 1500000 := by
    decide +kernel
  have hfee : parseUsdcBaseUnits samplePython (sampleFields.text "Fee") "Fee" = .ok 0 := by
    decide +kernel
  have hrequested : uiAmountToBaseUnits samplePython (some "1.5") 6 false = .ok 1500000 := by
    decide +kernel
  have hrequestedFee : uiAmountToBaseUnits samplePython (some "0") 6 true = .ok 0 := by
    decide +kernel
  have htin : signedRecipientTin samplePython (sampleRequest usdcMint) sampleFields =
      .ok "7" := by decide +kernel
  have hexpiry : parseCanonicalExpiry samplePython 0 sampleExpiry = .ok sampleMoment := by
    decide +kernel
  have hdestination : (some <$> signedDestination samplePython (sampleRequest usdcMint)
      sampleFields : Result _) = .ok (sampleIntent usdcMint).crossChain := by decide +kernel
  refine checkSigned_eq_ok.mpr ⟨rfl, parse_sampleMessage, ?_, htin, ?_, ?_, hexpiry, rfl, ?_,
    ?_, ?_⟩
  · rw [signedAmounts, if_pos hcross]
    exact crossChainAmounts_eq_ok.mpr ⟨hamount, hfee, rfl⟩
  · exact checkAmounts_eq_ok.mpr ⟨hrequested, hrequestedFee⟩
  · exact require_eq_ok.mpr (.inr rfl)
  · rw [signedCrossChainFields, if_pos hcross]
    exact hdestination
  · have hwallet : strip sampleWallet = sampleWallet := by decide +kernel
    rw [checkSignature]
    exact if_pos ⟨hwallet, rfl, rfl⟩
  · exact if_pos hcross

theorem nonceKey_sampleRequest (mint : String) :
    nonceKey samplePython (sampleRequest mint) (sampleSigned mint) = .ok sampleNonceKey := by
  have haction : actionOf (sampleRequest mint).senderAuthorizationMessage =
      crossChainAction := if_pos isCrossChain_sampleMessage
  have hparts : strip (sampleFields.text "Domain") = "...d772e0a4" ∧
      strip sampleWallet = sampleWallet ∧ strip (sampleFields.text "Nonce") = "00ff" := by
    decide +kernel
  obtain ⟨hdomain, hwallet, hnonce⟩ := hparts
  have hkey : samplePython.sha256 sampleNonceText = sampleNonceKey := by decide +kernel
  rw [nonceKey, haction]
  simp only [sampleSigned, sampleRequest, hdomain, hwallet, hnonce,
    bind_eq_ok, require_eq_ok, pure_eq_ok]
  refine ⟨(), by decide +kernel, ?_⟩
  rw [← hkey]
  exact congrArg _ (by decide +kernel)

example : sampleFields.text "Nonce" = "00ff" := by
  decide +kernel

theorem verify_sampleRequest (mint : String) :
    verifyPaymentAuthorization samplePython sampleChain 0 (sampleRequest mint) [] =
      (.ok (sampleIntent mint), [sampleNonceKey]) := by
  have hhash : assertRecipientHash samplePython sampleOwnerHash sampleOwnerHash = .ok () := by
    decide +kernel
  have hroute : samplePython.unicode.lower "c0ffee" = "c0ffee" := by decide +kernel
  refine verify_eq_ok.mpr ⟨sampleSigned mint, checkSigned_sampleRequest mint, ?_, ?_⟩
  · rw [assertNonceUnused, nonceKey_sampleRequest]
    rfl
  · refine resolveRoute_eq_ok.mpr ⟨rfl, _, rfl, hhash, ?_⟩
    simp only [intentOf, hroute]
    rfl

/-- One cross-chain message is accepted for any mint, and the mint goes into the intent. -/
theorem another_mint_verified :
    verifyPaymentAuthorization samplePython sampleChain 0 (sampleRequest usdcMint) [] =
        (.ok (sampleIntent usdcMint), [sampleNonceKey]) ∧
      verifyPaymentAuthorization samplePython sampleChain 0 (sampleRequest wrappedSolMint) [] =
        (.ok (sampleIntent wrappedSolMint), [sampleNonceKey]) ∧
      (sampleRequest usdcMint).senderAuthorizationMessage =
        (sampleRequest wrappedSolMint).senderAuthorizationMessage ∧
      (sampleIntent usdcMint).tokenMintAddress ≠ (sampleIntent wrappedSolMint).tokenMintAddress :=
  ⟨verify_sampleRequest usdcMint, verify_sampleRequest wrappedSolMint, rfl,
    by decide +kernel⟩

theorem verified_sampleRequests :
    ¬ verified samplePython (sampleRequest usdcMint) (sampleIntent usdcMint) =
      verified samplePython (sampleRequest wrappedSolMint) (sampleIntent wrappedSolMint) := by
  have hmessage : (sampleRequest wrappedSolMint).senderAuthorizationMessage =
      (sampleRequest usdcMint).senderAuthorizationMessage := rfl
  have hmints : usdcMint ≠ wrappedSolMint := by decide +kernel
  rw [verified_eq_iff hmessage (verify_sampleRequest usdcMint)
    (verify_sampleRequest wrappedSolMint)]
  rintro (hbranch | hmint)
  · have hcross : isCrossChain (sampleRequest usdcMint).senderAuthorizationMessage = true :=
      isCrossChain_sampleMessage
    rw [hcross] at hbranch
    cases hbranch
  · exact hmints hmint

end Samples

end TsnProtocol.Node.SignedIntent
