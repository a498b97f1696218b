import TsnProtocol.Lib.JsonText
import TsnProtocol.Lib.PythonText
import TsnProtocol.Receiver.WorkContract

/-!
How a Node turns the message a wallet signed into a verified payment intent.
-/

namespace TsnProtocol.Node.PaymentAuthorization

open Lib.ByteReader
open Lib.Checked
open Lib.JsonData
open Lib.JsonText
open Lib.PythonText
open Lib.TextFormat
open Receiver.WorkContract (stableText)

/-- What is raised: a refusal with its status, or another exception. -/
inductive Failure where
  | http (status : Nat) (detail : String)
  | valueError (text : String)
  | runtimeError (text : String)
  | other (text : String)
  deriving DecidableEq, Repr

def Failure.text : Failure → String
  | .http status detail => toString status ++ ": " ++ detail
  | .valueError text | .runtimeError text | .other text => text

abbrev Result := Except Failure

/-- A point in time: its microseconds, and the offset it is written with if it has one. -/
structure Moment where
  instant : Int
  offset : Option Int
  deriving DecidableEq

/-- Functions of the language and its library. -/
structure Python where
  unicode : Unicode
  /-- `datetime.fromisoformat`. -/
  fromIso : String → Option Moment
  /-- `isoformat(timespec="milliseconds")`, with `Z` for no offset. -/
  isoText : Moment → String
  loads : String → Option Json
  numberText : Rat → String
  sha256 : String → String

structure TokenMetadata where
  mint : String
  (decimals tokenId : Nat)
  (assetEntry tokenProgram : String)
  deriving DecidableEq

structure TinIdentity where
  displayName : String
  verifiedCredentials : List Json

structure TipRoute where
  (ownerPubkeyHash gpruElgamalKeyCommitment : String)
  tipRouteVersion : Nat

structure CrossChainFields where
  (destinationNetwork destinationExecutor destinationToken settlementRouteId : String)
  deriving DecidableEq

/-- An account as the cluster returns it; without data where that is not base64. -/
structure Account where
  owner : String
  data : Option (List Byte)

/-- What the Node reads from the chains, and the keys it finds there. -/
structure Chain where
  account : String → Result (Option Account)
  pubkeyOf : String → Option (List Byte)
  pubkeyText : List Byte → String
  findProgramAddress : List (List Byte) → List Byte → List Byte
  tcapProgramId : String
  resolveTinIdentity : String → Result (Option TinIdentity)
  readTinTipRoute : String → Result (Option TipRoute)
  verifyDestinationRoute : CrossChainFields → Nat → Result Unit
  verifyEd25519Signature : String → String → String → Result Unit

/-- Of `CreateIntentRequest`; its floats as the texts they print as. -/
structure Request where
  (paymentId recipientHash recipientTin tokenMintAddress amount senderWallet
    senderAuthorizationMessage senderAuthorizationSignature senderAuthorizationNonce : String)
  (senderAuthorizationExpiresAt senderFeeAmount : Option String)
  senderFundingMode : String
  (destinationNetwork destinationExecutor destinationToken settlementRouteId : Option String)
  deriving DecidableEq

abbrev Fields := List (String × String)

/-- `str(fields.get(label) or "")`. -/
def Fields.text (fields : Fields) (label : String) : String :=
  (fields.lookup label).getD ""

section Assets

def tokenProgramId : String := "TokenkegQfeZyiNwAJbNbGKPFXCWuBvf9Ss623VQ5DA"

def token2022ProgramId : String := "TokenzQdBNbLqP5VEhdkAS6EPFLC1PHnBqCXEpPxuEb"

/-- First bytes of the hash of `account:TcapAssetEntryV1`. -/
def assetEntryDiscriminator : List Byte :=
  [0xeb, 0xfd, 0x1a, 0xee, 0x4e, 0xbe, 0x89, 0x4a]

def byteOf (data : List Byte) (index : Nat) : Nat :=
  (data.getD index 0).toNat

def readMint (chain : Chain) (mint : List Byte) : Result (List Byte × List Byte) := do
  let found ← chain.account (chain.pubkeyText mint)
  let mintAccount ← okOr found
    (.valueError "Token mint account is not present on the configured Solana cluster")
  let tokenProgram ← okOr (chain.pubkeyOf mintAccount.owner)
    (.valueError "Token mint account owner or data is invalid")
  let mintData ← okOr mintAccount.data
    (.valueError "Token mint account owner or data is invalid")
  require ((some tokenProgram = chain.pubkeyOf tokenProgramId ∨
      some tokenProgram = chain.pubkeyOf token2022ProgramId) ∧ 45 ≤ mintData.length)
    (.valueError "Token mint is not a supported SPL Token or Token-2022 mint")
  return (tokenProgram, mintData)

def readAssetEntry (chain : Chain) (assetEntry : List Byte) : Result (List Byte) := do
  let found ← chain.account (chain.pubkeyText assetEntry)
  let entry ← okOr (found.filter fun account => account.owner = chain.tcapProgramId)
    (.valueError "Token mint is not registered in TCAP")
  let entryData ← okOr entry.data (.valueError "TCAP asset entry data is invalid")
  require (287 ≤ entryData.length ∧ entryData.take 8 = assetEntryDiscriminator)
    (.valueError "TCAP asset entry layout is unsupported")
  return entryData

def resolveTcapRegisteredAsset (chain : Chain) (mintAddress : String) :
    Result TokenMetadata := do
  let mint ← okOr (chain.pubkeyOf mintAddress) (.valueError "Token mint address is invalid")
  let (tokenProgram, mintData) ← readMint chain mint
  let tcapProgram ← okOr (chain.pubkeyOf chain.tcapProgramId)
    (.valueError "String is the wrong size")
  let registry := chain.findProgramAddress [encodeAscii "tcap:asset-registry:v1".toList]
    tcapProgram
  let assetEntry := chain.findProgramAddress
    [encodeAscii "tcap:asset-entry:v1".toList, registry, tokenProgram, mint] tcapProgram
  let entryData ← readAssetEntry chain assetEntry
  require (between entryData 12 44 = registry ∧ between entryData 48 80 = tokenProgram ∧
      between entryData 80 112 = mint)
    (.valueError "TCAP asset entry does not bind the requested mint and token program")
  let tokenId := leValue (between entryData 44 48)
  let decimals := byteOf entryData 244
  require (0 < tokenId ∧ decimals ≤ 18 ∧ decimals = byteOf mintData 44 ∧
      byteOf entryData 245 = 1 ∧ byteOf entryData 247 = 0 ∧ byteOf entryData 283 = 1 ∧
      byteOf entryData 284 = 1 ∧ byteOf entryData 285 = 0)
    (.valueError
      "TCAP asset is not active for deposits or its mint decimals do not match")
  return { mint := chain.pubkeyText mint, decimals, tokenId,
           assetEntry := chain.pubkeyText assetEntry,
           tokenProgram := chain.pubkeyText tokenProgram }

end Assets

section Reading

/-- Last digits of the hash of `trustlink-pay:tsn:canonical-signing:v1`. -/
def canonicalDomainDisplay : String := "...d772e0a4"

def parseField (parsed : Fields) (line : String) : Result Fields := do
  let (label, value) ← okOr (splitLabel line.toList)
    (.http 400 ("canonical signed message field is malformed: " ++ line))
  require (parsed.lookup (String.ofList label) = none)
    (.http 400 ("canonical signed message field is duplicated: " ++ String.ofList label))
  return parsed ++ [(String.ofList label, String.ofList value)]

def parseCanonicalMessage (message expectedAction : String) : Result Fields := do
  require ("TSN ".toList.isPrefixOf message.toList = true)
    (.http 400 "signed message is not a canonical TSN message")
  let lines := splitLines message
  require (4 ≤ lines.length ∧ lines.take 2 = ["TSN " ++ expectedAction, "---"])
    (.http 400 ("signed message must use the TSN " ++ expectedAction ++ " template"))
  let parsed ← (lines.drop 2).foldlM parseField []
  require (parsed.lookup "Domain" = some canonicalDomainDisplay)
    (.http 400 "canonical signed message domain does not match TSN")
  return parsed

def fieldLine (field : String × String) : Text :=
  field.1.toList ++ ':' :: ' ' :: field.2.toList

def buildCanonicalMessage (action : String) (fields : Fields) : String :=
  String.ofList (['\n'].intercalate
    (("TSN " ++ action).toList :: "---".toList ::
      (fields ++ [("Domain", canonicalDomainDisplay)]).map fieldLine))

/-- A field that its line is read back from. -/
def IsField (field : String × String) : Prop :=
  ':' ∉ field.1.toList ∧ '\n' ∉ field.1.toList ∧ '\n' ∉ field.2.toList

instance (field : String × String) : Decidable (IsField field) :=
  inferInstanceAs (Decidable (_ ∧ _))

theorem parseField_fieldLine {parsed : Fields} {field : String × String}
    (hfield : IsField field) (hnew : parsed.lookup field.1 = none) :
    parseField parsed (String.ofList (fieldLine field)) = .ok (parsed ++ [field]) := by
  simp only [parseField, bind_eq_ok, okOr_eq_ok, require_eq_ok, pure_eq_ok, String.toList_ofList]
  refine ⟨(field.1.toList, field.2.toList), splitLabel_append hfield.1, (), ?_, ?_⟩
  · rw [String.ofList_toList, hnew]
  · rw [String.ofList_toList, String.ofList_toList]

theorem foldlM_parseField {fields parsed : Fields} (hfields : ∀ field ∈ fields, IsField field)
    (hnodup : ((parsed ++ fields).map Prod.fst).Nodup) :
    (fields.map fun field => String.ofList (fieldLine field)).foldlM parseField parsed =
      .ok (parsed ++ fields) := by
  induction fields generalizing parsed with
  | nil => rw [List.append_nil]; rfl
  | cons field fields ih =>
      have hnew : parsed.lookup field.1 = none := by
        rw [List.lookup_eq_none_iff]
        intro entry hentry
        rw [List.map_append, List.nodup_append] at hnodup
        have hne := hnodup.2.2 entry.1 (List.mem_map_of_mem hentry) field.1
          (List.mem_map_of_mem List.mem_cons_self)
        exact bne_iff_ne.mpr (Ne.symm hne)
      rw [List.map_cons, List.foldlM_cons,
        parseField_fieldLine (hfields field List.mem_cons_self) hnew]
      rw [List.append_cons parsed field fields] at hnodup ⊢
      exact ih (fun other hother => hfields other (List.mem_cons_of_mem _ hother)) hnodup

theorem toList_build (action : String) (fields : Fields) :
    ∃ rest, (buildCanonicalMessage action fields).toList =
      "TSN ".toList ++ (action.toList ++ '\n' :: rest) := by
  refine ⟨['\n'].intercalate ("---".toList ::
    (fields ++ [("Domain", canonicalDomainDisplay)]).map fieldLine), ?_⟩
  rw [buildCanonicalMessage, String.toList_ofList, List.intercalate_cons_cons,
    String.toList_append]
  simp only [List.append_assoc, List.cons_append, List.nil_append]

theorem splitLines_build {action : String} {fields : Fields} (haction : '\n' ∉ action.toList)
    (hfields : ∀ field ∈ fields, IsField field) :
    splitLines (buildCanonicalMessage action fields) =
      ("TSN " ++ action) :: "---" ::
        (fields ++ [("Domain", canonicalDomainDisplay)]).map fun field =>
          String.ofList (fieldLine field) := by
  have hlines : ∀ line ∈ ("TSN " ++ action).toList :: "---".toList ::
      (fields ++ [("Domain", canonicalDomainDisplay)]).map fieldLine, '\n' ∉ line := by
    intro line hline
    rw [List.mem_cons, List.mem_cons, List.mem_map] at hline
    rcases hline with rfl | rfl | ⟨field, hfield, rfl⟩
    · rw [String.toList_append, List.mem_append, not_or]
      exact ⟨by decide, haction⟩
    · decide
    · rw [List.mem_append, List.mem_singleton] at hfield
      rcases hfield with hfield | rfl
      · obtain ⟨_, hlabel, hvalue⟩ := hfields field hfield
        simp [fieldLine, hlabel, hvalue]
      · decide
  rw [splitLines, buildCanonicalMessage, String.toList_ofList,
    List.splitOn_intercalate _ hlines (by simp)]
  simp only [List.map_cons, String.ofList_toList, List.map_map]
  rfl

theorem parse_build {action : String} {fields : Fields} (haction : '\n' ∉ action.toList)
    (hfields : ∀ field ∈ fields, IsField field) (hnonempty : fields ≠ [])
    (hnodup : ((fields ++ [("Domain", canonicalDomainDisplay)]).map Prod.fst).Nodup) :
    parseCanonicalMessage (buildCanonicalMessage action fields) action =
      .ok (fields ++ [("Domain", canonicalDomainDisplay)]) := by
  have hall : ∀ field ∈ fields ++ [("Domain", canonicalDomainDisplay)], IsField field := by
    intro field hfield
    rw [List.mem_append, List.mem_singleton] at hfield
    rcases hfield with hfield | rfl
    · exact hfields field hfield
    · exact ⟨by decide, by decide, by decide⟩
  have hstart : "TSN ".toList.isPrefixOf (buildCanonicalMessage action fields).toList = true := by
    obtain ⟨rest, hrest⟩ := toList_build action fields
    rw [hrest, List.isPrefixOf_iff_prefix]
    exact List.prefix_append _ _
  have hcount : 0 < fields.length := List.length_pos_of_ne_nil hnonempty
  have hdomain : (fields ++ [("Domain", canonicalDomainDisplay)]).lookup "Domain" =
      some canonicalDomainDisplay := by
    have hfresh : fields.lookup "Domain" = none := by
      rw [List.lookup_eq_none_iff]
      intro entry hentry
      rw [List.map_append, List.nodup_append] at hnodup
      have hne := hnodup.2.2 entry.1 (List.mem_map_of_mem hentry) "Domain" (by simp)
      exact bne_iff_ne.mpr (Ne.symm hne)
    rw [List.lookup_append, hfresh]
    rfl
  rw [parseCanonicalMessage]
  simp only [bind_eq_ok, require_eq_ok, pure_eq_ok]
  refine ⟨(), hstart, (), ⟨?_, ?_⟩, _, ?_, (), hdomain, rfl⟩
  · rw [splitLines_build haction hfields]
    simp
    omega
  · rw [splitLines_build haction hfields]
    rfl
  · rw [splitLines_build haction hfields]
    exact @foldlM_parseField _ [] hall hnodup

/-- `int` of digits, which refuses more of them than it converts. -/
def intOfDigits (python : Python) (digits : Text) : Result Nat :=
  okOr (naturalOf python.unicode digits)
    (.valueError ("Exceeds the limit (4300 digits) for integer string conversion: value has " ++
      toString digits.length ++ " digits; use sys.set_int_max_str_digits() to increase the limit"))

def isDigits (python : Python) (text : Text) : Bool :=
  text ≠ [] && text.all fun character => (python.unicode.digitOf character).isSome

def parseUsdcBaseUnits (python : Python) (value label : String) : Result Nat := do
  let number := value.toList.take (value.toList.length - 5)
  let whole := number.takeWhile (· ≠ '.')
  let point := number.dropWhile (· ≠ '.')
  let fraction := point.drop 1
  require (value.toList.drop (value.toList.length - 5) = " USDC".toList ∧
      isDigits python whole = true ∧
      (point = [] ∨ isDigits python fraction = true ∧ fraction.length ≤ 6))
    (.http 400 (label ++ " must be a decimal USDC amount in the signed message"))
  let units ← intOfDigits python whole
  let rest ← intOfDigits python (fraction ++ List.replicate (6 - fraction.length) '0')
  return units * 1000000 + rest

/-- `value` is `none` where a field is missing, which prints as `None`. -/
def uiAmountToBaseUnits (python : Python) (value : Option String) (decimals : Nat)
    (allowZero : Bool) : Result Nat := do
  match decimalOf python.unicode (value.getD "None") with
  | none | some (.nan true) => .error (.http 422 "Intent amount is invalid")
  | some (.nan false) => .error (.other "[<class 'decimal.InvalidOperation'>]")
  | some (.infinite true) => .error (.http 422 "Intent amount must be positive")
  | some (.infinite false) => .error (.other "cannot convert Infinity to integer")
  | some (.finite negative coefficient exponent) =>
      let amount := finiteValue negative coefficient exponent
      let scaled ← okOr (roundInContext (amount * 10 ^ decimals))
        (.other "[<class 'decimal.Overflow'>]")
      require (0 ≤ amount ∧ (amount ≠ 0 ∨ allowZero = true))
        (.http 422 "Intent amount must be positive")
      require (scaled.den = 1)
        (.http 422 ("Intent amount has invalid token precision (received=" ++
          positional negative coefficient exponent ++ ", token_decimals=" ++
          toString decimals ++ ")"))
      require (scaled.num.toNat ≤ 0xffffffffffffffff)
        (.http 422 "Intent amount is outside the u64 range")
      return scaled.num.toNat

/-- `datetime.fromisoformat(value.replace("Z", "+00:00"))`. -/
def momentOf (python : Python) (value : String) : Option Moment :=
  python.fromIso (String.ofList
    (value.toList.flatMap fun character => if character = 'Z' then "+00:00".toList else [character]))

def parseCanonicalExpiry (python : Python) (now : Int) (value : String) : Result Moment := do
  let expiresAt ← okOr (momentOf python value)
    (.http 400 "signed message expiry is not valid ISO 8601")
  require (expiresAt.offset ≠ none)
    (.other "can't compare offset-naive and offset-aware datetimes")
  require (now < expiresAt.instant) (.http 400 "signed message has expired")
  return expiresAt

/-- Two moments are equal when both have an offset, or both have none. -/
def sameMoment (left right : Moment) : Prop :=
  left.offset.isSome = right.offset.isSome ∧ left.instant = right.instant

instance (left right : Moment) : Decidable (sameMoment left right) :=
  inferInstanceAs (Decidable (_ ∧ _))

end Reading

section Checks

def crossChainAction : String := "Cross-Chain Payment Intent"

def isCrossChain (message : String) : Bool :=
  ("TSN " ++ crossChainAction ++ "\n").toList.isPrefixOf message.toList

def actionOf (message : String) : String :=
  if isCrossChain message then crossChainAction else "Payment Intent"

/-- Token, amount and fee of a cross-chain message, whose token is that of the request. -/
def crossChainAmounts (python : Python) (request : Request) (fields : Fields) :
    Result (TokenMetadata × Nat × Nat) := do
  let amount ← parseUsdcBaseUnits python (fields.text "Amount") "Amount"
  let fee ← parseUsdcBaseUnits python (fields.text "Fee") "Fee"
  return ({ mint := request.tokenMintAddress, decimals := 6, tokenId := 0, assetEntry := "",
            tokenProgram := "" }, amount, fee)

/-- A `ValueError` becomes a refusal. -/
def refuseValueError (status : Nat) : Failure → Failure
  | .valueError text => .http status text
  | failure => failure

def paymentAmounts (python : Python) (chain : Chain) (request : Request) (fields : Fields) :
    Result (TokenMetadata × Nat × Nat) := do
  let signedMint := strip (fields.text "Token Mint")
  require (signedMint = request.tokenMintAddress)
    (.http 400 "Token Mint differs from the wallet-signed payment authorization")
  let token ← (resolveTcapRegisteredAsset chain signedMint).mapError (refuseValueError 422)
  let signedDecimals ← okOr (intOf python.unicode (fields.text "Token Decimals"))
    (.http 400 "Token Decimals is missing or invalid in the signed authorization")
  require (signedDecimals = token.decimals)
    (.http 400 "Signed token decimals differ from the active TCAP mint registration")
  let amount ← uiAmountToBaseUnits python (fields.lookup "Amount") token.decimals false
  let fee ← uiAmountToBaseUnits python (fields.lookup "Fee") token.decimals true
  return (token, amount, fee)

def signedAmounts (python : Python) (chain : Chain) (request : Request) (fields : Fields) :
    Result (TokenMetadata × Nat × Nat) :=
  if isCrossChain request.senderAuthorizationMessage then crossChainAmounts python request fields
  else paymentAmounts python chain request fields

def signedRecipientTin (python : Python) (request : Request) (fields : Fields) :
    Result String := do
  let recipientTin := fields.text "Recipient TIN"
  require (isDigits python recipientTin.toList = true)
    (.http 400 "Recipient TIN must be plain digits in the signed message")
  require (request.recipientTin = "" ∨ request.recipientTin = recipientTin)
    (.http 400 "recipientTin differs from the signed message")
  require (fields.text "Recipient Route Commitment" = "" ∧
      fields.text "Recipient Route Version" = "")
    (.http 400 "Sender authorization must contain the recipient TIN, not resolved route data")
  return recipientTin

/-- The amount of the request in base units. -/
def requestAmount (python : Python) (request : Request) (decimals : Nat) : Result Nat :=
  uiAmountToBaseUnits python (some request.amount) decimals false

/-- The fee of the request in base units; a missing one is zero. -/
def requestFee (python : Python) (request : Request) (decimals : Nat) : Result Nat :=
  uiAmountToBaseUnits python (some (request.senderFeeAmount.getD "0")) decimals true

def checkAmounts (python : Python) (request : Request) (token : TokenMetadata)
    (amount fee : Nat) : Result Unit := do
  let requested ← requestAmount python request token.decimals
  require (amount = requested) (.http 400 "amount differs from the signed message")
  let requestedFee ← requestFee python request token.decimals
  require (fee = requestedFee) (.http 400 "senderFeeAmount differs from the signed message")

def checkNonce (request : Request) (fields : Fields) : Result Unit :=
  require (request.senderAuthorizationNonce = "" ∨
      some request.senderAuthorizationNonce = fields.lookup "Nonce")
    (.http 400 "senderAuthorizationNonce differs from the signed message")

/-- The text of a field of the request, where it has one. -/
def given (value : Option String) : Option String :=
  value.filter (· ≠ "")

def checkExpiry (python : Python) (request : Request) (expiresAt : Moment) : Result Unit :=
  match given request.senderAuthorizationExpiresAt with
  | none => .ok ()
  | some text => do
      let submitted ← okOr (momentOf python text)
        (.valueError ("Invalid isoformat string: '" ++ text ++ "'"))
      require (sameMoment submitted expiresAt)
        (.http 400 "senderAuthorizationExpiresAt differs from the signed message")

def isHexText (text : Text) (size : Nat) : Bool :=
  text.length = size && text.all isLowerHexDigit

def withoutPrefix (start text : Text) : Text :=
  if start.isPrefixOf text then text.drop start.length else text

/-- The destination a cross-chain message names, each field compared with that of the
request. -/
def signedDestination (python : Python) (request : Request) (fields : Fields) :
    Result CrossChainFields := do
  let lower := python.unicode.lower
  let intentId := strip (fields.text "Intent ID")
  let asset := lower (strip (fields.text "Asset"))
  let destinationNetwork := strip (fields.text "Destination Network")
  let destinationExecutor := lower (strip (fields.text "Destination Executor"))
  let settlementRouteId := lower (strip (fields.text "Settlement Route ID"))
  require (intentId ≠ "" ∧ intentId = request.paymentId)
    (.http 400 "Intent ID differs from the signed cross-chain intent")
  require (asset ≠ "" ∧ (given request.destinationToken).map lower = some asset)
    (.http 400 "destination asset differs from the signed cross-chain intent")
  require (destinationNetwork ≠ "" ∧ destinationNetwork.toList.all (fun character =>
      'a' ≤ character && character ≤ 'z' || '0' ≤ character && character ≤ '9' ||
        character = '-') = true)
    (.http 400 "destination network is invalid")
  require (destinationExecutor.toList.take 2 = "0x".toList ∧
      isHexText (destinationExecutor.toList.drop 2) 40 = true)
    (.http 400 "destination executor must be a 20-byte EVM address")
  require (isHexText settlementRouteId.toList 64 = true)
    (.http 400 "settlement route ID must be a 32-byte hexadecimal commitment")
  require ((given request.destinationNetwork).all (· = destinationNetwork) = true)
    (.http 400 "destinationNetwork differs from the signed message")
  require ((given request.destinationExecutor).all (fun text =>
      lower text = destinationExecutor) = true)
    (.http 400 "destinationExecutor differs from the signed message")
  require ((given request.settlementRouteId).all (fun text =>
      withoutPrefix "0x".toList (lower text).toList = settlementRouteId.toList) = true)
    (.http 400 "settlementRouteId differs from the signed message")
  return { destinationNetwork, destinationExecutor, destinationToken := asset,
           settlementRouteId := "0x" ++ settlementRouteId }

def signedCrossChainFields (python : Python) (request : Request) (fields : Fields) :
    Result (Option CrossChainFields) :=
  if isCrossChain request.senderAuthorizationMessage then
    some <$> signedDestination python request fields
  else .ok none

def namePlaceholder : String := "(not provided)"

def canonicalCredentials (python : Python) (credentials : List Json) : String :=
  stableText ⟨python.numberText, fun _ => none, quoteText, codePointLe⟩ codePointLe
    (.arr credentials)

/-- The recipient a message names is the one the Node resolves. -/
def checkIdentity (python : Python) (chain : Chain) (fields : Fields) (recipientTin : String) :
    Result Unit := do
  let unsigned : Failure :=
    .http 400 "Payment authorization must sign the resolved recipient identity"
  let signedName ← okOr (fields.lookup "Recipient Display Name") unsigned
  let signedSource ← okOr (fields.lookup "Recipient Display Name Source") unsigned
  let signedJson ← okOr (fields.lookup "Recipient Verified Credentials") unsigned
  let resolved ← chain.resolveTinIdentity recipientTin
  let identity ← okOr resolved
    (.http 422 "Recipient TIN identity could not be resolved by Node")
  let name := strip identity.displayName
  let resolvedName := if name = "" then namePlaceholder else name
  let expectedSource := if resolvedName ≠ namePlaceholder then "owner-provided" else "not provided"
  require (signedName = resolvedName ∧ signedSource = expectedSource)
    (.http 400 "Signed recipient display name does not match Node TIN resolution")
  let signed ← okOr (python.loads signedJson)
    (.http 400 "Signed recipient credentials are invalid JSON")
  match signed with
  | .arr signedCredentials =>
      require (canonicalCredentials python signedCredentials =
          canonicalCredentials python identity.verifiedCredentials)
        (.http 400 "Signed recipient credentials do not match Node-verified credentials")
  | _ => .error (.http 400 "Signed recipient credentials must be a list")

def checkSignature (chain : Chain) (request : Request) : Result Unit :=
  chain.verifyEd25519Signature (strip request.senderWallet)
    request.senderAuthorizationMessage request.senderAuthorizationSignature

def checkSignedIdentity (python : Python) (chain : Chain) (request : Request) (fields : Fields)
    (recipientTin : String) : Result Unit :=
  if isCrossChain request.senderAuthorizationMessage then .ok ()
  else checkIdentity python chain fields recipientTin

end Checks

section Verification

/-- What a message signs, once it is compared with its request. -/
structure Signed where
  fields : Fields
  recipientTin : String
  token : TokenMetadata
  (amount fee : Nat)
  expiresAt : Moment
  crossChain : Option CrossChainFields

/-- All that is checked before the nonce is used. -/
def checkSigned (python : Python) (chain : Chain) (now : Int) (request : Request) :
    Result Signed := do
  require (request.senderFundingMode = "tcap_deposit_v2")
    (.http 400 "Legacy funding modes are retired; TSN requires a TCAP V2 wallet deposit")
  let fields ← parseCanonicalMessage request.senderAuthorizationMessage
    (actionOf request.senderAuthorizationMessage)
  let (token, amount, fee) ← signedAmounts python chain request fields
  let recipientTin ← signedRecipientTin python request fields
  checkAmounts python request token amount fee
  checkNonce request fields
  let expiresAt ← parseCanonicalExpiry python now (fields.text "Expires")
  checkExpiry python request expiresAt
  let crossChain ← signedCrossChainFields python request fields
  checkSignature chain request
  checkSignedIdentity python chain request fields recipientTin
  return { fields, recipientTin, token, amount, fee, expiresAt, crossChain }

/-- Keys that a nonce was used under. -/
abbrev Nonces := List String

/-- Whether the key was new, and the keys afterwards. -/
def consumeOnce (key : String) (nonces : Nonces) : Bool × Nonces :=
  if nonces.contains key then (false, nonces) else (true, key :: nonces)

/-- The key a message uses its nonce under, unless a part of it is missing. -/
def nonceKey (python : Python) (request : Request) (signed : Signed) : Result String := do
  let domain := strip (signed.fields.text "Domain")
  let sender := strip request.senderWallet
  let nonce := strip (signed.fields.text "Nonce")
  require (domain ≠ "" ∧ sender ≠ "" ∧ nonce ≠ "")
    (.http 400 "signed message nonce identity is incomplete")
  return python.sha256 (domain ++ "|" ++ actionOf request.senderAuthorizationMessage ++ "|" ++
    sender ++ "|" ++ nonce)

def nonceUsed : Failure := .http 400 "signed message nonce has already been used"

def assertNonceUnused (python : Python) (request : Request) (signed : Signed)
    (nonces : Nonces) : Result Unit × Nonces :=
  match nonceKey python request signed with
  | .error failure => (.error failure, nonces)
  | .ok key =>
      match consumeOnce key nonces with
      | (true, used) => (.ok (), used)
      | (false, kept) => (.error nonceUsed, kept)

structure Intent where
  (recipientTin recipientRouteCommitment : String)
  recipientRouteVersion : Nat
  tokenMintAddress : String
  (tokenId tokenDecimals : Nat)
  (tcapAssetEntry tokenProgram senderAuthorizationNonce senderAuthorizationExpiresAt : String)
  crossChain : Option CrossChainFields
  deriving DecidableEq

def preflightFailure : Failure → Failure
  | .valueError text | .runtimeError text =>
      .http 409 ("destination route preflight failed: " ++ text)
  | failure => failure

def checkDestination (chain : Chain) (signed : Signed) : Result Unit :=
  match signed.crossChain with
  | none => .ok ()
  | some crossChain =>
      (chain.verifyDestinationRoute crossChain signed.amount).mapError preflightFailure

def assertRecipientHash (python : Python) (recipientHash ownerPubkeyHash : String) :
    Result Unit := do
  let recipient := python.unicode.lower (strip recipientHash)
  let owner := python.unicode.lower (strip ownerPubkeyHash)
  require (isHexText owner.toList 64 = true)
    (.http 422 "Recipient TIP route has an invalid owner hash")
  require (isHexText recipient.toList 64 = true)
    (.http 400 "recipientHash must be a 32-byte hexadecimal owner hash")
  require (recipient = owner)
    (.http 400 "recipientHash does not match the Node-resolved TIN owner hash")

/-- All that happens after the nonce is used. -/
def resolveRoute (python : Python) (chain : Chain) (request : Request) (signed : Signed) :
    Result Intent := do
  checkDestination chain signed
  let found ← chain.readTinTipRoute signed.recipientTin
  let route ← okOr found (.http 422 "Recipient TIN has no active TIP route")
  assertRecipientHash python request.recipientHash route.ownerPubkeyHash
  return { recipientTin := signed.recipientTin
           recipientRouteCommitment := python.unicode.lower route.gpruElgamalKeyCommitment
           recipientRouteVersion := route.tipRouteVersion
           tokenMintAddress := signed.token.mint
           tokenId := signed.token.tokenId
           tokenDecimals := signed.token.decimals
           tcapAssetEntry := signed.token.assetEntry
           tokenProgram := signed.token.tokenProgram
           senderAuthorizationNonce := signed.fields.text "Nonce"
           senderAuthorizationExpiresAt := python.isoText signed.expiresAt
           crossChain := signed.crossChain }

def verifyPaymentAuthorization (python : Python) (chain : Chain) (now : Int)
    (request : Request) (nonces : Nonces) : Result Intent × Nonces :=
  match checkSigned python chain now request with
  | .error failure => (.error failure, nonces)
  | .ok signed =>
      match assertNonceUnused python request signed nonces with
      | (.error failure, kept) => (.error failure, kept)
      | (.ok (), used) => (resolveRoute python chain request signed, used)

end Verification

end TsnProtocol.Node.PaymentAuthorization
