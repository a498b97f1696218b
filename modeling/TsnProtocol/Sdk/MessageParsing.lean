import TsnProtocol.Lib.LabelledLines
import TsnProtocol.Lib.PythonValues
import TsnProtocol.Sdk.TokenAmounts

/-!
The canonical messages of the SDK: what writes them out of the parameters of a caller, and what
reads them back.
-/

namespace TsnProtocol.Sdk.MessageParsing

open Lib.Checked
open Lib.JsonData
open Lib.PythonText (splitLabel)
open Lib.PythonValues (intText)
open Lib.TextFormat
open Sdk.CanonicalMessage
open Sdk.TokenAmounts

abbrev Fields := List (String × String)

/-- A valid time of a date, in milliseconds. -/
abbrev Time := { time : Int // |time| ≤ 8640000000000000 }

/-- What the messages take from the language. -/
structure Platform where
  conversions : Conversions
  /-- The time of `new Date(text)`, where that is a valid date. -/
  dateParse : String → Option Time
  isoText : Time → String
  jsonParse : String → Option Json
  toLowerCase : String → String

/-- A date, or a text that one is read from. -/
inductive DateInput where
  | date (time : Option Time)
  | text (value : String)

section Reading

def parseLine (parsed : Fields) (line : Text) : Result Fields := do
  let (label, value) ← okOr ((splitLabel line).filter fun parts => parts.1 ≠ [])
    ("canonical field is malformed: " ++ String.ofList line)
  require (parsed.lookup (String.ofList label) = none)
    ("canonical field is duplicated: " ++ String.ofList label)
  return parsed ++ [(String.ofList label, String.ofList value)]

def trimEnd (line : Text) : Text :=
  line.rdropWhile isSpace

def parseMessage (message action : String) : Result Fields := do
  require ("TSN ".toList.isPrefixOf message.toList = true)
    "canonical message must start with TSN "
  let lines := (message.toList.splitOn '\n').map trimEnd
  require (lines[0]? = some ("TSN " ++ action).toList)
    ("expected TSN " ++ action ++ " message")
  require (lines[1]? = some "---".toList) "canonical message is missing separator line"
  let fields ← (lines.drop 2).foldlM parseLine []
  require (fields.lookup "Domain" = some canonicalDomainDisplay)
    "canonical domain does not match TSN"
  return fields

def requireField (fields : Fields) (label : String) : Result String :=
  okOr ((fields.lookup label).filter (· ≠ "")) ("canonical field is missing: " ++ label)

def isHex (size : Nat) (text : Text) : Bool :=
  text.length = size && text.all fun digit =>
    digit.isDigit || ('a' ≤ digit && digit ≤ 'f')

variable (platform : Platform)

def parseHash32 (value label : String) : Result String := do
  let normalized := platform.toLowerCase (trim value)
  require (isHex 64 normalized.toList = true)
    (label ++ " must be a 32-byte hexadecimal commitment")
  return normalized

def parseExpiry (value : String) : Result Time := do
  let time ← okOr ((platform.dateParse value).filter fun time => platform.isoText time = value)
    "Expires must be an ISO 8601 UTC timestamp"
  return time

def DateInput.time : DateInput → Option Time
  | .date time => time
  | .text value => platform.dateParse value

/-- `toISOString`. -/
def isoOf (date : DateInput) : Result String :=
  okOr ((date.time platform).map platform.isoText) "Invalid time value"

end Reading

section Amounts

def parseTokenAmount (value label : String) (decimals : Nat) : Result Int := do
  let (whole, fraction) ←
    okOr ((decimalParts value.toList).filter fun parts => parts.2.length ≤ decimals)
      (label ++ " must be a decimal token amount with at most " ++ toString decimals ++
        " fractional digits")
  return unitsOf whole fraction decimals

/-- The digits of a remainder, filled up to the decimals, without zeros at the end. -/
def signedFraction (baseUnits : Int) (decimals : Nat) : Text :=
  let digits := intText (baseUnits.tmod (10 ^ decimals))
  (List.replicate (decimals - digits.length) '0' ++ digits).rdropWhile (· = '0')

/-- The amount of `decimals` places, without one where there are none. -/
def formatPlaces (baseUnits : Int) (decimals : Nat) : Text :=
  let whole := intText (baseUnits.tdiv (10 ^ decimals))
  if decimals = 0 then whole
  else
    let fraction := signedFraction baseUnits decimals
    whole ++ if fraction = [] then ".00".toList else '.' :: fraction

def formatBaseUnits (baseUnits : Int) (decimals : Nat) : Result String := do
  require (decimals ≤ 18) "Token decimals must be an integer from 0 through 18"
  return String.ofList (formatPlaces baseUnits decimals)

def formatUsdcBaseUnits (baseUnits : Int) : String :=
  String.ofList (formatPlaces baseUnits 6 ++ " USDC".toList)

/-- `/^(\d+)(?:\.(\d{1,6}))? USDC$/`. -/
def parseUsdc (value label : String) : Result Int := do
  let (whole, fraction) ←
    okOr (if " USDC".toList.isSuffixOf value.toList = true then
        (decimalParts (value.toList.rdrop 5)).filter fun parts => parts.2.length ≤ 6
      else none)
      (label ++ " must be a decimal USDC amount")
  return unitsOf whole fraction 6

end Amounts

section Payments

structure PaymentInput where
  amountBaseUnits : Int
  tokenMintAddress : String
  tokenDecimals : Nat
  recipientTin : String
  (recipientDisplayName recipientDisplayNameSource : Option String)
  recipientVerifiedCredentials : List VerifiedRecipientCredential
  feeBaseUnits : Int
  (sender nonce : String)
  expires : DateInput

variable (platform : Platform)

def paymentFields (params : PaymentInput) : Result Fields := do
  require (trim params.tokenMintAddress ≠ "") "Token Mint is required"
  let amount ← formatBaseUnits params.amountBaseUnits params.tokenDecimals
  let recipientTin ← parseTin params.recipientTin "Recipient TIN"
  let displayName ← canonicalDisplayName params.recipientDisplayName
  let credentials ← canonicalRecipientCredentials platform.conversions
    params.recipientVerifiedCredentials
  let fee ← formatBaseUnits params.feeBaseUnits params.tokenDecimals
  let expires ← isoOf platform params.expires
  return [("Token Mint", trim params.tokenMintAddress),
    ("Token Decimals", String.ofList (decimal params.tokenDecimals)), ("Amount", amount),
    ("Recipient TIN", recipientTin), ("Recipient Display Name", displayName),
    ("Recipient Display Name Source",
      displayNameSource params.recipientDisplayName params.recipientDisplayNameSource),
    ("Recipient Verified Credentials", credentials), ("Fee", fee), ("Sender", params.sender),
    ("Nonce", params.nonce), ("Expires", expires)]

def buildPaymentIntentMessage (params : PaymentInput) : Result String := do
  return buildMessage paymentAction (← paymentFields platform params)

structure PaymentIntent where
  tokenMintAddress : String
  tokenDecimals : Nat
  amountBaseUnits : Int
  (recipientTin recipientDisplayName recipientDisplayNameSource : String)
  recipientVerifiedCredentials : Json
  feeBaseUnits : Int
  (sender nonce : String)
  expires : Time

/-- `Number(text)`, an integer from 0 through 18. -/
def parseDecimals (text : String) : Result Nat := do
  let number ← okOr ((platform.conversions.numberOf text).filter fun number =>
      number.den = 1 ∧ 0 ≤ number ∧ number ≤ 18)
    "Token Decimals must be an integer from 0 through 18"
  return number.num.toNat

def parsePaymentIntentMessage (message : String) : Result PaymentIntent := do
  let fields ← parseMessage message paymentAction
  let tokenDecimals ← parseDecimals platform (← requireField fields "Token Decimals")
  let tokenMintAddress ← requireField fields "Token Mint"
  let amount ← parseTokenAmount (← requireField fields "Amount") "Amount" tokenDecimals
  let recipientTin ← parseTin (← requireField fields "Recipient TIN") "Recipient TIN"
  let displayName ← requireField fields "Recipient Display Name"
  let source ← requireField fields "Recipient Display Name Source"
  let credentials ← okOr
    (platform.jsonParse (← requireField fields "Recipient Verified Credentials"))
    "JSON.parse"
  let fee ← parseTokenAmount (← requireField fields "Fee") "Fee" tokenDecimals
  let sender ← requireField fields "Sender"
  let nonce ← requireField fields "Nonce"
  let expires ← parseExpiry platform (← requireField fields "Expires")
  return ⟨tokenMintAddress, tokenDecimals, amount, recipientTin, displayName, source,
    credentials, fee, sender, nonce, expires⟩

end Payments

section CrossChain

structure CrossChainInput where
  intentId : String
  amountBaseUnits : Int
  (destinationToken recipientTin : String)
  feeBaseUnits : Int
  (sender nonce : String)
  expires : DateInput
  (destinationNetwork destinationExecutor settlementRouteId : String)

variable (platform : Platform)

def crossChainAction : String := "Cross-Chain Payment Intent"

/-- `/^0x[0-9a-fA-F]{40}$/`. -/
def isExecutor (text : Text) : Bool :=
  "0x".toList.isPrefixOf text && isHex 40 ((text.drop 2).map Char.toLower)

/-- `/^0x[0-9a-f]{40}$/`. -/
def isLowerExecutor (text : Text) : Bool :=
  "0x".toList.isPrefixOf text && isHex 40 (text.drop 2)

/-- `text.replace(/^0x/i, "")`. -/
def withoutHexPrefix (text : String) : String :=
  match text.toList with
  | '0' :: 'x' :: rest | '0' :: 'X' :: rest => String.ofList rest
  | _ => text

def crossChainFields (params : CrossChainInput) : Result Fields := do
  require (trim params.intentId ≠ "" ∧ trim params.destinationToken ≠ "" ∧
      trim params.destinationNetwork ≠ "")
    "cross-chain intent fields must not be empty"
  require (isExecutor params.destinationExecutor.toList = true)
    "Destination Executor must be a 20-byte EVM address"
  let recipientTin ← parseTin params.recipientTin "Recipient TIN"
  let settlementRouteId ← parseHash32 platform (withoutHexPrefix params.settlementRouteId)
    "Settlement Route ID"
  let expires ← isoOf platform params.expires
  return [("Intent ID", params.intentId), ("Amount", formatUsdcBaseUnits params.amountBaseUnits),
    ("Asset", platform.toLowerCase params.destinationToken), ("Recipient TIN", recipientTin),
    ("Fee", formatUsdcBaseUnits params.feeBaseUnits), ("Sender", params.sender),
    ("Nonce", params.nonce), ("Expires", expires),
    ("Destination Network", params.destinationNetwork),
    ("Destination Executor", platform.toLowerCase params.destinationExecutor),
    ("Settlement Route ID", settlementRouteId)]

def buildCrossChainPaymentIntentMessage (params : CrossChainInput) : Result String := do
  return buildMessage crossChainAction (← crossChainFields platform params)

structure CrossChainIntent where
  intentId : String
  amountBaseUnits : Int
  (destinationToken recipientTin : String)
  feeBaseUnits : Int
  (sender nonce : String)
  expires : Time
  (destinationNetwork destinationExecutor settlementRouteId : String)

def parseCrossChainPaymentIntentMessage (message : String) : Result CrossChainIntent := do
  let fields ← parseMessage message crossChainAction
  let destinationExecutor :=
    platform.toLowerCase (← requireField fields "Destination Executor")
  require (isLowerExecutor destinationExecutor.toList = true)
    "Destination Executor must be a 20-byte EVM address"
  let intentId ← requireField fields "Intent ID"
  let amount ← parseUsdc (← requireField fields "Amount") "Amount"
  let destinationToken := platform.toLowerCase (← requireField fields "Asset")
  let recipientTin ← parseTin (← requireField fields "Recipient TIN") "Recipient TIN"
  let fee ← parseUsdc (← requireField fields "Fee") "Fee"
  let sender ← requireField fields "Sender"
  let nonce ← requireField fields "Nonce"
  let expires ← parseExpiry platform (← requireField fields "Expires")
  let destinationNetwork ← requireField fields "Destination Network"
  let settlementRouteId ← parseHash32 platform (← requireField fields "Settlement Route ID")
    "Settlement Route ID"
  return ⟨intentId, amount, destinationToken, recipientTin, fee, sender, nonce, expires,
    destinationNetwork, destinationExecutor, settlementRouteId⟩

end CrossChain

section Identities

structure TinCreationInput where
  (tin displayName : String)
  privacy : Option String
  nonce : String
  expires : DateInput

structure TinWalletBindingInput where
  (tin walletPublicKey identityPublicKey programId : String)
  issuedAt : DateInput

variable (platform : Platform)

def creationAction : String := "TIN Creation"

def bindingAction : String := "TIN Wallet Binding"

def privacyOf (params : TinCreationInput) : String :=
  params.privacy.getD "30 PRUs"

def creationFields (params : TinCreationInput) : Result Fields := do
  let tin ← parseTin params.tin "TIN"
  let expires ← isoOf platform params.expires
  return [("TIN", tin), ("Display Name", params.displayName), ("Privacy", privacyOf params),
    ("Nonce", params.nonce), ("Expires", expires)]

def buildTinCreationMessage (params : TinCreationInput) : Result String := do
  return buildMessage creationAction (← creationFields platform params)

def bindingFields (params : TinWalletBindingInput) : Result Fields := do
  let tin ← parseTin params.tin "TIN"
  let issuedAt ← isoOf platform params.issuedAt
  return [("TIN", tin), ("Wallet", params.walletPublicKey),
    ("Identity", params.identityPublicKey), ("Program", params.programId),
    ("Issued At", issuedAt)]

def buildTinWalletBindingMessage (params : TinWalletBindingInput) : Result String := do
  return buildMessage bindingAction (← bindingFields platform params)

structure TinCreation where
  (tin displayName privacy nonce : String)
  expires : Time

structure TinWalletBinding where
  (tin walletPublicKey identityPublicKey programId : String)
  issuedAt : Time

def parseTinCreationMessage (message : String) : Result TinCreation := do
  let fields ← parseMessage message creationAction
  let tin ← parseTin (← requireField fields "TIN") "TIN"
  let displayName ← requireField fields "Display Name"
  let privacy ← requireField fields "Privacy"
  let nonce ← requireField fields "Nonce"
  let expires ← parseExpiry platform (← requireField fields "Expires")
  return ⟨tin, displayName, privacy, nonce, expires⟩

def parseTinWalletBindingMessage (message : String) : Result TinWalletBinding := do
  let fields ← parseMessage message bindingAction
  let tin ← parseTin (← requireField fields "TIN") "TIN"
  let walletPublicKey ← requireField fields "Wallet"
  let identityPublicKey ← requireField fields "Identity"
  let programId ← requireField fields "Program"
  let issuedAt ← parseExpiry platform (← requireField fields "Issued At")
  return ⟨tin, walletPublicKey, identityPublicKey, programId, issuedAt⟩

end Identities

end TsnProtocol.Sdk.MessageParsing
