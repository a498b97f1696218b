import TsnProtocol.Lib.JsonText

/-!
The message that a wallet signs for a payment, as the SDK writes it.
-/

namespace TsnProtocol.Sdk.CanonicalMessage

open Lib.Checked
open Lib.JsonData
open Lib.JsonText
open Lib.TextFormat

abbrev Result := Except String

/-- Last digits of the hash of `trustlink-pay:tsn:canonical-signing:v1`. -/
def canonicalDomainDisplay : String := "...d772e0a4"

def buildMessage (action : String) (fields : List (String × String)) : String :=
  String.ofList (['\n'].intercalate
    (("TSN " ++ action).toList :: "---".toList ::
      ((fields.map fun field => field.1.toList ++ ':' :: ' ' :: field.2.toList) ++
        ["Domain: ".toList ++ canonicalDomainDisplay.toList])))

def parseTin (value label : String) : Result String := do
  require (value ≠ "" ∧ value.toList.all Char.isDigit = true) (label ++ " must be plain digits")
  return value

/-- Digits of the fraction up to the last that is not zero. -/
def fractionDigits (baseUnits decimals : Nat) : Text :=
  let digits := decimal (baseUnits % 10 ^ decimals)
  (List.replicate (decimals - digits.length) '0' ++ digits).rdropWhile (· = '0')

def formatTokenBaseUnits (baseUnits decimals : Nat) : Result String := do
  require (decimals ≤ 18) "Token decimals must be an integer from 0 through 18"
  let whole := decimal (baseUnits / 10 ^ decimals)
  let fraction := fractionDigits baseUnits decimals
  if decimals = 0 then return String.ofList whole
  else if fraction = [] then return String.ofList (whole ++ ".00".toList)
  else return String.ofList (whole ++ '.' :: fraction)

section Credentials

structure VerifiedRecipientCredential where
  (credentialType issuer : String)
  claims : List (String × String)
  deriving DecidableEq

/-- A key that an object enumerates before its other ones, by its number. -/
def isIndex (key : String) : Bool :=
  key.toList.all Char.isDigit && (key = "0" || key ≠ "" && key.toList.head? ≠ some '0') &&
    decimalValue key.toList < 4294967295

/-- The fields of an object in the order that JavaScript enumerates them in. -/
def enumerated (entries : List (String × String)) : List (String × String) :=
  ((entries.filter fun entry => isIndex entry.1).insertionSort fun left right =>
      decimalValue left.1.toList ≤ decimalValue right.1.toList) ++
    entries.filter fun entry => !isIndex entry.1

def incompleteCredential : String :=
  "Verified recipient credentials must include a type, issuer, and claims"

def normalizeCredential (localeLe : String → String → Bool)
    (credential : VerifiedRecipientCredential) : Result VerifiedRecipientCredential := do
  require (trim credential.credentialType ≠ "" ∧ trim credential.issuer ≠ "")
    incompleteCredential
  let claims := (enumerated credential.claims).insertionSort fun left right =>
    localeLe left.1 right.1 = true
  require (claims.all (fun claim => trim claim.1 ≠ "") = true)
    "Verified recipient credential claims must be named strings"
  return { credential with claims := enumerated claims }

def claimsJson (claims : List (String × String)) : Json :=
  .obj (claims.map fun claim => (claim.1, .str claim.2))

def credentialJson (credential : VerifiedRecipientCredential) : Json :=
  .obj [("credentialType", .str credential.credentialType), ("issuer", .str credential.issuer),
    ("claims", claimsJson credential.claims)]

/-- `JSON.stringify`. -/
def stringify (conversions : Conversions) (value : Json) : String :=
  String.ofList (render conversions.numberText value)

/-- `left.localeCompare(right) || next`, as whether the left is not the greater. -/
def comesFirst (localeLe : String → String → Bool) (left right : String) (next : Bool) : Bool :=
  if localeLe left right = false then false
  else if localeLe right left = false then true
  else next

def credentialLe (conversions : Conversions) (left right : VerifiedRecipientCredential) : Bool :=
  let text := fun credential : VerifiedRecipientCredential =>
    stringify conversions (claimsJson credential.claims)
  comesFirst conversions.localeLe left.credentialType right.credentialType
    (comesFirst conversions.localeLe left.issuer right.issuer
      (conversions.localeLe (text left) (text right)))

def sortCredentials (conversions : Conversions)
    (credentials : List VerifiedRecipientCredential) : List VerifiedRecipientCredential :=
  credentials.insertionSort fun left right => credentialLe conversions left right = true

def canonicalRecipientCredentials (conversions : Conversions)
    (credentials : List VerifiedRecipientCredential) : Result String := do
  let normalized ← credentials.mapM (normalizeCredential conversions.localeLe)
  return stringify conversions
    (.arr ((sortCredentials conversions normalized).map credentialJson))

end Credentials

def isControl (character : Char) : Bool :=
  character.toNat ≤ 0x1f || character.toNat = 0x7f

def namePlaceholder : String := "(not provided)"

def canonicalDisplayName (value : Option String) : Result String := do
  let displayName := trim (value.getD "")
  require (displayName.toList.any isControl = false)
    "Recipient display name must not contain control characters"
  return if displayName = "" then namePlaceholder else displayName

def displayNameSource (value source : Option String) : String :=
  if trim (value.getD "") = "" then "not provided" else source.getD "owner-provided"

/-- Parameters of a payment message; the expiry as the text of its date. -/
structure PaymentIntentParams where
  amountBaseUnits : Nat
  tokenMintAddress : String
  tokenDecimals : Nat
  recipientTin : String
  (recipientDisplayName recipientDisplayNameSource : Option String)
  recipientVerifiedCredentials : List VerifiedRecipientCredential
  feeBaseUnits : Nat
  (sender nonce expires : String)

def paymentAction : String := "Payment Intent"

def paymentIntentFields (conversions : Conversions) (params : PaymentIntentParams) :
    Result (List (String × String)) := do
  require (trim params.tokenMintAddress ≠ "") "Token Mint is required"
  let amount ← formatTokenBaseUnits params.amountBaseUnits params.tokenDecimals
  let recipientTin ← parseTin params.recipientTin "Recipient TIN"
  let displayName ← canonicalDisplayName params.recipientDisplayName
  let credentials ←
    canonicalRecipientCredentials conversions params.recipientVerifiedCredentials
  let fee ← formatTokenBaseUnits params.feeBaseUnits params.tokenDecimals
  return [("Token Mint", trim params.tokenMintAddress),
    ("Token Decimals", String.ofList (decimal params.tokenDecimals)),
    ("Amount", amount), ("Recipient TIN", recipientTin),
    ("Recipient Display Name", displayName),
    ("Recipient Display Name Source",
      displayNameSource params.recipientDisplayName params.recipientDisplayNameSource),
    ("Recipient Verified Credentials", credentials), ("Fee", fee), ("Sender", params.sender),
    ("Nonce", params.nonce), ("Expires", params.expires)]

def buildPaymentIntentMessage (conversions : Conversions) (params : PaymentIntentParams) :
    Result String := do
  let fields ← paymentIntentFields conversions params
  return buildMessage paymentAction fields

section Amounts

theorem decimalValue_append (first second : Text) :
    decimalValue (first ++ second) =
      decimalValue first * 10 ^ second.length + decimalValue second := by
  rw [decimalValue, Nat.ofDigitChars_append, Nat.ofDigitChars_eq_ofDigitChars_zero]
  rw [decimalValue, decimalValue, Nat.mul_comm]

theorem decimalValue_replicate_zero (count : Nat) :
    decimalValue (List.replicate count '0') = 0 := by
  rw [decimalValue, Nat.ofDigitChars_replicate_zero, Nat.mul_zero]

theorem rdropWhile_zero (text : Text) :
    ∃ zeros, text = text.rdropWhile (· = '0') ++ List.replicate zeros '0' := by
  induction text using List.reverseRecOn with
  | nil => exact ⟨0, rfl⟩
  | append_singleton text last ih =>
      by_cases hlast : last = '0'
      · obtain ⟨zeros, hzeros⟩ := ih
        refine ⟨zeros + 1, ?_⟩
        rw [List.rdropWhile_concat_pos _ _ _ (by simp [hlast]), List.replicate_succ',
          ← List.append_assoc, ← hzeros, hlast]
      · exact ⟨0, by rw [List.rdropWhile_concat_neg _ _ _ (by simp [hlast])]; simp⟩

/-- The digits of a fraction stand for the base units below one token. -/
theorem fractionDigits_spec {baseUnits decimals : Nat} (hdecimals : 0 < decimals) :
    (fractionDigits baseUnits decimals).all Char.isDigit = true ∧
      (fractionDigits baseUnits decimals).length ≤ decimals ∧
      decimalValue (fractionDigits baseUnits decimals) *
          10 ^ (decimals - (fractionDigits baseUnits decimals).length) =
        baseUnits % 10 ^ decimals := by
  have hrest : baseUnits % 10 ^ decimals < 10 ^ decimals :=
    Nat.mod_lt _ (Nat.pow_pos (by decide))
  have hlength : (decimal (baseUnits % 10 ^ decimals)).length ≤ decimals :=
    (Nat.length_toDigits_le_iff (by decide) hdecimals).mpr hrest
  obtain ⟨zeros, hzeros⟩ := rdropWhile_zero (List.replicate
    (decimals - (decimal (baseUnits % 10 ^ decimals)).length) '0' ++
      decimal (baseUnits % 10 ^ decimals))
  have hfraction : fractionDigits baseUnits decimals = List.rdropWhile (· = '0')
      (List.replicate (decimals - (decimal (baseUnits % 10 ^ decimals)).length) '0' ++
        decimal (baseUnits % 10 ^ decimals)) := rfl
  rw [← hfraction] at hzeros
  have hdigits : (List.replicate (decimals - (decimal (baseUnits % 10 ^ decimals)).length) '0' ++
      decimal (baseUnits % 10 ^ decimals)).all Char.isDigit = true := by
    rw [List.all_append, Bool.and_eq_true, List.all_eq_true, List.all_eq_true]
    refine ⟨?_, fun _ => isDigit_of_mem_decimal⟩
    intro digit hdigit
    rw [List.eq_of_mem_replicate hdigit]
    rfl
  have hvalue := congrArg decimalValue hzeros
  have hlengths := congrArg List.length hzeros
  rw [decimalValue_append, decimalValue_append, decimalValue_replicate_zero,
    decimalValue_replicate_zero, decimalValue_decimal, Nat.zero_mul, Nat.zero_add,
    Nat.add_zero, List.length_replicate] at hvalue
  rw [List.length_append, List.length_append, List.length_replicate,
    List.length_replicate] at hlengths
  refine ⟨?_, by omega, ?_⟩
  · rw [hzeros, List.all_append, Bool.and_eq_true] at hdigits
    exact hdigits.1
  · have hcount : decimals - (fractionDigits baseUnits decimals).length = zeros := by omega
    rw [hcount, hvalue]

end Amounts

end TsnProtocol.Sdk.CanonicalMessage
