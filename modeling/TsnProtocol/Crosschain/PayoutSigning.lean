import TsnProtocol.Crosschain.Payouts
import TsnProtocol.Lib.JsonData
import TsnProtocol.Lib.PythonText
import TsnProtocol.Lib.Utf8

/-!
A payout authorization on its way to the hub: the Node's validator, the signer, and the
Cranker that submits it. Signer and submitter write the destination network differently.
-/

namespace TsnProtocol.Crosschain.PayoutSigning

open Crosschain.SettlementHub (PayoutAuthorization Setting authorizationWords)
open Lib.ByteReader
open Lib.Checked
open Lib.Evm
open Lib.JsonData (isSpace)
open Lib.PythonText (Unicode signOf stripText)
open Lib.TextFormat
open Lib.Utf8

abbrev Result := Except String

section Node

/-- `CreditcoinPayoutAuthorization` of the Node. -/
structure NodeAuthorization where
  (settlementId routeId sealedTipHeadHash tinHash exitCommitment token destinationExecutor
    recipient : Text)
  (amountBaseUnits feeAmountBaseUnits nonce deadline : Int)
  merchantOverride : Bool
  destinationNetwork : Text
  deriving DecidableEq

def isHexDigit (character : Char) : Bool :=
  ('0' ≤ character && character ≤ '9') || ('a' ≤ character && character ≤ 'f') ||
    ('A' ≤ character && character ≤ 'F')

def dropHexPrefix : Text → Text
  | '0' :: 'x' :: '_' :: rest | '0' :: 'X' :: '_' :: rest => rest
  | '0' :: 'x' :: rest | '0' :: 'X' :: rest => rest
  | text => text

/-- `int(text, 16)` reads a number: blanks around it, a sign, the prefix, digits of any script
and single underscores are all allowed. -/
def isHexInteger (unicode : Unicode) (text : Text) : Bool :=
  let ascii := (stripText text).map fun character =>
    ((unicode.digitOf character).map fun digit => Char.ofNat (48 + digit)).getD character
  ((dropHexPrefix (signOf ascii).2).splitOn '_').all fun group =>
    group ≠ [] && group.all isHexDigit

def bytes32 (unicode : Unicode) (value : Text) (field : String) : Result Text := do
  require (value.length = 66 ∧ value.take 2 = ['0', 'x'])
    (field ++ " must be a 32-byte hex value")
  require (isHexInteger unicode (value.drop 2) = true) (field ++ " must be a 32-byte hex value")
  -- nothing but ASCII letters has a case in what was read
  return value.map Char.toLower

def evmAddress (unicode : Unicode) (value : Text) : Result Text := do
  require (value.length = 42 ∧ value.take 2 = ['0', 'x'])
    "recipient must be a 20-byte EVM address"
  require (isHexInteger unicode (value.drop 2) = true) "recipient must be a 20-byte EVM address"
  return value

def supportedNetworks : List Text :=
  ["creditcoin-testnet".toList, "base".toList, "ethereum".toList]

/-- `__post_init__`: the checks of the constructor, with the values it keeps. -/
def construct (unicode : Unicode) (authorization : NodeAuthorization) :
    Result NodeAuthorization := do
  let settlementId ← bytes32 unicode authorization.settlementId "settlement_id"
  let sealedTipHeadHash ← bytes32 unicode authorization.sealedTipHeadHash
    "sealed_tip_head_hash"
  let tinHash ← bytes32 unicode authorization.tinHash "tin_hash"
  let exitCommitment ← bytes32 unicode authorization.exitCommitment "exit_commitment"
  let recipient ← evmAddress unicode authorization.recipient
  let token ← evmAddress unicode authorization.token
  require (authorization.destinationNetwork ∈ supportedNetworks)
    "destination network is not supported"
  let routeId ← bytes32 unicode authorization.routeId "route_id"
  let destinationExecutor ← evmAddress unicode authorization.destinationExecutor
  require (¬ (authorization.amountBaseUnits ≤ 0 ∨ authorization.feeAmountBaseUnits < 0 ∨
    authorization.nonce < 0 ∨ authorization.deadline ≤ 0))
    "invalid Creditcoin payout numeric field"
  return { authorization with
    settlementId := settlementId
    sealedTipHeadHash := sealedTipHeadHash
    tinHash := tinHash
    exitCommitment := exitCommitment
    recipient := recipient
    token := token
    routeId := routeId
    destinationExecutor := destinationExecutor }

/-- The `authorization` of the payload, its numbers as decimal texts. -/
structure CrankerPayload where
  (settlementId routeId sourceNetwork sealedTipHeadHash tinHash exitCommitment
    destinationNetwork destinationExecutor token recipient amount feeAmount nonce deadline : Text)
  merchantOverride : Bool
  signature : Text
  deriving DecidableEq

def toCrankerPayload (authorization : NodeAuthorization) (signature : Text) :
    Result CrankerPayload := do
  require (signature.take 2 = ['0', 'x']) "authorization signature is required"
  return {
    settlementId := authorization.settlementId
    routeId := authorization.routeId
    sourceNetwork := "solana-devnet".toList
    sealedTipHeadHash := authorization.sealedTipHeadHash
    tinHash := authorization.tinHash
    exitCommitment := authorization.exitCommitment
    destinationNetwork := authorization.destinationNetwork
    destinationExecutor := authorization.destinationExecutor
    token := authorization.token
    recipient := authorization.recipient
    amount := decimal authorization.amountBaseUnits.toNat
    feeAmount := decimal authorization.feeAmountBaseUnits.toNat
    nonce := decimal authorization.nonce.toNat
    deadline := decimal authorization.deadline.toNat
    merchantOverride := authorization.merchantOverride
    signature := signature }

end Node

section Cranker

/-- `CreditcoinPayoutAuthorization` of the cross-chain service, with the source network that
the payload carries along. -/
structure PayoutInput where
  (settlementId routeId sourceNetwork sealedTipHeadHash tinHash exitCommitment
    destinationNetwork destinationExecutor token recipient : Text)
  (amount feeAmount nonce deadline : Int)
  merchantOverride : Bool
  deriving DecidableEq

/-- The payload with its numbers decoded. -/
def decodeNumbers (payload : CrankerPayload) : PayoutInput where
  settlementId := payload.settlementId
  routeId := payload.routeId
  sourceNetwork := payload.sourceNetwork
  sealedTipHeadHash := payload.sealedTipHeadHash
  tinHash := payload.tinHash
  exitCommitment := payload.exitCommitment
  destinationNetwork := payload.destinationNetwork
  destinationExecutor := payload.destinationExecutor
  token := payload.token
  recipient := payload.recipient
  amount := decimalValue payload.amount
  feeAmount := decimalValue payload.feeAmount
  nonce := decimalValue payload.nonce
  deadline := decimalValue payload.deadline
  merchantOverride := payload.merchantOverride

/-- `/^0x[0-9a-fA-F]{size}$/` -/
def isHexOf (size : Nat) (text : Text) : Bool :=
  text.take 2 = ['0', 'x'] && (text.drop 2).length = size && (text.drop 2).all isHexDigit

def requireText (name : String) (value : Text) : Result Unit :=
  require (value.all isSpace = false) (name ++ " is required")

def requireAddress (name : String) (value : Text) : Result Unit :=
  require (isHexOf 40 value = true) (name ++ " must be a 20-byte EVM address")

def requireBytes32 (name : String) (value : Text) : Result Unit :=
  require (isHexOf 64 value = true) (name ++ " must be bytes32")

def validateCreditcoinPayout (input : PayoutInput) : Result Unit := do
  requireText "settlementId" input.settlementId
  requireText "routeId" input.routeId
  requireText "sourceNetwork" input.sourceNetwork
  requireText "sealedTipHeadHash" input.sealedTipHeadHash
  requireText "tinHash" input.tinHash
  requireText "exitCommitment" input.exitCommitment
  requireText "destinationNetwork" input.destinationNetwork
  requireText "destinationExecutor" input.destinationExecutor
  requireText "token" input.token
  requireText "recipient" input.recipient
  requireAddress "recipient" input.recipient
  requireAddress "token" input.token
  requireAddress "destinationExecutor" input.destinationExecutor
  requireBytes32 "settlementId" input.settlementId
  requireBytes32 "sealedTipHeadHash" input.sealedTipHeadHash
  requireBytes32 "tinHash" input.tinHash
  requireBytes32 "exitCommitment" input.exitCommitment
  requireBytes32 "routeId" input.routeId
  requireText "destinationNetwork" input.destinationNetwork
  require (¬ (input.amount ≤ 0 ∨ input.feeAmount < 0 ∨ input.nonce < 0 ∨
    input.deadline ≤ 0)) "invalid payout numeric field"

/-- What the service uses of ethers. -/
structure Ethers where
  keccak256 : List Byte → Bytes32
  getBytes : Text → Option (List Byte)
  getAddress : Text → Option Address

variable (ethers : Ethers)

def encodeBytes32 (value : Text) : Result Bytes32 := do
  let bytes ← okOr (ethers.getBytes value) "invalid BytesLike value"
  require (bytes.length = 32) "incorrect data length"
  return wordOfBytes bytes

def encodeAddress (value : Text) : Result Address :=
  okOr (ethers.getAddress value) "invalid address"

def encodeUint256 (value : Int) : Result Uint256 := do
  require (0 ≤ value ∧ value < 2 ^ 256) "value out-of-bounds"
  return BitVec.ofInt 256 value

/-- `id`: the hash of a text. -/
def hashOf (text : Text) : Bytes32 :=
  ethers.keccak256 (encodeUtf8 text)

/-- The structure of the contract with the two network words given. -/
def encodeAuthorization (input : PayoutInput) (sourceNetwork destinationNetwork : Bytes32) :
    Result PayoutAuthorization := do
  let settlementId ← encodeBytes32 ethers input.settlementId
  let sealedTipHeadHash ← encodeBytes32 ethers input.sealedTipHeadHash
  let tinHash ← encodeBytes32 ethers input.tinHash
  let exitCommitment ← encodeBytes32 ethers input.exitCommitment
  let routeId ← encodeBytes32 ethers input.routeId
  let destinationExecutor ← encodeAddress ethers input.destinationExecutor
  let token ← encodeAddress ethers input.token
  let recipient ← encodeAddress ethers input.recipient
  let amount ← encodeUint256 input.amount
  let feeAmount ← encodeUint256 input.feeAmount
  let nonce ← encodeUint256 input.nonce
  let deadline ← encodeUint256 input.deadline
  return ⟨settlementId, sourceNetwork, sealedTipHeadHash, tinHash, exitCommitment, routeId,
    destinationNetwork, destinationExecutor, token, recipient, amount, feeAmount, nonce,
    deadline, input.merchantOverride⟩

def CREDITCOIN_PAYOUT_TYPES : List (String × String) :=
  [("settlementId", "bytes32"), ("sourceNetwork", "bytes32"),
    ("sealedTipHeadHash", "bytes32"), ("tinHash", "bytes32"), ("exitCommitment", "bytes32"),
    ("routeId", "bytes32"), ("destinationNetwork", "bytes32"),
    ("destinationExecutor", "address"), ("token", "address"), ("recipient", "address"),
    ("amount", "uint256"), ("feeAmount", "uint256"), ("nonce", "uint256"),
    ("deadline", "uint256"), ("merchantOverride", "bool")]

def domainTypes : List (String × String) :=
  [("name", "string"), ("version", "string"), ("chainId", "uint256"),
    ("verifyingContract", "address")]

/-- `encodeType` of EIP-712. -/
def encodeType (name : String) (fields : List (String × String)) : Text :=
  name.toList ++ '(' :: [','].intercalate
    (fields.map fun field => field.2.toList ++ ' ' :: field.1.toList) ++ [')']

def domainHash (chainId : Uint256) (verifyingContract : Address) : Bytes32 :=
  ethers.keccak256 (abiEncode [hashOf ethers (encodeType "EIP712Domain" domainTypes),
    hashOf ethers "TSN Creditcoin Settlement Hub".toList, hashOf ethers "1".toList, chainId,
    addressWord verifyingContract])

def typedDataDigest (chainId : Uint256) (verifyingContract : Address)
    (authorization : PayoutAuthorization) : Bytes32 :=
  let structHash := ethers.keccak256 (abiEncode
    (hashOf ethers (encodeType "PayoutAuthorization" CREDITCOIN_PAYOUT_TYPES) ::
      authorizationWords authorization))
  ethers.keccak256 ([0x19, 0x01] ++ wordBytes (domainHash ethers chainId verifyingContract) ++
    wordBytes structHash)

/-- `signCreditcoinPayout`, up to the digest that the wallet signs. -/
def signCreditcoinPayout (verifyingContract : Text) (chainId : Uint256)
    (input : PayoutInput) : Result Bytes32 := do
  validateCreditcoinPayout input
  let hub ← encodeAddress ethers verifyingContract
  let authorization ← encodeAuthorization ethers input
    (hashOf ethers "solana-devnet".toList) (hashOf ethers input.destinationNetwork)
  return typedDataDigest ethers chainId hub authorization

/-- What the Cranker reads of the route on the chain. -/
structure Evidence where
  ready : Bool
  failure : Option String
  (routeId destinationExecutor settlementToken : Text)
  availableAmount : Int

def checkEvidence (evidence : Evidence) (now : Int) (input : PayoutInput) : Result Unit := do
  require (evidence.ready = true) (evidence.failure.getD "Creditcoin route is not ready")
  require (input.routeId.map Char.toLower = evidence.routeId.map Char.toLower)
    "authorized route does not match the on-chain registry"
  let authorizedExecutor ← encodeAddress ethers input.destinationExecutor
  let registeredExecutor ← encodeAddress ethers evidence.destinationExecutor
  require (authorizedExecutor = registeredExecutor)
    "authorized executor does not match the on-chain registry"
  let authorizedToken ← encodeAddress ethers input.token
  let registeredToken ← encodeAddress ethers evidence.settlementToken
  require (authorizedToken = registeredToken)
    "authorized token does not match the on-chain registry"
  require (¬ evidence.availableAmount < input.amount)
    "authorized amount exceeds fresh registered liquidity"
  require (¬ input.deadline ≤ now) "Creditcoin authorization is expired"

def checkSignature (signature : Text) : Result Unit :=
  require (signature.take 2 = ['0', 'x'] ∧ signature.drop 2 ≠ [] ∧
    (signature.drop 2).all isHexDigit = true ∧ ¬ signature.length < 132)
    "Creditcoin authorization signature is invalid"

/-- `submit`, up to the structure that it sends to the hub. -/
def submit (evidence : Evidence) (now : Int) (input : PayoutInput) (signature : Text) :
    Result PayoutAuthorization := do
  validateCreditcoinPayout input
  checkSignature signature
  checkEvidence ethers evidence now input
  let destinationNetwork ← encodeBytes32 ethers input.destinationNetwork
  encodeAuthorization ethers input (hashOf ethers "solana-devnet".toList) destinationNetwork

end Cranker

section Agreement

variable {ethers : Ethers} {setting : Setting}

theorem encodeType_payoutTypes :
    encodeType "PayoutAuthorization" CREDITCOIN_PAYOUT_TYPES =
      SettlementHub.authorizationType := by
  unfold SettlementHub.authorizationType
  -- the long texts are taken apart by a lemma: evaluated, that is what costs
  conv_rhs => enter [1, 1, 1, 1]; rw [String.toList_ofList]
  conv_rhs => enter [1, 1, 1, 2]; rw [String.toList_ofList]
  conv_rhs => enter [1, 1, 2]; rw [String.toList_ofList]
  conv_rhs => enter [1, 2]; rw [String.toList_ofList]
  conv_rhs => enter [2]; rw [String.toList_ofList]
  decide +kernel

theorem encodeType_domainTypes :
    encodeType "EIP712Domain" domainTypes = SettlementHub.domainType := by
  unfold SettlementHub.domainType
  conv_rhs => enter [1]; rw [String.toList_ofList]
  conv_rhs => enter [2]; rw [String.toList_ofList]
  decide +kernel

/-- Signer and hub hash one structure to one digest. -/
theorem typedDataDigest_eq (hkeccak : ethers.keccak256 = setting.keccak256)
    (authorization : PayoutAuthorization) :
    typedDataDigest ethers setting.chainId setting.hub authorization =
      SettlementHub.hashTypedData setting authorization := by
  have htext : ∀ text : Text, isAscii text = true →
      hashOf ethers text = SettlementHub.hashText setting text := by
    intro text hascii
    rw [hashOf, hkeccak, encodeUtf8_of_isAscii hascii, SettlementHub.hashText]
  have hpayout : hashOf ethers (encodeType "PayoutAuthorization" CREDITCOIN_PAYOUT_TYPES) =
      SettlementHub.AUTHORIZATION_TYPEHASH setting := by
    rw [htext _ (by decide +kernel), encodeType_payoutTypes]
    rfl
  have hdomain : hashOf ethers (encodeType "EIP712Domain" domainTypes) =
      SettlementHub.DOMAIN_TYPEHASH setting := by
    rw [htext _ (by decide +kernel), encodeType_domainTypes]
    rfl
  have hname := htext "TSN Creditcoin Settlement Hub".toList (by decide +kernel)
  have hversion := htext "1".toList (by decide +kernel)
  rw [typedDataDigest, domainHash, hpayout, hdomain, hname, hversion, hkeccak]
  rfl

example : isAscii (encodeType "EIP712Domain" domainTypes) = true := by
  decide +kernel

/-- The payload is valid, and the digest signed for it is the hub's for what is submitted. -/
def Agrees (ethers : Ethers) (setting : Setting) (verifyingContract : Text)
    (evidence : Evidence) (now : Int) (payload : CrankerPayload) : Prop :=
  validateCreditcoinPayout (decodeNumbers payload) = .ok () ∧
    ∃ digest authorization,
      signCreditcoinPayout ethers verifyingContract setting.chainId (decodeNumbers payload) =
        .ok digest ∧
      submit ethers evidence now (decodeNumbers payload) payload.signature =
        .ok authorization ∧
      SettlementHub.hashTypedData setting authorization = digest

theorem network_of_construct {unicode : Unicode} {raw kept : NodeAuthorization}
    (hconstruct : construct unicode raw = .ok kept) :
    kept.destinationNetwork ∈ supportedNetworks := by
  simp only [construct, bind_eq_ok, require_eq_ok, pure_eq_ok] at hconstruct
  obtain ⟨_, -, _, -, _, -, _, -, _, -, _, -, -, hnetwork, _, -, _, -, -, -, rfl⟩ := hconstruct
  exact hnetwork

theorem not_hex_of_supported {network : Text} (hnetwork : network ∈ supportedNetworks) :
    network.take 2 ≠ ['0', 'x'] := by
  have hall : ∀ name ∈ supportedNetworks, name.take 2 ≠ ['0', 'x'] := by
    decide +kernel
  exact hall network hnetwork

/-- The name of a network is no byte string, so nothing that the Node accepts is ever
submitted as it was signed, whatever the route and whatever the time. -/
theorem never_agrees {unicode : Unicode} {raw kept : NodeAuthorization} {signature : Text}
    {payload : CrankerPayload}
    (hbytesLike : ∀ text : Text, text.take 2 ≠ ['0', 'x'] → ethers.getBytes text = none)
    (hconstruct : construct unicode raw = .ok kept)
    (hpayload : toCrankerPayload kept signature = .ok payload) (verifyingContract : Text)
    (evidence : Evidence) (now : Int) :
    ¬ Agrees ethers setting verifyingContract evidence now payload := by
  rintro ⟨-, digest, authorization, -, hsubmit, -⟩
  simp only [toCrankerPayload, bind_eq_ok, pure_eq_ok] at hpayload
  obtain ⟨-, -, rfl⟩ := hpayload
  have hnone := hbytesLike kept.destinationNetwork
    (not_hex_of_supported (network_of_construct hconstruct))
  simp only [submit, decodeNumbers, encodeBytes32, bind_eq_ok, okOr_eq_ok] at hsubmit
  obtain ⟨⟨⟩, -, ⟨⟩, -, ⟨⟩, -, word, ⟨bytes, hbytes, -⟩, -⟩ := hsubmit
  exact absurd (hnone.symm.trans hbytes) (by rintro ⟨⟩)

end Agreement

section Samples

open Crosschain.Payouts (sampleAuthorization sampleSetting)

def asciiUnicode : Unicode where
  lower := fun text => String.ofList (text.toList.map Char.toLower)
  digitOf := fun character =>
    if character.isDigit then some (character.toNat - 48) else none

/-- Hexadecimal data, and addresses without a checksum, as ethers reads them. -/
def sampleEthers : Ethers where
  keccak256 := fun data =>
    if data.length = 4 then sampleAuthorization.destinationNetwork
    else sampleSetting.keccak256 data
  getBytes := fun text =>
    if text.take 2 = ['0', 'x'] then bytesOfHex ((text.drop 2).map Char.toLower) else none
  getAddress := fun text =>
    if isHexOf 40 text = true then some (BitVec.ofNat 160 (hexTextValue (text.drop 2))) else none

def wordText (word : Bytes32) : Text :=
  '0' :: 'x' :: hexText (wordBytes word)

def addressText (address : Address) : Text :=
  '0' :: 'x' :: hexText (beBytes 20 address.toNat)

def sampleNode : NodeAuthorization where
  settlementId := wordText 0x5e77
  routeId := wordText 0x7
  sealedTipHeadHash := wordText 0x4ead
  tinHash := wordText 0x719
  exitCommitment := wordText 0xe817
  token := addressText 0x70
  destinationExecutor := addressText 0xec
  recipient := addressText 0xbe
  amountBaseUnits := 100
  feeAmountBaseUnits := 1
  nonce := 1
  deadline := 2000
  merchantOverride := false
  destinationNetwork := "base".toList

def sampleSignatureText : Text :=
  '0' :: 'x' :: hexText Payouts.sampleSignature

def samplePayload : CrankerPayload where
  settlementId := sampleNode.settlementId
  routeId := sampleNode.routeId
  sourceNetwork := "solana-devnet".toList
  sealedTipHeadHash := sampleNode.sealedTipHeadHash
  tinHash := sampleNode.tinHash
  exitCommitment := sampleNode.exitCommitment
  destinationNetwork := sampleNode.destinationNetwork
  destinationExecutor := sampleNode.destinationExecutor
  token := sampleNode.token
  recipient := sampleNode.recipient
  amount := ['1', '0', '0']
  feeAmount := ['1']
  nonce := ['1']
  deadline := ['2', '0', '0', '0']
  merchantOverride := false
  signature := sampleSignatureText

def sampleEvidence : Evidence where
  ready := true
  failure := none
  routeId := sampleNode.routeId
  destinationExecutor := sampleNode.destinationExecutor
  settlementToken := sampleNode.token
  availableAmount := 500

def hubText : Text :=
  addressText 0x4b

theorem sample_constructed : construct asciiUnicode sampleNode = .ok sampleNode := by
  decide +kernel

theorem sample_payload :
    toCrankerPayload sampleNode sampleSignatureText = .ok samplePayload := by
  decide +kernel

example : isHexOf 40 hubText = true := by
  decide +kernel

theorem sample_bytesLike (text : Text) (htext : text.take 2 ≠ ['0', 'x']) :
    sampleEthers.getBytes text = none :=
  if_neg htext

theorem sample_never_agrees :
    ¬ Agrees sampleEthers sampleSetting hubText sampleEvidence 1000 samplePayload :=
  never_agrees sample_bytesLike sample_constructed sample_payload hubText sampleEvidence 1000

/-- The signer with the hash of the hub. -/
def hubEthers : Ethers :=
  { sampleEthers with keccak256 := sampleSetting.keccak256 }

example : validateCreditcoinPayout (decodeNumbers samplePayload) = .ok () := by
  decide +kernel

/-- The Node accepts the authorization, the service validates and signs it, the route is ready
for it; and then the submission stops at the name of the network. -/
theorem signed_but_not_submitted :
    construct asciiUnicode sampleNode = .ok sampleNode ∧
      toCrankerPayload sampleNode sampleSignatureText = .ok samplePayload ∧
      validateCreditcoinPayout (decodeNumbers samplePayload) = .ok () ∧
      signCreditcoinPayout sampleEthers hubText sampleSetting.chainId
          (decodeNumbers samplePayload) =
        .ok (SettlementHub.hashTypedData sampleSetting sampleAuthorization) ∧
      checkEvidence sampleEthers sampleEvidence 1000 (decodeNumbers samplePayload) = .ok () ∧
      submit sampleEthers sampleEvidence 1000 (decodeNumbers samplePayload)
          samplePayload.signature = .error "invalid BytesLike value" ∧
      ¬ Agrees sampleEthers sampleSetting hubText sampleEvidence 1000 samplePayload := by
  have hrefused : submit sampleEthers sampleEvidence 1000 (decodeNumbers samplePayload)
      samplePayload.signature = .error "invalid BytesLike value" := by
    decide +kernel
  refine ⟨sample_constructed, sample_payload, by decide +kernel, by decide +kernel,
    by decide +kernel, hrefused, ?_⟩
  rintro ⟨-, digest, authorization, -, hsubmit, -⟩
  exact absurd (hrefused.symm.trans hsubmit) nofun

example : (checkEvidence sampleEthers { sampleEvidence with availableAmount := 99 } 1000
    (decodeNumbers samplePayload)).isOk = false := by
  decide +kernel

end Samples

end TsnProtocol.Crosschain.PayoutSigning
