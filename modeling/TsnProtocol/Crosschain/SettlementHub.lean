import TsnProtocol.Crosschain.LiquidityRegistry
import TsnProtocol.Lib.TextFormat

/-!
`CreditcoinSettlementHub`: it checks a signed payout authorization against the registered
route, reserves the liquidity and publishes the payout message through the Outbox.
-/

namespace TsnProtocol.Crosschain.SettlementHub

open Lib.ByteReader
open Lib.Checked
open Lib.Evm
open Lib.TextFormat

structure PayoutAuthorization where
  (settlementId sourceNetwork sealedTipHeadHash tinHash exitCommitment routeId
    destinationNetwork : Bytes32)
  (destinationExecutor token recipient : Address)
  (amount feeAmount nonce deadline : Uint256)
  merchantOverride : Bool
  deriving DecidableEq

/-- The chain the hub is deployed on: its hash and signature recovery, its id, and the address
of the hub. -/
structure Setting where
  keccak256 : List Byte → Bytes32
  recover : Bytes32 → List Byte → Option Address
  chainId : Uint256
  hub : Address

structure State where
  (owner authorizationSigner : Address)
  paused : Bool
  processedSettlements : Bytes32 → Bool
  usedNonces : Uint256 → Bool

inductive Problem
  | unauthorized
  | paused
  | invalidAuthorization
  | authorizationExpired
  | replay (settlementId : Bytes32) (nonce : Uint256)
  | routeNotExecutable (routeId : Bytes32)
  | invalidSignature
  | outboxRejected
  | registry (problem : LiquidityRegistry.Problem)
  deriving DecidableEq

/-- The hub after its constructor. -/
def deployed (deployer signer : Address) : State where
  owner := deployer
  authorizationSigner := signer
  paused := false
  processedSettlements := fun _ => false
  usedNonces := fun _ => false

section Digests

variable (setting : Setting)

def hashText (text : Text) : Bytes32 :=
  setting.keccak256 (encodeAscii text)

def SOLANA_NETWORK : Bytes32 :=
  hashText setting "solana-devnet".toList

def domainType : Text :=
  "EIP712Domain(string name,string version,".toList ++
    "uint256 chainId,address verifyingContract)".toList

def authorizationType : Text :=
  "PayoutAuthorization(bytes32 settlementId,bytes32 sourceNetwork,".toList ++
    "bytes32 sealedTipHeadHash,bytes32 tinHash,bytes32 exitCommitment,".toList ++
    "bytes32 routeId,bytes32 destinationNetwork,address destinationExecutor,".toList ++
    "address token,address recipient,uint256 amount,uint256 feeAmount,".toList ++
    "uint256 nonce,uint256 deadline,bool merchantOverride)".toList

def DOMAIN_TYPEHASH : Bytes32 :=
  hashText setting domainType

def AUTHORIZATION_TYPEHASH : Bytes32 :=
  hashText setting authorizationType

def NAME_HASH : Bytes32 :=
  hashText setting "TSN Creditcoin Settlement Hub".toList

def VERSION_HASH : Bytes32 :=
  hashText setting "1".toList

def domainSeparator : Bytes32 :=
  setting.keccak256 (abiEncode [DOMAIN_TYPEHASH setting, NAME_HASH setting,
    VERSION_HASH setting, setting.chainId, addressWord setting.hub])

/-- The words of an authorization in the order of its type. -/
def authorizationWords (authorization : PayoutAuthorization) : List Bytes32 :=
  [authorization.settlementId, authorization.sourceNetwork, authorization.sealedTipHeadHash,
    authorization.tinHash, authorization.exitCommitment, authorization.routeId,
    authorization.destinationNetwork, addressWord authorization.destinationExecutor,
    addressWord authorization.token, addressWord authorization.recipient,
    authorization.amount, authorization.feeAmount, authorization.nonce,
    authorization.deadline, boolWord authorization.merchantOverride]

def structHash (authorization : PayoutAuthorization) : Bytes32 :=
  setting.keccak256
    (abiEncode (AUTHORIZATION_TYPEHASH setting :: authorizationWords authorization))

def hashTypedData (authorization : PayoutAuthorization) : Bytes32 :=
  setting.keccak256 ([0x19, 0x01] ++ wordBytes (domainSeparator setting) ++
    wordBytes (structHash setting authorization))

end Digests

/-- The words of the payout message: the authorization without its route. -/
def payloadWords (authorization : PayoutAuthorization) : List Bytes32 :=
  [authorization.settlementId, authorization.sourceNetwork, authorization.sealedTipHeadHash,
    authorization.tinHash, authorization.exitCommitment, authorization.destinationNetwork,
    addressWord authorization.destinationExecutor, addressWord authorization.token,
    addressWord authorization.recipient, authorization.amount, authorization.feeAmount,
    authorization.nonce, authorization.deadline, boolWord authorization.merchantOverride]

def payload (authorization : PayoutAuthorization) : List Byte :=
  abiEncode (payloadWords authorization)

/-- The hub with its registry, and the payloads the Outbox has taken from the hub, latest
first. -/
structure Books where
  hub : State
  registry : LiquidityRegistry.State
  published : List (List Byte)

def checkFields (setting : Setting) (authorization : PayoutAuthorization) :
    Except Problem Unit := do
  require (authorization.sourceNetwork = SOLANA_NETWORK setting) .invalidAuthorization
  require (¬ (authorization.settlementId = 0 ∨ authorization.routeId = 0))
    .invalidAuthorization
  require (¬ (authorization.sealedTipHeadHash = 0 ∨ authorization.tinHash = 0 ∨
    authorization.exitCommitment = 0 ∨ authorization.destinationNetwork = 0 ∨
    authorization.destinationExecutor = 0 ∨ authorization.token = 0 ∨
    authorization.recipient = 0 ∨ authorization.amount = 0)) .invalidAuthorization

def checkSignature (setting : Setting) (hub : State) (authorization : PayoutAuthorization)
    (signature : List Byte) : Except Problem Unit := do
  let signer ← okOr (setting.recover (hashTypedData setting authorization) signature)
    .invalidSignature
  require (signer = hub.authorizationSigner) .unauthorized

def checkRoute (registry : LiquidityRegistry.State) (authorization : PayoutAuthorization) :
    Except Problem Unit :=
  let route := registry.routes authorization.routeId
  require (¬ (route.enabled = false ∨
    route.destinationNetwork ≠ authorization.destinationNetwork ∨
    route.destinationChainId = 0 ∨ route.destinationExecutor = 0 ∨ route.outbox = 0 ∨
    route.destinationExecutor ≠ authorization.destinationExecutor ∨
    route.token ≠ authorization.token)) (.routeNotExecutable authorization.routeId)

/-- `taken` says whether the Outbox takes the message. -/
def executeSettlement (setting : Setting) (books : Books) (now : Uint256)
    (authorization : PayoutAuthorization) (signature : List Byte) (taken : Bool) :
    Except Problem Books := do
  require (books.hub.paused = false) .paused
  require (¬ authorization.deadline < now) .authorizationExpired
  checkFields setting authorization
  require (¬ (books.hub.processedSettlements authorization.settlementId = true ∨
    books.hub.usedNonces authorization.nonce = true))
    (.replay authorization.settlementId authorization.nonce)
  checkSignature setting books.hub authorization signature
  checkRoute books.registry authorization
  let registry ← (LiquidityRegistry.reserveLiquidity books.registry setting.hub now
    authorization.routeId authorization.settlementId authorization.amount).mapError .registry
  require (taken = true) .outboxRejected
  return {
    hub := { books.hub with
      processedSettlements :=
        Function.update books.hub.processedSettlements authorization.settlementId true
      usedNonces := Function.update books.hub.usedNonces authorization.nonce true }
    registry := registry
    published := payload authorization :: books.published }

def setAuthorizationSigner (books : Books) (sender signer : Address) :
    Except Problem Books := do
  require (sender = books.hub.owner) .unauthorized
  require (signer ≠ 0) .invalidAuthorization
  return { books with hub := { books.hub with authorizationSigner := signer } }

def setPaused (books : Books) (sender : Address) (value : Bool) : Except Problem Books := do
  require (sender = books.hub.owner) .unauthorized
  return { books with hub := { books.hub with paused := value } }

def releaseSettlementReservation (setting : Setting) (books : Books) (sender : Address)
    (routeId settlementId : Bytes32) (amount : Uint256) : Except Problem Books := do
  require (sender = books.hub.owner) .unauthorized
  let registry ← (LiquidityRegistry.releaseLiquidity books.registry setting.hub routeId
    settlementId amount).mapError .registry
  return { books with registry := registry }

def transferOwnership (books : Books) (sender newOwner : Address) : Except Problem Books := do
  require (sender = books.hub.owner) .unauthorized
  require (newOwner ≠ 0) .unauthorized
  return { books with hub := { books.hub with owner := newOwner } }

inductive Call
  | executeSettlement (authorization : PayoutAuthorization) (signature : List Byte)
      (taken : Bool)
  | setAuthorizationSigner (signer : Address)
  | setPaused (value : Bool)
  | releaseSettlementReservation (routeId settlementId : Bytes32) (amount : Uint256)
  | transferOwnership (newOwner : Address)
  deriving DecidableEq

def step (setting : Setting) (books : Books) (sender : Address) (now : Uint256) :
    Call → Except Problem Books
  | .executeSettlement authorization signature taken =>
      executeSettlement setting books now authorization signature taken
  | .setAuthorizationSigner signer => setAuthorizationSigner books sender signer
  | .setPaused value => setPaused books sender value
  | .releaseSettlementReservation routeId settlementId amount =>
      releaseSettlementReservation setting books sender routeId settlementId amount
  | .transferOwnership newOwner => transferOwnership books sender newOwner

section Effects

variable {setting : Setting} {books next : Books} {now : Uint256}
  {authorization : PayoutAuthorization} {signature : List Byte} {taken : Bool}

/-- What the hub has checked of an authorization it accepts. -/
structure Accepted (setting : Setting) (books : Books) (now : Uint256)
    (authorization : PayoutAuthorization) (signature : List Byte) : Prop where
  unpaused : books.hub.paused = false
  timely : now ≤ authorization.deadline
  sourceNetwork : authorization.sourceNetwork = SOLANA_NETWORK setting
  settlementId : authorization.settlementId ≠ 0
  sealedTipHeadHash : authorization.sealedTipHeadHash ≠ 0
  tinHash : authorization.tinHash ≠ 0
  exitCommitment : authorization.exitCommitment ≠ 0
  recipient : authorization.recipient ≠ 0
  amount : authorization.amount ≠ 0
  newSettlement : books.hub.processedSettlements authorization.settlementId = false
  newNonce : books.hub.usedNonces authorization.nonce = false
  signed : setting.recover (hashTypedData setting authorization) signature =
    some books.hub.authorizationSigner
  executor : (books.registry.routes authorization.routeId).destinationExecutor =
    authorization.destinationExecutor
  network : (books.registry.routes authorization.routeId).destinationNetwork =
    authorization.destinationNetwork
  token : (books.registry.routes authorization.routeId).token = authorization.token

theorem executeSettlement_eq_ok
    (hstep : executeSettlement setting books now authorization signature taken = .ok next) :
    Accepted setting books now authorization signature ∧
      ∃ registry, next = {
        hub := { books.hub with
          processedSettlements :=
            Function.update books.hub.processedSettlements authorization.settlementId true
          usedNonces := Function.update books.hub.usedNonces authorization.nonce true }
        registry := registry
        published := payload authorization :: books.published } := by
  simp only [executeSettlement, checkFields, checkSignature, checkRoute, bind_eq_ok,
    require_eq_ok, okOr_eq_ok, pure_eq_ok, mapError_eq_ok, not_or, BitVec.not_lt,
    Bool.not_eq_true, ne_eq, not_not] at hstep
  obtain ⟨-, hpaused, -, htimely, -,
    ⟨-, hnetwork, -, ⟨hid, -⟩, hhead, htin, hexit, -, -, -, hrecipient, hamount⟩,
    -, ⟨hnew, hnonce⟩, -, ⟨signer, hsigned, rfl⟩,
    -, ⟨-, hdestination, -, -, -, hexecutor, htoken⟩, registry, -, -, -, rfl⟩ := hstep
  exact ⟨⟨hpaused, htimely, hnetwork, hid, hhead, htin, hexit, hrecipient, hamount, hnew,
    hnonce, hsigned, hexecutor, hdestination, htoken⟩, registry, rfl⟩

/-- A call other than a settlement keeps what the hub has consumed and published. -/
theorem consumed_of_other {sender : Address} {call : Call}
    (hstep : step setting books sender now call = .ok next)
    (hother : ∀ authorization signature taken,
      call ≠ .executeSettlement authorization signature taken) :
    next.hub.processedSettlements = books.hub.processedSettlements ∧
      next.hub.usedNonces = books.hub.usedNonces ∧ next.published = books.published := by
  rcases call with ⟨authorization, signature, taken⟩ | _ | _ | _ | _
  · exact absurd rfl (hother authorization signature taken)
  all_goals
    simp only [step, setAuthorizationSigner, setPaused, releaseSettlementReservation,
      transferOwnership, bind_eq_ok, pure_eq_ok] at hstep
  · obtain ⟨-, -, -, -, rfl⟩ := hstep
    exact ⟨rfl, rfl, rfl⟩
  · obtain ⟨-, -, rfl⟩ := hstep
    exact ⟨rfl, rfl, rfl⟩
  · obtain ⟨-, -, registry, -, rfl⟩ := hstep
    exact ⟨rfl, rfl, rfl⟩
  · obtain ⟨-, -, -, -, rfl⟩ := hstep
    exact ⟨rfl, rfl, rfl⟩

end Effects

end TsnProtocol.Crosschain.SettlementHub
