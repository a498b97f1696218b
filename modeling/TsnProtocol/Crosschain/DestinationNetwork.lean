import TsnProtocol.Crosschain.SettlementHub

/-!
A destination network: `TSNSettlementExecutor` decodes the messages its Inbox delivers and
has `TSNERCLiquidityVault` release the tokens.
-/

namespace TsnProtocol.Crosschain.DestinationNetwork

open Lib.ByteReader
open Lib.Checked
open Lib.Evm

structure Vault where
  (owner token executor : Address)
  deriving DecidableEq

structure Executor where
  destinationNetwork : Bytes32
  creditcoinChainId : Uint256
  (settlementEmitter liquidityVault settlementToken : Address)
  usedNonces : Uint256 → Bool

/-- The contracts of a network by their addresses, and its block time. -/
structure Network where
  now : Uint256
  tokens : Address → Token
  vaults : Address → Option Vault
  executors : Address → Option Executor

inductive Problem
  | noContract
  | invalidSource (sourceChainId : Uint256) (emitter : Address)
  | undecodable
  | invalidSettlement
  | expired
  | nonceReplay (nonce : Uint256)
  | invalidConfiguration
  | unauthorizedExecutor
  | unauthorizedOwner
  | insufficientLiquidity (requested available : Uint256)
  | transferRefused
  deriving DecidableEq

structure SettlementMessage where
  (settlementId sourceNetwork sealedTipHeadHash tinHash exitCommitment destinationNetwork : Bytes32)
  (destinationExecutor token recipient : Address)
  (amount feeAmount nonce deadline : Uint256)
  merchantOverride : Bool
  deriving DecidableEq

/-- `abi.decode` of a settlement message. -/
def readMessage : Reader Problem SettlementMessage := do
  let settlementId ← takeWord .undecodable
  let sourceNetwork ← takeWord .undecodable
  let sealedTipHeadHash ← takeWord .undecodable
  let tinHash ← takeWord .undecodable
  let exitCommitment ← takeWord .undecodable
  let destinationNetwork ← takeWord .undecodable
  let destinationExecutor ← takeAddress .undecodable
  let token ← takeAddress .undecodable
  let recipient ← takeAddress .undecodable
  let amount ← takeWord .undecodable
  let feeAmount ← takeWord .undecodable
  let nonce ← takeWord .undecodable
  let deadline ← takeWord .undecodable
  let merchantOverride ← takeFlag .undecodable
  return ⟨settlementId, sourceNetwork, sealedTipHeadHash, tinHash, exitCommitment,
    destinationNetwork, destinationExecutor, token, recipient, amount, feeAmount, nonce,
    deadline, merchantOverride⟩

def decodeMessage (payload : List Byte) : Except Problem SettlementMessage :=
  Prod.fst <$> readMessage payload

/-- `LiquidityReleased`, with the vault that released and its token. -/
structure Release where
  (vault token recipient : Address)
  amount : Uint256
  settlementId : Bytes32
  deriving DecidableEq

/-- An exact ERC-20 transfer; no transfer to the zero address. -/
def transferToken (network : Network) (token sender recipient : Address) (amount : Uint256) :
    Except Problem Network := do
  require (recipient ≠ 0) .transferRefused
  let moved ← okOr ((network.tokens token).transfer sender recipient amount) .transferRefused
  return { network with tokens := Function.update network.tokens token moved }

/-- `fund`; `approved` says whether the funder's allowance for the vault suffices. -/
def fund (network : Network) (vaultAddress sender : Address) (amount : Uint256)
    (approved : Bool) : Except Problem Network := do
  let vault ← okOr (network.vaults vaultAddress) .noContract
  require (amount ≠ 0) .invalidConfiguration
  require (approved = true) .transferRefused
  transferToken network vault.token sender vaultAddress amount

def release (network : Network) (vaultAddress sender recipient : Address) (amount : Uint256)
    (settlementId : Bytes32) : Except Problem (Network × Release) := do
  let vault ← okOr (network.vaults vaultAddress) .noContract
  require (sender = vault.executor) .unauthorizedExecutor
  require (¬ (recipient = 0 ∨ amount = 0)) .invalidConfiguration
  let available := (network.tokens vault.token).balanceOf vaultAddress
  require (¬ available < amount) (.insufficientLiquidity amount available)
  let paid ← transferToken network vault.token vaultAddress recipient amount
  return (paid, ⟨vaultAddress, vault.token, recipient, amount, settlementId⟩)

def withdraw (network : Network) (vaultAddress sender recipient : Address)
    (amount : Uint256) : Except Problem Network := do
  let vault ← okOr (network.vaults vaultAddress) .noContract
  require (sender = vault.owner) .unauthorizedOwner
  let available := (network.tokens vault.token).balanceOf vaultAddress
  require (¬ (recipient = 0 ∨ available < amount)) (.insufficientLiquidity amount available)
  transferToken network vault.token vaultAddress recipient amount

def checkMessage (executor : Executor) (self : Address) (settlement : SettlementMessage) :
    Except Problem Unit :=
  require (¬ (settlement.settlementId = 0 ∨ settlement.sourceNetwork = 0 ∨
    settlement.sealedTipHeadHash = 0 ∨ settlement.tinHash = 0 ∨
    settlement.exitCommitment = 0 ∨
    settlement.destinationNetwork ≠ executor.destinationNetwork ∨
    settlement.destinationExecutor ≠ self ∨ settlement.token ≠ executor.settlementToken ∨
    settlement.recipient = 0 ∨ settlement.amount = 0)) .invalidSettlement

/-- `_processMessage` of the executor at `self`, for a message of its Inbox. -/
def processMessage (network : Network) (self : Address) (sourceChainId : Uint256)
    (emitter : Address) (payload : List Byte) : Except Problem (Network × Release) := do
  let executor ← okOr (network.executors self) .noContract
  require (¬ (sourceChainId ≠ executor.creditcoinChainId ∨
    emitter ≠ executor.settlementEmitter)) (.invalidSource sourceChainId emitter)
  let settlement ← decodeMessage payload
  checkMessage executor self settlement
  require (¬ settlement.deadline < network.now) .expired
  require (executor.usedNonces settlement.nonce = false) (.nonceReplay settlement.nonce)
  let marked := { executor with
    usedNonces := Function.update executor.usedNonces settlement.nonce true }
  release { network with executors := Function.update network.executors self (some marked) }
    executor.liquidityVault self settlement.recipient settlement.amount
    settlement.settlementId

section Messages

open Crosschain.SettlementHub (PayoutAuthorization payload payloadWords)

/-- The message an authorization is published as. -/
def messageOf (authorization : PayoutAuthorization) : SettlementMessage where
  settlementId := authorization.settlementId
  sourceNetwork := authorization.sourceNetwork
  sealedTipHeadHash := authorization.sealedTipHeadHash
  tinHash := authorization.tinHash
  exitCommitment := authorization.exitCommitment
  destinationNetwork := authorization.destinationNetwork
  destinationExecutor := authorization.destinationExecutor
  token := authorization.token
  recipient := authorization.recipient
  amount := authorization.amount
  feeAmount := authorization.feeAmount
  nonce := authorization.nonce
  deadline := authorization.deadline
  merchantOverride := authorization.merchantOverride

theorem reads_readMessage (authorization : PayoutAuthorization) :
    Reads readMessage (payload authorization) (messageOf authorization) := by
  unfold readMessage payload payloadWords abiEncode
  simp only [List.flatMap_cons, List.flatMap_nil]
  iterate 6 refine reads_bind reads_takeWord ?_
  iterate 3 refine reads_bind reads_takeAddress ?_
  iterate 4 refine reads_bind reads_takeWord ?_
  exact reads_bind reads_takeFlag reads_pure

/-- The executor decodes what the hub has encoded. -/
theorem decodeMessage_payload (authorization : PayoutAuthorization) :
    decodeMessage (payload authorization) = .ok (messageOf authorization) := by
  have hread := reads_readMessage authorization []
  rw [List.append_nil] at hread
  rw [decodeMessage, hread]
  rfl

end Messages

section Effects

variable {network next : Network} {self : Address} {sourceChainId : Uint256}
  {emitter : Address} {released : Release}

theorem transferToken_eq_ok {token sender recipient : Address} {amount : Uint256} :
    transferToken network token sender recipient amount = .ok next ↔
      recipient ≠ 0 ∧ ∃ moved,
        (network.tokens token).transfer sender recipient amount = some moved ∧
        next = { network with tokens := Function.update network.tokens token moved } := by
  simp only [transferToken, bind_eq_ok, require_eq_ok, okOr_eq_ok, pure_eq_ok]
  constructor
  · rintro ⟨-, hrecipient, moved, hmoved, rfl⟩
    exact ⟨hrecipient, moved, hmoved, rfl⟩
  · rintro ⟨hrecipient, moved, hmoved, rfl⟩
    exact ⟨(), hrecipient, moved, hmoved, rfl⟩

theorem release_eq_ok {vaultAddress sender recipient : Address} {amount : Uint256}
    {settlementId : Bytes32} :
    release network vaultAddress sender recipient amount settlementId =
        .ok (next, released) ↔
      ∃ vault, network.vaults vaultAddress = some vault ∧ sender = vault.executor ∧
        recipient ≠ 0 ∧ amount ≠ 0 ∧
        released = ⟨vaultAddress, vault.token, recipient, amount, settlementId⟩ ∧
        ∃ moved,
          (network.tokens vault.token).transfer vaultAddress recipient amount = some moved ∧
          next = { network with
            tokens := Function.update network.tokens vault.token moved } := by
  simp only [release, bind_eq_ok, require_eq_ok, okOr_eq_ok, pure_eq_ok, not_or,
    transferToken_eq_ok, Prod.mk.injEq]
  constructor
  · rintro ⟨vault, hvault, -, hsender, -, ⟨hrecipient, hamount⟩, -, -, -, ⟨-, moved, hmoved,
      rfl⟩, rfl, rfl⟩
    exact ⟨vault, hvault, hsender, hrecipient, hamount, rfl, moved, hmoved, rfl⟩
  · rintro ⟨vault, hvault, hsender, hrecipient, hamount, rfl, moved, hmoved, rfl⟩
    have hheld := (Token.transfer_eq_some hmoved).1
    exact ⟨vault, hvault, (), hsender, (), ⟨hrecipient, hamount⟩, (), BitVec.not_lt.mpr hheld,
      _, ⟨hrecipient, moved, hmoved, rfl⟩, rfl, rfl⟩

/-- The executor with a nonce used. -/
def Executor.mark (executor : Executor) (nonce : Uint256) : Executor :=
  { executor with usedNonces := Function.update executor.usedNonces nonce true }

/-- When the executor executes the message of an authorization, and what it does. -/
theorem processMessage_eq_ok {authorization : SettlementHub.PayoutAuthorization} :
    processMessage network self sourceChainId emitter (SettlementHub.payload authorization) =
        .ok (next, released) ↔
      ∃ executor, network.executors self = some executor ∧
        sourceChainId = executor.creditcoinChainId ∧ emitter = executor.settlementEmitter ∧
        checkMessage executor self (messageOf authorization) = .ok () ∧
        network.now ≤ authorization.deadline ∧
        executor.usedNonces authorization.nonce = false ∧
        release
            { network with
              executors := Function.update network.executors self
                (some (executor.mark authorization.nonce)) }
            executor.liquidityVault self authorization.recipient authorization.amount
            authorization.settlementId = .ok (next, released) := by
  simp only [processMessage, decodeMessage_payload, bind_eq_ok, require_eq_ok, okOr_eq_ok,
    not_or, ne_eq, not_not, BitVec.not_lt, Except.ok.injEq]
  constructor
  · rintro ⟨executor, hexecutor, -, ⟨hchain, hemitter⟩, settlement, rfl, ⟨⟩, hcheck, -, htimely,
      -, hnonce, hrelease⟩
    exact ⟨executor, hexecutor, hchain, hemitter, hcheck, htimely, hnonce, hrelease⟩
  · rintro ⟨executor, hexecutor, hchain, hemitter, hcheck, htimely, hnonce, hrelease⟩
    exact ⟨executor, hexecutor, (), ⟨hchain, hemitter⟩, _, rfl, (), hcheck, (), htimely, (),
      hnonce, hrelease⟩

theorem checkMessage_eq_ok {executor : Executor} {settlement : SettlementMessage} :
    checkMessage executor self settlement = .ok () ↔
      settlement.settlementId ≠ 0 ∧ settlement.sourceNetwork ≠ 0 ∧
      settlement.sealedTipHeadHash ≠ 0 ∧ settlement.tinHash ≠ 0 ∧
      settlement.exitCommitment ≠ 0 ∧
      settlement.destinationNetwork = executor.destinationNetwork ∧
      settlement.destinationExecutor = self ∧ settlement.token = executor.settlementToken ∧
      settlement.recipient ≠ 0 ∧ settlement.amount ≠ 0 := by
  simp only [checkMessage, require_eq_ok, not_or, ne_eq, not_not]

end Effects

end TsnProtocol.Crosschain.DestinationNetwork
