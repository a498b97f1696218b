import TsnProtocol.Escrow.CrankerFunding

/-!
Settlement in epochs. A treasury is funded for an epoch and a mint; what is promised to a
settlement lies in its DNA, and is either paid out through the vault of a cranker or refunded
to its sender.
-/

namespace TsnProtocol.Escrow.EpochSettlement

open Lib.Checked
open Solana.Address
open Escrow.State
open Escrow.Tokens

variable (runtime : Runtime) (call : Call)

structure ConfigurePrivateSettlement where
  (authority motherEscrow privateSettlementConfig : Pubkey)
  deriving DecidableEq

def configurePrivateSettlement (accounts : ConfigurePrivateSettlement)
    (permitSigner : Pubkey) (enabled : Bool) (world : World) : Result World := do
  signer call accounts.authority
  let motherEscrow ← load world.motherEscrows accounts.motherEscrow
  require (motherEscrow.authority = accounts.authority) .constraintHasOne
  let _ ← loadOrInit world.configs accounts.privateSettlementConfig
    (privateSettlementConfigAddress accounts.motherEscrow) PrivateSettlementConfig.zeroed
  check (permitSigner ≠ Pubkey.default) .invalidPermitSigner
  return { world with
    configs := world.configs.insert accounts.privateSettlementConfig
      { motherEscrow := accounts.motherEscrow
        authority := accounts.authority
        permitSigner := permitSigner
        enabled := enabled
        bump := runtime.bump accounts.privateSettlementConfig } }

structure CreateSettlementDna where
  (authority motherEscrow settlementDna : Pubkey)
  deriving DecidableEq

structure CreateSettlementDnaArgs where
  slot : Bytes32
  leaseVersion : Nat
  (commitmentDigest settlementCommitment payoutNullifier randomNonce : Bytes32)
  (cranker crankerVault recipient tokenMint : Pubkey)
  amount : Nat
  leaseIdHash : Bytes32
  (leaseExpiryTs authorizationExpiryTs : Int)
  deriving DecidableEq

def createSettlementDna (accounts : CreateSettlementDna) (args : CreateSettlementDnaArgs)
    (world : World) : Result World := do
  signer call accounts.authority
  let motherEscrow ← load world.motherEscrows accounts.motherEscrow
  require (accounts.authority = motherEscrow.authority) .constraintAddress
  let dna ← loadOrInit world.dnas accounts.settlementDna
    (settlementDnaAddress accounts.motherEscrow args.slot) SettlementDna.zeroed
  check (args.slot ≠ 0 ∧ args.commitmentDigest ≠ 0 ∧ args.settlementCommitment ≠ 0 ∧
    args.payoutNullifier ≠ 0 ∧ args.randomNonce ≠ 0 ∧ args.leaseIdHash ≠ 0 ∧
    args.cranker ≠ Pubkey.default ∧ args.crankerVault ≠ Pubkey.default ∧
    args.recipient ≠ Pubkey.default ∧ args.tokenMint ≠ Pubkey.default ∧
    0 < args.amount) .invalidPrivateCommitment
  check (call.now < args.authorizationExpiryTs ∧
    args.authorizationExpiryTs ≤ args.leaseExpiryTs) .permitExpired
  check (dna.motherEscrow = Pubkey.default ∨
    dna.status = .active ∧ dna.leaseExpiryTs < call.now) .invalidPrivateCommitment
  return { world with
    dnas := world.dnas.insert accounts.settlementDna
      { motherEscrow := accounts.motherEscrow
        slot := args.slot
        commitmentDigest := args.commitmentDigest
        settlementCommitment := args.settlementCommitment
        payoutNullifier := args.payoutNullifier
        randomNonce := args.randomNonce
        cranker := args.cranker
        crankerVault := args.crankerVault
        recipient := args.recipient
        tokenMint := args.tokenMint
        amount := args.amount
        leaseIdHash := args.leaseIdHash
        leaseVersion := args.leaseVersion
        leaseExpiryTs := args.leaseExpiryTs
        authorizationExpiryTs := args.authorizationExpiryTs
        status := .active
        bump := runtime.bump accounts.settlementDna } }

structure FundEpochTreasury where
  (funder motherEscrow funderTokenAccount tokenMint epochTreasury epochLedger treasuryAuthority
    treasuryTokenAccount : Pubkey)
  deriving DecidableEq

/-- A treasury that nobody has funded yet is set up for its epoch and mint. -/
def openTreasury (accounts : FundEpochTreasury) (epochId : Nat) (treasury : EpochTreasury) :
    EpochTreasury :=
  if treasury.motherEscrow = Pubkey.default then
    { treasury with
      motherEscrow := accounts.motherEscrow
      epochId := epochId
      tokenMint := accounts.tokenMint
      tokenAccount := accounts.treasuryTokenAccount
      bump := runtime.bump accounts.epochTreasury }
  else treasury

/-- The ledger of such a treasury is set up with it. -/
def openLedger (accounts : FundEpochTreasury) (epochId : Nat)
    (ledger : EpochSettlementLedger) : EpochSettlementLedger :=
  if ledger.epochTreasury = Pubkey.default then
    { ledger with
      epochTreasury := accounts.epochTreasury
      epochId := epochId
      tokenMint := accounts.tokenMint
      bump := runtime.bump accounts.epochLedger }
  else ledger

def fundEpochTreasury (accounts : FundEpochTreasury) (epochId amount : Nat)
    (world : World) : Result World := do
  signer call accounts.funder
  let motherEscrow ← load world.motherEscrows accounts.motherEscrow
  let funderToken ← load world.tokens accounts.funderTokenAccount
  require (funderToken.owner = accounts.funder) .constraintRaw
  require (funderToken.mint = accounts.tokenMint) .constraintRaw
  require (accounts.tokenMint ∈ world.mints) .accountNotInitialized
  let storedTreasury ← loadOrInit world.treasuries accounts.epochTreasury
    (epochTreasuryAddress accounts.motherEscrow epochId accounts.tokenMint)
    EpochTreasury.zeroed
  let storedLedger ← loadOrInit world.ledgers accounts.epochLedger
    (epochLedgerAddress accounts.epochTreasury) EpochSettlementLedger.zeroed
  derivedAt accounts.treasuryAuthority (treasuryAuthorityAddress accounts.epochTreasury)
  let opened ← openAssociated world.tokens accounts.treasuryTokenAccount
    accounts.treasuryAuthority accounts.tokenMint
  check (0 < amount) .invalidPayoutAmount
  check (epochId = motherEscrow.epochId) .epochNotReady
  check (storedTreasury.closed = false ∧ storedLedger.closed = false) .epochNotReady
  let treasury := openTreasury runtime accounts epochId storedTreasury
  check (treasury.motherEscrow = accounts.motherEscrow) .invalidMotherEscrowAccount
  check (treasury.tokenAccount = accounts.treasuryTokenAccount)
    .invalidEpochTreasuryTokenAccount
  let ledger := openLedger runtime accounts epochId storedLedger
  let tokens ← transfer opened call.signers accounts.funderTokenAccount
    accounts.treasuryTokenAccount accounts.funder amount
  let totalFunded ← addU64 treasury.totalFunded amount .feeSplitOverflow
  let pendingLiability ← addU64 treasury.pendingLiability amount .feeSplitOverflow
  let pendingTotal ← addU64 ledger.pendingTotal amount .feeSplitOverflow
  return { world with
    tokens := tokens
    treasuries := world.treasuries.insert accounts.epochTreasury
      { treasury with totalFunded := totalFunded, pendingLiability := pendingLiability }
    ledgers := world.ledgers.insert accounts.epochLedger
      { ledger with pendingTotal := pendingTotal } }

/-- `to_le_bytes` of an `i64`. -/
def i64 (value : Int) : Chunk :=
  .uint 64 (value % 2 ^ 64).toNat

/-- The permit in the instruction before names this signer, signature and message. -/
def verifyEd25519Permit (permitSigner : Pubkey) (signature : BitVec 512)
    (message : List Chunk) : Result Unit := do
  let permit ← okOr call.permit (.tsn .missingPermitVerification)
  check (permit.signature = signature) .invalidPermitVerification
  check (permit.signer = permitSigner) .invalidPermitVerification
  check (permit.message = message) .invalidPermitVerification

/-- The accounts payouts and refunds share. -/
structure SettlementAccounts where
  (operator motherEscrow privateSettlementConfig epochTreasury epochLedger settlementDna
    claimSlot treasuryAuthority treasuryTokenAccount tokenMint : Pubkey)
  deriving DecidableEq

/-- What a payout or a refund has loaded. -/
structure Settlement where
  config : PrivateSettlementConfig
  treasury : EpochTreasury
  ledger : EpochSettlementLedger
  dna : SettlementDna
  claimSlot : EpochClaimSlot
  treasuryToken : TokenAccount

/-- The account constraints payouts and refunds share. -/
def loadSettlement (accounts : SettlementAccounts) (slot : Bytes32) (world : World) :
    Result Settlement := do
  signer call accounts.operator
  let _ ← load world.motherEscrows accounts.motherEscrow
  let config ← load world.configs accounts.privateSettlementConfig
  seeds runtime accounts.privateSettlementConfig
    (privateSettlementConfigAddress accounts.motherEscrow) config.bump
  require (config.motherEscrow = accounts.motherEscrow) .constraintHasOne
  let treasury ← load world.treasuries accounts.epochTreasury
  require (treasury.motherEscrow = accounts.motherEscrow) .constraintHasOne
  require (treasury.tokenAccount = accounts.treasuryTokenAccount) .constraintRaw
  require (treasury.tokenMint = accounts.tokenMint) .constraintRaw
  let ledger ← load world.ledgers accounts.epochLedger
  seeds runtime accounts.epochLedger (epochLedgerAddress accounts.epochTreasury) ledger.bump
  require (ledger.epochTreasury = accounts.epochTreasury) .constraintHasOne
  require (ledger.tokenMint = accounts.tokenMint) .constraintRaw
  let dna ← load world.dnas accounts.settlementDna
  seeds runtime accounts.settlementDna (settlementDnaAddress accounts.motherEscrow slot)
    dna.bump
  require (dna.motherEscrow = accounts.motherEscrow) .constraintHasOne
  let claimSlot ← loadOrInit world.claimSlots accounts.claimSlot
    (claimSlotAddress accounts.epochTreasury slot) EpochClaimSlot.zeroed
  derivedAt accounts.treasuryAuthority (treasuryAuthorityAddress accounts.epochTreasury)
  let treasuryToken ← load world.tokens accounts.treasuryTokenAccount
  require (accounts.tokenMint ∈ world.mints) .accountNotInitialized
  return ⟨config, treasury, ledger, dna, claimSlot, treasuryToken⟩

/-- The associated account of a wallet is created when there is none. -/
def createIfMissing (tokens : Tokens) (key wallet mint : Pubkey) : Tokens :=
  match tokens.lookup key with
  | none => tokens.insert key ⟨mint, wallet, 0⟩
  | some _ => tokens

structure ExecutePrivatePayout extends SettlementAccounts where
  (cranker crankerVault vaultAuthority vaultTokenAccount recipientWallet recipientTokenAccount
    : Pubkey)
  deriving DecidableEq

structure ExecutePrivatePayoutArgs where
  (slot settlementCommitment commitmentDigest randomNonce payoutNullifier : Bytes32)
  (payoutAmount claimFeeAmount : Nat)
  leaseIdHash : Bytes32
  leaseVersion : Nat
  (leaseExpiryTs expiresAtTs : Int)
  permitSignature : BitVec 512
  deriving DecidableEq

/-- What a settlement commits to: the treasury it is paid from and the terms of the
payout. -/
def settlementCommitment (epochTreasury epochLedger crankerVault recipient tokenMint : Pubkey)
    (args : ExecutePrivatePayoutArgs) : Bytes32 :=
  runtime.hashv
    [.text "TSN_SETTLEMENT_COMMITMENT_V2", .key epochTreasury, .key epochLedger,
      .word args.slot, .word args.commitmentDigest, .word args.randomNonce,
      .word args.payoutNullifier, .key crankerVault, .key recipient, .key tokenMint,
      .uint 64 args.payoutAmount, .uint 64 args.claimFeeAmount, .word args.leaseIdHash,
      .uint 64 args.leaseVersion, i64 args.leaseExpiryTs, i64 args.expiresAtTs]

def slotSettlementMessage (accounts : ExecutePrivatePayout)
    (args : ExecutePrivatePayoutArgs) : List Chunk :=
  [.text "TSN_PRIVATE_SLOT_SETTLEMENT_V1", .key tsnProgram, .key accounts.motherEscrow,
    .key accounts.operator, .key accounts.epochTreasury, .key accounts.epochLedger,
    .key accounts.claimSlot, .word args.slot, .word args.settlementCommitment,
    .word args.commitmentDigest, .word args.randomNonce, .word args.payoutNullifier,
    .key accounts.crankerVault, .key accounts.recipientWallet, .key accounts.tokenMint,
    .uint 64 args.payoutAmount, .uint 64 args.claimFeeAmount, .word args.leaseIdHash,
    .uint 64 args.leaseVersion, i64 args.leaseExpiryTs, i64 args.expiresAtTs]

/-- The accounts only a payout has: its cranker, and the vault it is paid through. -/
def loadPayout (accounts : ExecutePrivatePayout) (world : World) :
    Result (Cranker × CrankerVault × TokenAccount) := do
  let cranker ← load world.crankers accounts.cranker
  require (cranker.motherEscrow = accounts.motherEscrow) .constraintHasOne
  require (cranker.operator = accounts.operator) .constraintRaw
  let vault ← load world.vaults accounts.crankerVault
  require (vault.motherEscrow = accounts.motherEscrow) .constraintHasOne
  require (vault.cranker = accounts.cranker) .constraintRaw
  require (vault.vaultTokenAccount = accounts.vaultTokenAccount) .constraintRaw
  require (vault.tokenMint = accounts.tokenMint) .constraintRaw
  seeds runtime accounts.vaultAuthority (vaultAuthorityAddress accounts.crankerVault)
    vault.vaultAuthorityBump
  let vaultToken ← load world.tokens accounts.vaultTokenAccount
  require (vaultToken.owner = accounts.vaultAuthority) .constraintRaw
  require (vaultToken.mint = accounts.tokenMint) .constraintRaw
  return (cranker, vault, vaultToken)

/-- The DNA is active and holds exactly the terms of the payout. -/
def MatchesPayout (dna : SettlementDna) (accounts : ExecutePrivatePayout)
    (args : ExecutePrivatePayoutArgs) : Prop :=
  dna.status = .active ∧ dna.slot = args.slot ∧
    dna.settlementCommitment = args.settlementCommitment ∧
    dna.commitmentDigest = args.commitmentDigest ∧ dna.randomNonce = args.randomNonce ∧
    dna.payoutNullifier = args.payoutNullifier ∧ dna.cranker = accounts.cranker ∧
    dna.crankerVault = accounts.crankerVault ∧ dna.recipient = accounts.recipientWallet ∧
    dna.tokenMint = accounts.tokenMint ∧ dna.amount = args.payoutAmount ∧
    dna.leaseIdHash = args.leaseIdHash ∧ dna.leaseVersion = args.leaseVersion ∧
    dna.leaseExpiryTs = args.leaseExpiryTs ∧ dna.authorizationExpiryTs = args.expiresAtTs

instance (dna : SettlementDna) (accounts : ExecutePrivatePayout)
    (args : ExecutePrivatePayoutArgs) : Decidable (MatchesPayout dna accounts args) := by
  unfold MatchesPayout
  infer_instance

/-- The checks of a payout, before any token moves. -/
def checkPayout (accounts : ExecutePrivatePayout) (args : ExecutePrivatePayoutArgs)
    (loaded : Settlement) (vaultToken : TokenAccount) : Result Unit := do
  check (loaded.config.enabled = true) .privateSettlementDisabled
  check (loaded.ledger.epochTreasury = accounts.epochTreasury) .invalidPrivateCommitment
  check (0 < args.payoutAmount ∧ args.slot ≠ 0 ∧ args.commitmentDigest ≠ 0)
    .invalidPrivateCommitment
  check (call.now ≤ args.expiresAtTs ∧ args.expiresAtTs ≤ args.leaseExpiryTs) .permitExpired
  check (args.payoutAmount ≤ loaded.treasury.pendingLiability ∧
    args.payoutAmount ≤ loaded.ledger.pendingTotal) .invalidLiquidityReservation
  check (args.payoutAmount ≤ vaultToken.amount) .insufficientCrankerVaultLiquidity
  check (args.payoutAmount ≤ loaded.treasuryToken.amount) .insufficientEpochTreasuryLiquidity
  check (accounts.recipientTokenAccount =
    getAssociatedTokenAddress accounts.recipientWallet accounts.tokenMint)
    .invalidRecoveryDestination
  check (loaded.claimSlot.epochTreasury = Pubkey.default ∧
    loaded.claimSlot.settlementCommitment = 0) .oneTimeDecryptionTokenAlreadyUsed
  check (MatchesPayout loaded.dna accounts args) .invalidPrivateCommitment
  check (settlementCommitment runtime accounts.epochTreasury accounts.epochLedger
    accounts.crankerVault accounts.recipientWallet accounts.tokenMint args =
    args.settlementCommitment) .invalidPrivateCommitment
  verifyEd25519Permit call loaded.config.permitSigner args.permitSignature
    (slotSettlementMessage accounts args)

/-- The vault pays the recipient and the treasury pays the vault. -/
def payoutTransfers (accounts : ExecutePrivatePayout) (amount : Nat) (tokens : Tokens) :
    Result Tokens := do
  let paid ← transfer (createIfMissing tokens accounts.recipientTokenAccount
    accounts.recipientWallet accounts.tokenMint) (accounts.vaultAuthority :: call.signers)
    accounts.vaultTokenAccount accounts.recipientTokenAccount accounts.vaultAuthority amount
  transfer paid (accounts.treasuryAuthority :: call.signers) accounts.treasuryTokenAccount
    accounts.vaultTokenAccount accounts.treasuryAuthority amount

def executePrivatePayout (accounts : ExecutePrivatePayout) (args : ExecutePrivatePayoutArgs)
    (world : World) : Result World := do
  let loaded ← loadSettlement runtime call accounts.toSettlementAccounts args.slot world
  let (cranker, vault, vaultToken) ← loadPayout runtime accounts world
  checkPayout runtime call accounts args loaded vaultToken
  let tokens ← payoutTransfers call accounts args.payoutAmount world.tokens
  let pendingLiability ← subU64 loaded.treasury.pendingLiability args.payoutAmount
    .invalidLiquidityReservation
  let settledTotal ← addU64 loaded.treasury.settledTotal args.payoutAmount .feeSplitOverflow
  let pendingTotal ← subU64 loaded.ledger.pendingTotal args.payoutAmount
    .invalidLiquidityReservation
  let ledgerSettledTotal ←
    addU64 loaded.ledger.settledTotal args.payoutAmount .feeSplitOverflow
  let slotCount ← addU64 loaded.ledger.slotCount 1 .feeSplitOverflow
  let unpaid ← subU64 vault.totalLiquidity args.payoutAmount .insufficientCrankerVaultLiquidity
  let totalLiquidity ← addU64 unpaid args.payoutAmount .feeSplitOverflow
  let totalRewardsAccrued ←
    addU64 vault.totalRewardsAccrued args.claimFeeAmount .feeSplitOverflow
  let reimbursedTotal ←
    addU64 loaded.treasury.reimbursedTotal args.payoutAmount .feeSplitOverflow
  return { world with
    tokens := tokens
    treasuries := world.treasuries.insert accounts.epochTreasury
      { loaded.treasury with
        pendingLiability := pendingLiability
        settledTotal := settledTotal
        reimbursedTotal := reimbursedTotal }
    ledgers := world.ledgers.insert accounts.epochLedger
      { loaded.ledger with
        pendingTotal := pendingTotal
        settledTotal := ledgerSettledTotal
        slotCount := slotCount }
    claimSlots := world.claimSlots.insert accounts.claimSlot
      { epochTreasury := accounts.epochTreasury
        slot := args.slot
        amount := args.payoutAmount
        tokenMint := accounts.tokenMint
        status := .settled
        settlementCranker := accounts.cranker
        crankerVault := accounts.crankerVault
        commitmentDigest := args.commitmentDigest
        settlementCommitment := args.settlementCommitment
        payoutNullifier := args.payoutNullifier
        randomNonce := args.randomNonce
        recipient := accounts.recipientWallet
        leaseIdHash := args.leaseIdHash
        leaseVersion := args.leaseVersion
        leaseExpiryTs := args.leaseExpiryTs
        authorizationExpiryTs := args.expiresAtTs
        reimbursed := true
        bump := runtime.bump accounts.claimSlot }
    vaults := world.vaults.insert accounts.crankerVault
      { vault with
        totalLiquidity := totalLiquidity
        totalRewardsAccrued := totalRewardsAccrued }
    dnas := world.dnas.insert accounts.settlementDna { loaded.dna with status := .consumed }
    crankers := world.crankers.insert accounts.cranker
      { cranker with
        claimCredits := cranker.claimCredits - 1
        totalClaims := saturatingAddU64 cranker.totalClaims 1
        totalExecutes := saturatingAddU64 cranker.totalExecutes 1
        lastActiveTs := call.now } }

structure RefundEpochClaim extends SettlementAccounts where
  (senderWallet senderTokenAccount : Pubkey)
  deriving DecidableEq

structure RefundEpochClaimArgs where
  slot : Bytes32
  leaseVersion : Nat
  (commitmentDigest refundNullifier : Bytes32)
  refundAmount : Nat
  expiresAtTs : Int
  permitSignature : BitVec 512
  deriving DecidableEq

def slotRefundMessage (accounts : RefundEpochClaim) (args : RefundEpochClaimArgs) :
    List Chunk :=
  [.text "TSN_PRIVATE_SLOT_REFUND_V1", .key tsnProgram, .key accounts.motherEscrow,
    .key accounts.operator, .key accounts.epochTreasury, .key accounts.epochLedger,
    .key accounts.claimSlot, .word args.slot, .uint 64 args.leaseVersion,
    .word args.commitmentDigest, .key accounts.senderWallet, .key accounts.tokenMint,
    .uint 64 args.refundAmount, .word args.refundNullifier, i64 args.expiresAtTs]

def refundCommitment (accounts : RefundEpochClaim) (args : RefundEpochClaimArgs) : Bytes32 :=
  runtime.hashv
    [.text "TSN_REFUND_COMMITMENT_V1", .key accounts.epochTreasury, .word args.slot,
      .word args.commitmentDigest, .word args.refundNullifier, .key accounts.senderWallet,
      .key accounts.tokenMint, .uint 64 args.refundAmount, i64 args.expiresAtTs]

/-- The DNA is active and holds these terms of the refund. -/
def MatchesRefund (dna : SettlementDna) (args : RefundEpochClaimArgs) : Prop :=
  dna.status = .active ∧ dna.slot = args.slot ∧
    dna.commitmentDigest = args.commitmentDigest ∧
    dna.payoutNullifier = args.refundNullifier ∧ dna.amount = args.refundAmount ∧
    dna.leaseVersion = args.leaseVersion

instance (dna : SettlementDna) (args : RefundEpochClaimArgs) :
    Decidable (MatchesRefund dna args) := by
  unfold MatchesRefund
  infer_instance

/-- The checks of a refund, before any token moves. -/
def checkRefund (accounts : RefundEpochClaim) (args : RefundEpochClaimArgs)
    (loaded : Settlement) : Result Unit := do
  check (loaded.config.enabled = true ∧ call.now ≤ args.expiresAtTs ∧
    call.now ≤ loaded.dna.authorizationExpiryTs ∧
    args.expiresAtTs ≤ loaded.dna.authorizationExpiryTs ∧ 0 < args.refundAmount ∧
    args.slot ≠ 0) .permitExpired
  check (loaded.ledger.epochTreasury = accounts.epochTreasury) .invalidPrivateCommitment
  check (loaded.claimSlot.epochTreasury = Pubkey.default ∧
    loaded.claimSlot.settlementCommitment = 0) .oneTimeDecryptionTokenAlreadyUsed
  check (MatchesRefund loaded.dna args) .invalidPrivateCommitment
  check (args.refundAmount ≤ loaded.treasury.pendingLiability ∧
    args.refundAmount ≤ loaded.ledger.pendingTotal) .invalidLiquidityReservation
  verifyEd25519Permit call loaded.config.permitSigner args.permitSignature
    (slotRefundMessage accounts args)
  check (accounts.senderTokenAccount =
    getAssociatedTokenAddress accounts.senderWallet accounts.tokenMint)
    .invalidRecoveryDestination

def refundEpochClaim (accounts : RefundEpochClaim) (args : RefundEpochClaimArgs)
    (world : World) : Result World := do
  let loaded ← loadSettlement runtime call accounts.toSettlementAccounts args.slot world
  checkRefund call accounts args loaded
  let tokens ← transfer (createIfMissing world.tokens accounts.senderTokenAccount
    accounts.senderWallet accounts.tokenMint) (accounts.treasuryAuthority :: call.signers)
    accounts.treasuryTokenAccount accounts.senderTokenAccount accounts.treasuryAuthority
    args.refundAmount
  let refundedTotal ← addU64 loaded.treasury.refundedTotal args.refundAmount .feeSplitOverflow
  let ledgerRefundedTotal ←
    addU64 loaded.ledger.refundedTotal args.refundAmount .feeSplitOverflow
  let slotCount ← addU64 loaded.ledger.slotCount 1 .feeSplitOverflow
  -- both pending amounts were compared with the refund above
  return { world with
    tokens := tokens
    treasuries := world.treasuries.insert accounts.epochTreasury
      { loaded.treasury with
        pendingLiability := loaded.treasury.pendingLiability - args.refundAmount
        refundedTotal := refundedTotal }
    ledgers := world.ledgers.insert accounts.epochLedger
      { loaded.ledger with
        pendingTotal := loaded.ledger.pendingTotal - args.refundAmount
        refundedTotal := ledgerRefundedTotal
        slotCount := slotCount }
    claimSlots := world.claimSlots.insert accounts.claimSlot
      { epochTreasury := accounts.epochTreasury
        slot := args.slot
        amount := args.refundAmount
        tokenMint := accounts.tokenMint
        status := .refunded
        settlementCranker := Pubkey.default
        crankerVault := Pubkey.default
        commitmentDigest := args.commitmentDigest
        settlementCommitment := refundCommitment runtime accounts args
        payoutNullifier := args.refundNullifier
        randomNonce := 0
        recipient := accounts.senderWallet
        leaseIdHash := 0
        leaseVersion := 0
        leaseExpiryTs := args.expiresAtTs
        authorizationExpiryTs := args.expiresAtTs
        reimbursed := true
        bump := runtime.bump accounts.claimSlot }
    dnas := world.dnas.insert accounts.settlementDna { loaded.dna with status := .consumed } }

structure CloseEpochTreasury where
  (authority motherEscrow epochTreasury epochLedger treasuryAuthority treasuryTokenAccount : Pubkey)
  deriving DecidableEq

/-- Treasury and ledger are marked closed, and then removed by their `close` constraints. -/
def closeEpochTreasury (accounts : CloseEpochTreasury) (world : World) : Result World := do
  signer call accounts.authority
  let motherEscrow ← load world.motherEscrows accounts.motherEscrow
  require (accounts.authority = motherEscrow.authority) .constraintAddress
  let treasury ← load world.treasuries accounts.epochTreasury
  require (treasury.motherEscrow = accounts.motherEscrow) .constraintHasOne
  let ledger ← load world.ledgers accounts.epochLedger
  require (ledger.epochTreasury = accounts.epochTreasury) .constraintHasOne
  derivedAt accounts.treasuryAuthority (treasuryAuthorityAddress accounts.epochTreasury)
  let treasuryToken ← load world.tokens accounts.treasuryTokenAccount
  require (accounts.treasuryTokenAccount = treasury.tokenAccount) .constraintAddress
  check (treasury.closed = false ∧ treasury.pendingLiability = 0 ∧
    treasury.reimbursedTotal = treasury.settledTotal ∧ treasuryToken.amount = 0)
    .epochNotReady
  require (treasuryToken.owner = accounts.treasuryAuthority) .token
  return { world with
    tokens := world.tokens.erase accounts.treasuryTokenAccount
    treasuries := world.treasuries.erase accounts.epochTreasury
    ledgers := world.ledgers.erase accounts.epochLedger }

end TsnProtocol.Escrow.EpochSettlement
