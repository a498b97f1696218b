import TsnProtocol.Tcap.AssetGovernance

/-!
Deposits into custody, with and without a funding commitment, and the payout of
exit permits from custody.
-/

namespace TsnProtocol.Tcap.Funding

open Lib.Checked
open Solana.Address
open Tcap.State
open Tcap.Execution
open Tcap.Setup
open Tcap.AssetGovernance

variable (runtime : Runtime) (call : Call)

structure DepositAssetV2 where
  (depositor config assetEntry reserveState source vault mint tokenProgram : Pubkey)
  deriving DecidableEq

/-- What a deposit has loaded. -/
structure DepositAccounts where
  config : TcapGlobalConfigV1
  entry : TcapAssetEntryV1
  reserve : TcapReserveStateV1
  (source vault : TokenAccount)
  mint : Mint

/-- The account constraints of `DepositAssetV2`. -/
def loadDepositAssetV2 (accounts : DepositAssetV2) (world : World) :
    Result DepositAccounts := do
  signer call accounts.depositor
  let config ← loadConfig runtime world accounts.config
  let entry ← loadEntry runtime world accounts.assetEntry
  let reserve : TcapReserveStateV1 ← load world accounts.reserveState
  let source : TokenAccount ← load world accounts.source
  let vault : TokenAccount ← load world accounts.vault
  let mint : Mint ← load world accounts.mint
  tokenInterface accounts.tokenProgram
  check (config.paused = false) .protocolPaused
  check (entry.asset.tokenProgram = accounts.tokenProgram) .invalidTokenProgram
  check (entry.asset.mint = accounts.mint) .wrongAsset
  check (entry.depositsEnabled = true) .assetUnavailable
  check (entry.paused = false) .assetUnavailable
  check (entry.deprecated = false) .assetUnavailable
  check (entry.status = .active) .assetUnavailable
  check (entry.riskState = .approved) .assetUnavailable
  check (accounts.reserveState = entry.reserveState) .invalidReserve
  check (reserve.assetEntry = accounts.assetEntry) .invalidReserve
  check (reserve.futureVault = accounts.vault) .invalidReserve
  check (reserve.reserveAuthority = entry.reserveAuthority) .invalidReserve
  check (reserve.fundingEnabled = true) .assetUnavailable
  check (reserve.paused = false) .assetUnavailable
  check (source.mint = accounts.mint) .wrongAsset
  check (source.owner = accounts.depositor) .invalidDepositSource
  check (accounts.vault = entry.futureVault) .reserveVaultUnavailable
  check (vault.mint = accounts.mint) .wrongAsset
  check (vault.owner = entry.reserveAuthority) .invalidReserve
  return ⟨config, entry, reserve, source, vault, mint⟩

def depositAssetV2 (accounts : DepositAssetV2) (amount : Nat) (world : World) :
    Result World := do
  let loaded ← loadDepositAssetV2 runtime call accounts world
  check (0 < amount) .invalidDepositAmount
  check (loaded.source.program = accounts.tokenProgram) .invalidTokenProgram
  check (loaded.vault.program = accounts.tokenProgram) .invalidTokenProgram
  let vaultBefore := loaded.vault.amount
  check (loaded.reserve.actualAssets = vaultBefore) .invalidReserve
  let world ← transferChecked world call.signers accounts.tokenProgram accounts.source
    accounts.mint accounts.vault accounts.depositor amount loaded.mint.decimals
  let vault : TokenAccount ← load world accounts.vault
  let expectedVaultAfter ← addU64 vaultBefore amount
  check (vault.amount = expectedVaultAfter) .unexpectedTokenBalanceDelta
  let pendingLiabilities ← addU64 loaded.reserve.pendingLiabilities amount
  return world.insert accounts.reserveState (.reserve
    { loaded.reserve with
      actualAssets := vault.amount
      pendingLiabilities := pendingLiabilities })

structure DepositWithFundingCommitmentArgsV2 where
  (amount settlementMode : Nat)
  (destinationCommitment fundingIdentifier : Bytes32)
  (authorizationNonce expiresAtSlot : Nat)
  (feeAuthorizationCommitment randomnessCommitment domainSeparator expectedFundingCommitment
    : Bytes32)
  deriving DecidableEq

structure DepositWithFundingCommitmentV2 extends DepositAssetV2 where
  (registry fundingRoot fundingClaim fundingNonce : Pubkey)
  deriving DecidableEq

def fundingDomainSeparatorV3 (protocolVersion domainVersion : Nat)
    (assetCommitment : Bytes32) : Bytes32 :=
  runtime.hashv
    [.text "tcap:funding-domain:v3", .key tcapProgram, .uint 16 protocolVersion,
      .uint 16 domainVersion, .word assetCommitment]

def depositorAuthorizationCommitmentV3 (protocolVersion : Nat)
    (depositor assetEntry : Pubkey) (fundingIdentifier : Bytes32)
    (authorizationNonce expiresAtSlot : Nat) : Bytes32 :=
  runtime.hashv
    [.text "tcap:funding-auth:v3", .key tcapProgram, .uint 16 protocolVersion,
      .key depositor, .key assetEntry, .word fundingIdentifier,
      .uint 64 authorizationNonce, .uint 64 expiresAtSlot]

def fundingCommitmentV3 (protocolVersion : Nat)
    (reserveState tokenProgram mint : Pubkey)
    (assetCommitment depositorAuthorization : Bytes32)
    (args : DepositWithFundingCommitmentArgsV2) : Bytes32 :=
  runtime.hashv
    [.text "TCAP_FUNDING_CLAIM_V3", .key tcapProgram, .uint 16 protocolVersion,
      .key reserveState, .key tokenProgram, .key mint, .word assetCommitment,
      .uint 64 args.amount, .uint 8 args.settlementMode,
      .word args.destinationCommitment, .word depositorAuthorization,
      .word args.fundingIdentifier, .uint 64 args.authorizationNonce,
      .uint 64 args.expiresAtSlot, .word args.feeAuthorizationCommitment,
      .word args.randomnessCommitment, .word args.domainSeparator]

def validateAndAdvanceFundingNonce (current provided : Nat) : Result Nat := do
  check (current = provided) .invalidFundingAuthorizationNonce
  addU64 current 1

def nextReserveFundingAccounting (actualAssets pendingLiabilities amount : Nat) :
    Result (Nat × Nat) := do
  let nextActual ← addU64 actualAssets amount
  let nextPending ← addU64 pendingLiabilities amount
  check (nextPending ≤ nextActual) .insolventPendingFunding
  return (nextActual, nextPending)

def nextFundingSequence (current : Nat) : Result Nat :=
  addU64 current 1

def emptyFundingRoot (domainSeparator : Bytes32) (assetEntry : Pubkey) : Bytes32 :=
  runtime.hashv
    [.text "tcap:funding-empty-root:v1", .key tcapProgram, .word domainSeparator,
      .key assetEntry]

def nextFundingRoot (domainSeparator previousRoot commitment : Bytes32)
    (sequence : Nat) : Bytes32 :=
  runtime.hashv
    [.text "tcap:funding-root-step:v1", .key tcapProgram, .word domainSeparator,
      .word previousRoot, .word commitment, .uint 64 sequence]

/-- Settlement mode behind its wire byte. -/
def fundingSettlementMode (value : Nat) : Option FundingSettlementModeV1 :=
  match value with
  | 0 => some .confidentialOwner
  | 1 => some .publicWallet
  | _ => none

/-- Root and sequence a claim continues: those stored, or the empty ledger. -/
def startingFunding (root : FundingRootV1) (config : TcapGlobalConfigV1)
    (domain : Bytes32) (assetEntry : Pubkey) : Result (Bytes32 × Nat) :=
  if root.version = 0 then
    return (emptyFundingRoot runtime domain assetEntry, 0)
  else do
    check (root.version = tcapStateVersionV1 ∧
      root.protocolVersion = config.protocolVersion ∧
      root.assetEntry = assetEntry) .invalidFundingRoot
    return (root.currentRoot, root.sequence)

def depositWithFundingCommitmentV2 (accounts : DepositWithFundingCommitmentV2)
    (args : DepositWithFundingCommitmentArgsV2) (world : World) : Result World := do
  let loaded ← loadDepositAssetV2 runtime call accounts.toDepositAssetV2 world
  let registry ← loadRegistry runtime world accounts.registry
  check (registry.config = accounts.config) .invalidPda
  check (registry.frozen = false) .assetUnavailable
  check (loaded.entry.registry = accounts.registry) .invalidPda
  let root : FundingRootV1 ← loadOrInit world accounts.fundingRoot
    (deriveFundingRoot accounts.assetEntry) ⟨0, 0, Pubkey.default, 0, 0, 0, 0⟩
  vacant world accounts.fundingClaim
    (deriveFundingClaim accounts.assetEntry args.fundingIdentifier)
  let nonce : FundingAuthorizationNonceV1 ← loadOrInit world accounts.fundingNonce
    (deriveFundingAuthorizationNonce accounts.assetEntry accounts.depositor)
    ⟨0, Pubkey.default, Pubkey.default, 0, Pubkey.default, 0⟩
  check (0 < args.amount) .invalidDepositAmount
  check (args.destinationCommitment ≠ 0) .emptyCommitment
  check (args.fundingIdentifier ≠ 0) .emptyCommitment
  check (args.feeAuthorizationCommitment ≠ 0) .emptyCommitment
  check (args.randomnessCommitment ≠ 0) .emptyCommitment
  let settlementMode ←
    okOr (fundingSettlementMode args.settlementMode) (.tcap .invalidSettlementMode)
  check (call.slot < args.expiresAtSlot) .fundingAuthorizationExpired
  check (loaded.source.program = accounts.tokenProgram) .invalidTokenProgram
  check (loaded.vault.program = accounts.tokenProgram) .invalidTokenProgram
  let vaultBefore := loaded.vault.amount
  check (loaded.reserve.actualAssets = vaultBefore) .invalidReserve
  let expectedDomain := fundingDomainSeparatorV3 runtime
    loaded.config.protocolVersion loaded.config.domainVersion 0
  check (args.domainSeparator = expectedDomain) .invalidFundingDomain
  let authorizationCommitment := depositorAuthorizationCommitmentV3 runtime
    loaded.config.protocolVersion accounts.depositor accounts.assetEntry
    args.fundingIdentifier args.authorizationNonce args.expiresAtSlot
  let computedCommitment := fundingCommitmentV3 runtime
    loaded.config.protocolVersion accounts.reserveState accounts.tokenProgram
    accounts.mint 0 authorizationCommitment args
  check (computedCommitment = args.expectedFundingCommitment)
    .fundingCommitmentMismatch
  check (nonce.version ≠ 0 → nonce.version = tcapStateVersionV1 ∧
    nonce.assetEntry = accounts.assetEntry ∧ nonce.depositor = accounts.depositor)
    .invalidFundingAuthorizationNonce
  let nextNonce ← validateAndAdvanceFundingNonce nonce.nextNonce args.authorizationNonce
  let (newActualAssets, newPendingLiabilities) ← nextReserveFundingAccounting
    loaded.reserve.actualAssets loaded.reserve.pendingLiabilities args.amount
  let (previousRoot, startingSequence) ←
    startingFunding runtime root loaded.config expectedDomain accounts.assetEntry
  let nextSequence ← nextFundingSequence startingSequence
  let currentRoot :=
    nextFundingRoot runtime expectedDomain previousRoot computedCommitment nextSequence
  let world ← transferChecked world call.signers accounts.tokenProgram accounts.source
    accounts.mint accounts.vault accounts.depositor args.amount loaded.mint.decimals
  let vault : TokenAccount ← load world accounts.vault
  let expectedVaultAfter ← addU64 vaultBefore args.amount
  check (vault.amount = newActualAssets ∧ vault.amount = expectedVaultAfter)
    .unexpectedTokenBalanceDelta
  return (((world.insert accounts.reserveState (.reserve
    { loaded.reserve with
      actualAssets := vault.amount
      pendingLiabilities := newPendingLiabilities })).insert
    accounts.fundingClaim (.fundingClaim
      { version := tcapStateVersionV1
        protocolVersion := loaded.config.protocolVersion
        config := accounts.config
        assetEntry := accounts.assetEntry
        reserveState := accounts.reserveState
        fundingIdentifier := args.fundingIdentifier
        fundingCommitment := computedCommitment
        amount := args.amount
        settlementMode := settlementMode
        destinationCommitment := args.destinationCommitment
        depositorAuthorizationCommitment := authorizationCommitment
        authorizationNonce := args.authorizationNonce
        expiresAtSlot := args.expiresAtSlot
        feeAuthorizationCommitment := args.feeAuthorizationCommitment
        domainSeparator := expectedDomain
        fundingRootSequence := nextSequence
        bump := runtime.bump accounts.fundingClaim })).insert
    accounts.fundingRoot (.fundingRoot
      { version := tcapStateVersionV1
        protocolVersion := loaded.config.protocolVersion
        assetEntry := accounts.assetEntry
        currentRoot := currentRoot
        previousRoot := previousRoot
        sequence := nextSequence
        bump := runtime.bump accounts.fundingRoot })).insert
    accounts.fundingNonce (.fundingNonce
      { version := tcapStateVersionV1
        assetEntry := accounts.assetEntry
        depositor := accounts.depositor
        nextNonce := nextNonce
        lastFundingClaim := accounts.fundingClaim
        bump := runtime.bump accounts.fundingNonce })

structure PayoutTcapExitV1 where
  (authority config reserveState assetEntry permit reserveAuthority vault destination mint
    tokenProgram : Pubkey)
  deriving DecidableEq

/-- Commitment an exit permit makes to where it is paid. -/
def exitCommitment (permit : TcapExitPermitV1) (destinationOwner destination : Pubkey) :
    Bytes32 :=
  runtime.hashv
    [.text "TCAP_EXIT_COMMIT_V1", .key destinationOwner, .key destination,
      .uint 64 permit.amount, .key permit.mint, .word permit.nonce,
      .key permit.tip, .uint 64 permit.sequence]

def payoutTcapExitV1 (accounts : PayoutTcapExitV1) (destinationOwner : Pubkey)
    (world : World) : Result World := do
  signer call accounts.authority
  let _ ← loadConfig runtime world accounts.config
  let reserve : TcapReserveStateV1 ← load world accounts.reserveState
  let entry ← loadEntry runtime world accounts.assetEntry
  let permit : TcapExitPermitV1 ← load world accounts.permit
  let vault : TokenAccount ← load world accounts.vault
  let destination : TokenAccount ← load world accounts.destination
  let mint : Mint ← load world accounts.mint
  tokenInterface accounts.tokenProgram
  check (permit.consumed = false) .nullifierAlreadyConsumed
  seeds runtime accounts.reserveAuthority (deriveReserveAuthority accounts.assetEntry)
    reserve.reserveAuthorityBump
  check (reserve.assetEntry = accounts.assetEntry) .invalidReserve
  check (accounts.vault = entry.futureVault) .reserveVaultUnavailable
  check (destination.mint = entry.asset.mint) .wrongAsset
  check (accounts.mint = entry.asset.mint) .wrongAsset
  check (exitCommitment runtime permit destinationOwner accounts.destination =
    permit.destinationCommitment) .invalidTipAuthorization
  check (permit.mint = entry.asset.mint) .wrongAsset
  check (permit.amount ≤ vault.amount) .invalidReserveLiability
  -- the reserve authority signs the transfer as a derived address of the program
  let world ← transferChecked world (accounts.reserveAuthority :: call.signers)
    accounts.tokenProgram accounts.vault accounts.mint accounts.destination
    accounts.reserveAuthority permit.amount mint.decimals
  -- the vault is not reloaded: this is its balance from before the transfer
  let actualAssets ← subU64 vault.amount permit.amount
  return (world.insert accounts.reserveState
    (.reserve { reserve with actualAssets := actualAssets })).insert
    accounts.permit (.permit { permit with consumed := true })

structure MigrateAssetEntryCustodyGraphV2 where
  (governance config assetEntry governancePolicy assetState previousReserveState previousVault
    targetReserveState targetVault mint tokenProgram : Pubkey)
  deriving DecidableEq

def migrateAssetEntryCustodyGraphV2 (accounts : MigrateAssetEntryCustodyGraphV2)
    (world : World) : Result World := do
  signer call accounts.governance
  let config ← loadConfig runtime world accounts.config
  let entry ← loadEntry runtime world accounts.assetEntry
  let _ ← loadPolicy runtime world accounts.governancePolicy accounts.assetEntry
  let assetState : TcapAssetStateV1 ← load world accounts.assetState
  let previousReserve : TcapReserveStateV1 ← load world accounts.previousReserveState
  let previousVault : TokenAccount ← load world accounts.previousVault
  let targetReserve : TcapReserveStateV1 ← load world accounts.targetReserveState
  let targetVault : TokenAccount ← load world accounts.targetVault
  let _ : Mint ← load world accounts.mint
  tokenInterface accounts.tokenProgram
  governed config accounts.governance
  check (config.paused = false) .protocolPaused
  seeds runtime accounts.assetState
    (assetStateAddress accounts.tokenProgram accounts.mint) assetState.bump
  check (assetState.config = accounts.config) .invalidAssetPolicy
  check (assetState.tokenProgram = accounts.tokenProgram) .invalidTokenProgram
  check (assetState.mint = accounts.mint) .wrongAsset
  check (accounts.previousReserveState = entry.reserveState) .invalidReserve
  check (accounts.previousVault = entry.futureVault) .reserveVaultUnavailable
  check (previousVault.mint = accounts.mint) .wrongAsset
  check (previousVault.owner = entry.reserveAuthority) .invalidReserve
  check (accounts.targetReserveState = assetState.reserveState) .invalidReserve
  check (targetReserve.assetState = accounts.assetState) .invalidReserve
  check (targetReserve.futureVault = assetState.futureVault) .invalidReserve
  check (targetReserve.reserveAuthority = assetState.reserveAuthority) .invalidReserve
  check (accounts.targetVault = assetState.futureVault) .reserveVaultUnavailable
  check (targetVault.mint = accounts.mint) .wrongAsset
  check (targetVault.owner = assetState.reserveAuthority) .invalidReserve
  check (accounts.mint = entry.asset.mint) .wrongAsset
  check (accounts.tokenProgram = entry.asset.tokenProgram) .invalidTokenProgram
  requireV2InstructionEnabled config
  check (previousReserve.totalLiabilities = some 0) .invalidReserveLiability
  check (previousReserve.actualAssets = 0) .invalidReserveLiability
  check (previousVault.amount = 0) .invalidReserveLiability
  check (targetReserve.actualAssets = targetVault.amount) .invalidReserve
  let targetLiabilities ←
    okOr targetReserve.totalLiabilities (.tcap .arithmeticOverflow)
  check (targetLiabilities ≤ targetReserve.actualAssets) .invalidReserveLiability
  return world.insert accounts.assetEntry (.entry
    { entry with
      reserveState := assetState.reserveState
      futureVault := assetState.futureVault
      reserveAuthority := assetState.reserveAuthority })

structure MigrateReserveTransferPendingV1 where
  (governance config assetEntry reserveState : Pubkey)
  deriving DecidableEq

/-- Append the transfer bucket to a reserve of the older layout. -/
def migrateReserveTransferPendingV1 (accounts : MigrateReserveTransferPendingV1)
    (world : World) : Result World := do
  signer call accounts.governance
  let config ← loadConfig runtime world accounts.config
  let entry ← loadEntry runtime world accounts.assetEntry
  governed config accounts.governance
  check (accounts.reserveState = entry.reserveState) .invalidReserve
  match world.lookup accounts.reserveState with
  | some (.legacyReserve reserve) =>
      check (reserve.reserveAuthority ≠ Pubkey.default) .invalidReserve
      return world.insert accounts.reserveState
        (.reserve { reserve with transferPending := 0 })
  | _ => .error (.tcap .invalidPda)

end TsnProtocol.Tcap.Funding
