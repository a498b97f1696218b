import TsnProtocol.Tcap.Setup

/-!
Governance of assets: registration, approval, operation, and the custody
accounts of an asset.
-/

namespace TsnProtocol.Tcap.AssetGovernance

open Lib.Checked
open Solana.Address
open Tcap.State
open Tcap.Execution
open Tcap.Setup

def extensionConfidentialTransfer : BitVec 64 := 1
def extensionMetadataPointer : BitVec 64 := 2
def extensionTokenMetadata : BitVec 64 := 4

def supportedExtensionBitmap : BitVec 64 :=
  extensionConfidentialTransfer ||| extensionMetadataPointer ||| extensionTokenMetadata

def requireV2InstructionEnabled (config : TcapGlobalConfigV1) : Result Unit :=
  check (config.minimumInstructionVersion ≤ tcapInstructionVersionV2)
    .invalidInstructionVersion

/-- `Interface<'info, TokenInterface>`: one of the two token programs. -/
def tokenInterface (key : Pubkey) : Result Unit :=
  require (key = splTokenProgram ∨ key = token2022Program) .constraintAddress

structure MintExtensionInspection where
  bitmap : BitVec 64
  configHash : Bytes32
  (confidentialTransferEnabled metadataPointerEnabled tokenMetadataEnabled : Bool)
  deriving DecidableEq

def validateTokenProgram (mint : Mint) (tokenProgram : Pubkey) : Result Unit := do
  check (mint.program = tokenProgram) .invalidTokenProgram
  check (tokenProgram = splTokenProgram ∨ tokenProgram = token2022Program)
    .invalidTokenProgram

def validateExpectedMintAuthority (mint : Mint) (expected : Pubkey) : Result Unit :=
  check (mint.mintAuthority.getD Pubkey.default = expected) .invalidMintAuthority

def validateExpectedFreezeAuthority (mint : Mint) (expected : Pubkey) : Result Unit :=
  check (mint.freezeAuthority.getD Pubkey.default = expected) .invalidFreezeAuthority

def validateMintProfile (profile : TcapAssetMintProfileV2)
    (requiredExtensionBitmap allowedExtensionBitmap : BitVec 64)
    (inspection : MintExtensionInspection) : Result Unit := do
  check (requiredExtensionBitmap &&& ~~~allowedExtensionBitmap = 0) .invalidAssetPolicy
  check (allowedExtensionBitmap &&& ~~~supportedExtensionBitmap = 0)
    .unsupportedTokenExtension
  check (inspection.bitmap &&& requiredExtensionBitmap = requiredExtensionBitmap)
    .extensionPolicyMismatch
  check (inspection.bitmap &&& ~~~allowedExtensionBitmap = 0)
    .unsupportedTokenExtension
  match profile with
  | .standardPublic =>
      check (inspection.confidentialTransferEnabled = false ∧
        requiredExtensionBitmap &&& extensionConfidentialTransfer = 0)
        .invalidMintProfile
  | .confidentialTransferEnabled =>
      check (inspection.confidentialTransferEnabled = true ∧
        requiredExtensionBitmap &&& extensionConfidentialTransfer ≠ 0)
        .invalidMintProfile

/-- Fold one mint extension into the inspection; an unknown one is refused. -/
def inspectExtension (inspection : MintExtensionInspection) :
    ExtensionType → Result MintExtensionInspection
  | .uninitialized => .ok inspection
  | .confidentialTransferMint =>
      .ok { inspection with
        bitmap := inspection.bitmap ||| extensionConfidentialTransfer
        confidentialTransferEnabled := true }
  | .metadataPointer =>
      .ok { inspection with
        bitmap := inspection.bitmap ||| extensionMetadataPointer
        metadataPointerEnabled := true }
  | .tokenMetadata =>
      .ok { inspection with
        bitmap := inspection.bitmap ||| extensionTokenMetadata
        tokenMetadataEnabled := true }
  | .other _ => .error (.tcap .unsupportedTokenExtension)

variable (runtime : Runtime) (call : Call)

def inspectExtensions (data : Mint) (tokenProgram mint : Pubkey) :
    Result MintExtensionInspection := do
  let empty : MintExtensionInspection := ⟨0, 0, false, false, false⟩
  let inspection ←
    if tokenProgram = token2022Program then
      data.extensions.foldlM inspectExtension empty
    else
      pure empty
  return { inspection with
    configHash := runtime.hashv
      [.text "trustlink:tcap:asset-extension-policy:v2", .key tokenProgram,
        .key mint, .uint 8 data.decimals, .uint 64 inspection.bitmap.toNat,
        .bytes data.extensionBytes] }

def verifyExtensionPolicy (data : Mint) (mint tokenProgram : Pubkey)
    (policy : TcapAssetExtensionPolicyV2) : Result Unit := do
  validateTokenProgram data tokenProgram
  check (mint = policy.mint) .wrongAsset
  check (tokenProgram = policy.tokenProgram) .invalidTokenProgram
  check (data.decimals = policy.decimals) .invalidMintDecimals
  validateExpectedMintAuthority data policy.expectedMintAuthority
  validateExpectedFreezeAuthority data policy.expectedFreezeAuthority
  let inspection ← inspectExtensions runtime data tokenProgram mint
  check (inspection.bitmap = policy.extensionBitmap ∧
    inspection.configHash = policy.extensionConfigHash) .extensionPolicyMismatch
  validateMintProfile policy.mintProfile policy.requiredExtensionBitmap
    policy.allowedExtensionBitmap inspection

/-- An asset entry at the address derived from the registry, token program and
mint given. -/
def entrySeeds (key registry tokenProgram mint : Pubkey) (entry : TcapAssetEntryV1) :
    Result Unit :=
  seeds runtime key (assetEntryAddress registry tokenProgram mint) entry.bump

/-- An asset entry at the address derived from its own fields. -/
def loadEntry (world : World) (key : Pubkey) : Result TcapAssetEntryV1 := do
  let entry : TcapAssetEntryV1 ← load world key
  entrySeeds runtime key entry.registry entry.asset.tokenProgram entry.asset.mint entry
  return entry

/-- The governance policy of an entry. -/
def loadPolicy (world : World) (key entry : Pubkey) :
    Result TcapAssetGovernancePolicyV2 := do
  let policy : TcapAssetGovernancePolicyV2 ← load world key
  seeds runtime key (deriveAssetGovernancePolicy entry) policy.bump
  check (policy.assetEntry = entry) .invalidAssetPolicy
  return policy

/-- The extension policy of an entry. -/
def loadExtensionPolicy (world : World) (key entry : Pubkey) :
    Result TcapAssetExtensionPolicyV2 := do
  let policy : TcapAssetExtensionPolicyV2 ← load world key
  seeds runtime key (deriveAssetExtensionPolicy entry) policy.bump
  check (policy.assetEntry = entry) .invalidAssetPolicy
  return policy

/-- The registry, at its canonical address. -/
def loadRegistry (world : World) (key : Pubkey) : Result TcapAssetRegistryV1 := do
  let registry : TcapAssetRegistryV1 ← load world key
  seeds runtime key assetRegistryAddress registry.bump
  return registry

section Loads

variable {runtime : Runtime} {world : World} {key entryKey : Pubkey}

@[simp] theorem entrySeeds_eq_ok {registry tokenProgram mint : Pubkey}
    {entry : TcapAssetEntryV1} {result : Unit} :
    entrySeeds runtime key registry tokenProgram mint entry = .ok result ↔
      key = assetEntryAddress registry tokenProgram mint ∧
        entry.bump = runtime.bump (assetEntryAddress registry tokenProgram mint) := by
  simp [entrySeeds]

theorem loadEntry_eq_ok {entry : TcapAssetEntryV1}
    (hload : loadEntry runtime world key = .ok entry) :
    world.lookup key = some (.entry entry) := by
  simp only [loadEntry, bind_eq_ok, load_eq_ok, pure_eq_ok] at hload
  obtain ⟨_, hlookup, _, -, rfl⟩ := hload
  exact hlookup

theorem loadPolicy_eq_ok {policy : TcapAssetGovernancePolicyV2}
    (hload : loadPolicy runtime world key entryKey = .ok policy) :
    world.lookup key = some (.policy policy) := by
  simp only [loadPolicy, bind_eq_ok, load_eq_ok, pure_eq_ok] at hload
  obtain ⟨_, hlookup, _, -, _, -, rfl⟩ := hload
  exact hlookup

theorem loadRegistry_eq_ok {registry : TcapAssetRegistryV1}
    (hload : loadRegistry runtime world key = .ok registry) :
    world.lookup key = some (.registry registry) ∧ key = assetRegistryAddress := by
  simp only [loadRegistry, bind_eq_ok, load_eq_ok, seeds_eq_ok, pure_eq_ok] at hload
  obtain ⟨_, hlookup, _, ⟨hkey, -⟩, rfl⟩ := hload
  exact ⟨hlookup, hkey⟩

end Loads

/-- The signer is the governance authority of the configuration. -/
def governed (config : TcapGlobalConfigV1) (governance : Pubkey) : Result Unit :=
  check (governance = config.governanceAuthority) .invalidAuthority

structure RaiseMinimumInstructionVersionV2 where
  (governance config : Pubkey)
  deriving DecidableEq

def raiseMinimumInstructionVersionV2 (accounts : RaiseMinimumInstructionVersionV2)
    (world : World) : Result World := do
  signer call accounts.governance
  let config ← loadConfig runtime world accounts.config
  governed config accounts.governance
  check (config.minimumInstructionVersion ≤ tcapInstructionVersionV2)
    .invalidInstructionVersion
  if config.minimumInstructionVersion = tcapInstructionVersionV2 then
    return world
  else
    return world.insert accounts.config
      (.config { config with minimumInstructionVersion := tcapInstructionVersionV2 })

structure RegisterGovernedAssetArgsV2 where
  (assetCommitment governanceApproval : Bytes32)
  expectedDecimals : Nat
  (expectedMintAuthority expectedFreezeAuthority : Pubkey)
  mintProfile : TcapAssetMintProfileV2
  (requiredExtensionBitmap allowedExtensionBitmap : BitVec 64)
  deriving DecidableEq

def initializeGovernancePolicy (config : TcapGlobalConfigV1) (registry : Pubkey)
    (entryKey : Pubkey) (entry : TcapAssetEntryV1) : TcapAssetGovernancePolicyV2 where
  version := tcapAssetPolicyVersionV2
  policyVersion := 1
  registry := registry
  assetEntry := entryKey
  mint := entry.asset.mint
  tokenProgram := entry.asset.tokenProgram
  approvalStatus := .pending
  operationalStatus := .inactive
  depositsEnabled := false
  settlementsEnabled := false
  publicExitEnabled := false
  confidentialSettlementEnabled := false
  reserveInitialized := false
  vaultInitialized := false
  deprecatedIrreversible := false
  lastUpdatedSlot := call.slot
  authority := config.governanceAuthority
  bump := runtime.bump (deriveAssetGovernancePolicy entryKey)

def initializeExtensionPolicy (entryKey : Pubkey) (entry : TcapAssetEntryV1)
    (inspection : MintExtensionInspection) (args : RegisterGovernedAssetArgsV2) :
    TcapAssetExtensionPolicyV2 where
  version := tcapAssetPolicyVersionV2
  assetEntry := entryKey
  mint := entry.asset.mint
  tokenProgram := entry.asset.tokenProgram
  decimals := entry.decimals
  mintProfile := args.mintProfile
  requiredExtensionBitmap := args.requiredExtensionBitmap
  allowedExtensionBitmap := args.allowedExtensionBitmap
  extensionBitmap := inspection.bitmap
  extensionConfigHash := inspection.configHash
  expectedMintAuthority := args.expectedMintAuthority
  expectedFreezeAuthority := args.expectedFreezeAuthority
  confidentialTransferEnabled := inspection.confidentialTransferEnabled
  metadataPointerEnabled := inspection.metadataPointerEnabled
  tokenMetadataEnabled := inspection.tokenMetadataEnabled
  bump := runtime.bump (deriveAssetExtensionPolicy entryKey)

structure RegisterGovernedAssetV2 where
  (registryAuthority config registry mint tokenProgram assetEntry governancePolicy
    extensionPolicy : Pubkey)
  deriving DecidableEq

def registerGovernedAssetV2 (accounts : RegisterGovernedAssetV2)
    (args : RegisterGovernedAssetArgsV2) (world : World) : Result World := do
  signer call accounts.registryAuthority
  let config ← loadConfig runtime world accounts.config
  let registry ← loadRegistry runtime world accounts.registry
  let mint : Mint ← load world accounts.mint
  tokenInterface accounts.tokenProgram
  vacant world accounts.assetEntry
    (assetEntryAddress accounts.registry accounts.tokenProgram accounts.mint)
  vacant world accounts.governancePolicy
    (deriveAssetGovernancePolicy accounts.assetEntry)
  vacant world accounts.extensionPolicy
    (deriveAssetExtensionPolicy accounts.assetEntry)
  check (accounts.registryAuthority = config.registryAuthority) .invalidAuthority
  check (config.paused = false) .protocolPaused
  check (registry.frozen = false) .assetUnavailable
  requireV2InstructionEnabled config
  check (args.assetCommitment ≠ 0) .emptyCommitment
  check (args.governanceApproval ≠ 0) .emptyCommitment
  check (mint.decimals = args.expectedDecimals) .invalidMintDecimals
  validateTokenProgram mint accounts.tokenProgram
  validateExpectedMintAuthority mint args.expectedMintAuthority
  validateExpectedFreezeAuthority mint args.expectedFreezeAuthority
  let inspection ←
    inspectExtensions runtime mint accounts.tokenProgram accounts.mint
  validateMintProfile args.mintProfile args.requiredExtensionBitmap
    args.allowedExtensionBitmap inspection
  let entryCount ←
    okOr (checkedAdd 32 registry.entryCount 1) (.tcap .arithmeticOverflow)
  let entry : TcapAssetEntryV1 :=
    { version := tcapStateVersionV1
      protocolVersion := config.protocolVersion
      registry := accounts.registry
      tokenId := entryCount
      asset :=
        { tokenProgram := accounts.tokenProgram
          mint := accounts.mint
          registryVersion := registry.registryVersion
          assetCommitment := args.assetCommitment }
      reserveState := deriveReserveState accounts.assetEntry
      futureVault := deriveFutureVault accounts.assetEntry
      reserveAuthority := deriveReserveAuthority accounts.assetEntry
      decimals := mint.decimals
      depositsEnabled := false
      withdrawalsEnabled := false
      paused := true
      transferFeePolicy := 0
      freezeAuthorityPolicy := mint.freezeAuthority.isSome.toNat
      issuerControlPolicy := mint.mintAuthority.isSome.toNat
      governanceApproval := args.governanceApproval
      status := .proposed
      riskState := .pendingReview
      deprecated := false
      bump := runtime.bump accounts.assetEntry }
  return (((world.insert accounts.assetEntry (.entry entry)).insert
    accounts.governancePolicy (.policy
      (initializeGovernancePolicy runtime call config accounts.registry
        accounts.assetEntry entry))).insert
    accounts.extensionPolicy (.extensionPolicy
      (initializeExtensionPolicy runtime accounts.assetEntry entry inspection args))).insert
    accounts.registry (.registry { registry with entryCount := entryCount })

structure MigrateLegacyAssetPolicyArgsV2 where
  (expectedMintAuthority expectedFreezeAuthority : Pubkey)
  mintProfile : TcapAssetMintProfileV2
  (requiredExtensionBitmap allowedExtensionBitmap : BitVec 64)
  deriving DecidableEq

structure MigrateLegacyAssetPolicyV2 where
  (governance config registry assetEntry mint tokenProgram governancePolicy extensionPolicy
    : Pubkey)
  deriving DecidableEq

def migrateLegacyAssetPolicyV2 (accounts : MigrateLegacyAssetPolicyV2)
    (args : MigrateLegacyAssetPolicyArgsV2) (world : World) : Result World := do
  signer call accounts.governance
  let config ← loadConfig runtime world accounts.config
  let _ ← loadRegistry runtime world accounts.registry
  let entry : TcapAssetEntryV1 ← load world accounts.assetEntry
  let mint : Mint ← load world accounts.mint
  tokenInterface accounts.tokenProgram
  vacant world accounts.governancePolicy
    (deriveAssetGovernancePolicy accounts.assetEntry)
  vacant world accounts.extensionPolicy
    (deriveAssetExtensionPolicy accounts.assetEntry)
  governed config accounts.governance
  entrySeeds runtime accounts.assetEntry accounts.registry entry.asset.tokenProgram
    entry.asset.mint entry
  check (entry.registry = accounts.registry) .invalidPda
  check (accounts.mint = entry.asset.mint) .wrongAsset
  check (accounts.tokenProgram = entry.asset.tokenProgram) .invalidTokenProgram
  requireV2InstructionEnabled config
  validateTokenProgram mint accounts.tokenProgram
  check (entry.decimals = mint.decimals) .invalidMintDecimals
  validateExpectedMintAuthority mint args.expectedMintAuthority
  validateExpectedFreezeAuthority mint args.expectedFreezeAuthority
  let inspection ←
    inspectExtensions runtime mint accounts.tokenProgram accounts.mint
  validateMintProfile args.mintProfile args.requiredExtensionBitmap
    args.allowedExtensionBitmap inspection
  let entry := { entry with
    depositsEnabled := false
    withdrawalsEnabled := false
    paused := true
    status := .proposed
    riskState := .pendingReview }
  let registration : RegisterGovernedAssetArgsV2 :=
    { assetCommitment := entry.asset.assetCommitment
      governanceApproval := entry.governanceApproval
      expectedDecimals := entry.decimals
      expectedMintAuthority := args.expectedMintAuthority
      expectedFreezeAuthority := args.expectedFreezeAuthority
      mintProfile := args.mintProfile
      requiredExtensionBitmap := args.requiredExtensionBitmap
      allowedExtensionBitmap := args.allowedExtensionBitmap }
  return ((world.insert accounts.assetEntry (.entry entry)).insert
    accounts.governancePolicy (.policy
      (initializeGovernancePolicy runtime call config accounts.registry
        accounts.assetEntry entry))).insert
    accounts.extensionPolicy (.extensionPolicy
      (initializeExtensionPolicy runtime accounts.assetEntry entry inspection
        registration))

structure GovernAssetV2 where
  (governance config registry assetEntry governancePolicy : Pubkey)
  deriving DecidableEq

/-- The account constraints of `GovernAssetV2`. -/
def loadGovernAssetV2 (accounts : GovernAssetV2) (world : World) :
    Result (TcapGlobalConfigV1 × TcapAssetEntryV1 × TcapAssetGovernancePolicyV2) := do
  signer call accounts.governance
  let config ← loadConfig runtime world accounts.config
  let _ ← loadRegistry runtime world accounts.registry
  let entry : TcapAssetEntryV1 ← load world accounts.assetEntry
  governed config accounts.governance
  entrySeeds runtime accounts.assetEntry accounts.registry entry.asset.tokenProgram
    entry.asset.mint entry
  check (entry.registry = accounts.registry) .invalidPda
  let policy ←
    loadPolicy runtime world accounts.governancePolicy accounts.assetEntry
  check (policy.registry = accounts.registry) .invalidAssetPolicy
  return (config, entry, policy)

/-- Approval changes an entry may see, with the risk state they leave. -/
def approvalTransition :
    TcapAssetApprovalStatusV2 → TcapAssetApprovalStatusV2 → Option TcapRiskStateV1
  | .pending, .approved => some .approved
  | .pending, .rejected => some .blocked
  | .rejected, .pending => some .pendingReview
  | _, _ => none

def setAssetApprovalV2 (accounts : GovernAssetV2)
    (newStatus : TcapAssetApprovalStatusV2) (world : World) : Result World := do
  let (config, entry, policy) ← loadGovernAssetV2 runtime call accounts world
  requireV2InstructionEnabled config
  check (policy.deprecatedIrreversible = false) .deprecatedAssetImmutable
  check (policy.operationalStatus = .inactive) .invalidAssetOperationalStatus
  if policy.approvalStatus = newStatus then
    return world
  else
    let riskState ←
      okOr (approvalTransition policy.approvalStatus newStatus)
        (.tcap .invalidAssetPolicy)
    return (world.insert accounts.governancePolicy (.policy
        { policy with approvalStatus := newStatus, lastUpdatedSlot := call.slot })).insert
      accounts.assetEntry (.entry { entry with riskState := riskState })

def setAssetSettlementPolicyV2 (accounts : GovernAssetV2)
    (settlementsEnabled publicExitEnabled confidentialSettlementEnabled : Bool)
    (world : World) : Result World := do
  let (config, _, policy) ← loadGovernAssetV2 runtime call accounts world
  requireV2InstructionEnabled config
  check (settlementsEnabled = false ∧ publicExitEnabled = false ∧
    confidentialSettlementEnabled = false) .settlementNotImplemented
  return world.insert accounts.governancePolicy (.policy
    { policy with
      settlementsEnabled := false
      publicExitEnabled := false
      confidentialSettlementEnabled := false
      lastUpdatedSlot := call.slot })

structure ManageOperationalAssetV2 where
  (governance config registry assetEntry governancePolicy extensionPolicy reserveState mint
    vault tokenProgram : Pubkey)
  deriving DecidableEq

/-- What an instruction on an operational asset has loaded. -/
structure OperationalAsset where
  config : TcapGlobalConfigV1
  entry : TcapAssetEntryV1
  policy : TcapAssetGovernancePolicyV2
  extensionPolicy : TcapAssetExtensionPolicyV2
  reserve : TcapReserveStateV1
  mint : Mint
  vault : TokenAccount

/-- The account constraints of `ManageOperationalAssetV2`. -/
def loadManageOperationalAssetV2 (accounts : ManageOperationalAssetV2)
    (world : World) : Result OperationalAsset := do
  signer call accounts.governance
  let config ← loadConfig runtime world accounts.config
  let registry ← loadRegistry runtime world accounts.registry
  let entry : TcapAssetEntryV1 ← load world accounts.assetEntry
  let policy ←
    loadPolicy runtime world accounts.governancePolicy accounts.assetEntry
  let extensionPolicy ←
    loadExtensionPolicy runtime world accounts.extensionPolicy accounts.assetEntry
  let reserve : TcapReserveStateV1 ← load world accounts.reserveState
  let mint : Mint ← load world accounts.mint
  let vault : TokenAccount ← load world accounts.vault
  tokenInterface accounts.tokenProgram
  governed config accounts.governance
  check (registry.config = accounts.config) .invalidPda
  entrySeeds runtime accounts.assetEntry accounts.registry accounts.tokenProgram
    accounts.mint entry
  check (entry.registry = accounts.registry) .invalidPda
  check (policy.registry = accounts.registry) .invalidAssetPolicy
  check (policy.mint = accounts.mint) .invalidAssetPolicy
  check (policy.tokenProgram = accounts.tokenProgram) .invalidAssetPolicy
  check (accounts.reserveState = entry.reserveState) .invalidReserve
  check (reserve.assetEntry = accounts.assetEntry) .invalidReserve
  check (reserve.futureVault = accounts.vault) .invalidReserve
  check (reserve.reserveAuthority = entry.reserveAuthority) .invalidReserve
  check (accounts.mint = entry.asset.mint) .wrongAsset
  check (accounts.vault = entry.futureVault) .reserveVaultUnavailable
  check (vault.mint = accounts.mint) .wrongAsset
  check (vault.owner = entry.reserveAuthority) .invalidReserve
  check (accounts.tokenProgram = entry.asset.tokenProgram) .invalidTokenProgram
  return ⟨config, entry, policy, extensionPolicy, reserve, mint, vault⟩

/-- `force_disable` on the policy. -/
def forceDisablePolicy (policy : TcapAssetGovernancePolicyV2) :
    TcapAssetGovernancePolicyV2 :=
  { policy with
    depositsEnabled := false
    settlementsEnabled := false
    publicExitEnabled := false
    confidentialSettlementEnabled := false }

/-- `force_disable` on the entry. -/
def forceDisableEntry (entry : TcapAssetEntryV1) : TcapAssetEntryV1 :=
  { entry with depositsEnabled := false, withdrawalsEnabled := false }

/-- `force_disable` on the reserve. -/
def forceDisableReserve (reserve : TcapReserveStateV1) :
    TcapReserveStateV1 :=
  { reserve with fundingEnabled := false, paused := true }

/-- Write back the three accounts an operational change touches. -/
def writeOperational (accounts : ManageOperationalAssetV2) (world : World)
    (policy : TcapAssetGovernancePolicyV2) (entry : TcapAssetEntryV1)
    (reserve : TcapReserveStateV1) : World :=
  ((world.insert accounts.governancePolicy (.policy policy)).insert
    accounts.assetEntry (.entry entry)).insert accounts.reserveState (.reserve reserve)

/-- Checks made before an asset becomes or stays active. -/
def strictActivationChecks (accounts : ManageOperationalAssetV2)
    (newStatus : TcapAssetOperationalStatusV2) (asset : OperationalAsset) :
    Result Unit := do
  if newStatus = .active then
    verifyExtensionPolicy runtime asset.mint accounts.mint accounts.tokenProgram
      asset.extensionPolicy
    check (asset.vault.program = accounts.tokenProgram) .invalidTokenProgram
    check (asset.reserve.actualAssets = asset.vault.amount) .invalidReserve
    check (asset.policy.approvalStatus = .approved) .assetNotApproved
    check (asset.policy.reserveInitialized = true) .reserveNotInitialized
    check (asset.policy.vaultInitialized = true) .vaultNotInitialized

def setAssetOperationalStatusV2 (accounts : ManageOperationalAssetV2)
    (newStatus : TcapAssetOperationalStatusV2) (world : World) : Result World := do
  let asset ← loadManageOperationalAssetV2 runtime call accounts world
  requireV2InstructionEnabled asset.config
  check (asset.policy.deprecatedIrreversible = true → newStatus = .deprecated)
    .deprecatedAssetImmutable
  strictActivationChecks runtime accounts newStatus asset
  if asset.policy.operationalStatus = newStatus then
    return world
  else
    let policy : TcapAssetGovernancePolicyV2 :=
      { asset.policy with operationalStatus := newStatus, lastUpdatedSlot := call.slot }
    match newStatus with
    | .inactive =>
        return writeOperational accounts world (forceDisablePolicy policy)
          { forceDisableEntry asset.entry with status := .proposed, paused := true }
          (forceDisableReserve asset.reserve)
    | .active =>
        return writeOperational accounts world policy
          { asset.entry with status := .active, paused := false, deprecated := false }
          { asset.reserve with paused := false }
    | .paused =>
        return writeOperational accounts world (forceDisablePolicy policy)
          { forceDisableEntry asset.entry with status := .depositsPaused, paused := true }
          (forceDisableReserve asset.reserve)
    | .deprecated =>
        return writeOperational accounts world
          { forceDisablePolicy policy with deprecatedIrreversible := true }
          { forceDisableEntry asset.entry with
            status := .deprecated
            riskState := .blocked
            paused := true
            deprecated := true }
          (forceDisableReserve asset.reserve)

def revokeAssetApprovalV2 (accounts : ManageOperationalAssetV2) (world : World) :
    Result World := do
  let asset ← loadManageOperationalAssetV2 runtime call accounts world
  requireV2InstructionEnabled asset.config
  check (asset.policy.deprecatedIrreversible = false) .deprecatedAssetImmutable
  if asset.policy.approvalStatus = .revoked then
    return world
  else
    check (asset.policy.approvalStatus = .approved) .invalidAssetPolicy
    return writeOperational accounts world
      { forceDisablePolicy asset.policy with
        approvalStatus := .revoked
        operationalStatus := .paused
        lastUpdatedSlot := call.slot }
      { forceDisableEntry asset.entry with
        status := .depositsPaused
        riskState := .blocked
        paused := true }
      (forceDisableReserve asset.reserve)

structure InitializeGovernedReserveV2 where
  (governance config assetEntry governancePolicy reserveState reserveAuthority futureVault : Pubkey)
  deriving DecidableEq

def initializeGovernedReserveV2 (accounts : InitializeGovernedReserveV2)
    (world : World) : Result World := do
  signer call accounts.governance
  let config ← loadConfig runtime world accounts.config
  let entry ← loadEntry runtime world accounts.assetEntry
  let policy ←
    loadPolicy runtime world accounts.governancePolicy accounts.assetEntry
  vacant world accounts.reserveState (deriveReserveState accounts.assetEntry)
  check (entry.reserveState = accounts.reserveState) .invalidReserve
  governed config accounts.governance
  check (policy.approvalStatus = .approved) .assetNotApproved
  atAddress accounts.reserveAuthority (deriveReserveAuthority accounts.assetEntry)
  atAddress accounts.futureVault (deriveFutureVault accounts.assetEntry)
  requireV2InstructionEnabled config
  return (world.insert accounts.reserveState (.reserve
    { version := tcapStateVersionV1
      protocolVersion := config.protocolVersion
      assetState := Pubkey.default
      assetEntry := accounts.assetEntry
      futureVault := accounts.futureVault
      reserveAuthority := accounts.reserveAuthority
      actualAssets := 0
      pendingLiabilities := 0
      settledConfidentialLiabilities := 0
      authorizedWithdrawalLiabilities := 0
      reservedRefundLiabilities := 0
      accountingEpoch := 0
      fundingEnabled := false
      paused := true
      bump := runtime.bump accounts.reserveState
      reserveAuthorityBump := runtime.bump accounts.reserveAuthority
      futureVaultBump := runtime.bump accounts.futureVault
      transferPending := 0 })).insert
    accounts.governancePolicy (.policy
      { policy with reserveInitialized := true, lastUpdatedSlot := call.slot })

structure InitializeGovernedVaultV2 where
  (governance config assetEntry governancePolicy extensionPolicy reserveState mint
    reserveAuthority vault tokenProgram : Pubkey)
  deriving DecidableEq

def initializeGovernedVaultV2 (accounts : InitializeGovernedVaultV2)
    (world : World) : Result World := do
  signer call accounts.governance
  let config ← loadConfig runtime world accounts.config
  let entry ← loadEntry runtime world accounts.assetEntry
  let policy ←
    loadPolicy runtime world accounts.governancePolicy accounts.assetEntry
  let extensionPolicy ←
    loadExtensionPolicy runtime world accounts.extensionPolicy accounts.assetEntry
  let reserve : TcapReserveStateV1 ← load world accounts.reserveState
  let mint : Mint ← load world accounts.mint
  tokenInterface accounts.tokenProgram
  vacant world accounts.vault (deriveFutureVault accounts.assetEntry)
  check (entry.futureVault = accounts.vault) .invalidReserve
  governed config accounts.governance
  check (policy.reserveInitialized = true) .reserveNotInitialized
  check (extensionPolicy.mint = accounts.mint) .invalidAssetPolicy
  check (extensionPolicy.tokenProgram = accounts.tokenProgram) .invalidAssetPolicy
  check (accounts.reserveState = entry.reserveState) .invalidReserve
  check (accounts.mint = entry.asset.mint) .wrongAsset
  seeds runtime accounts.reserveAuthority (deriveReserveAuthority accounts.assetEntry)
    reserve.reserveAuthorityBump
  check (accounts.tokenProgram = entry.asset.tokenProgram) .invalidTokenProgram
  requireV2InstructionEnabled config
  verifyExtensionPolicy runtime mint accounts.mint accounts.tokenProgram extensionPolicy
  check (reserve.futureVault = accounts.vault) .invalidReserve
  return (world.insert accounts.vault (.token
    { program := accounts.tokenProgram
      mint := accounts.mint
      owner := accounts.reserveAuthority
      amount := 0 })).insert
    accounts.governancePolicy (.policy
      { policy with vaultInitialized := true, lastUpdatedSlot := call.slot })

structure SyncGovernedAssetInfrastructureV2 where
  (governance config assetEntry governancePolicy extensionPolicy reserveState mint vault
    tokenProgram : Pubkey)
  deriving DecidableEq

def reconcileDonatedVaultAssets (previousActualAssets vaultAmount totalLiabilities : Nat) :
    Result Nat := do
  check (previousActualAssets ≤ vaultAmount) .unexpectedTokenBalanceDelta
  check (totalLiabilities ≤ vaultAmount) .insolventPendingFunding
  return vaultAmount

def syncGovernedAssetInfrastructureV2 (accounts : SyncGovernedAssetInfrastructureV2)
    (world : World) : Result World := do
  signer call accounts.governance
  let config ← loadConfig runtime world accounts.config
  let entry ← loadEntry runtime world accounts.assetEntry
  let policy ←
    loadPolicy runtime world accounts.governancePolicy accounts.assetEntry
  let extensionPolicy ←
    loadExtensionPolicy runtime world accounts.extensionPolicy accounts.assetEntry
  let reserve : TcapReserveStateV1 ← load world accounts.reserveState
  let mint : Mint ← load world accounts.mint
  let vault : TokenAccount ← load world accounts.vault
  tokenInterface accounts.tokenProgram
  governed config accounts.governance
  check (extensionPolicy.mint = accounts.mint) .invalidAssetPolicy
  check (extensionPolicy.tokenProgram = accounts.tokenProgram) .invalidAssetPolicy
  check (accounts.reserveState = entry.reserveState) .invalidReserve
  check (reserve.assetEntry = accounts.assetEntry) .invalidReserve
  check (reserve.futureVault = entry.futureVault) .invalidReserve
  check (reserve.reserveAuthority = entry.reserveAuthority) .invalidReserve
  check (accounts.mint = entry.asset.mint) .wrongAsset
  check (accounts.vault = entry.futureVault) .reserveVaultUnavailable
  check (vault.mint = accounts.mint) .wrongAsset
  check (vault.owner = entry.reserveAuthority) .invalidReserve
  check (accounts.tokenProgram = entry.asset.tokenProgram) .invalidTokenProgram
  requireV2InstructionEnabled config
  verifyExtensionPolicy runtime mint accounts.mint accounts.tokenProgram extensionPolicy
  check (vault.program = accounts.tokenProgram) .invalidTokenProgram
  let totalLiabilities ← okOr reserve.totalLiabilities (.tcap .arithmeticOverflow)
  let newActualAssets ←
    reconcileDonatedVaultAssets reserve.actualAssets vault.amount totalLiabilities
  return (world.insert accounts.reserveState
    (.reserve { reserve with actualAssets := newActualAssets })).insert
    accounts.governancePolicy (.policy
      { policy with
        reserveInitialized := true
        vaultInitialized := true
        lastUpdatedSlot := call.slot })

/-- Checks made before deposits are enabled. -/
def depositEnableChecks (accounts : SyncGovernedAssetInfrastructureV2) (enabled : Bool)
    (asset : OperationalAsset) : Result Unit := do
  if enabled then
    check (asset.config.paused = false) .protocolPaused
    check (asset.policy.approvalStatus = .approved) .assetNotApproved
    check (asset.policy.operationalStatus = .active) .invalidAssetOperationalStatus
    check (asset.policy.reserveInitialized = true) .reserveNotInitialized
    check (asset.policy.vaultInitialized = true) .vaultNotInitialized
    verifyExtensionPolicy runtime asset.mint accounts.mint accounts.tokenProgram
      asset.extensionPolicy
    check (asset.vault.program = accounts.tokenProgram) .invalidTokenProgram
    check (asset.reserve.actualAssets = asset.vault.amount) .invalidReserve

def setGovernedDepositPolicyV2 (accounts : SyncGovernedAssetInfrastructureV2)
    (enabled : Bool) (world : World) : Result World := do
  signer call accounts.governance
  let config ← loadConfig runtime world accounts.config
  let entry ← loadEntry runtime world accounts.assetEntry
  let policy ←
    loadPolicy runtime world accounts.governancePolicy accounts.assetEntry
  let extensionPolicy ←
    loadExtensionPolicy runtime world accounts.extensionPolicy accounts.assetEntry
  let reserve : TcapReserveStateV1 ← load world accounts.reserveState
  let mint : Mint ← load world accounts.mint
  let vault : TokenAccount ← load world accounts.vault
  tokenInterface accounts.tokenProgram
  governed config accounts.governance
  check (policy.mint = accounts.mint) .invalidAssetPolicy
  check (policy.tokenProgram = accounts.tokenProgram) .invalidAssetPolicy
  check (extensionPolicy.mint = accounts.mint) .invalidAssetPolicy
  check (extensionPolicy.tokenProgram = accounts.tokenProgram) .invalidAssetPolicy
  check (accounts.reserveState = entry.reserveState) .invalidReserve
  check (accounts.mint = entry.asset.mint) .wrongAsset
  check (accounts.vault = entry.futureVault) .reserveVaultUnavailable
  check (vault.mint = accounts.mint) .wrongAsset
  check (vault.owner = entry.reserveAuthority) .invalidReserve
  check (accounts.tokenProgram = entry.asset.tokenProgram) .invalidTokenProgram
  requireV2InstructionEnabled config
  depositEnableChecks runtime accounts enabled
    ⟨config, entry, policy, extensionPolicy, reserve, mint, vault⟩
  if policy.depositsEnabled = enabled then
    return world
  else
    return ((world.insert accounts.governancePolicy (.policy
        { policy with depositsEnabled := enabled, lastUpdatedSlot := call.slot })).insert
      accounts.assetEntry (.entry { entry with depositsEnabled := enabled })).insert
      accounts.reserveState (.reserve { reserve with fundingEnabled := enabled })

end TsnProtocol.Tcap.AssetGovernance
