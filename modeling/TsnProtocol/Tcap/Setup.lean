import TsnProtocol.Tcap.Execution

/-!
Instructions that set up the protocol and its shared accounts.
-/

namespace TsnProtocol.Tcap.Setup

open Lib.Checked
open Solana.Address
open Tcap.State
open Tcap.Execution

variable (runtime : Runtime) (call : Call)

/-- The global configuration, at its canonical address. -/
def loadConfig (world : World) (key : Pubkey) : Result TcapGlobalConfigV1 := do
  let config : TcapGlobalConfigV1 ← load world key
  seeds runtime key globalConfigAddress config.bump
  return config

@[simp] theorem loadConfig_eq_ok {runtime : Runtime} {world : World} {key : Pubkey}
    {config : TcapGlobalConfigV1} :
    loadConfig runtime world key = .ok config ↔
      world.lookup key = some (.config config) ∧
        key = globalConfigAddress ∧ config.bump = runtime.bump globalConfigAddress := by
  constructor
  · intro hload
    simp only [loadConfig, bind_eq_ok, load_eq_ok, seeds_eq_ok, pure_eq_ok] at hload
    obtain ⟨_, hlookup, _, hseeds, rfl⟩ := hload
    exact ⟨hlookup, hseeds⟩
  · rintro ⟨hlookup, rfl, hbump⟩
    simp [loadConfig, hlookup, hbump]

structure InitializeTcapV1 where
  (governance config approvedTsnProgram assetRegistry commitmentRootState : Pubkey)
  deriving DecidableEq

structure InitializeTcapArgsV1 where
  protocolVersion : Nat
  (emergencyAuthority registryAuthority approvedTsnProgram : Pubkey)
  domainVersion : Nat
  deriving DecidableEq

def initializeTcapV1 (accounts : InitializeTcapV1) (args : InitializeTcapArgsV1)
    (world : World) : Result World := do
  signer call accounts.governance
  vacant world accounts.config globalConfigAddress
  executable world accounts.approvedTsnProgram
  atAddress accounts.assetRegistry assetRegistryAddress
  atAddress accounts.commitmentRootState commitmentRootAddress
  check (0 < args.protocolVersion) .invalidPda
  check (0 < args.domainVersion) .invalidPda
  check (args.approvedTsnProgram = accounts.approvedTsnProgram) .invalidTsnProgram
  -- the system program has the all-zero id, so one comparison serves both checks
  check (args.approvedTsnProgram ≠ Pubkey.default) .invalidTsnProgram
  check (args.approvedTsnProgram ≠ tcapProgram) .invalidTsnProgram
  check (args.emergencyAuthority ≠ Pubkey.default) .invalidAuthority
  check (args.registryAuthority ≠ Pubkey.default) .invalidAuthority
  return world.insert accounts.config (.config
    { version := tcapStateVersionV1
      protocolVersion := args.protocolVersion
      minimumInstructionVersion := tcapInstructionVersionV1
      governanceAuthority := accounts.governance
      registryAuthority := args.registryAuthority
      assetRegistry := accounts.assetRegistry
      emergencyAuthority := args.emergencyAuthority
      approvedTsnProgram := args.approvedTsnProgram
      proofVerifierProgram := Pubkey.default
      proofVerifierEnabled := false
      paused := false
      commitmentRootState := accounts.commitmentRootState
      domainVersion := args.domainVersion
      migrationState := .development
      bump := runtime.bump globalConfigAddress })

structure InitializeAssetRegistryV1 where
  (registryAuthority config registry : Pubkey)
  deriving DecidableEq

def initializeAssetRegistryV1 (accounts : InitializeAssetRegistryV1)
    (world : World) : Result World := do
  signer call accounts.registryAuthority
  let config ← loadConfig runtime world accounts.config
  vacant world accounts.registry assetRegistryAddress
  check (config.assetRegistry = accounts.registry) .invalidPda
  check (accounts.registryAuthority = config.registryAuthority) .invalidAuthority
  return world.insert accounts.registry (.registry
    { version := tcapStateVersionV1
      config := accounts.config
      authority := accounts.registryAuthority
      registryVersion := 1
      entryRoot := 0
      entryCount := 0
      frozen := false
      bump := runtime.bump assetRegistryAddress })

structure InitializeNullifierRegistryV1 where
  (governance config nullifierRegistry : Pubkey)
  deriving DecidableEq

def initializeNullifierRegistryV1 (accounts : InitializeNullifierRegistryV1)
    (domainSeparator : Bytes32) (world : World) : Result World := do
  signer call accounts.governance
  let config ← loadConfig runtime world accounts.config
  vacant world accounts.nullifierRegistry nullifierRegistryAddress
  check (accounts.governance = config.governanceAuthority) .invalidAuthority
  check (domainSeparator ≠ 0) .emptyCommitment
  return world.insert accounts.nullifierRegistry (.nullifierRegistry
    { version := tcapStateVersionV1
      protocolVersion := config.protocolVersion
      config := accounts.config
      domainSeparator := domainSeparator
      shardCount := 0
      consumedCount := 0
      paused := true
      bump := runtime.bump nullifierRegistryAddress })

structure InitializeCommitmentRootV1 where
  (governance config commitmentRoot : Pubkey)
  deriving DecidableEq

def initializeCommitmentRootV1 (accounts : InitializeCommitmentRootV1)
    (emptyTreeRoot : Bytes32) (world : World) : Result World := do
  signer call accounts.governance
  let config ← loadConfig runtime world accounts.config
  vacant world accounts.commitmentRoot commitmentRootAddress
  check (config.commitmentRootState = accounts.commitmentRoot) .invalidPda
  check (accounts.governance = config.governanceAuthority) .invalidAuthority
  let expectedEmptyRoot := emptyGpruHiddenHeadRootV1 runtime
  check (emptyTreeRoot = 0 ∨ emptyTreeRoot = expectedEmptyRoot) .wrongTcapRoot
  return world.insert accounts.commitmentRoot (.commitmentRoot
    { version := tcapStateVersionV1
      protocolVersion := config.protocolVersion
      currentRoot := expectedEmptyRoot
      previousRoot := expectedEmptyRoot
      rootVersion := 1
      sequence := 0
      historyPolicy := 1
      verifierConfig := Pubkey.default
      verifierEnabled := false
      paused := false
      bump := runtime.bump commitmentRootAddress })

def activateCommitmentRootV1 (accounts : InitializeCommitmentRootV1)
    (world : World) : Result World := do
  signer call accounts.governance
  let config ← loadConfig runtime world accounts.config
  let root : TcapCommitmentRootStateV1 ← load world accounts.commitmentRoot
  check (accounts.governance = config.governanceAuthority) .invalidAuthority
  seeds runtime accounts.commitmentRoot commitmentRootAddress root.bump
  check (config.commitmentRootState = accounts.commitmentRoot) .invalidPda
  check (root.version = tcapStateVersionV1) .invalidPda
  check (root.sequence = 0) .invalidPda
  let expectedEmptyRoot := emptyGpruHiddenHeadRootV1 runtime
  return world.insert accounts.commitmentRoot (.commitmentRoot
    { root with
      currentRoot := expectedEmptyRoot
      previousRoot := expectedEmptyRoot
      rootVersion := max root.rootVersion 1
      paused := false })

structure MigrateTcapConfigLayoutV1 where
  (governance config : Pubkey)
  deriving DecidableEq

/-- Rewrite the configuration in place. The raw offsets it reads are those of
governance, versions and emergency authority in the present layout. -/
def migrateTcapConfigLayoutV1 (accounts : MigrateTcapConfigLayoutV1)
    (world : World) : Result World := do
  signer call accounts.governance
  atAddress accounts.config globalConfigAddress
  let legacy : TcapGlobalConfigV1 ← load world accounts.config
  check (legacy.governanceAuthority = accounts.governance) .invalidAuthority
  return world.insert accounts.config (.config
    { version := 1
      protocolVersion := legacy.protocolVersion
      minimumInstructionVersion := legacy.minimumInstructionVersion
      governanceAuthority := legacy.governanceAuthority
      registryAuthority := legacy.governanceAuthority
      assetRegistry := assetRegistryAddress
      emergencyAuthority := legacy.emergencyAuthority
      approvedTsnProgram := tsnProgram
      proofVerifierProgram := Pubkey.default
      proofVerifierEnabled := false
      paused := false
      commitmentRootState := commitmentRootAddress
      domainVersion := 1
      migrationState := .development
      bump := runtime.bump globalConfigAddress })

structure RegisterTsnAuthorizationV1 where
  (payer config assetEntry reserveState commitmentRoot tsnProgram tsnEpochCommitment
    tsnAuthorizationSigner acceptedIntent authorizationReceipt : Pubkey)
  deriving DecidableEq

/-- Account of another program, with its owner. -/
def loadForeign (world : World) (key : Pubkey) : Result (Pubkey × TsnRecord) :=
  match world.lookup key with
  | some (.foreign owner data) => .ok (owner, data)
  | _ => .error .accountNotInitialized

/-- The four words of an epoch commitment TCAP reads: version, epoch id, root
of accepted intents and previous TCAP root. -/
def readTsnEpoch (world : World) (key tsnProgram : Pubkey) :
    Result (Nat × Nat × Bytes32 × Bytes32) := do
  let (owner, data) ← loadForeign world key
  check (owner = tsnProgram) .invalidTsnEpochRecord
  match data with
  | .epochCommitment version epochId acceptedIntentRoot previousTcapStateRoot =>
      return (version, epochId, acceptedIntentRoot, previousTcapStateRoot)
  | _ => .error (.tcap .invalidTsnEpochRecord)

/-- The accepted intent an authorization refers to, still unspent. -/
def checkAcceptedIntent (world : World) (key : Pubkey)
    (authorization : TsnSettlementAuthorizationV1) : Result Unit := do
  let (owner, data) ← loadForeign world key
  check (owner = authorization.tsnProgramId) .invalidTsnProgram
  match data with
  | .acceptedIntent intentCommitment amount tipRoot settlementCommitment
      acceptedIntentRoot status =>
      check (intentCommitment = authorization.intentCommitment ∧
        amount = authorization.amount ∧
        settlementCommitment = authorization.settlementCommitment ∧
        deriveTcapTinTipV1 tipRoot = authorization.tinTip ∧
        acceptedIntentRoot = authorization.acceptedIntentRoot)
        .invalidTipAuthorization
      check (status = 0) .invalidTipAuthorization
  | _ => .error (.tcap .invalidTipAuthorization)

def requireV1AssetInstructionEnabled (config : TcapGlobalConfigV1) : Result Unit :=
  check (config.minimumInstructionVersion ≤ tcapInstructionVersionV1)
    .legacyInstructionDisabled

def registerTsnAuthorizationV1 (accounts : RegisterTsnAuthorizationV1)
    (authorization : TsnSettlementAuthorizationV1) (world : World) :
    Result World := do
  signer call accounts.payer
  let config ← loadConfig runtime world accounts.config
  let entry : TcapAssetEntryV1 ← load world accounts.assetEntry
  let reserve : TcapReserveStateV1 ← load world accounts.reserveState
  let root : TcapCommitmentRootStateV1 ← load world accounts.commitmentRoot
  signer call accounts.tsnAuthorizationSigner
  vacant world accounts.authorizationReceipt
    (authorizationReceiptAddress authorization.authorizationDigest)
  check (config.paused = false) .protocolPaused
  check (reserve.assetEntry = accounts.assetEntry) .invalidReserve
  seeds runtime accounts.commitmentRoot commitmentRootAddress root.bump
  executable world accounts.tsnProgram
  check (accounts.tsnProgram = config.approvedTsnProgram) .invalidTsnProgram
  requireV1AssetInstructionEnabled config
  check (authorization.version = tsnAuthorizationVersionV1) .invalidPda
  check (authorization.tsnProgramId = config.approvedTsnProgram) .invalidTsnProgram
  check (authorization.authorizationDigest ≠ 0 ∧ authorization.replayNonce ≠ 0)
    .emptyCommitment
  check (authorization.transitionType = .confidentialSettlement)
    .invalidSettlementMode
  check (authorization.tinTip ≠ Pubkey.default ∧
    authorization.previousCommitment ≠ 0 ∧ authorization.newCommitment ≠ 0 ∧
    authorization.policyCommitment ≠ 0 ∧ authorization.gpruScopeCommitment ≠ 0 ∧
    authorization.nullifier ≠ 0 ∧ 0 < authorization.sequence ∧
    0 < authorization.tokenId) .invalidTipAuthorization
  checkAcceptedIntent world accounts.acceptedIntent authorization
  check (entry.paused = false ∧ entry.deprecated = false) .assetUnavailable
  check (entry.reserveState = accounts.reserveState) .invalidReserve
  check (authorization.assetCommitment = entry.asset.assetCommitment) .wrongAsset
  check (authorization.previousTcapRoot = root.currentRoot) .wrongTcapRoot
  check (authorization.validAfterSlot ≤ call.slot ∧
    call.slot ≤ authorization.expiresAtSlot) .authorizationExpired
  check (accounts.tsnAuthorizationSigner =
    deriveTsnAuthorizationSigner config.approvedTsnProgram
      authorization.authorizationDigest) .invalidTsnAuthorizationSigner
  let (version, epochId, acceptedIntentRoot, previousTcapStateRoot) ←
    readTsnEpoch world accounts.tsnEpochCommitment config.approvedTsnProgram
  check (version = tcapStateVersionV1 ∧ epochId = authorization.epochId)
    .wrongEpochRoot
  check (acceptedIntentRoot = authorization.acceptedIntentRoot) .wrongEpochRoot
  check (previousTcapStateRoot = authorization.previousTcapRoot) .wrongTcapRoot
  return world.insert accounts.authorizationReceipt (.receipt
    { version := tcapStateVersionV1
      config := accounts.config
      authorization := authorization
      nonSpendable := true
      consumed := false
      bump := runtime.bump accounts.authorizationReceipt })

end TsnProtocol.Tcap.Setup
