import TsnProtocol.Lib.Transition
import TsnProtocol.Tcap.Tips

/-!
The entry points of the TCAP program, what other programs may do to the chain
between its instructions, and runs of both from the day the program goes live.
-/

namespace TsnProtocol.Tcap.Program

open Lib.Checked
open Lib.FiniteStore
open Lib.Transition
open Solana.Address
open Tcap.State
open Tcap.Execution
open Tcap.Setup
open Tcap.AssetGovernance
open Tcap.Funding
open Tcap.Tips

/-- The instructions the program exposes. -/
inductive Instruction where
  | initializeTcapV1 (accounts : InitializeTcapV1) (args : InitializeTcapArgsV1)
  | initializeOneTimeTip (accounts : InitializeOneTimeTip)
      (args : InitializeOneTimeTipArgs)
  | consumeOneTimeTip (accounts : ConsumeOneTimeTip) (args : ConsumeOneTimeTipArgs)
  | creditOneTimeTip (accounts : CreditOneTimeTip) (args : CreditOneTimeTipArgs)
  | creditOneTimeTipTransfer (accounts : CreditOneTimeTip)
      (args : CreditOneTimeTipArgs)
  | initializeOneTimeTipLiability (accounts : InitializeOneTimeTipLiability)
      (initialAvailable : Nat)
  | debitTcapBalanceV1 (accounts : DebitTcapBalanceV1) (args : DebitTcapBalanceV1Args)
  | debitTcapExitV1 (accounts : DebitTcapExitV1) (args : DebitTcapExitArgsV1)
  | payoutTcapExitV1 (accounts : PayoutTcapExitV1) (destinationOwner : Pubkey)
  | exitTcapLiquidityV1 (accounts : ExitTcapLiquidityV1)
      (args : ExitTcapLiquidityV1Args)
  | initializeAssetRegistryV1 (accounts : InitializeAssetRegistryV1)
  | migrateReserveTransferPendingV1 (accounts : MigrateReserveTransferPendingV1)
  | migrateTipSealV1 (accounts : MigrateTipSealV1)
  | repairTipSealV1 (accounts : MigrateTipSealV1)
  | raiseMinimumInstructionVersionV2 (accounts : RaiseMinimumInstructionVersionV2)
  | registerGovernedAssetV2 (accounts : RegisterGovernedAssetV2)
      (args : RegisterGovernedAssetArgsV2)
  | migrateLegacyAssetPolicyV2 (accounts : MigrateLegacyAssetPolicyV2)
      (args : MigrateLegacyAssetPolicyArgsV2)
  | setAssetApprovalV2 (accounts : GovernAssetV2)
      (newStatus : TcapAssetApprovalStatusV2)
  | setAssetSettlementPolicyV2 (accounts : GovernAssetV2)
      (settlementsEnabled publicExitEnabled confidentialSettlementEnabled : Bool)
  | initializeGovernedReserveV2 (accounts : InitializeGovernedReserveV2)
  | initializeGovernedVaultV2 (accounts : InitializeGovernedVaultV2)
  | syncGovernedAssetInfrastructureV2 (accounts : SyncGovernedAssetInfrastructureV2)
  | setGovernedDepositPolicyV2 (accounts : SyncGovernedAssetInfrastructureV2)
      (enabled : Bool)
  | setAssetOperationalStatusV2 (accounts : ManageOperationalAssetV2)
      (newStatus : TcapAssetOperationalStatusV2)
  | revokeAssetApprovalV2 (accounts : ManageOperationalAssetV2)
  | initializeNullifierRegistryV1 (accounts : InitializeNullifierRegistryV1)
      (domainSeparator : Bytes32)
  | initializeCommitmentRootV1 (accounts : InitializeCommitmentRootV1)
      (emptyTreeRoot : Bytes32)
  | activateCommitmentRootV1 (accounts : InitializeCommitmentRootV1)
  | migrateTcapConfigLayoutV1 (accounts : MigrateTcapConfigLayoutV1)
  | registerTsnAuthorizationV1 (accounts : RegisterTsnAuthorizationV1)
      (authorization : TsnSettlementAuthorizationV1)
  | creditGpruMemoV1 (accounts : CreditGpruMemoV1) (args : CreditGpruMemoV1Args)
  | initializeTcapTipLiabilityV2 (accounts : InitializeTcapTipLiabilityV2)
      (initialAvailable : Nat)
  | migrateAssetEntryCustodyGraphV2 (accounts : MigrateAssetEntryCustodyGraphV2)
  | debitTcapGpruTipV2 (accounts : DebitTcapGpruTipV2) (args : DebitTcapGpruTipV2Args)
  | depositAssetV2 (accounts : DepositAssetV2) (amount : Nat)
  | depositWithFundingCommitmentV2 (accounts : DepositWithFundingCommitmentV2)
      (args : DepositWithFundingCommitmentArgsV2)

variable (runtime : Runtime)

/-- Execute one instruction of the program. -/
def execute (call : Call) : Instruction → World → Result World
  | .initializeTcapV1 accounts args => initializeTcapV1 runtime call accounts args
  | .initializeOneTimeTip accounts args =>
      initializeOneTimeTip runtime call accounts args
  | .consumeOneTimeTip accounts args => consumeOneTimeTip runtime call accounts args
  | .creditOneTimeTip accounts args => creditOneTimeTip runtime call accounts args
  | .creditOneTimeTipTransfer accounts args =>
      creditOneTimeTipTransfer runtime call accounts args
  | .initializeOneTimeTipLiability accounts initialAvailable =>
      initializeOneTimeTipLiability runtime call accounts initialAvailable
  | .debitTcapBalanceV1 accounts args => debitTcapBalanceV1 runtime call accounts args
  | .debitTcapExitV1 accounts args => debitTcapExitV1 runtime call accounts args
  | .payoutTcapExitV1 accounts destinationOwner =>
      payoutTcapExitV1 runtime call accounts destinationOwner
  | .exitTcapLiquidityV1 accounts args =>
      exitTcapLiquidityV1 runtime call accounts args
  | .initializeAssetRegistryV1 accounts =>
      initializeAssetRegistryV1 runtime call accounts
  | .migrateReserveTransferPendingV1 accounts =>
      migrateReserveTransferPendingV1 runtime call accounts
  | .migrateTipSealV1 accounts => migrateTipSealV1 runtime call accounts
  | .repairTipSealV1 accounts => repairTipSealV1 runtime call accounts
  | .raiseMinimumInstructionVersionV2 accounts =>
      raiseMinimumInstructionVersionV2 runtime call accounts
  | .registerGovernedAssetV2 accounts args =>
      registerGovernedAssetV2 runtime call accounts args
  | .migrateLegacyAssetPolicyV2 accounts args =>
      migrateLegacyAssetPolicyV2 runtime call accounts args
  | .setAssetApprovalV2 accounts newStatus =>
      setAssetApprovalV2 runtime call accounts newStatus
  | .setAssetSettlementPolicyV2 accounts settlementsEnabled publicExitEnabled
      confidentialSettlementEnabled =>
      setAssetSettlementPolicyV2 runtime call accounts settlementsEnabled
        publicExitEnabled confidentialSettlementEnabled
  | .initializeGovernedReserveV2 accounts =>
      initializeGovernedReserveV2 runtime call accounts
  | .initializeGovernedVaultV2 accounts =>
      initializeGovernedVaultV2 runtime call accounts
  | .syncGovernedAssetInfrastructureV2 accounts =>
      syncGovernedAssetInfrastructureV2 runtime call accounts
  | .setGovernedDepositPolicyV2 accounts enabled =>
      setGovernedDepositPolicyV2 runtime call accounts enabled
  | .setAssetOperationalStatusV2 accounts newStatus =>
      setAssetOperationalStatusV2 runtime call accounts newStatus
  | .revokeAssetApprovalV2 accounts => revokeAssetApprovalV2 runtime call accounts
  | .initializeNullifierRegistryV1 accounts domainSeparator =>
      initializeNullifierRegistryV1 runtime call accounts domainSeparator
  | .initializeCommitmentRootV1 accounts emptyTreeRoot =>
      initializeCommitmentRootV1 runtime call accounts emptyTreeRoot
  | .activateCommitmentRootV1 accounts =>
      activateCommitmentRootV1 runtime call accounts
  | .migrateTcapConfigLayoutV1 accounts =>
      migrateTcapConfigLayoutV1 runtime call accounts
  | .registerTsnAuthorizationV1 accounts authorization =>
      registerTsnAuthorizationV1 runtime call accounts authorization
  | .creditGpruMemoV1 accounts args => creditGpruMemoV1 runtime call accounts args
  | .initializeTcapTipLiabilityV2 accounts initialAvailable =>
      initializeTcapTipLiabilityV2 runtime call accounts initialAvailable
  | .migrateAssetEntryCustodyGraphV2 accounts =>
      migrateAssetEntryCustodyGraphV2 runtime call accounts
  | .debitTcapGpruTipV2 accounts args => debitTcapGpruTipV2 runtime call accounts args
  | .depositAssetV2 accounts amount => depositAssetV2 runtime call accounts amount
  | .depositWithFundingCommitmentV2 accounts args =>
      depositWithFundingCommitmentV2 runtime call accounts args

/-- What other programs do: token operations signed for by their owners, and
writes to their own accounts. -/
inductive ExternalAction where
  | transferChecked (program source mint destination authority : Pubkey)
      (amount decimals : Nat)
  | mintTo (mint destination authority : Pubkey) (amount : Nat)
  | initializeAccount (key program mint owner : Pubkey)
  | initializeMint (key : Pubkey) (data : Mint)
  | writeForeign (key owner : Pubkey) (data : TsnRecord)

/-- A fresh address that its holder signs for. -/
def freshAddress (call : Call) (world : World) (key : Pubkey) : Result Unit := do
  signer call key
  require (world.lookup key = none) .accountInUse

def executeExternal (call : Call) (action : ExternalAction) (world : World) :
    Result World :=
  match action with
  | .transferChecked program source mint destination authority amount decimals =>
      Execution.transferChecked world call.signers program source mint destination
        authority amount decimals
  | .mintTo mint destination authority amount => do
      let mintData : Mint ← load world mint
      let token : TokenAccount ← load world destination
      require (mintData.mintAuthority = some authority ∧ authority ∈ call.signers) .token
      require (token.mint = mint ∧ token.program = mintData.program) .token
      require (token.amount + amount < 2 ^ 64) .token
      return world.insert destination
        (.token { token with amount := token.amount + amount })
  | .initializeAccount key program mint owner => do
      freshAddress call world key
      let mintData : Mint ← load world mint
      require (mintData.program = program) .token
      return world.insert key (.token ⟨program, mint, owner, 0⟩)
  | .initializeMint key data => do
      freshAddress call world key
      require (data.program = splTokenProgram ∨ data.program = token2022Program) .token
      return world.insert key (.mint data)
  | .writeForeign key owner data => do
      require (key.program? ≠ some tcapProgram ∧ owner ≠ tcapProgram)
        .constraintAddress
      match world.lookup key with
      | none | some (.foreign _ _) => return world.insert key (.foreign owner data)
      | _ => .error .accountInUse

/-- One step of the chain, as far as TCAP is concerned. -/
inductive Step where
  | tcap (call : Call) (instruction : Instruction)
  | external (call : Call) (action : ExternalAction)

/-- TCAP never lends its derived addresses to the signer set of a call. -/
def noProgramSigner (call : Call) : Prop :=
  ∀ key ∈ call.signers, key.program? ≠ some tcapProgram

instance (call : Call) : Decidable (noProgramSigner call) := by
  unfold noProgramSigner
  infer_instance

def step (world : World) : Step → Result World
  | .tcap call instruction => do
      require (noProgramSigner call) .accountNotSigner
      execute runtime call instruction world
  | .external call action => do
      require (noProgramSigner call) .accountNotSigner
      executeExternal call action world

theorem step_tcap_eq_ok {runtime : Runtime} {call : Call} {instruction : Instruction}
    {world next : World} :
    step runtime world (.tcap call instruction) = .ok next ↔
      noProgramSigner call ∧ execute runtime call instruction world = .ok next := by
  simp [step]

theorem step_external_eq_ok {runtime : Runtime} {call : Call} {action : ExternalAction}
    {world next : World} :
    step runtime world (.external call action) = .ok next ↔
      noProgramSigner call ∧ executeExternal call action world = .ok next := by
  simp [step]

/-- What an address may hold before TCAP is initialised: tokens, programs, accounts
of other programs, and route heads written by an earlier deployment. -/
def PreLaunchAccount (key : Pubkey) : Account → Prop
  | .token _ | .mint _ | .foreign _ _ | .program => key.program? ≠ some tcapProgram
  | .tinTip _ => ∃ root, key = deriveTcapTinTipV1 root
  | _ => False

/-- A world in which TCAP has not been initialised. -/
def PreLaunch (world : World) : Prop :=
  ∀ key account, world.lookup key = some account → PreLaunchAccount key account

theorem preLaunch_empty : PreLaunch ∅ := by
  intro key account hlookup
  simp at hlookup

theorem preLaunch_insert {world : World} {key : Pubkey} {account : Account}
    (hlaunch : PreLaunch world) (haccount : PreLaunchAccount key account) :
    PreLaunch (world.insert key account) := by
  intro other stored hlookup
  rw [lookup_insert_eq] at hlookup
  split_ifs at hlookup with hkey
  · cases hlookup
    exact hkey ▸ haccount
  · exact hlaunch other stored hlookup

/-- Runs of the chain from before the initialisation of TCAP. -/
def ChainRun (start : World) (history : List (World × Step)) (world : World) : Prop :=
  PreLaunch start ∧ Run (step runtime) start history world

section Deployment

/-- A number standing for an address. -/
def Pubkey.code : Pubkey → Nat
  | .raw bytes => bytes.toNat
  | .derived program label => 31 * Pubkey.code program + label.length
  | .under parent seed => 37 * Pubkey.code parent + Pubkey.code seed

/-- A number standing for one argument of `hashv`. -/
def Chunk.code : Chunk → Nat
  | .text label => label.length
  | .key address => Pubkey.code address
  | .word bytes => bytes.toNat
  | .uint _ value => value
  | .bytes data => data.length

/-- A chain on which runs can be evaluated. Its digests are polynomials in the
parts hashed, and its GPRU program accepts no proof. -/
def localRuntime : Runtime where
  bump _ := 255
  hashv chunks := BitVec.ofNat 256
    (chunks.foldl (fun digest chunk => 1000003 * digest + Chunk.code chunk) 1)
  poseidon left right := BitVec.ofNat 256 (1000003 * left.toNat + right.toNat)
  verifyHiddenHeadTransition _ _ _ _ := false

/-- A mint without authorities or extensions. -/
def plainMint : Mint :=
  ⟨splTokenProgram, 6, none, none, [], []⟩

variable (governance mint : Pubkey)

/-- Set up the configuration and the asset registry, latest step first. -/
def launchSteps : List Step :=
  let call : Call := ⟨[governance], 1⟩
  [.tcap call (.raiseMinimumInstructionVersionV2 ⟨governance, globalConfigAddress⟩),
    .tcap call (.initializeAssetRegistryV1
      ⟨governance, globalConfigAddress, assetRegistryAddress⟩),
    .tcap call (.initializeTcapV1
      ⟨governance, globalConfigAddress, tsnProgram, assetRegistryAddress,
        commitmentRootAddress⟩
      ⟨1, governance, governance, tsnProgram, 1⟩)]

def splEntryAddress : Pubkey :=
  assetEntryAddress assetRegistryAddress splTokenProgram mint

/-- Register a mint, build its custody and open it for deposits, latest step
first. -/
def listingSteps : List Step :=
  let call : Call := ⟨[governance], 2⟩
  let entry := splEntryAddress mint
  let policy := deriveAssetGovernancePolicy entry
  let extension := deriveAssetExtensionPolicy entry
  let reserve := deriveReserveState entry
  let vault := deriveFutureVault entry
  let authority := deriveReserveAuthority entry
  [.tcap call (.setGovernedDepositPolicyV2
      ⟨governance, globalConfigAddress, entry, policy, extension, reserve, mint, vault,
        splTokenProgram⟩ true),
    .tcap call (.setAssetOperationalStatusV2
      ⟨governance, globalConfigAddress, assetRegistryAddress, entry, policy, extension,
        reserve, mint, vault, splTokenProgram⟩ .active),
    .tcap call (.initializeGovernedVaultV2
      ⟨governance, globalConfigAddress, entry, policy, extension, reserve, mint, authority,
        vault, splTokenProgram⟩),
    .tcap call (.initializeGovernedReserveV2
      ⟨governance, globalConfigAddress, entry, policy, reserve, authority, vault⟩),
    .tcap call (.setAssetApprovalV2
      ⟨governance, globalConfigAddress, assetRegistryAddress, entry, policy⟩ .approved),
    .tcap call (.registerGovernedAssetV2
      ⟨governance, globalConfigAddress, assetRegistryAddress, mint, splTokenProgram, entry,
        policy, extension⟩
      ⟨1, 1, 6, Pubkey.default, Pubkey.default, .standardPublic, 0, 0⟩)]

/-- Deposit into the vault of a listed mint. -/
def depositStep (depositor source : Pubkey) (amount : Nat) : Step :=
  let entry := splEntryAddress mint
  .tcap ⟨[depositor], 3⟩ (.depositAssetV2
    ⟨depositor, globalConfigAddress, entry, deriveReserveState entry, source,
      deriveFutureVault entry, mint, splTokenProgram⟩ amount)

/-- Open a one-time tip with an empty liability in a listed mint, latest step
first. -/
def openTipSteps (payer : Pubkey) (commitment : Bytes32) (tokenId : Nat) : List Step :=
  let tip := oneTimeTipAddress commitment
  let entry := splEntryAddress mint
  [.tcap ⟨[payer], 4⟩ (.initializeOneTimeTipLiability
      ⟨payer, globalConfigAddress, tip, entry, deriveReserveState entry,
        deriveTcapTipLiabilityV2 tip entry⟩ 0),
    .tcap ⟨[payer], 4⟩ (.initializeOneTimeTip ⟨payer, tip⟩ ⟨commitment, 1, tokenId⟩)]

/-- TSN credits the first deposit of a tip. -/
def creditStep (payer : Pubkey) (commitment : Bytes32) (tokenId amount : Nat) : Step :=
  let tip := oneTimeTipAddress commitment
  let entry := splEntryAddress mint
  let args : CreditOneTimeTipArgs := ⟨0, commitment, 2, 1, 3, 1, tokenId, amount, 0, 9, 1, 1⟩
  let digest := creditPermit localRuntime "TCAP_ONE_TIME_CREDIT_PERMIT_V1" tip mint args
  let authorization := deriveTsnAuthorizationSigner tsnProgram digest
  .tcap ⟨[payer, authorization], 5⟩ (.creditOneTimeTip
    ⟨payer, globalConfigAddress, tip, entry, deriveReserveState entry,
      deriveTcapTipLiabilityV2 tip entry, tsnProgram, authorization⟩
    { args with authorizationDigest := digest })

/-- Debit a tip after its first credit. The mint the permit is issued in is given
apart from the mint of the liability. -/
def exitStep (signer : Pubkey) (commitment : Bytes32) (permitMint destination : Pubkey)
    (amount : Nat) : Step :=
  let tip := oneTimeTipAddress commitment
  let entry := splEntryAddress mint
  let permit : TcapExitPermitV1 := ⟨tip, 0, permitMint, amount, 2, 7, 0, false, 255⟩
  .tcap ⟨[signer], 6⟩ (.debitTcapExitV1
    ⟨signer, globalConfigAddress, tip, deriveReserveState entry,
      deriveTcapTipLiabilityV2 tip entry, exitPermitAddress 7⟩
    ⟨7, exitCommitment localRuntime permit signer destination, permitMint, amount, 2, 1, 1,
      0⟩)

/-- Pay the permit of `exitStep` out of the vault of a mint. -/
def payoutStep (signer destination : Pubkey) : Step :=
  let entry := splEntryAddress mint
  .tcap ⟨[signer], 7⟩ (.payoutTcapExitV1
    ⟨signer, globalConfigAddress, deriveReserveState entry, entry, exitPermitAddress 7,
      deriveReserveAuthority entry, deriveFutureVault entry, destination, mint,
      splTokenProgram⟩ signer)

end Deployment

end TsnProtocol.Tcap.Program
