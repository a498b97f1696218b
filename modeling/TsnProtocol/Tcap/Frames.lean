import TsnProtocol.Tcap.Program

/-!
Frames: which kinds of account an instruction writes. Everything of another kind that is
stored after it was stored before it, and nothing is ever removed.
-/

namespace TsnProtocol.Tcap.Frames

open Lib.Checked
open Lib.FiniteStore
open Solana.Address
open Tcap.State
open Tcap.Execution
open Tcap.Setup
open Tcap.AssetGovernance
open Tcap.Funding
open Tcap.Tips
open Tcap.Program

variable {runtime : Runtime} {call : Call} {world next : World} {key : Pubkey}

inductive AccountKind where
  | config | registry | entry | policy | extensionPolicy | assetState | reserve
  | legacyReserve | liquidityPool | oneTimeTip | legacyTip | tinTip | liability | permit
  | commitmentRoot | nullifierRegistry | receipt | fundingRoot | fundingClaim
  | fundingNonce | unreadable | token | mint | foreign | program
  deriving DecidableEq

/-- The layout of an account. -/
def kind : Account → AccountKind
  | .config _ => .config
  | .registry _ => .registry
  | .entry _ => .entry
  | .policy _ => .policy
  | .extensionPolicy _ => .extensionPolicy
  | .assetState _ => .assetState
  | .reserve _ => .reserve
  | .legacyReserve _ => .legacyReserve
  | .liquidityPool _ => .liquidityPool
  | .oneTimeTip _ => .oneTimeTip
  | .legacyTip _ => .legacyTip
  | .tinTip _ => .tinTip
  | .liability _ => .liability
  | .permit _ => .permit
  | .commitmentRoot _ => .commitmentRoot
  | .nullifierRegistry _ => .nullifierRegistry
  | .receipt _ => .receipt
  | .fundingRoot _ => .fundingRoot
  | .fundingClaim _ => .fundingClaim
  | .fundingNonce _ => .fundingNonce
  | .unreadable => .unreadable
  | .token _ => .token
  | .mint _ => .mint
  | .foreign _ _ => .foreign
  | .program => .program

/-- The kinds of account an instruction may write. -/
def writes : Instruction → List AccountKind
  | .initializeTcapV1 _ _ | .raiseMinimumInstructionVersionV2 _
  | .migrateTcapConfigLayoutV1 _ => [.config]
  | .initializeAssetRegistryV1 _ => [.registry]
  | .initializeOneTimeTip _ _ | .consumeOneTimeTip _ _ => [.oneTimeTip]
  | .migrateTipSealV1 _ | .repairTipSealV1 _ => [.oneTimeTip, .unreadable]
  | .creditOneTimeTip _ _ | .creditOneTimeTipTransfer _ _ | .debitTcapBalanceV1 _ _ =>
      [.oneTimeTip, .reserve, .liability]
  | .initializeOneTimeTipLiability _ _ | .initializeTcapTipLiabilityV2 _ _ =>
      [.liability, .reserve]
  | .debitTcapGpruTipV2 _ _ => [.tinTip, .reserve, .liability]
  | .exitTcapLiquidityV1 _ _ => []
  | .debitTcapExitV1 _ _ => [.permit, .oneTimeTip, .liability, .reserve]
  | .payoutTcapExitV1 _ _ => [.token, .reserve, .permit]
  | .migrateReserveTransferPendingV1 _ => [.reserve]
  | .registerGovernedAssetV2 _ _ => [.entry, .policy, .extensionPolicy, .registry]
  | .migrateLegacyAssetPolicyV2 _ _ => [.entry, .policy, .extensionPolicy]
  | .setAssetApprovalV2 _ _ => [.entry, .policy]
  | .setAssetSettlementPolicyV2 _ _ _ _ => [.policy]
  | .initializeGovernedReserveV2 _ | .syncGovernedAssetInfrastructureV2 _ =>
      [.reserve, .policy]
  | .initializeGovernedVaultV2 _ => [.token, .policy]
  | .setGovernedDepositPolicyV2 _ _ | .setAssetOperationalStatusV2 _ _
  | .revokeAssetApprovalV2 _ => [.policy, .entry, .reserve]
  | .initializeNullifierRegistryV1 _ _ => [.nullifierRegistry]
  | .initializeCommitmentRootV1 _ _ | .activateCommitmentRootV1 _ => [.commitmentRoot]
  | .registerTsnAuthorizationV1 _ _ => [.receipt]
  | .creditGpruMemoV1 _ _ => [.commitmentRoot, .reserve]
  | .migrateAssetEntryCustodyGraphV2 _ => [.entry]
  | .depositAssetV2 _ _ => [.token, .reserve]
  | .depositWithFundingCommitmentV2 _ _ =>
      [.token, .reserve, .fundingClaim, .fundingRoot, .fundingNonce]

/-- Every account of `next` is one of `world` or of one of the given kinds, and every
address of `world` is still taken. -/
structure WritesOnly (kinds : List AccountKind) (world next : World) : Prop where
  stored : ∀ key account, next.lookup key = some account →
    world.lookup key = some account ∨ kind account ∈ kinds
  taken : ∀ key, world.lookup key ≠ none → next.lookup key ≠ none

theorem writesOnly_refl (kinds : List AccountKind) (world : World) : WritesOnly kinds world world :=
  ⟨fun _ _ hlookup => .inl hlookup, fun _ htaken => htaken⟩

theorem writesOnly_insert {kinds : List AccountKind} {account : Account}
    (hwrites : WritesOnly kinds world next) (hkind : kind account ∈ kinds) :
    WritesOnly kinds world (next.insert key account) := by
  constructor
  · intro other stored hlookup
    rw [lookup_insert_eq] at hlookup
    split_ifs at hlookup
    · cases hlookup
      exact .inr hkind
    · exact hwrites.stored other stored hlookup
  · intro other htaken
    rw [lookup_insert_eq]
    split_ifs
    · simp
    · exact hwrites.taken other htaken

theorem writesOnly_of_transfer {kinds : List AccountKind} {signers : List Pubkey}
    {program source mint destination authority : Pubkey} {amount decimals : Nat}
    (hkind : .token ∈ kinds)
    (htransfer : transferChecked world signers program source mint destination authority
      amount decimals = .ok next) :
    WritesOnly kinds world next := by
  revert htransfer
  suffices Ensures (WritesOnly kinds world) (transferChecked world signers program source mint
      destination authority amount decimals) from this next
  unfold transferChecked
  repeat' first
    | exact writesOnly_refl kinds world
    | refine writesOnly_insert ?_ hkind
    | refine ensures_bind fun _ _ => ?_
    | refine ensures_pure ?_
    | split

/-- An instruction writes the kinds of account listed for it. -/
theorem writesOnly_execute (runtime : Runtime) (call : Call) (instruction : Instruction)
    (world : World) :
    Ensures (WritesOnly (writes instruction) world)
      (execute runtime call instruction world) := by
  cases instruction
  -- one pass over the text of every instruction: a check, a branch or a write at a time
  all_goals
    simp only [execute, initializeTcapV1, initializeOneTimeTip, consumeOneTimeTip,
      creditOneTimeTip, creditOneTimeTipTransfer, initializeOneTimeTipLiability,
      debitTcapBalanceV1, debitTcapExitV1, payoutTcapExitV1, exitTcapLiquidityV1,
      initializeAssetRegistryV1, migrateReserveTransferPendingV1, migrateTipSealV1,
      repairTipSealV1, raiseMinimumInstructionVersionV2, registerGovernedAssetV2,
      migrateLegacyAssetPolicyV2, setAssetApprovalV2, setAssetSettlementPolicyV2,
      initializeGovernedReserveV2, initializeGovernedVaultV2,
      syncGovernedAssetInfrastructureV2, setGovernedDepositPolicyV2,
      setAssetOperationalStatusV2, revokeAssetApprovalV2, initializeNullifierRegistryV1,
      initializeCommitmentRootV1, activateCommitmentRootV1, migrateTcapConfigLayoutV1,
      registerTsnAuthorizationV1, creditGpruMemoV1, initializeTcapTipLiabilityV2,
      migrateAssetEntryCustodyGraphV2, debitTcapGpruTipV2, depositAssetV2,
      depositWithFundingCommitmentV2]
    repeat' first
      | refine ensures_bind fun _ _ => ?_
      | refine ensures_pure ?_
      | exact ensures_error
      | refine writesOnly_insert ?_ (by simp [writes, kind])
      | exact writesOnly_of_transfer (by simp [writes]) (by assumption)
      | exact writesOnly_refl _ world
      | split

theorem writesOnly_executeExternal (call : Call) (action : ExternalAction) (world : World) :
    Ensures (WritesOnly [.token, .mint, .foreign] world)
      (executeExternal call action world) := by
  cases action with
  | transferChecked program source mint destination authority amount decimals =>
      exact fun next hstep => writesOnly_of_transfer (by decide) hstep
  | _ =>
      simp only [executeExternal]
      repeat' first
        | exact ensures_error
        | refine writesOnly_insert (writesOnly_refl _ world) (by simp [kind])
        | refine ensures_bind fun _ _ => ?_
        | refine ensures_pure ?_
        | split

end TsnProtocol.Tcap.Frames
