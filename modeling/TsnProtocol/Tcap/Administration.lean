import TsnProtocol.Tcap.Custody

/-!
Instructions that leave the custody ledger alone: set-up, governance of assets,
tips and their migrations. Each one writes accounts the ledger does not read, or
rewrites an entry or a reserve without touching what it does read.
-/

namespace TsnProtocol.Tcap.Administration

open Lib.Checked
open Lib.FiniteStore
open Solana.Address
open Tcap.State
open Tcap.Execution
open Tcap.Setup
open Tcap.AssetGovernance
open Tcap.Funding
open Tcap.Tips
open Tcap.Program
open Tcap.Custody

variable {runtime : Runtime} {call : Call} {world next : World} {key : Pubkey}

/-- Accounts that neither enter the ledger nor are referred to by the shape of
others. -/
def Plain : Account → Prop
  | .config _ | .registry _ | .policy _ | .extensionPolicy _ | .oneTimeTip _
  | .tinTip _ | .commitmentRoot _ | .nullifierRegistry _ | .receipt _
  | .fundingRoot _ | .fundingClaim _ | .fundingNonce _ | .unreadable
  | .foreign _ _ | .program => True
  | _ => False

/-- A write that is sound and has no effect on the ledger. -/
def Administrative (world : World) (key : Pubkey) (account : Account) : Prop :=
  Keeps (world.lookup key) account ∧ Canonical world key account ∧
    SameWeight (world.lookup key) account

theorem administers_refl (world : World) : Administers world world :=
  fun _ => .inl rfl

theorem administers_insert {account : Account} (hadmin : Administers world next)
    (hwrite : Administrative world key account) :
    Administers world (next.insert key account) := by
  intro other
  rw [lookup_insert_eq]
  split_ifs with hkey
  · subst hkey
    exact .inr ⟨account, rfl, hwrite⟩
  · exact hadmin other

/-- An account the ledger takes nothing from. -/
structure Weightless (account : Account) : Prop where
  permit : ∀ permit, account ≠ .permit permit
  mint : entryMint account = none
  actual : actualOf account = 0
  unsettled : unsettledOf account = 0
  settled : settledOf account = 0
  tokens : tokensOf account = 0
  available : ∀ entry, availableOf entry account = 0
  outstanding : ∀ mint, outstandingOf mint account = 0

theorem weightless_of_plain {account : Account} (hplain : Plain account) :
    Weightless account := by
  cases account <;> first
    | exact hplain.elim
    | exact ⟨by simp, rfl, rfl, rfl, rfl, rfl, fun _ => rfl, fun _ => rfl⟩

theorem sameWeight_of_weightless {old : Option Account} {new : Account}
    (hold : ∀ account, old = some account → Weightless account)
    (hnew : Weightless new) : SameWeight old new := by
  cases old with
  | none =>
      constructor <;> intros <;> simp [hnew.permit, hnew.mint, hnew.actual,
        hnew.unsettled, hnew.settled, hnew.tokens, hnew.available, hnew.outstanding]
  | some account =>
      have hacc := hold account rfl
      constructor <;> intros <;> simp [hacc.mint, hacc.actual, hacc.unsettled,
        hacc.settled, hacc.tokens, hacc.available, hacc.outstanding, hnew.permit,
        hnew.mint, hnew.actual, hnew.unsettled, hnew.settled, hnew.tokens,
        hnew.available, hnew.outstanding]

theorem administrative_of_plain {account : Account}
    (hold : ∀ old, world.lookup key = some old → Plain old) (hnew : Plain account) :
    Administrative world key account := by
  refine ⟨⟨?_, ?_⟩, ?_, ?_⟩
  · intro entry hentry
    exact (hold _ hentry).elim
  · intro mint hmint
    exact (hold _ hmint).elim
  · cases account <;> first | exact hnew.elim | trivial
  · exact sameWeight_of_weightless (fun old hlookup => weightless_of_plain (hold old hlookup))
      (weightless_of_plain hnew)

theorem administrative_of_fresh {account : Account} (hfresh : world.lookup key = none)
    (hnew : Plain account) : Administrative world key account := by
  refine administrative_of_plain ?_ hnew
  intro old hold
  rw [hfresh] at hold
  cases hold

theorem administrative_of_overwrite {old account : Account}
    (hlookup : world.lookup key = some old) (hold : Plain old) (hnew : Plain account) :
    Administrative world key account := by
  refine administrative_of_plain ?_ hnew
  intro other hother
  obtain rfl : old = other := Option.some.inj (hlookup.symm.trans hother)
  exact hold

/-- Rewriting flags of an entry is administrative. -/
theorem administrative_entry {entry entry' : TcapAssetEntryV1}
    (hwellFormed : WellFormed world) (hlookup : world.lookup key = some (.entry entry))
    (hregistry : entry'.registry = entry.registry) (hasset : entry'.asset = entry.asset)
    (hreserve : entry'.reserveState = entry.reserveState)
    (hvault : entry'.futureVault = entry.futureVault)
    (hauthority : entry'.reserveAuthority = entry.reserveAuthority) :
    Administrative world key (.entry entry') := by
  obtain ⟨hkey, hcanonical, hreserve', hvault', hauthority', mint, hmint, hprogram⟩ :=
    hwellFormed key _ hlookup
  rw [Administrative, hlookup]
  refine ⟨⟨?_, ?_⟩, ?_, ?_⟩
  · rintro other hother
    cases hother
    exact ⟨entry', rfl, hasset⟩
  · rintro mint hmint
    cases hmint
  · rw [Canonical, hregistry, hasset, hreserve, hvault, hauthority]
    exact ⟨hkey, hcanonical, hreserve', hvault', hauthority', mint, hmint, hprogram⟩
  · constructor <;> intros <;> simp [entryMint, actualOf, unsettledOf, settledOf, tokensOf,
      availableOf, outstandingOf, hasset]

/-- Rewriting flags of a reserve is administrative. -/
theorem administrative_reserve {reserve reserve' : TcapReserveStateV1}
    (hwellFormed : WellFormed world)
    (hlookup : world.lookup key = some (.reserve reserve))
    (hentry : reserve'.assetEntry = reserve.assetEntry)
    (hactual : reserve'.actualAssets = reserve.actualAssets)
    (hsettled : reserve'.settledConfidentialLiabilities =
      reserve.settledConfidentialLiabilities)
    (hunsettled : unsettledLiabilities reserve' = unsettledLiabilities reserve) :
    Administrative world key (.reserve reserve') := by
  have hcanonical := hwellFormed key _ hlookup
  rw [Administrative, hlookup]
  refine ⟨⟨?_, ?_⟩, ?_, ?_⟩
  · rintro entry hother
    cases hother
  · rintro mint hmint
    cases hmint
  · simpa only [Canonical, hentry] using hcanonical
  · constructor <;> intros <;> simp [entryMint, actualOf, unsettledOf, settledOf, tokensOf,
      availableOf, outstandingOf, hactual, hsettled, hunsettled]

theorem administers_initializeTcapV1 {accounts : InitializeTcapV1}
    {args : InitializeTcapArgsV1}
    (hstep : initializeTcapV1 runtime call accounts args world = .ok next) :
    Administers world next := by
  simp [initializeTcapV1] at hstep
  obtain ⟨-, ⟨-, hfresh⟩, -, -, -, -, -, -, -, -, -, -, rfl⟩ := hstep
  exact administers_insert (administers_refl world)
    (administrative_of_fresh hfresh trivial)

theorem administers_initializeAssetRegistryV1 {accounts : InitializeAssetRegistryV1}
    (hstep : initializeAssetRegistryV1 runtime call accounts world = .ok next) :
    Administers world next := by
  simp [initializeAssetRegistryV1] at hstep
  obtain ⟨-, _, -, ⟨-, hfresh⟩, -, -, rfl⟩ := hstep
  exact administers_insert (administers_refl world)
    (administrative_of_fresh hfresh trivial)

theorem administers_initializeNullifierRegistryV1
    {accounts : InitializeNullifierRegistryV1} {domainSeparator : Bytes32}
    (hstep : initializeNullifierRegistryV1 runtime call accounts domainSeparator world =
      .ok next) :
    Administers world next := by
  simp [initializeNullifierRegistryV1] at hstep
  obtain ⟨-, _, -, ⟨-, hfresh⟩, -, -, rfl⟩ := hstep
  exact administers_insert (administers_refl world)
    (administrative_of_fresh hfresh trivial)

theorem administers_initializeCommitmentRootV1 {accounts : InitializeCommitmentRootV1}
    {emptyTreeRoot : Bytes32}
    (hstep : initializeCommitmentRootV1 runtime call accounts emptyTreeRoot world =
      .ok next) :
    Administers world next := by
  simp [initializeCommitmentRootV1] at hstep
  obtain ⟨-, _, -, ⟨-, hfresh⟩, -, -, -, rfl⟩ := hstep
  exact administers_insert (administers_refl world)
    (administrative_of_fresh hfresh trivial)

theorem administers_activateCommitmentRootV1 {accounts : InitializeCommitmentRootV1}
    (hstep : activateCommitmentRootV1 runtime call accounts world = .ok next) :
    Administers world next := by
  simp [activateCommitmentRootV1] at hstep
  obtain ⟨-, _, -, _, hroot, -, -, -, -, -, rfl⟩ := hstep
  exact administers_insert (administers_refl world)
    (administrative_of_overwrite hroot trivial trivial)

theorem administers_migrateTcapConfigLayoutV1 {accounts : MigrateTcapConfigLayoutV1}
    (hstep : migrateTcapConfigLayoutV1 runtime call accounts world = .ok next) :
    Administers world next := by
  simp [migrateTcapConfigLayoutV1] at hstep
  obtain ⟨-, -, _, hconfig, -, rfl⟩ := hstep
  exact administers_insert (administers_refl world)
    (administrative_of_overwrite hconfig trivial trivial)

theorem administers_registerTsnAuthorizationV1 {accounts : RegisterTsnAuthorizationV1}
    {authorization : TsnSettlementAuthorizationV1}
    (hstep : registerTsnAuthorizationV1 runtime call accounts authorization world =
      .ok next) :
    Administers world next := by
  simp only [registerTsnAuthorizationV1, bind_eq_ok, vacant_eq_ok, pure_eq_ok] at hstep
  obtain ⟨_, -, _, -, _, -, _, -, _, -, _, -, _, ⟨-, hfresh⟩, _, -, _, -, _, -, _, -, _, -,
    _, -, _, -, _, -, _, -, _, -, _, -, _, -, _, -, _, -, _, -, _, -, _, -, _, -, _, -,
    _, -, _, -, _, -, rfl⟩ := hstep
  exact administers_insert (administers_refl world)
    (administrative_of_fresh hfresh trivial)

theorem administers_raiseMinimumInstructionVersionV2
    {accounts : RaiseMinimumInstructionVersionV2}
    (hstep : raiseMinimumInstructionVersionV2 runtime call accounts world = .ok next) :
    Administers world next := by
  simp only [raiseMinimumInstructionVersionV2, bind_eq_ok, loadConfig_eq_ok] at hstep
  obtain ⟨_, -, config, ⟨hconfig, -⟩, _, -, _, -, hstep⟩ := hstep
  split at hstep
  · cases hstep
    exact administers_refl world
  · cases hstep
    exact administers_insert (administers_refl world)
      (administrative_of_overwrite hconfig trivial trivial)

theorem administers_migrateLegacyAssetPolicyV2 {accounts : MigrateLegacyAssetPolicyV2}
    {args : MigrateLegacyAssetPolicyArgsV2} (hwellFormed : WellFormed world)
    (hstep : migrateLegacyAssetPolicyV2 runtime call accounts args world = .ok next) :
    Administers world next := by
  simp only [migrateLegacyAssetPolicyV2, bind_eq_ok, load_eq_ok, wrap_entry, vacant_eq_ok,
    pure_eq_ok] at hstep
  obtain ⟨_, -, _, -, _, -, entry, hentry, _, -, _, -, _, ⟨-, hpolicy⟩, _,
    ⟨-, hextension⟩, hstep⟩ := hstep
  obtain ⟨_, -, _, -, _, -, _, -, _, -, _, -, _, -, _, -, _, -, _, -, _, -, _, -, rfl⟩ :=
    hstep
  refine administers_insert (administers_insert (administers_insert
    (administers_refl world) ?_) ?_) ?_
  · exact administrative_entry hwellFormed hentry rfl rfl rfl rfl rfl
  · exact administrative_of_fresh hpolicy trivial
  · exact administrative_of_fresh hextension trivial

theorem loadGovernAssetV2_eq_ok {accounts : GovernAssetV2} {config : TcapGlobalConfigV1}
    {entry : TcapAssetEntryV1} {policy : TcapAssetGovernancePolicyV2}
    (hload : loadGovernAssetV2 runtime call accounts world = .ok (config, entry, policy)) :
    world.lookup accounts.assetEntry = some (.entry entry) ∧
      world.lookup accounts.governancePolicy = some (.policy policy) := by
  simp only [loadGovernAssetV2, bind_eq_ok, load_eq_ok, wrap_entry, pure_eq_ok,
    Prod.mk.injEq] at hload
  obtain ⟨_, -, _, -, _, -, _, hentry, _, -, _, -, _, -, _, hpolicy, _, -, -, rfl, rfl⟩ :=
    hload
  exact ⟨hentry, loadPolicy_eq_ok hpolicy⟩

theorem administers_setAssetApprovalV2 {accounts : GovernAssetV2}
    {newStatus : TcapAssetApprovalStatusV2} (hwellFormed : WellFormed world)
    (hstep : setAssetApprovalV2 runtime call accounts newStatus world = .ok next) :
    Administers world next := by
  simp only [setAssetApprovalV2, bind_eq_ok] at hstep
  obtain ⟨⟨config, entry, policy⟩, hload, _, -, _, -, _, -, hstep⟩ := hstep
  obtain ⟨hentry, hpolicy⟩ := loadGovernAssetV2_eq_ok hload
  split at hstep
  · cases hstep
    exact administers_refl world
  · simp only [bind_eq_ok, pure_eq_ok] at hstep
    obtain ⟨riskState, -, rfl⟩ := hstep
    exact administers_insert (administers_insert (administers_refl world)
      (administrative_of_overwrite hpolicy trivial trivial))
      (administrative_entry hwellFormed hentry rfl rfl rfl rfl rfl)

theorem administers_setAssetSettlementPolicyV2 {accounts : GovernAssetV2}
    {settlements publicExit confidential : Bool}
    (hstep : setAssetSettlementPolicyV2 runtime call accounts settlements publicExit
      confidential world = .ok next) :
    Administers world next := by
  simp only [setAssetSettlementPolicyV2, bind_eq_ok, pure_eq_ok] at hstep
  obtain ⟨⟨config, entry, policy⟩, hload, _, -, _, -, rfl⟩ := hstep
  exact administers_insert (administers_refl world)
    (administrative_of_overwrite (loadGovernAssetV2_eq_ok hload).2 trivial trivial)

theorem loadManageOperationalAssetV2_eq_ok {accounts : ManageOperationalAssetV2}
    {asset : OperationalAsset}
    (hload : loadManageOperationalAssetV2 runtime call accounts world = .ok asset) :
    world.lookup accounts.assetEntry = some (.entry asset.entry) ∧
      world.lookup accounts.governancePolicy = some (.policy asset.policy) ∧
      world.lookup accounts.reserveState = some (.reserve asset.reserve) := by
  simp only [loadManageOperationalAssetV2, bind_eq_ok, load_eq_ok, wrap_entry, wrap_reserve,
    pure_eq_ok] at hload
  obtain ⟨_, -, _, -, _, -, _, hentry, _, hpolicy, _, -, _, hreserve, hload⟩ := hload
  obtain ⟨_, -, _, -, _, -, _, -, _, -, _, -, _, -, _, -, _, -, _, -, hload⟩ := hload
  obtain ⟨_, -, _, -, _, -, _, -, _, -, _, -, _, -, _, -, _, -, rfl⟩ := hload
  exact ⟨hentry, loadPolicy_eq_ok hpolicy, hreserve⟩

/-- An operational change writes flags only. -/
theorem administers_writeOperational {accounts : ManageOperationalAssetV2}
    {asset : OperationalAsset} {policy : TcapAssetGovernancePolicyV2}
    {entry : TcapAssetEntryV1} {reserve : TcapReserveStateV1}
    (hwellFormed : WellFormed world)
    (hload : loadManageOperationalAssetV2 runtime call accounts world = .ok asset)
    (hentry : entry.registry = asset.entry.registry ∧ entry.asset = asset.entry.asset ∧
      entry.reserveState = asset.entry.reserveState ∧
      entry.futureVault = asset.entry.futureVault ∧
      entry.reserveAuthority = asset.entry.reserveAuthority)
    (hreserve : reserve.assetEntry = asset.reserve.assetEntry ∧
      reserve.actualAssets = asset.reserve.actualAssets ∧
      reserve.settledConfidentialLiabilities =
        asset.reserve.settledConfidentialLiabilities ∧
      unsettledLiabilities reserve = unsettledLiabilities asset.reserve) :
    Administers world (writeOperational accounts world policy entry reserve) := by
  obtain ⟨hentryAt, hpolicyAt, hreserveAt⟩ := loadManageOperationalAssetV2_eq_ok hload
  obtain ⟨hregistry, hasset, hstate, hvault, hauthority⟩ := hentry
  obtain ⟨hlink, hactual, hsettled, hunsettled⟩ := hreserve
  refine administers_insert (administers_insert (administers_insert
    (administers_refl world) ?_) ?_) ?_
  · exact administrative_of_overwrite hpolicyAt trivial trivial
  · exact administrative_entry hwellFormed hentryAt hregistry hasset hstate hvault hauthority
  · exact administrative_reserve hwellFormed hreserveAt hlink hactual hsettled hunsettled

theorem administers_setAssetOperationalStatusV2 {accounts : ManageOperationalAssetV2}
    {newStatus : TcapAssetOperationalStatusV2} (hwellFormed : WellFormed world)
    (hstep : setAssetOperationalStatusV2 runtime call accounts newStatus world = .ok next) :
    Administers world next := by
  simp only [setAssetOperationalStatusV2, bind_eq_ok] at hstep
  obtain ⟨asset, hload, _, -, _, -, _, -, hstep⟩ := hstep
  split at hstep
  · cases hstep
    exact administers_refl world
  · cases newStatus <;> cases hstep <;>
      exact administers_writeOperational hwellFormed hload ⟨rfl, rfl, rfl, rfl, rfl⟩
        ⟨rfl, rfl, rfl, rfl⟩

theorem administers_revokeAssetApprovalV2 {accounts : ManageOperationalAssetV2}
    (hwellFormed : WellFormed world)
    (hstep : revokeAssetApprovalV2 runtime call accounts world = .ok next) :
    Administers world next := by
  simp only [revokeAssetApprovalV2, bind_eq_ok] at hstep
  obtain ⟨asset, hload, _, -, _, -, hstep⟩ := hstep
  split at hstep
  · cases hstep
    exact administers_refl world
  · simp only [bind_eq_ok, pure_eq_ok] at hstep
    obtain ⟨_, -, rfl⟩ := hstep
    exact administers_writeOperational hwellFormed hload ⟨rfl, rfl, rfl, rfl, rfl⟩
      ⟨rfl, rfl, rfl, rfl⟩

theorem administers_initializeGovernedReserveV2
    {accounts : InitializeGovernedReserveV2}
    (hstep : initializeGovernedReserveV2 runtime call accounts world = .ok next) :
    Administers world next := by
  simp only [initializeGovernedReserveV2, bind_eq_ok, vacant_eq_ok, pure_eq_ok] at hstep
  obtain ⟨_, -, config, -, entry, hentry, policy, hpolicy, _, ⟨hkey, hfresh⟩, hstep⟩ := hstep
  obtain ⟨_, -, _, -, _, -, _, -, _, -, _, -, rfl⟩ := hstep
  refine administers_insert (administers_insert (administers_refl world) ?_)
    (administrative_of_overwrite (loadPolicy_eq_ok hpolicy) trivial trivial)
  rw [Administrative, hfresh]
  refine ⟨⟨?_, ?_⟩, ⟨hkey, entry, loadEntry_eq_ok hentry⟩, ?_⟩
  · rintro _ hnone
    cases hnone
  · rintro _ hnone
    cases hnone
  · exact ⟨by simp, rfl, rfl, rfl, rfl, rfl, fun _ => rfl, fun _ => rfl⟩

theorem administers_initializeGovernedVaultV2 {accounts : InitializeGovernedVaultV2}
    (hstep : initializeGovernedVaultV2 runtime call accounts world = .ok next) :
    Administers world next := by
  simp only [initializeGovernedVaultV2, bind_eq_ok, vacant_eq_ok, seeds_eq_ok,
    pure_eq_ok] at hstep
  obtain ⟨_, -, _, -, _, -, policy, hpolicy, _, -, _, -, _, -, _, -, _, ⟨hkey, hfresh⟩,
    hstep⟩ := hstep
  obtain ⟨_, -, _, -, _, -, _, -, _, -, _, -, _, -, _, ⟨hauthority, -⟩, hstep⟩ := hstep
  obtain ⟨_, -, _, -, _, -, _, -, rfl⟩ := hstep
  refine administers_insert (administers_insert (administers_refl world) ?_)
    (administrative_of_overwrite (loadPolicy_eq_ok hpolicy) trivial trivial)
  rw [Administrative, hfresh]
  refine ⟨⟨?_, ?_⟩, fun _ => ⟨accounts.assetEntry, hkey, hauthority⟩, ?_⟩
  · rintro _ hnone
    cases hnone
  · rintro _ hnone
    cases hnone
  · exact ⟨by simp, rfl, rfl, rfl, rfl, rfl, fun _ => rfl, fun _ => rfl⟩

theorem administers_setGovernedDepositPolicyV2
    {accounts : SyncGovernedAssetInfrastructureV2} {enabled : Bool}
    (hwellFormed : WellFormed world)
    (hstep : setGovernedDepositPolicyV2 runtime call accounts enabled world = .ok next) :
    Administers world next := by
  simp only [setGovernedDepositPolicyV2, bind_eq_ok, load_eq_ok, wrap_reserve] at hstep
  obtain ⟨_, -, _, -, entry, hentry, policy, hpolicy, _, -, reserve, hreserve, hstep⟩ := hstep
  obtain ⟨_, -, _, -, _, -, _, -, _, -, _, -, _, -, _, -, hstep⟩ := hstep
  obtain ⟨_, -, _, -, _, -, _, -, _, -, _, -, _, -, _, -, hstep⟩ := hstep
  split at hstep
  · cases hstep
    exact administers_refl world
  · cases hstep
    refine administers_insert (administers_insert (administers_insert
      (administers_refl world) ?_) ?_) ?_
    · exact administrative_of_overwrite (loadPolicy_eq_ok hpolicy) trivial trivial
    · exact administrative_entry hwellFormed (loadEntry_eq_ok hentry) rfl rfl rfl rfl rfl
    · exact administrative_reserve hwellFormed hreserve rfl rfl rfl rfl

/-- Reserves of the older layout do not occur. -/
theorem migrateReserveTransferPendingV1_ne_ok
    {accounts : MigrateReserveTransferPendingV1} (hwellFormed : WellFormed world) :
    migrateReserveTransferPendingV1 runtime call accounts world ≠ .ok next := by
  intro hstep
  simp only [migrateReserveTransferPendingV1, bind_eq_ok] at hstep
  obtain ⟨_, -, _, -, _, -, _, -, _, -, hstep⟩ := hstep
  split at hstep
  · rename_i reserve hlegacy
    exact hwellFormed _ _ hlegacy
  · cases hstep

/-- Asset states, which a custody migration needs, do not occur. -/
theorem migrateAssetEntryCustodyGraphV2_ne_ok
    {accounts : MigrateAssetEntryCustodyGraphV2} (hwellFormed : WellFormed world) :
    migrateAssetEntryCustodyGraphV2 runtime call accounts world ≠ .ok next := by
  intro hstep
  simp only [migrateAssetEntryCustodyGraphV2, bind_eq_ok, load_eq_ok,
    wrap_assetState] at hstep
  obtain ⟨_, -, _, -, _, -, _, -, assetState, hassetState, -⟩ := hstep
  exact hwellFormed _ _ hassetState

theorem administers_initializeOneTimeTip {accounts : InitializeOneTimeTip}
    {args : InitializeOneTimeTipArgs}
    (hstep : initializeOneTimeTip runtime call accounts args world = .ok next) :
    Administers world next := by
  simp [initializeOneTimeTip] at hstep
  obtain ⟨-, ⟨-, hfresh⟩, -, -, rfl⟩ := hstep
  exact administers_insert (administers_refl world)
    (administrative_of_fresh hfresh trivial)

theorem administers_consumeOneTimeTip {accounts : ConsumeOneTimeTip}
    {args : ConsumeOneTimeTipArgs}
    (hstep : consumeOneTimeTip runtime call accounts args world = .ok next) :
    Administers world next := by
  simp only [consumeOneTimeTip, bind_eq_ok, load_eq_ok, wrap_oneTimeTip, vacant_eq_ok,
    pure_eq_ok] at hstep
  obtain ⟨_, -, _, -, tip, htip, _, ⟨-, hfresh⟩, hstep⟩ := hstep
  obtain ⟨_, -, _, -, _, -, _, -, _, -, _, -, _, -, _, -, hstep⟩ := hstep
  obtain ⟨_, -, _, -, _, -, _, -, _, -, _, -, rfl⟩ := hstep
  exact administers_insert (administers_insert (administers_refl world)
    (administrative_of_overwrite htip trivial trivial))
    (administrative_of_fresh hfresh trivial)

theorem administers_initializeOneTimeTipLiability
    {accounts : InitializeOneTimeTipLiability} {initialAvailable : Nat}
    (hstep : initializeOneTimeTipLiability runtime call accounts initialAvailable world =
      .ok next) :
    Administers world next := by
  simp only [initializeOneTimeTipLiability, bind_eq_ok, vacant_eq_ok, check_eq_ok,
    pure_eq_ok] at hstep
  obtain ⟨_, -, _, -, _, -, entry, hentry, _, -, _, ⟨hkey, hfresh⟩, hstep⟩ := hstep
  obtain ⟨_, -, _, -, _, -, _, -, _, rfl, rfl⟩ := hstep
  refine administers_insert (administers_refl world) ?_
  rw [Administrative, hfresh]
  refine ⟨⟨?_, ?_⟩, ⟨hkey, entry, loadEntry_eq_ok hentry⟩, ?_⟩
  · rintro _ hnone
    cases hnone
  · rintro _ hnone
    cases hnone
  · constructor <;> intros <;> simp [entryMint, actualOf, unsettledOf, settledOf, tokensOf,
      availableOf, outstandingOf]

theorem administers_migrateTipSealV1 {accounts : MigrateTipSealV1}
    (hwellFormed : WellFormed world)
    (hstep : migrateTipSealV1 runtime call accounts world = .ok next) :
    Administers world next := by
  simp only [migrateTipSealV1, bind_eq_ok] at hstep
  obtain ⟨_, -, _, -, _, -, hstep⟩ := hstep
  split at hstep
  · rename_i tip htip
    exact (hwellFormed _ _ htip).elim
  · rename_i root hroot
    cases hstep
    exact administers_insert (administers_refl world)
      (administrative_of_overwrite hroot trivial trivial)
  · rename_i reserve hreserve
    exact (hwellFormed _ _ hreserve).elim
  · cases hstep
  · cases hstep

theorem administers_repairTipSealV1 {accounts : MigrateTipSealV1}
    (hstep : repairTipSealV1 runtime call accounts world = .ok next) :
    Administers world next := by
  simp only [repairTipSealV1, bind_eq_ok] at hstep
  obtain ⟨_, -, _, -, _, -, hstep⟩ := hstep
  split at hstep
  · rename_i tip htip
    simp only [bind_eq_ok] at hstep
    obtain ⟨_, -, _, -, hstep⟩ := hstep
    split at hstep <;> cases hstep <;>
      exact administers_insert (administers_refl world)
        (administrative_of_overwrite htip trivial trivial)
  · cases hstep

/-- The debit paths behind the proof gate are closed. -/
theorem debitTcapBalanceV1_ne_ok {accounts : DebitTcapBalanceV1}
    {args : DebitTcapBalanceV1Args} :
    debitTcapBalanceV1 runtime call accounts args world ≠ .ok next := by
  intro hstep
  simp only [debitTcapBalanceV1, bind_eq_ok] at hstep
  obtain ⟨_, -, _, -, _, -, _, -, _, -, _, -, _, -, _, -, _, -, _, -, _, hgate, -⟩ := hstep
  cases hgate

@[inherit_doc debitTcapBalanceV1_ne_ok]
theorem debitTcapGpruTipV2_ne_ok {accounts : DebitTcapGpruTipV2}
    {args : DebitTcapGpruTipV2Args} :
    debitTcapGpruTipV2 runtime call accounts args world ≠ .ok next := by
  intro hstep
  simp only [debitTcapGpruTipV2, bind_eq_ok] at hstep
  obtain ⟨_, -, _, -, _, -, _, -, _, -, _, -, _, -, _, -, _, -, _, -, _, hgate, -⟩ := hstep
  cases hgate

@[inherit_doc debitTcapBalanceV1_ne_ok]
theorem exitTcapLiquidityV1_ne_ok {accounts : ExitTcapLiquidityV1}
    {args : ExitTcapLiquidityV1Args} :
    exitTcapLiquidityV1 runtime call accounts args world ≠ .ok next := by
  intro hstep
  simp only [exitTcapLiquidityV1, bind_eq_ok] at hstep
  obtain ⟨_, -, _, -, _, -, _, -, _, -, _, -, _, -, _, -, _, hgate, -⟩ := hstep
  cases hgate

/-- Instructions that move something on the ledger. -/
def MovesLedger : Instruction → Prop
  | .registerGovernedAssetV2 _ _ | .depositAssetV2 _ _
  | .depositWithFundingCommitmentV2 _ _ | .creditGpruMemoV1 _ _ | .creditOneTimeTip _ _
  | .creditOneTimeTipTransfer _ _ | .initializeTcapTipLiabilityV2 _ _
  | .debitTcapExitV1 _ _ | .payoutTcapExitV1 _ _
  | .syncGovernedAssetInfrastructureV2 _ => True
  | _ => False

/-- Every other instruction leaves the ledger alone. -/
theorem administers_execute {instruction : Instruction} (hidle : ¬ MovesLedger instruction)
    (hwellFormed : WellFormed world)
    (hstep : execute runtime call instruction world = .ok next) :
    Administers world next := by
  cases instruction with
  | registerGovernedAssetV2 | depositAssetV2 | depositWithFundingCommitmentV2
  | creditGpruMemoV1 | creditOneTimeTip | creditOneTimeTipTransfer
  | initializeTcapTipLiabilityV2 | debitTcapExitV1 | payoutTcapExitV1
  | syncGovernedAssetInfrastructureV2 => exact absurd trivial hidle
  | debitTcapBalanceV1 => exact absurd hstep debitTcapBalanceV1_ne_ok
  | debitTcapGpruTipV2 => exact absurd hstep debitTcapGpruTipV2_ne_ok
  | exitTcapLiquidityV1 => exact absurd hstep exitTcapLiquidityV1_ne_ok
  | migrateReserveTransferPendingV1 =>
      exact absurd hstep (migrateReserveTransferPendingV1_ne_ok hwellFormed)
  | migrateAssetEntryCustodyGraphV2 =>
      exact absurd hstep (migrateAssetEntryCustodyGraphV2_ne_ok hwellFormed)
  | initializeTcapV1 => exact administers_initializeTcapV1 hstep
  | initializeOneTimeTip => exact administers_initializeOneTimeTip hstep
  | consumeOneTimeTip => exact administers_consumeOneTimeTip hstep
  | initializeOneTimeTipLiability =>
      exact administers_initializeOneTimeTipLiability hstep
  | initializeAssetRegistryV1 => exact administers_initializeAssetRegistryV1 hstep
  | migrateTipSealV1 => exact administers_migrateTipSealV1 hwellFormed hstep
  | repairTipSealV1 => exact administers_repairTipSealV1 hstep
  | raiseMinimumInstructionVersionV2 =>
      exact administers_raiseMinimumInstructionVersionV2 hstep
  | migrateLegacyAssetPolicyV2 =>
      exact administers_migrateLegacyAssetPolicyV2 hwellFormed hstep
  | setAssetApprovalV2 => exact administers_setAssetApprovalV2 hwellFormed hstep
  | setAssetSettlementPolicyV2 => exact administers_setAssetSettlementPolicyV2 hstep
  | initializeGovernedReserveV2 => exact administers_initializeGovernedReserveV2 hstep
  | initializeGovernedVaultV2 => exact administers_initializeGovernedVaultV2 hstep
  | setGovernedDepositPolicyV2 =>
      exact administers_setGovernedDepositPolicyV2 hwellFormed hstep
  | setAssetOperationalStatusV2 =>
      exact administers_setAssetOperationalStatusV2 hwellFormed hstep
  | revokeAssetApprovalV2 => exact administers_revokeAssetApprovalV2 hwellFormed hstep
  | initializeNullifierRegistryV1 =>
      exact administers_initializeNullifierRegistryV1 hstep
  | initializeCommitmentRootV1 => exact administers_initializeCommitmentRootV1 hstep
  | activateCommitmentRootV1 => exact administers_activateCommitmentRootV1 hstep
  | migrateTcapConfigLayoutV1 => exact administers_migrateTcapConfigLayoutV1 hstep
  | registerTsnAuthorizationV1 => exact administers_registerTsnAuthorizationV1 hstep

end TsnProtocol.Tcap.Administration
