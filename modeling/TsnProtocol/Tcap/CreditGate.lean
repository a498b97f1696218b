import TsnProtocol.Tcap.DepositGate
import TsnProtocol.Tcap.Frames
import TsnProtocol.Tcap.Solvency

/-!
The settlement policy of a governed asset against the credits it receives. A credit reads
the status of the asset entry and never the policy; along every run of the program an entry
is active only under a policy that is approved, active and set up. The flag that enables
settlements is refused by its setter, so it is off all the time.
-/

namespace TsnProtocol.Tcap.CreditGate

open Lib.Checked
open Lib.FiniteStore
open Lib.Transition
open Solana.Address
open Tcap.State
open Tcap.Execution
open Tcap.AssetGovernance
open Tcap.Funding
open Tcap.Tips
open Tcap.Program
open Tcap.Administration
open Tcap.Frames
open Tcap.DepositGate (deriveAssetGovernancePolicy_inj loadPolicy_address
  loadGovernAssetV2_address loadManageOperationalAssetV2_links)

variable {runtime : Runtime} {call : Call} {world next : World} {key other target : Pubkey}

def acceptedForSettlement (policy : TcapAssetGovernancePolicyV2) : Bool :=
  policy.approvalStatus = .approved && policy.operationalStatus = .active &&
    policy.settlementsEnabled && policy.reserveInitialized && policy.vaultInitialized &&
      !policy.deprecatedIrreversible

/-- The asset a credit of the two instructions goes to. -/
def credited : Step → Option Pubkey
  | .tcap _ (.creditGpruMemoV1 accounts _) => some accounts.assetEntry
  | .tcap _ (.creditOneTimeTip accounts _) => some accounts.assetEntry
  | _ => none

/-- What an active policy has behind it. -/
structure SetUp (policy : TcapAssetGovernancePolicyV2) : Prop where
  approved : policy.approvalStatus = .approved
  reserveInitialized : policy.reserveInitialized = true
  vaultInitialized : policy.vaultInitialized = true
  reversible : policy.deprecatedIrreversible = false

/-- How the status of an entry follows the policy of its asset. -/
structure Follows (entry : TcapAssetEntryV1) (policy : TcapAssetGovernancePolicyV2) :
    Prop where
  active : entry.status = .active → policy.operationalStatus = .active
  setUp : policy.operationalStatus = .active → SetUp policy
  settlementsOff : policy.settlementsEnabled = false

/-- An asset as it is stored: its entry and its policy. -/
structure Governs (world : World) (key : Pubkey) (entry : TcapAssetEntryV1)
    (policy : TcapAssetGovernancePolicyV2) : Prop where
  entry : world.lookup key = some (.entry entry)
  policy : world.lookup (deriveAssetGovernancePolicy key) = some (.policy policy)

/-- Every governed asset follows its policy. -/
def AllFollow (world : World) : Prop :=
  ∀ key entry policy, Governs world key entry policy → Follows entry policy

/-- A write an instruction on one asset may make: an entry or a policy of that asset, or an
account of another kind. -/
def OfAsset (target key : Pubkey) : Account → Prop
  | .entry _ => key = target
  | .policy _ => key = deriveAssetGovernancePolicy target
  | _ => True

/-- The entries and policies of other assets are those of `world`. -/
def Confined (target : Pubkey) (world next : World) : Prop :=
  ∀ key entry policy, key ≠ target → Governs next key entry policy →
    Governs world key entry policy

theorem lookup_of_insert {written stored : Account} (hkind : kind written ≠ kind stored)
    (hlookup : (world.insert other written).lookup key = some stored) :
    world.lookup key = some stored := by
  rw [lookup_insert_eq] at hlookup
  split_ifs at hlookup
  · cases hlookup
    exact absurd rfl hkind
  · exact hlookup

theorem confined_refl (target : Pubkey) (world : World) : Confined target world world :=
  fun _ _ _ _ hgoverns => hgoverns

theorem confined_insert {account : Account} (hconfined : Confined target world next)
    (hasset : OfAsset target key account) :
    Confined target world (next.insert key account) := by
  intro other entry policy hother hgoverns
  refine hconfined other entry policy hother ⟨?_, ?_⟩
  · have hentry := hgoverns.entry
    rw [lookup_insert_eq] at hentry
    split_ifs at hentry with hkey
    · cases hentry
      exact absurd (hkey.trans hasset) hother
    · exact hentry
  · have hpolicy := hgoverns.policy
    rw [lookup_insert_eq] at hpolicy
    split_ifs at hpolicy with hkey
    · cases hpolicy
      exact absurd (deriveAssetGovernancePolicy_inj.mp (hkey.trans hasset)) hother
    · exact hpolicy

/-- An instruction on one asset has to make that asset follow its policy. -/
theorem allFollow_of_target (target : Pubkey) (hfollow : AllFollow world)
    (hconfined : Confined target world next)
    (htarget : ∀ entry policy, Governs next target entry policy → Follows entry policy) :
    AllFollow next := by
  intro key entry policy hgoverns
  by_cases hkey : key = target
  · subst hkey
    exact htarget entry policy hgoverns
  · exact hfollow key entry policy (hconfined key entry policy hkey hgoverns)

/-- What is stored neither as an entry nor as a policy may change freely. -/
theorem allFollow_of_writesOnly {kinds : List AccountKind} (hfollow : AllFollow world)
    (hwrites : WritesOnly kinds world next) (hentry : .entry ∉ kinds)
    (hpolicy : .policy ∉ kinds) : AllFollow next := by
  intro key entry policy hgoverns
  refine hfollow key entry policy ⟨?_, ?_⟩
  · exact (hwrites.stored _ _ hgoverns.entry).resolve_right hentry
  · exact (hwrites.stored _ _ hgoverns.policy).resolve_right hpolicy

theorem follows_of_inactive {entry : TcapAssetEntryV1} {policy : TcapAssetGovernancePolicyV2}
    (hentry : entry.status ≠ .active) (hpolicy : policy.operationalStatus ≠ .active)
    (hoff : policy.settlementsEnabled = false) : Follows entry policy where
  active := fun hactive => absurd hactive hentry
  setUp := fun hactive => absurd hactive hpolicy
  settlementsOff := hoff

/-- The asset a governance instruction is about. -/
def governedAsset : Instruction → Option Pubkey
  | .registerGovernedAssetV2 accounts _ => some accounts.assetEntry
  | .migrateLegacyAssetPolicyV2 accounts _ => some accounts.assetEntry
  | .setAssetApprovalV2 accounts _ => some accounts.assetEntry
  | .setAssetSettlementPolicyV2 accounts _ _ _ => some accounts.assetEntry
  | .initializeGovernedReserveV2 accounts => some accounts.assetEntry
  | .initializeGovernedVaultV2 accounts => some accounts.assetEntry
  | .syncGovernedAssetInfrastructureV2 accounts => some accounts.assetEntry
  | .setGovernedDepositPolicyV2 accounts _ => some accounts.assetEntry
  | .setAssetOperationalStatusV2 accounts _ => some accounts.assetEntry
  | .revokeAssetApprovalV2 accounts => some accounts.assetEntry
  | .migrateAssetEntryCustodyGraphV2 accounts => some accounts.assetEntry
  | _ => none

theorem vacant_address {result : Unit} (hvacant : vacant world key other = .ok result) :
    key = other :=
  (vacant_eq_ok.mp hvacant).1

theorem loadManageOperationalAssetV2_address {accounts : ManageOperationalAssetV2}
    {asset : OperationalAsset}
    (hload : loadManageOperationalAssetV2 runtime call accounts world = .ok asset) :
    accounts.governancePolicy = deriveAssetGovernancePolicy accounts.assetEntry :=
  (loadManageOperationalAssetV2_links hload).1

/-- A governance instruction writes no entry and no policy but those of its asset. -/
theorem confined_execute (runtime : Runtime) (call : Call) {instruction : Instruction}
    (world : World) (htarget : governedAsset instruction = some target) :
    Ensures (Confined target world) (execute runtime call instruction world) := by
  cases instruction <;> cases htarget
  -- one pass over the text of every instruction: a check, a branch or a write at a time
  all_goals
    simp only [execute, registerGovernedAssetV2, migrateLegacyAssetPolicyV2,
      setAssetApprovalV2, setAssetSettlementPolicyV2, initializeGovernedReserveV2,
      initializeGovernedVaultV2, syncGovernedAssetInfrastructureV2,
      setGovernedDepositPolicyV2, setAssetOperationalStatusV2, revokeAssetApprovalV2,
      migrateAssetEntryCustodyGraphV2, writeOperational]
    repeat' first
      | refine ensures_bind fun _ _ => ?_
      | refine ensures_pure ?_
      | refine confined_insert ?_ (by
          first
            | exact trivial
            | exact rfl
            | exact vacant_address (by assumption)
            | exact loadPolicy_address (by assumption)
            | exact loadGovernAssetV2_address (by assumption)
            | exact loadManageOperationalAssetV2_address (by assumption))
      | exact confined_refl _ world
      | split

/-- Rewriting an asset outside of its two statuses. -/
theorem Follows.rewrite {entry entry' : TcapAssetEntryV1}
    {policy policy' : TcapAssetGovernancePolicyV2} (hfollows : Follows entry policy)
    (hentry : entry'.status = entry.status)
    (hpolicy : policy'.operationalStatus = policy.operationalStatus)
    (hsetUp : SetUp policy → SetUp policy')
    (hoff : policy.settlementsEnabled = false → policy'.settlementsEnabled = false) :
    Follows entry' policy' where
  active := by
    rw [hentry, hpolicy]
    exact hfollows.active
  setUp := by
    rw [hpolicy]
    exact fun hactive => hsetUp (hfollows.setUp hactive)
  settlementsOff := hoff hfollows.settlementsOff

theorem entry_of_insert {entry entry' : TcapAssetEntryV1}
    (hlookup : (world.insert key (.entry entry')).lookup key = some (.entry entry)) :
    entry' = entry := by
  rw [Finmap.lookup_insert] at hlookup
  cases hlookup
  rfl

theorem policy_of_insert {policy policy' : TcapAssetGovernancePolicyV2}
    (hlookup : (world.insert key (.policy policy')).lookup key = some (.policy policy)) :
    policy' = policy := by
  rw [Finmap.lookup_insert] at hlookup
  cases hlookup
  rfl

/-- A policy rewritten in place, perhaps with a reserve or a vault beside it. -/
theorem follows_of_policy {entry : TcapAssetEntryV1}
    {policy policy' stored : TcapAssetGovernancePolicyV2} {moved : World}
    (hfollow : AllFollow world)
    (hpolicy : world.lookup (deriveAssetGovernancePolicy target) = some (.policy policy))
    (hmoved : ∀ entry, moved.lookup target = some (.entry entry) →
      world.lookup target = some (.entry entry))
    (hkept : ∀ entry, Follows entry policy → Follows entry policy')
    (hgoverns : Governs (moved.insert (deriveAssetGovernancePolicy target) (.policy policy'))
      target entry stored) :
    Follows entry stored := by
  obtain rfl := policy_of_insert hgoverns.policy
  refine hkept entry (hfollow target entry policy ⟨hmoved entry ?_, hpolicy⟩)
  exact lookup_of_insert (by simp [kind]) hgoverns.entry

theorem allFollow_registerGovernedAssetV2 {accounts : RegisterGovernedAssetV2}
    {args : RegisterGovernedAssetArgsV2} (hfollow : AllFollow world)
    (hconfined : Confined accounts.assetEntry world next)
    (hstep : registerGovernedAssetV2 runtime call accounts args world = .ok next) :
    AllFollow next := by
  simp only [registerGovernedAssetV2, bind_eq_ok, vacant_eq_ok, pure_eq_ok] at hstep
  obtain ⟨_, -, config, -, registry, -, mint, -, _, -, _, -, _, ⟨hpolicyKey, -⟩, _, -,
    hstep⟩ := hstep
  obtain ⟨_, -, _, -, _, -, _, -, _, -, _, -, _, -, _, -, _, -, _, -, inspection, -, _, -,
    entryCount, -, rfl⟩ := hstep
  refine allFollow_of_target accounts.assetEntry hfollow hconfined ?_
  rintro entry policy ⟨hentry, hpolicy⟩
  rw [← hpolicyKey] at hpolicy
  obtain rfl := policy_of_insert
    (lookup_of_insert (by simp [kind]) (lookup_of_insert (by simp [kind]) hpolicy))
  obtain rfl := entry_of_insert
    (lookup_of_insert (by simp [kind]) (lookup_of_insert (by simp [kind]) (lookup_of_insert (by simp [kind]) hentry)))
  exact follows_of_inactive (by rintro ⟨⟩) (by rintro ⟨⟩) rfl

theorem allFollow_migrateLegacyAssetPolicyV2 {accounts : MigrateLegacyAssetPolicyV2}
    {args : MigrateLegacyAssetPolicyArgsV2} (hfollow : AllFollow world)
    (hconfined : Confined accounts.assetEntry world next)
    (hstep : migrateLegacyAssetPolicyV2 runtime call accounts args world = .ok next) :
    AllFollow next := by
  simp only [migrateLegacyAssetPolicyV2, bind_eq_ok, vacant_eq_ok, pure_eq_ok] at hstep
  obtain ⟨_, -, _, -, _, -, entry, -, _, -, _, -, _, ⟨hpolicyKey, -⟩, _, -, hstep⟩ := hstep
  obtain ⟨_, -, _, -, _, -, _, -, _, -, _, -, _, -, _, -, _, -, _, -, _, -, _, -, rfl⟩ :=
    hstep
  refine allFollow_of_target accounts.assetEntry hfollow hconfined ?_
  rintro entry policy ⟨hentry, hpolicy⟩
  rw [← hpolicyKey] at hpolicy
  obtain rfl := policy_of_insert (lookup_of_insert (by simp [kind]) hpolicy)
  obtain rfl := entry_of_insert (lookup_of_insert (by simp [kind]) (lookup_of_insert (by simp [kind]) hentry))
  exact follows_of_inactive (by rintro ⟨⟩) (by rintro ⟨⟩) rfl

theorem allFollow_setAssetApprovalV2 {accounts : GovernAssetV2}
    {newStatus : TcapAssetApprovalStatusV2} (hfollow : AllFollow world)
    (hconfined : Confined accounts.assetEntry world next)
    (hstep : setAssetApprovalV2 runtime call accounts newStatus world = .ok next) :
    AllFollow next := by
  simp only [setAssetApprovalV2, bind_eq_ok, check_eq_ok] at hstep
  obtain ⟨⟨config, entry, policy⟩, hload, _, -, _, -, _, hinactive, hstep⟩ := hstep
  obtain ⟨hentry, hpolicy⟩ := loadGovernAssetV2_eq_ok hload
  rw [loadGovernAssetV2_address hload] at hpolicy hstep
  have hfollows := hfollow _ entry policy ⟨hentry, hpolicy⟩
  split at hstep
  · cases hstep
    exact hfollow
  · simp only [bind_eq_ok, pure_eq_ok] at hstep
    obtain ⟨riskState, -, rfl⟩ := hstep
    refine allFollow_of_target accounts.assetEntry hfollow hconfined ?_
    rintro entry' policy' ⟨hentry', hpolicy'⟩
    obtain rfl := policy_of_insert (lookup_of_insert (by simp [kind]) hpolicy')
    obtain rfl := entry_of_insert hentry'
    have hnotActive : policy.operationalStatus ≠ .active := by
      rw [show policy.operationalStatus = .inactive from hinactive]
      rintro ⟨⟩
    exact follows_of_inactive (mt hfollows.active hnotActive) hnotActive
      hfollows.settlementsOff

theorem allFollow_setAssetSettlementPolicyV2 {accounts : GovernAssetV2}
    {settlements publicExit confidential : Bool} (hfollow : AllFollow world)
    (hconfined : Confined accounts.assetEntry world next)
    (hstep : setAssetSettlementPolicyV2 runtime call accounts settlements publicExit
      confidential world = .ok next) :
    AllFollow next := by
  simp only [setAssetSettlementPolicyV2, bind_eq_ok, pure_eq_ok] at hstep
  obtain ⟨⟨config, entry, policy⟩, hload, _, -, _, -, rfl⟩ := hstep
  obtain ⟨-, hpolicy⟩ := loadGovernAssetV2_eq_ok hload
  rw [loadGovernAssetV2_address hload] at hpolicy hconfined ⊢
  refine allFollow_of_target accounts.assetEntry hfollow hconfined ?_
  intro entry' policy' hgoverns
  refine follows_of_policy hfollow hpolicy (fun _ hentry => hentry) ?_ hgoverns
  exact fun entry hfollows => hfollows.rewrite rfl rfl
    (fun hsetUp => { hsetUp with }) fun _ => rfl

theorem allFollow_initializeGovernedReserveV2 {accounts : InitializeGovernedReserveV2}
    (hfollow : AllFollow world) (hconfined : Confined accounts.assetEntry world next)
    (hstep : initializeGovernedReserveV2 runtime call accounts world = .ok next) :
    AllFollow next := by
  simp only [initializeGovernedReserveV2, bind_eq_ok, pure_eq_ok] at hstep
  obtain ⟨_, -, config, -, entry, -, policy, hpolicy, _, -, hstep⟩ := hstep
  obtain ⟨_, -, _, -, _, -, _, -, _, -, _, -, rfl⟩ := hstep
  have hlookup := loadPolicy_eq_ok hpolicy
  rw [loadPolicy_address hpolicy] at hlookup hconfined ⊢
  refine allFollow_of_target accounts.assetEntry hfollow hconfined ?_
  intro entry' policy' hgoverns
  refine follows_of_policy hfollow hlookup (fun _ => lookup_of_insert (by simp [kind])) ?_ hgoverns
  exact fun entry hfollows => hfollows.rewrite rfl rfl
    (fun hsetUp => { hsetUp with reserveInitialized := rfl }) id

theorem allFollow_initializeGovernedVaultV2 {accounts : InitializeGovernedVaultV2}
    (hfollow : AllFollow world) (hconfined : Confined accounts.assetEntry world next)
    (hstep : initializeGovernedVaultV2 runtime call accounts world = .ok next) :
    AllFollow next := by
  simp only [initializeGovernedVaultV2, bind_eq_ok, pure_eq_ok] at hstep
  obtain ⟨_, -, _, -, entry, -, policy, hpolicy, _, -, _, -, _, -, _, -, _, -, hstep⟩ := hstep
  obtain ⟨_, -, _, -, _, -, _, -, _, -, _, -, _, -, _, -, _, -, _, -, _, -, _, -, rfl⟩ := hstep
  have hlookup := loadPolicy_eq_ok hpolicy
  rw [loadPolicy_address hpolicy] at hlookup hconfined ⊢
  refine allFollow_of_target accounts.assetEntry hfollow hconfined ?_
  intro entry' policy' hgoverns
  refine follows_of_policy hfollow hlookup (fun _ => lookup_of_insert (by simp [kind])) ?_ hgoverns
  exact fun entry hfollows => hfollows.rewrite rfl rfl
    (fun hsetUp => { hsetUp with vaultInitialized := rfl }) id

theorem allFollow_syncGovernedAssetInfrastructureV2
    {accounts : SyncGovernedAssetInfrastructureV2} (hfollow : AllFollow world)
    (hconfined : Confined accounts.assetEntry world next)
    (hstep : syncGovernedAssetInfrastructureV2 runtime call accounts world = .ok next) :
    AllFollow next := by
  simp only [syncGovernedAssetInfrastructureV2, bind_eq_ok, pure_eq_ok] at hstep
  obtain ⟨_, -, _, -, entry, -, policy, hpolicy, _, -, _, -, _, -, _, -, hstep⟩ := hstep
  obtain ⟨_, -, _, -, _, -, _, -, _, -, _, -, _, -, _, -, _, -, _, -, hstep⟩ := hstep
  obtain ⟨_, -, _, -, _, -, _, -, _, -, _, -, _, -, _, -, rfl⟩ := hstep
  have hlookup := loadPolicy_eq_ok hpolicy
  rw [loadPolicy_address hpolicy] at hlookup hconfined ⊢
  refine allFollow_of_target accounts.assetEntry hfollow hconfined ?_
  intro entry' policy' hgoverns
  refine follows_of_policy hfollow hlookup (fun _ => lookup_of_insert (by simp [kind])) ?_
    hgoverns
  exact fun entry hfollows => hfollows.rewrite rfl rfl
    (fun hsetUp => { hsetUp with reserveInitialized := rfl, vaultInitialized := rfl }) id

theorem allFollow_setGovernedDepositPolicyV2
    {accounts : SyncGovernedAssetInfrastructureV2} {enabled : Bool}
    (hfollow : AllFollow world) (hconfined : Confined accounts.assetEntry world next)
    (hstep : setGovernedDepositPolicyV2 runtime call accounts enabled world = .ok next) :
    AllFollow next := by
  simp only [setGovernedDepositPolicyV2, bind_eq_ok] at hstep
  obtain ⟨_, -, config, -, entry, hentry, policy, hpolicy, _, -, reserve, -, hstep⟩ := hstep
  obtain ⟨_, -, _, -, _, -, _, -, _, -, _, -, _, -, _, -, _, -, hstep⟩ := hstep
  obtain ⟨_, -, _, -, _, -, _, -, _, -, _, -, _, -, hstep⟩ := hstep
  have hlookup := loadPolicy_eq_ok hpolicy
  rw [loadPolicy_address hpolicy] at hlookup hstep
  have hfollows := hfollow _ entry policy ⟨loadEntry_eq_ok hentry, hlookup⟩
  split at hstep
  · cases hstep
    exact hfollow
  · cases hstep
    refine allFollow_of_target accounts.assetEntry hfollow hconfined ?_
    rintro entry' policy' ⟨hentry', hpolicy'⟩
    obtain rfl := policy_of_insert
      (lookup_of_insert (by simp [kind]) (lookup_of_insert (by simp [kind]) hpolicy'))
    obtain rfl := entry_of_insert (lookup_of_insert (by simp [kind]) hentry')
    exact hfollows.rewrite rfl rfl (fun hsetUp => { hsetUp with }) id

/-- An operational change makes the asset follow its policy as soon as what it writes
does. -/
theorem allFollow_writeOperational {accounts : ManageOperationalAssetV2}
    {asset : OperationalAsset} {policy : TcapAssetGovernancePolicyV2}
    {entry : TcapAssetEntryV1} {reserve : TcapReserveStateV1} (hfollow : AllFollow world)
    (hconfined : Confined accounts.assetEntry world next)
    (hload : loadManageOperationalAssetV2 runtime call accounts world = .ok asset)
    (hnext : writeOperational accounts world policy entry reserve = next)
    (hfollows : Follows entry policy) : AllFollow next := by
  rw [writeOperational, loadManageOperationalAssetV2_address hload] at hnext
  subst hnext
  refine allFollow_of_target accounts.assetEntry hfollow hconfined ?_
  rintro entry' policy' ⟨hentry, hpolicy⟩
  obtain rfl := policy_of_insert
    (lookup_of_insert (by simp [kind]) (lookup_of_insert (by simp [kind]) hpolicy))
  obtain rfl := entry_of_insert (lookup_of_insert (by simp [kind]) hentry)
  exact hfollows

theorem allFollow_setAssetOperationalStatusV2 {accounts : ManageOperationalAssetV2}
    {newStatus : TcapAssetOperationalStatusV2} (hfollow : AllFollow world)
    (hconfined : Confined accounts.assetEntry world next)
    (hstep : setAssetOperationalStatusV2 runtime call accounts newStatus world = .ok next) :
    AllFollow next := by
  simp only [setAssetOperationalStatusV2, bind_eq_ok, check_eq_ok] at hstep
  obtain ⟨asset, hload, _, -, _, hreversible, _, hchecks, hstep⟩ := hstep
  obtain ⟨hentry, hpolicy, -⟩ := loadManageOperationalAssetV2_eq_ok hload
  have hfollows := hfollow _ asset.entry asset.policy
    ⟨hentry, loadManageOperationalAssetV2_address hload ▸ hpolicy⟩
  split at hstep
  · cases hstep
    exact hfollow
  · cases newStatus with
    | inactive =>
        exact allFollow_writeOperational hfollow hconfined hload (pure_eq_ok.mp hstep)
          (follows_of_inactive (by rintro ⟨⟩) (by rintro ⟨⟩) rfl)
    | active =>
        simp only [strictActivationChecks, if_true, bind_eq_ok, check_eq_ok] at hchecks
        obtain ⟨_, -, _, -, _, -, _, happroved, _, hreserve, hvault⟩ := hchecks
        refine allFollow_writeOperational hfollow hconfined hload (pure_eq_ok.mp hstep)
          ⟨fun _ => rfl, fun _ => ⟨happroved, hreserve, hvault, ?_⟩,
            hfollows.settlementsOff⟩
        simpa using hreversible
    | paused =>
        exact allFollow_writeOperational hfollow hconfined hload (pure_eq_ok.mp hstep)
          (follows_of_inactive (by rintro ⟨⟩) (by rintro ⟨⟩) rfl)
    | deprecated =>
        exact allFollow_writeOperational hfollow hconfined hload (pure_eq_ok.mp hstep)
          (follows_of_inactive (by rintro ⟨⟩) (by rintro ⟨⟩) rfl)

theorem allFollow_revokeAssetApprovalV2 {accounts : ManageOperationalAssetV2}
    (hfollow : AllFollow world) (hconfined : Confined accounts.assetEntry world next)
    (hstep : revokeAssetApprovalV2 runtime call accounts world = .ok next) :
    AllFollow next := by
  simp only [revokeAssetApprovalV2, bind_eq_ok] at hstep
  obtain ⟨asset, hload, _, -, _, -, hstep⟩ := hstep
  split at hstep
  · cases hstep
    exact hfollow
  · simp only [bind_eq_ok, pure_eq_ok] at hstep
    obtain ⟨_, -, hnext⟩ := hstep
    exact allFollow_writeOperational hfollow hconfined hload hnext
      (follows_of_inactive nofun nofun rfl)

theorem allFollow_migrateAssetEntryCustodyGraphV2
    {accounts : MigrateAssetEntryCustodyGraphV2} (hfollow : AllFollow world)
    (hconfined : Confined accounts.assetEntry world next)
    (hstep : migrateAssetEntryCustodyGraphV2 runtime call accounts world = .ok next) :
    AllFollow next := by
  simp only [migrateAssetEntryCustodyGraphV2, bind_eq_ok, pure_eq_ok] at hstep
  obtain ⟨_, -, _, -, entry, hentry, _, -, _, -, _, -, _, -, _, -, _, -, _, -, hstep⟩ := hstep
  obtain ⟨_, -, _, -, _, -, _, -, _, -, _, -, _, -, _, -, _, -, _, -, _, -, hstep⟩ := hstep
  obtain ⟨_, -, _, -, _, -, _, -, _, -, _, -, _, -, _, -, _, -, hstep⟩ := hstep
  obtain ⟨_, -, _, -, _, -, _, -, _, -, _, -, _, -, rfl⟩ := hstep
  refine allFollow_of_target accounts.assetEntry hfollow hconfined ?_
  rintro entry' policy ⟨hentry', hpolicy⟩
  obtain rfl := entry_of_insert hentry'
  have hpolicy := lookup_of_insert (by simp [kind]) hpolicy
  exact (hfollow _ entry policy ⟨loadEntry_eq_ok hentry, hpolicy⟩).rewrite rfl rfl id id

/-- Every instruction of the program keeps assets following their policies. -/
theorem allFollow_execute {instruction : Instruction} (hfollow : AllFollow world)
    (hstep : execute runtime call instruction world = .ok next) : AllFollow next := by
  cases htarget : governedAsset instruction with
  | none =>
      refine allFollow_of_writesOnly hfollow
        (writesOnly_execute runtime call instruction world next hstep) ?_ ?_ <;>
      cases instruction <;> first | (simp [writes]; done) | cases htarget
  | some target =>
      have hconfined := confined_execute runtime call world htarget next hstep
      cases instruction with
      | registerGovernedAssetV2 =>
          cases htarget
          exact allFollow_registerGovernedAssetV2 hfollow hconfined hstep
      | migrateLegacyAssetPolicyV2 =>
          cases htarget
          exact allFollow_migrateLegacyAssetPolicyV2 hfollow hconfined hstep
      | setAssetApprovalV2 =>
          cases htarget
          exact allFollow_setAssetApprovalV2 hfollow hconfined hstep
      | setAssetSettlementPolicyV2 =>
          cases htarget
          exact allFollow_setAssetSettlementPolicyV2 hfollow hconfined hstep
      | initializeGovernedReserveV2 =>
          cases htarget
          exact allFollow_initializeGovernedReserveV2 hfollow hconfined hstep
      | initializeGovernedVaultV2 =>
          cases htarget
          exact allFollow_initializeGovernedVaultV2 hfollow hconfined hstep
      | syncGovernedAssetInfrastructureV2 =>
          cases htarget
          exact allFollow_syncGovernedAssetInfrastructureV2 hfollow hconfined hstep
      | setGovernedDepositPolicyV2 =>
          cases htarget
          exact allFollow_setGovernedDepositPolicyV2 hfollow hconfined hstep
      | setAssetOperationalStatusV2 =>
          cases htarget
          exact allFollow_setAssetOperationalStatusV2 hfollow hconfined hstep
      | revokeAssetApprovalV2 =>
          cases htarget
          exact allFollow_revokeAssetApprovalV2 hfollow hconfined hstep
      | migrateAssetEntryCustodyGraphV2 =>
          cases htarget
          exact allFollow_migrateAssetEntryCustodyGraphV2 hfollow hconfined hstep
      | _ => cases htarget

theorem allFollow_of_run {start : World} {history : List (World × Step)}
    (hrun : ChainRun runtime start history world) : AllFollow world := by
  refine @Run.induct_on _ _ _ (step runtime) start (fun _ world => AllFollow world) _ _
    hrun.2 ?_ ?_
  · intro key entry policy hgoverns
    exact (hrun.1 _ _ hgoverns.entry).elim
  · intro history world input next _ hfollow hstep
    cases input with
    | tcap call instruction =>
        exact allFollow_execute hfollow (step_tcap_eq_ok.mp hstep).2
    | external call action =>
        exact allFollow_of_writesOnly hfollow (writesOnly_executeExternal call action world
          next (step_external_eq_ok.mp hstep).2) (by decide) (by decide)

/-- A credit finds its asset active. -/
theorem active_of_credited {input : Step} (hcredited : credited input = some key)
    (hstep : step runtime world input = .ok next) :
    ∃ entry, world.lookup key = some (.entry entry) ∧ entry.status = .active := by
  cases input with
  | external call action => cases hcredited
  | tcap call instruction =>
      obtain ⟨-, hexecute⟩ := step_tcap_eq_ok.mp hstep
      cases instruction with
      | creditGpruMemoV1 accounts args =>
          cases hcredited
          simp only [execute, creditGpruMemoV1, bind_eq_ok, check_eq_ok] at hexecute
          obtain ⟨_, -, _, -, _, -, entry, hentry, _, -, _, -, _, -, _, -, _, -, _, -, _, -,
            _, -, _, -, hexecute⟩ := hexecute
          obtain ⟨_, -, _, -, _, -, _, -, _, -, _, havailable, -⟩ := hexecute
          exact ⟨entry, loadEntry_eq_ok hentry, havailable.1⟩
      | creditOneTimeTip accounts args =>
          cases hcredited
          simp only [execute, creditOneTimeTip, bind_eq_ok, check_eq_ok] at hexecute
          obtain ⟨_, -, _, -, _, -, entry, hentry, _, -, _, -, _, -, _, havailable, -⟩ :=
            hexecute
          exact ⟨entry, loadEntry_eq_ok hentry, havailable.1⟩
      | _ => cases hcredited

/-- In every reachable state a credit of a governed asset is accepted only while its policy
is approved, active, set up and not deprecated for good; settlements are off even then. -/
theorem policy_of_credit {start : World} {history : List (World × Step)} {input : Step}
    {policy : TcapAssetGovernancePolicyV2} (hrun : ChainRun runtime start history world)
    (hstep : step runtime world input = .ok next) (hcredited : credited input = some key)
    (hpolicy : world.lookup (deriveAssetGovernancePolicy key) = some (.policy policy)) :
    policy.approvalStatus = .approved ∧ policy.operationalStatus = .active ∧
      policy.reserveInitialized = true ∧ policy.vaultInitialized = true ∧
        policy.deprecatedIrreversible = false ∧ policy.settlementsEnabled = false := by
  obtain ⟨entry, hentry, hstatus⟩ := active_of_credited hcredited hstep
  have hfollows := allFollow_of_run hrun key entry policy ⟨hentry, hpolicy⟩
  have hactive := hfollows.active hstatus
  obtain ⟨happroved, hreserve, hvault, hreversible⟩ := hfollows.setUp hactive
  exact ⟨happroved, hactive, hreserve, hvault, hreversible, hfollows.settlementsOff⟩

section Sample

open Tcap.Solvency (governor depositor usdMint usdWallet usdWorld
  preLaunch_usdWorld)

/-- A deposit of 100 is credited to a tip: reachable worlds with the credit that follows. -/
theorem exists_credit :
    ∃ history world next policy, ChainRun localRuntime usdWorld history world ∧
      step localRuntime world (creditStep usdMint depositor 5 1 100) = .ok next ∧
      world.lookup (deriveAssetGovernancePolicy (splEntryAddress usdMint)) =
        some (.policy policy) := by
  have hreaches : reaches (step localRuntime) usdWorld
      (openTipSteps usdMint depositor 5 1 ++ depositStep usdMint depositor usdWallet 100 ::
        (listingSteps governor usdMint ++ launchSteps governor))
      (fun _ world =>
        (step localRuntime world (creditStep usdMint depositor 5 1 100)).isOk &&
        ((world.lookup (deriveAssetGovernancePolicy (splEntryAddress usdMint))).bind
          DepositGate.policyOf).isSome) = true := by
    decide +kernel
  obtain ⟨history, world, hrun, hholds⟩ := exists_run_of_reaches hreaches
  obtain ⟨hok, hsome⟩ := Bool.and_eq_true_iff.mp hholds
  obtain ⟨next, hnext⟩ := exists_ok_of_isOk hok
  cases hlookup : world.lookup (deriveAssetGovernancePolicy (splEntryAddress usdMint)) with
  | none =>
      rw [hlookup] at hsome
      cases hsome
  | some account =>
      rw [hlookup] at hsome
      cases account with
      | policy policy =>
          exact ⟨history, world, next, policy, ⟨preLaunch_usdWorld, hrun⟩, hnext, hlookup⟩
      | _ => cases hsome

theorem credited_creditStep :
    credited (creditStep usdMint depositor 5 1 100) = some (splEntryAddress usdMint) := rfl

/-- The policy of the credited asset, with settlements off. -/
theorem policy_of_sample_credit :
    ∃ history world next, ∃ policy : TcapAssetGovernancePolicyV2,
      ChainRun localRuntime usdWorld history world ∧
      step localRuntime world (creditStep usdMint depositor 5 1 100) = .ok next ∧
      policy.approvalStatus = .approved ∧ policy.operationalStatus = .active ∧
        policy.reserveInitialized = true ∧ policy.vaultInitialized = true ∧
          policy.deprecatedIrreversible = false ∧ policy.settlementsEnabled = false := by
  obtain ⟨history, world, next, policy, hrun, hstep, hpolicy⟩ := exists_credit
  exact ⟨history, world, next, policy, hrun, hstep,
    policy_of_credit hrun hstep credited_creditStep hpolicy⟩

/-- That policy does not accept settlement. -/
theorem not_acceptedForSettlement_of_credit :
    ¬ ∀ runtime start history world next input key policy,
      ChainRun runtime start history world → step runtime world input = .ok next →
      credited input = some key →
      world.lookup (deriveAssetGovernancePolicy key) = some (.policy policy) →
      acceptedForSettlement policy = true := by
  intro hclaim
  obtain ⟨history, world, next, policy, hrun, hstep, hpolicy⟩ := exists_credit
  obtain ⟨entry, hentry, -⟩ := active_of_credited credited_creditStep hstep
  have hoff := (allFollow_of_run hrun _ entry policy ⟨hentry, hpolicy⟩).settlementsOff
  have haccepted := hclaim localRuntime usdWorld history world next _ _ policy hrun hstep
    credited_creditStep hpolicy
  simp [acceptedForSettlement, hoff] at haccepted

end Sample

end TsnProtocol.Tcap.CreditGate
