import TsnProtocol.Tcap.Effects
import TsnProtocol.Tcap.LedgerWrites

/-!
The deposit gate of a governed asset. Governance keeps its policy in one account and
mirrors it into the entry and the reserve, which are what a deposit consults; along
every run of governance instructions the mirrored flags open the gate exactly when the
policy accepts deposits.
-/

namespace TsnProtocol.Tcap.DepositGate

open Lib.Checked
open Lib.FiniteStore
open Lib.Transition
open Solana.Address
open Tcap.State
open Tcap.Execution
open Tcap.Setup
open Tcap.AssetGovernance
open Tcap.Program
open Tcap.Administration
open Tcap.LedgerWrites

variable {runtime : Runtime} {call : Call} {world next : World} {key target : Pubkey}

def acceptedForDeposits (policy : TcapAssetGovernancePolicyV2) : Bool :=
  policy.approvalStatus = .approved && policy.operationalStatus = .active &&
    policy.depositsEnabled && policy.reserveInitialized && policy.vaultInitialized &&
      !policy.deprecatedIrreversible

/-- The flags of an entry that a deposit consults. -/
structure EntryOpen (entry : TcapAssetEntryV1) : Prop where
  depositsEnabled : entry.depositsEnabled = true
  unpaused : entry.paused = false
  undeprecated : entry.deprecated = false
  active : entry.status = .active
  approved : entry.riskState = .approved

/-- The flags of a reserve that a deposit consults. -/
structure ReserveOpen (reserve : TcapReserveStateV1) : Prop where
  fundingEnabled : reserve.fundingEnabled = true
  unpaused : reserve.paused = false

/-- The stored flags let a deposit through. -/
def GateOpen (world : World) (key : Pubkey) : Prop :=
  ∃ entry reserve, world.lookup key = some (.entry entry) ∧
    world.lookup entry.reserveState = some (.reserve reserve) ∧
      EntryOpen entry ∧ ReserveOpen reserve

/-- The instructions that govern assets. -/
def IsGovernance : Instruction → Prop
  | .raiseMinimumInstructionVersionV2 _ | .registerGovernedAssetV2 _ _
  | .migrateLegacyAssetPolicyV2 _ _ | .setAssetApprovalV2 _ _
  | .setAssetSettlementPolicyV2 _ _ _ _ | .initializeGovernedReserveV2 _
  | .initializeGovernedVaultV2 _ | .syncGovernedAssetInfrastructureV2 _
  | .setGovernedDepositPolicyV2 _ _ | .setAssetOperationalStatusV2 _ _
  | .revokeAssetApprovalV2 _ => True
  | _ => False

/-- The reserve of an active asset belongs to it and is not paused; it takes funding
when deposits are enabled. -/
def ReserveMirrors (world : World) (key : Pubkey) (entry : TcapAssetEntryV1)
    (policy : TcapAssetGovernancePolicyV2) : Prop :=
  ∃ reserve, world.lookup entry.reserveState = some (.reserve reserve) ∧
    reserve.assetEntry = key ∧ reserve.paused = false ∧
      (policy.depositsEnabled = true → reserve.fundingEnabled = true)

/-- How the entry and the reserve of an asset mirror an active policy. -/
structure ActiveMirrors (world : World) (key : Pubkey) (entry : TcapAssetEntryV1)
    (policy : TcapAssetGovernancePolicyV2) : Prop where
  unpaused : entry.paused = false
  undeprecated : entry.deprecated = false
  active : entry.status = .active
  approved : policy.approvalStatus = .approved
  reserveInitialized : policy.reserveInitialized = true
  vaultInitialized : policy.vaultInitialized = true
  reversible : policy.deprecatedIrreversible = false
  reserve : ReserveMirrors world key entry policy

/-- How the entry and the reserve of an asset mirror its policy. -/
structure Mirrors (world : World) (key : Pubkey) (entry : TcapAssetEntryV1)
    (policy : TcapAssetGovernancePolicyV2) : Prop where
  deposits : entry.depositsEnabled = policy.depositsEnabled
  enabled : policy.depositsEnabled = true → policy.operationalStatus = .active
  risk : policy.approvalStatus = .approved → policy.deprecatedIrreversible = false →
    entry.riskState = .approved
  active : policy.operationalStatus = .active → ActiveMirrors world key entry policy

/-- Every governed asset mirrors its policy. -/
def Mirrored (world : World) : Prop :=
  ∀ key policy,
    world.lookup (deriveAssetGovernancePolicy key) = some (.policy policy) →
      ∃ entry, world.lookup key = some (.entry entry) ∧ Mirrors world key entry policy

/-- Under the mirror the gate is open exactly when the policy accepts deposits. -/
theorem gateOpen_iff_of_mirrors {entry : TcapAssetEntryV1}
    {policy : TcapAssetGovernancePolicyV2} (hentry : world.lookup key = some (.entry entry))
    (hmirrors : Mirrors world key entry policy) :
    GateOpen world key ↔ acceptedForDeposits policy = true := by
  constructor
  · rintro ⟨entry', reserve, hentry', -, hopen, -⟩
    obtain rfl : entry = entry' := by
      rw [hentry] at hentry'
      cases hentry'
      rfl
    have henabled : policy.depositsEnabled = true := by
      rw [← hmirrors.deposits, hopen.depositsEnabled]
    have hactive := hmirrors.enabled henabled
    obtain ⟨-, -, -, happroved, hreserve, hvault, hreversible, -⟩ := hmirrors.active hactive
    simp [acceptedForDeposits, henabled, hactive, happroved, hreserve, hvault, hreversible]
  · intro haccepted
    simp only [acceptedForDeposits, Bool.and_eq_true, decide_eq_true_eq,
      Bool.not_eq_true'] at haccepted
    obtain ⟨⟨⟨⟨⟨happroved, hactive⟩, henabled⟩, -⟩, -⟩, hreversible⟩ := haccepted
    obtain ⟨hunpaused, hundeprecated, hstatus, -, -, -, -, reserve, hreserve, -, hopen,
      hfunding⟩ := hmirrors.active hactive
    refine ⟨entry, reserve, hentry, hreserve, ⟨?_, hunpaused, hundeprecated, hstatus, ?_⟩,
      ⟨hfunding henabled, hopen⟩⟩
    · rw [hmirrors.deposits, henabled]
    · exact hmirrors.risk happroved hreversible

/-- A write made on behalf of one asset: it replaces no entry, reserve or policy of
another. -/
structure Replaces (world : World) (target key : Pubkey) (account : Account) : Prop where
  entry : ∀ entry, world.lookup key = some (.entry entry) → key = target
  reserve : ∀ reserve, world.lookup key = some (.reserve reserve) →
    reserve.assetEntry = target
  policy : ∀ policy, world.lookup key = some (.policy policy) →
    key = deriveAssetGovernancePolicy target
  written : ∀ policy, account = .policy policy → key = deriveAssetGovernancePolicy target

/-- Every account of `next` is one of `world` or written on behalf of one asset. -/
def Confined (world next : World) (target : Pubkey) : Prop :=
  ∀ key, next.lookup key = world.lookup key ∨
    ∃ account, next.lookup key = some account ∧ Replaces world target key account

theorem confined_refl (world : World) (target : Pubkey) : Confined world world target :=
  fun _ => .inl rfl

theorem confined_insert {account : Account} (hconfined : Confined world next target)
    (hreplaces : Replaces world target key account) :
    Confined world (next.insert key account) target := by
  intro other
  rw [lookup_insert_eq]
  split_ifs with hkey
  · subst hkey
    exact .inr ⟨account, rfl, hreplaces⟩
  · exact hconfined other

theorem deriveAssetGovernancePolicy_inj {first second : Pubkey} :
    deriveAssetGovernancePolicy first = deriveAssetGovernancePolicy second ↔
      first = second := by
  simp [deriveAssetGovernancePolicy, findProgramAddress]

/-- What is done on behalf of one asset leaves the mirrors of the others alone. -/
theorem mirrors_of_confined {policy : TcapAssetGovernancePolicyV2}
    (hmirrored : Mirrored world) (hconfined : Confined world next target)
    (hkey : key ≠ target)
    (hpolicy : next.lookup (deriveAssetGovernancePolicy key) = some (.policy policy)) :
    ∃ entry, next.lookup key = some (.entry entry) ∧ Mirrors next key entry policy := by
  have hworld : world.lookup (deriveAssetGovernancePolicy key) = some (.policy policy) := by
    rcases hconfined (deriveAssetGovernancePolicy key) with hsame | ⟨account, haccount, hwrite⟩
    · rw [← hsame, hpolicy]
    · rw [hpolicy] at haccount
      exact absurd (deriveAssetGovernancePolicy_inj.mp
        (hwrite.written policy (Option.some.inj haccount).symm)) hkey
  obtain ⟨entry, hentry, hmirrors⟩ := hmirrored key policy hworld
  have hentry' : next.lookup key = some (.entry entry) := by
    rcases hconfined key with hsame | ⟨account, -, hwrite⟩
    · rw [hsame, hentry]
    · exact absurd (hwrite.entry entry hentry) hkey
  refine ⟨entry, hentry', hmirrors.deposits, hmirrors.enabled, hmirrors.risk, ?_⟩
  intro hactive
  have hmirror := hmirrors.active hactive
  obtain ⟨reserve, hreserve, hlink, hrest⟩ := hmirror.reserve
  refine { hmirror with reserve := ⟨reserve, ?_, hlink, hrest⟩ }
  rcases hconfined entry.reserveState with hsame | ⟨account, -, hwrite⟩
  · rw [hsame, hreserve]
  · exact absurd (hlink.symm.trans (hwrite.reserve reserve hreserve)) hkey

/-- A governance step on one asset has to restore the mirror of that asset only. -/
theorem mirrored_of_target (target : Pubkey) {entry : TcapAssetEntryV1}
    {policy : TcapAssetGovernancePolicyV2} (hmirrored : Mirrored world) (hconfined : Confined world next target)
    (hpolicy : next.lookup (deriveAssetGovernancePolicy target) = some (.policy policy))
    (hentry : next.lookup target = some (.entry entry))
    (hmirrors : Mirrors next target entry policy) :
    Mirrored next := by
  intro key policy' hpolicy'
  by_cases hkey : key = target
  · subst hkey
    obtain rfl : policy = policy' := by
      rw [hpolicy] at hpolicy'
      cases hpolicy'
      rfl
    exact ⟨entry, hentry, hmirrors⟩
  · exact mirrors_of_confined hmirrored hconfined hkey hpolicy'

theorem mirrors_of_lookup {entry : TcapAssetEntryV1} {policy : TcapAssetGovernancePolicyV2}
    (hmirrored : Mirrored world)
    (hpolicy : world.lookup (deriveAssetGovernancePolicy key) = some (.policy policy))
    (hentry : world.lookup key = some (.entry entry)) :
    Mirrors world key entry policy := by
  obtain ⟨entry', hentry', hmirrors⟩ := hmirrored key policy hpolicy
  obtain rfl : entry = entry' := by
    rw [hentry] at hentry'
    cases hentry'
    rfl
  exact hmirrors

theorem Mirrors.disabled {entry : TcapAssetEntryV1} {policy : TcapAssetGovernancePolicyV2}
    (hmirrors : Mirrors world key entry policy)
    (hinactive : policy.operationalStatus ≠ .active) : policy.depositsEnabled = false := by
  cases henabled : policy.depositsEnabled with
  | false => rfl
  | true => exact absurd (hmirrors.enabled henabled) hinactive

/-- Rewriting a policy outside of what is mirrored. -/
theorem Mirrors.rewrite {entry : TcapAssetEntryV1}
    {policy policy' : TcapAssetGovernancePolicyV2} (hmirrors : Mirrors world key entry policy)
    (happroval : policy'.approvalStatus = policy.approvalStatus)
    (hstatus : policy'.operationalStatus = policy.operationalStatus)
    (hdeposits : policy'.depositsEnabled = policy.depositsEnabled)
    (hirreversible : policy'.deprecatedIrreversible = policy.deprecatedIrreversible)
    (hreserveFlag : policy.reserveInitialized = true → policy'.reserveInitialized = true)
    (hvaultFlag : policy.vaultInitialized = true → policy'.vaultInitialized = true)
    (hreserve : ∀ reserve, world.lookup entry.reserveState = some (.reserve reserve) →
      ∃ reserve', next.lookup entry.reserveState = some (.reserve reserve') ∧
        reserve'.assetEntry = reserve.assetEntry ∧ reserve'.paused = reserve.paused ∧
          reserve'.fundingEnabled = reserve.fundingEnabled) :
    Mirrors next key entry policy' where
  deposits := by rw [hmirrors.deposits, hdeposits]
  enabled := by
    rw [hdeposits, hstatus]
    exact hmirrors.enabled
  risk := by
    rw [happroval, hirreversible]
    exact hmirrors.risk
  active := by
    rw [hstatus]
    intro hactive
    obtain ⟨hunpaused, hundeprecated, hopen, happroved, hreserveInit, hvaultInit, hreversible,
      reserve, hlookup, hlink, hreserveOpen, hfunding⟩ := hmirrors.active hactive
    obtain ⟨reserve', hlookup', hlink', hpaused', hfunding'⟩ := hreserve reserve hlookup
    refine ⟨hunpaused, hundeprecated, hopen, by rw [happroval, happroved],
      hreserveFlag hreserveInit, hvaultFlag hvaultInit, by rw [hirreversible, hreversible],
      reserve', hlookup', by rw [hlink', hlink], by rw [hpaused', hreserveOpen], ?_⟩
    rw [hdeposits, hfunding']
    exact hfunding

/-- A policy that is not active and enables nothing is mirrored by an entry that
enables nothing. -/
theorem mirrors_of_inactive {entry : TcapAssetEntryV1} {policy : TcapAssetGovernancePolicyV2}
    (hentry : entry.depositsEnabled = false) (hpolicy : policy.depositsEnabled = false)
    (hinactive : policy.operationalStatus ≠ .active)
    (hrisk : policy.approvalStatus = .approved → policy.deprecatedIrreversible = false →
      entry.riskState = .approved) :
    Mirrors next target entry policy where
  deposits := by rw [hentry, hpolicy]
  enabled := by simp [hpolicy]
  risk := hrisk
  active := fun hactive => absurd hactive hinactive

/-- An account that is neither an entry nor a reserve nor a policy. -/
def Bystander : Account → Prop
  | .entry _ | .reserve _ | .policy _ => False
  | _ => True

theorem replaces_fresh {account : Account} (hfresh : world.lookup key = none)
    (hwritten : ∀ policy, account = .policy policy →
      key = deriveAssetGovernancePolicy target) :
    Replaces world target key account := by
  constructor
  · simp [hfresh]
  · simp [hfresh]
  · simp [hfresh]
  · exact hwritten

theorem replaces_bystander {old account : Account} (hlookup : world.lookup key = some old)
    (hold : Bystander old) (hbystander : Bystander account) :
    Replaces world target key account := by
  constructor
  · rintro entry hentry
    rw [hlookup] at hentry
    cases hentry
    exact hold.elim
  · rintro reserve hreserve
    rw [hlookup] at hreserve
    cases hreserve
    exact hold.elim
  · rintro policy hpolicy
    rw [hlookup] at hpolicy
    cases hpolicy
    exact hold.elim
  · rintro policy rfl
    exact hbystander.elim

theorem replaces_entry {entry entry' : TcapAssetEntryV1}
    (hlookup : world.lookup target = some (.entry entry)) :
    Replaces world target target (.entry entry') := by
  constructor <;> simp [hlookup]

theorem replaces_reserve {reserve reserve' : TcapReserveStateV1}
    (hlookup : world.lookup key = some (.reserve reserve))
    (hlink : reserve.assetEntry = target) :
    Replaces world target key (.reserve reserve') := by
  constructor <;> simp [hlookup, hlink]

theorem replaces_policy {policy policy' : TcapAssetGovernancePolicyV2}
    (hlookup : world.lookup (deriveAssetGovernancePolicy target) = some (.policy policy)) :
    Replaces world target (deriveAssetGovernancePolicy target) (.policy policy') := by
  constructor <;> simp [hlookup]

theorem loadPolicy_address {entryKey : Pubkey} {policy : TcapAssetGovernancePolicyV2}
    (hload : loadPolicy runtime world key entryKey = .ok policy) :
    key = deriveAssetGovernancePolicy entryKey := by
  simp only [loadPolicy, bind_eq_ok, seeds_eq_ok] at hload
  obtain ⟨_, -, _, ⟨haddress, -⟩, -⟩ := hload
  exact haddress

theorem ne_of_fresh {other : Pubkey} {account : Account} (hfresh : world.lookup key = none)
    (hlookup : world.lookup other = some account) : other ≠ key := by
  rintro rfl
  rw [hfresh] at hlookup
  cases hlookup

theorem mirrored_raiseMinimumInstructionVersionV2
    {accounts : RaiseMinimumInstructionVersionV2} (hmirrored : Mirrored world)
    (hstep : raiseMinimumInstructionVersionV2 runtime call accounts world = .ok next) :
    Mirrored next := by
  simp only [raiseMinimumInstructionVersionV2, bind_eq_ok, loadConfig_eq_ok] at hstep
  obtain ⟨_, -, config, ⟨hconfig, -⟩, _, -, _, -, hstep⟩ := hstep
  split at hstep
  · cases hstep
    exact hmirrored
  · cases hstep
    intro key policy hpolicy
    -- the configuration belongs to no asset, so any other address can play the target
    have hkey : key ≠ .under key key := by
      intro hself
      exact absurd (congrArg sizeOf hself) (by simp)
    exact mirrors_of_confined hmirrored
      (confined_insert (confined_refl world _) (replaces_bystander hconfig trivial trivial))
      hkey hpolicy

theorem mirrored_registerGovernedAssetV2 {accounts : RegisterGovernedAssetV2}
    {args : RegisterGovernedAssetArgsV2} (hmirrored : Mirrored world)
    (hstep : registerGovernedAssetV2 runtime call accounts args world = .ok next) :
    Mirrored next := by
  simp only [registerGovernedAssetV2, bind_eq_ok, vacant_eq_ok, pure_eq_ok] at hstep
  obtain ⟨_, -, config, -, registry, hregistry, mint, -, _, -, _, ⟨hentryKey, hentry⟩, _,
    ⟨hpolicyKey, hpolicy⟩, _, ⟨hextensionKey, hextension⟩, hstep⟩ := hstep
  obtain ⟨_, -, _, -, _, -, _, -, _, -, _, -, _, -, _, -, _, -, _, -, inspection, -, _, -,
    entryCount, -, rfl⟩ := hstep
  obtain ⟨hregistry, hregistryKey⟩ := loadRegistry_eq_ok hregistry
  have hpolicyNe : accounts.governancePolicy ≠ accounts.registry := by
    rintro hsame
    rw [hsame, hregistry] at hpolicy
    cases hpolicy
  have hentryNe : accounts.assetEntry ≠ accounts.registry := by
    rintro hsame
    rw [hsame, hregistry] at hentry
    cases hentry
  have hkeys : accounts.governancePolicy ≠ accounts.extensionPolicy ∧
      accounts.assetEntry ≠ accounts.extensionPolicy ∧
      accounts.assetEntry ≠ accounts.governancePolicy := by
    rw [hpolicyKey, hextensionKey, hentryKey]
    simp [deriveAssetGovernancePolicy, deriveAssetExtensionPolicy, assetEntryAddress,
      findProgramAddress]
  apply mirrored_of_target accounts.assetEntry hmirrored
  · refine confined_insert (confined_insert (confined_insert (confined_insert
      (confined_refl world _) ?_) ?_) ?_) ?_
    · exact replaces_fresh hentry (by simp)
    · exact replaces_fresh hpolicy fun _ _ => hpolicyKey
    · exact replaces_fresh hextension (by simp)
    · exact replaces_bystander hregistry trivial trivial
  · rw [← hpolicyKey, lookup_insert_eq, if_neg hpolicyNe, lookup_insert_eq,
      if_neg hkeys.1, Finmap.lookup_insert]
  · rw [lookup_insert_eq, if_neg hentryNe, lookup_insert_eq, if_neg hkeys.2.1,
      lookup_insert_eq, if_neg hkeys.2.2, Finmap.lookup_insert]
  · exact mirrors_of_inactive rfl rfl (by simp [initializeGovernancePolicy])
      (by simp [initializeGovernancePolicy])

theorem mirrored_migrateLegacyAssetPolicyV2 {accounts : MigrateLegacyAssetPolicyV2}
    {args : MigrateLegacyAssetPolicyArgsV2} (hmirrored : Mirrored world)
    (hstep : migrateLegacyAssetPolicyV2 runtime call accounts args world = .ok next) :
    Mirrored next := by
  simp only [migrateLegacyAssetPolicyV2, bind_eq_ok, load_eq_ok, wrap_entry, vacant_eq_ok,
    pure_eq_ok] at hstep
  obtain ⟨_, -, _, -, _, -, entry, hentry, _, -, _, -, _, ⟨hpolicyKey, hpolicy⟩, _,
    ⟨hextensionKey, hextension⟩, hstep⟩ := hstep
  obtain ⟨_, -, _, -, _, -, _, -, _, -, _, -, _, -, _, -, _, -, _, -, _, -, _, -, rfl⟩ :=
    hstep
  have hpolicyNe : accounts.governancePolicy ≠ accounts.extensionPolicy := by
    rw [hpolicyKey, hextensionKey]
    simp [deriveAssetGovernancePolicy, deriveAssetExtensionPolicy, findProgramAddress]
  apply mirrored_of_target accounts.assetEntry hmirrored
  · refine confined_insert (confined_insert (confined_insert (confined_refl world _) ?_) ?_) ?_
    · exact replaces_entry hentry
    · exact replaces_fresh hpolicy fun _ _ => hpolicyKey
    · exact replaces_fresh hextension (by simp)
  · rw [← hpolicyKey, lookup_insert_eq, if_neg hpolicyNe, Finmap.lookup_insert]
  · rw [lookup_insert_eq, if_neg (ne_of_fresh hextension hentry), lookup_insert_eq,
      if_neg (ne_of_fresh hpolicy hentry), Finmap.lookup_insert]
  · exact mirrors_of_inactive rfl rfl (by simp [initializeGovernancePolicy])
      (by simp [initializeGovernancePolicy])

theorem loadGovernAssetV2_address {accounts : GovernAssetV2}
    {loaded : TcapGlobalConfigV1 × TcapAssetEntryV1 × TcapAssetGovernancePolicyV2}
    (hload : loadGovernAssetV2 runtime call accounts world = .ok loaded) :
    accounts.governancePolicy = deriveAssetGovernancePolicy accounts.assetEntry := by
  simp only [loadGovernAssetV2, bind_eq_ok] at hload
  obtain ⟨_, -, _, -, _, -, _, -, _, -, _, -, _, -, _, hpolicy, -⟩ := hload
  exact loadPolicy_address hpolicy

theorem mirrored_setAssetApprovalV2 {accounts : GovernAssetV2}
    {newStatus : TcapAssetApprovalStatusV2} (hmirrored : Mirrored world)
    (hstep : setAssetApprovalV2 runtime call accounts newStatus world = .ok next) :
    Mirrored next := by
  simp only [setAssetApprovalV2, bind_eq_ok, check_eq_ok] at hstep
  obtain ⟨⟨config, entry, policy⟩, hload, _, -, _, -, _, hinactive, hstep⟩ := hstep
  obtain ⟨hentry, hpolicy⟩ := loadGovernAssetV2_eq_ok hload
  have haddress := loadGovernAssetV2_address hload
  split at hstep
  · cases hstep
    exact hmirrored
  · simp only [bind_eq_ok, okOr_eq_ok, pure_eq_ok] at hstep
    obtain ⟨riskState, htransition, rfl⟩ := hstep
    rw [haddress] at hpolicy ⊢
    have hmirrors := mirrors_of_lookup hmirrored hpolicy hentry
    have hnotActive : policy.operationalStatus ≠ .active := by
      rw [show policy.operationalStatus = .inactive from hinactive]
      simp
    have hdisabled := hmirrors.disabled hnotActive
    apply mirrored_of_target accounts.assetEntry hmirrored
    · exact confined_insert (confined_insert (confined_refl world _)
        (replaces_policy hpolicy)) (replaces_entry hentry)
    · rw [lookup_insert_eq, if_neg (keys_ne hpolicy hentry (by simp)), Finmap.lookup_insert]
    · exact Finmap.lookup_insert _
    · refine mirrors_of_inactive ?_ hdisabled hnotActive ?_
      · exact hmirrors.deposits.trans hdisabled
      · rintro (rfl : newStatus = .approved) -
        revert htransition
        cases policy.approvalStatus <;> simp +contextual [approvalTransition, eq_comm]

theorem mirrored_setAssetSettlementPolicyV2 {accounts : GovernAssetV2}
    {settlements publicExit confidential : Bool} (hmirrored : Mirrored world)
    (hstep : setAssetSettlementPolicyV2 runtime call accounts settlements publicExit
      confidential world = .ok next) :
    Mirrored next := by
  simp only [setAssetSettlementPolicyV2, bind_eq_ok, pure_eq_ok] at hstep
  obtain ⟨⟨config, entry, policy⟩, hload, _, -, _, -, rfl⟩ := hstep
  obtain ⟨hentry, hpolicy⟩ := loadGovernAssetV2_eq_ok hload
  rw [loadGovernAssetV2_address hload] at hpolicy ⊢
  apply mirrored_of_target accounts.assetEntry hmirrored
  · exact confined_insert (confined_refl world _) (replaces_policy hpolicy)
  · exact Finmap.lookup_insert _
  · exact lookup_survives _ hpolicy hentry (by simp)
  · refine (mirrors_of_lookup hmirrored hpolicy hentry).rewrite rfl rfl rfl rfl id id ?_
    intro reserve hreserve
    exact ⟨reserve, lookup_survives _ hpolicy hreserve (by simp), rfl, rfl, rfl⟩

theorem mirrored_initializeGovernedReserveV2 {accounts : InitializeGovernedReserveV2}
    (hmirrored : Mirrored world)
    (hstep : initializeGovernedReserveV2 runtime call accounts world = .ok next) :
    Mirrored next := by
  simp only [initializeGovernedReserveV2, bind_eq_ok, vacant_eq_ok, pure_eq_ok] at hstep
  obtain ⟨_, -, config, -, entry, hentry, policy, hpolicy, _, ⟨-, hfresh⟩, hstep⟩ := hstep
  obtain ⟨_, -, _, -, _, -, _, -, _, -, _, -, rfl⟩ := hstep
  rw [loadPolicy_address hpolicy]
  have hentry := loadEntry_eq_ok hentry
  have hpolicy := loadPolicy_address hpolicy ▸ loadPolicy_eq_ok hpolicy
  apply mirrored_of_target accounts.assetEntry hmirrored
  · exact confined_insert (confined_insert (confined_refl world _)
      (replaces_fresh hfresh (by simp))) (replaces_policy hpolicy)
  · exact Finmap.lookup_insert _
  · exact lookup_survives _ (lookup_survives_fresh _ hfresh hpolicy)
      (lookup_survives_fresh _ hfresh hentry) (by simp)
  · refine (mirrors_of_lookup hmirrored hpolicy hentry).rewrite rfl rfl rfl rfl
      (fun _ => rfl) id ?_
    intro reserve hreserve
    exact ⟨reserve, lookup_survives _ (lookup_survives_fresh _ hfresh hpolicy)
      (lookup_survives_fresh _ hfresh hreserve) (by simp), rfl, rfl, rfl⟩

theorem mirrored_initializeGovernedVaultV2 {accounts : InitializeGovernedVaultV2}
    (hmirrored : Mirrored world)
    (hstep : initializeGovernedVaultV2 runtime call accounts world = .ok next) :
    Mirrored next := by
  simp only [initializeGovernedVaultV2, bind_eq_ok, vacant_eq_ok, pure_eq_ok] at hstep
  obtain ⟨_, -, _, -, entry, hentry, policy, hpolicy, _, -, _, -, _, -, _, -, _, ⟨-, hfresh⟩,
    hstep⟩ := hstep
  obtain ⟨_, -, _, -, _, -, _, -, _, -, _, -, _, -, _, -, _, -, _, -, _, -, _, -, rfl⟩ := hstep
  rw [loadPolicy_address hpolicy]
  have hentry := loadEntry_eq_ok hentry
  have hpolicy := loadPolicy_address hpolicy ▸ loadPolicy_eq_ok hpolicy
  apply mirrored_of_target accounts.assetEntry hmirrored
  · exact confined_insert (confined_insert (confined_refl world _)
      (replaces_fresh hfresh (by simp))) (replaces_policy hpolicy)
  · exact Finmap.lookup_insert _
  · exact lookup_survives _ (lookup_survives_fresh _ hfresh hpolicy)
      (lookup_survives_fresh _ hfresh hentry) (by simp)
  · refine (mirrors_of_lookup hmirrored hpolicy hentry).rewrite rfl rfl rfl rfl
      id (fun _ => rfl) ?_
    intro reserve hreserve
    exact ⟨reserve, lookup_survives _ (lookup_survives_fresh _ hfresh hpolicy)
      (lookup_survives_fresh _ hfresh hreserve) (by simp), rfl, rfl, rfl⟩

theorem mirrored_syncGovernedAssetInfrastructureV2
    {accounts : SyncGovernedAssetInfrastructureV2} (hmirrored : Mirrored world)
    (hstep : syncGovernedAssetInfrastructureV2 runtime call accounts world = .ok next) :
    Mirrored next := by
  simp only [syncGovernedAssetInfrastructureV2, bind_eq_ok, load_eq_ok, wrap_reserve,
    check_eq_ok, pure_eq_ok] at hstep
  obtain ⟨_, -, _, -, entry, hentry, policy, hpolicy, _, -, reserve, hreserve, _, -, _, -, _,
    -, _, -, _, -, _, -, _, hstate, _, hlink, hstep⟩ := hstep
  obtain ⟨_, -, _, -, _, -, _, -, _, -, _, -, _, -, _, -, _, -, _, -, _, -, actual, -, rfl⟩ :=
    hstep
  rw [loadPolicy_address hpolicy]
  have hentry := loadEntry_eq_ok hentry
  have hpolicy := loadPolicy_address hpolicy ▸ loadPolicy_eq_ok hpolicy
  have hpolicy' := lookup_survives (.reserve { reserve with actualAssets := actual }) hreserve
    hpolicy (by simp)
  apply mirrored_of_target accounts.assetEntry hmirrored
  · exact confined_insert (confined_insert (confined_refl world _)
      (replaces_reserve hreserve hlink)) (replaces_policy hpolicy)
  · exact Finmap.lookup_insert _
  · exact lookup_survives _ hpolicy' (lookup_survives _ hreserve hentry (by simp)) (by simp)
  · refine (mirrors_of_lookup hmirrored hpolicy hentry).rewrite rfl rfl rfl rfl
      (fun _ => rfl) (fun _ => rfl) ?_
    intro other hother
    obtain rfl : reserve = other := by
      rw [← hstate, hreserve] at hother
      cases hother
      rfl
    refine ⟨{ reserve with actualAssets := actual }, ?_, rfl, rfl, rfl⟩
    rw [← hstate]
    exact lookup_survives _ hpolicy' (Finmap.lookup_insert _) (by simp)

/-- The three accounts written together, read back. -/
theorem lookup_written {entryKey reserveKey policyKey : Pubkey}
    {policy policy' : TcapAssetGovernancePolicyV2} {entry entry' : TcapAssetEntryV1}
    {reserve reserve' : TcapReserveStateV1}
    (hpolicy : world.lookup policyKey = some (.policy policy))
    (hentry : world.lookup entryKey = some (.entry entry))
    (hreserve : world.lookup reserveKey = some (.reserve reserve))
    (hnext : next = ((world.insert policyKey (.policy policy')).insert entryKey
      (.entry entry')).insert reserveKey (.reserve reserve')) :
    next.lookup policyKey = some (.policy policy') ∧
      next.lookup entryKey = some (.entry entry') ∧
        next.lookup reserveKey = some (.reserve reserve') := by
  subst hnext
  refine ⟨?_, ?_, Finmap.lookup_insert _⟩
  · rw [lookup_insert_eq, if_neg (keys_ne hpolicy hreserve (by simp)), lookup_insert_eq,
      if_neg (keys_ne hpolicy hentry (by simp)), Finmap.lookup_insert]
  · rw [lookup_insert_eq, if_neg (keys_ne hentry hreserve (by simp)), Finmap.lookup_insert]

/-- The three accounts written together are written on behalf of the asset of the
reserve. -/
theorem confined_written {reserveKey : Pubkey} {policy policy' : TcapAssetGovernancePolicyV2}
    {entry entry' : TcapAssetEntryV1} {reserve reserve' : TcapReserveStateV1}
    (hpolicy : world.lookup (deriveAssetGovernancePolicy target) = some (.policy policy))
    (hentry : world.lookup target = some (.entry entry))
    (hreserve : world.lookup reserveKey = some (.reserve reserve))
    (hlink : reserve.assetEntry = target) :
    Confined world (((world.insert (deriveAssetGovernancePolicy target)
      (.policy policy')).insert target (.entry entry')).insert reserveKey
        (.reserve reserve')) target :=
  confined_insert (confined_insert (confined_insert (confined_refl world _)
    (replaces_policy hpolicy)) (replaces_entry hentry)) (replaces_reserve hreserve hlink)

theorem mirrored_setGovernedDepositPolicyV2
    {accounts : SyncGovernedAssetInfrastructureV2} {enabled : Bool}
    (hmirrored : Mirrored world)
    (hstep : setGovernedDepositPolicyV2 runtime call accounts enabled world = .ok next) :
    Mirrored next := by
  simp only [setGovernedDepositPolicyV2, bind_eq_ok, load_eq_ok, wrap_reserve,
    check_eq_ok] at hstep
  obtain ⟨_, -, config, -, entry, hentry, policy, hpolicy, _, -, reserve, hreserve, hstep⟩ :=
    hstep
  obtain ⟨_, -, _, -, _, -, _, -, _, -, _, -, _, -, _, -, _, hstate, hstep⟩ := hstep
  obtain ⟨_, -, _, -, _, -, _, -, _, -, _, -, _, hchecks, hstep⟩ := hstep
  split at hstep
  · cases hstep
    exact hmirrored
  · rename_i hchanged
    rw [loadPolicy_address hpolicy, pure_eq_ok] at hstep
    have hentry := loadEntry_eq_ok hentry
    have hpolicy := loadPolicy_address hpolicy ▸ loadPolicy_eq_ok hpolicy
    have hmirrors := mirrors_of_lookup hmirrored hpolicy hentry
    have hactive : policy.operationalStatus = .active := by
      cases enabled with
      | true =>
          simp only [depositEnableChecks, if_true, bind_eq_ok, check_eq_ok] at hchecks
          obtain ⟨_, -, _, -, _, hactive, -⟩ := hchecks
          exact hactive
      | false => exact hmirrors.enabled (by simpa using hchanged)
    have hmirror := hmirrors.active hactive
    obtain ⟨reserve', hreserve', hlink, hopen, -⟩ := hmirror.reserve
    obtain rfl : reserve = reserve' := by
      rw [← hstate, hreserve] at hreserve'
      cases hreserve'
      rfl
    obtain ⟨hpolicyAt, hentryAt, hreserveAt⟩ :=
      lookup_written hpolicy hentry hreserve hstep.symm
    apply mirrored_of_target accounts.assetEntry hmirrored
    · exact hstep ▸ confined_written hpolicy hentry hreserve hlink
    · exact hpolicyAt
    · exact hentryAt
    · exact ⟨rfl, fun _ => hactive, hmirrors.risk, fun _ =>
        { hmirror with
          reserve := ⟨{ reserve with fundingEnabled := enabled }, hstate ▸ hreserveAt, hlink,
            hopen, id⟩ }⟩

theorem loadManageOperationalAssetV2_links {accounts : ManageOperationalAssetV2}
    {asset : OperationalAsset}
    (hload : loadManageOperationalAssetV2 runtime call accounts world = .ok asset) :
    accounts.governancePolicy = deriveAssetGovernancePolicy accounts.assetEntry ∧
      accounts.reserveState = asset.entry.reserveState ∧
        asset.reserve.assetEntry = accounts.assetEntry := by
  simp only [loadManageOperationalAssetV2, bind_eq_ok, check_eq_ok, pure_eq_ok] at hload
  obtain ⟨_, -, _, -, _, -, _, -, _, hpolicy, _, -, _, -, hload⟩ := hload
  obtain ⟨_, -, _, -, _, -, _, -, _, -, _, -, _, -, _, -, _, -, _, -, hload⟩ := hload
  obtain ⟨_, hstate, _, hlink, _, -, _, -, _, -, _, -, _, -, _, -, _, -, rfl⟩ := hload
  exact ⟨loadPolicy_address hpolicy, hstate, hlink⟩

/-- An operational change restores the mirror as soon as what it writes mirrors what it
writes. -/
theorem mirrored_writeOperational {accounts : ManageOperationalAssetV2}
    {asset : OperationalAsset} {policy : TcapAssetGovernancePolicyV2}
    {entry : TcapAssetEntryV1} {reserve : TcapReserveStateV1} (hmirrored : Mirrored world)
    (hload : loadManageOperationalAssetV2 runtime call accounts world = .ok asset)
    (hnext : writeOperational accounts world policy entry reserve = next)
    (hmirrors : next.lookup accounts.reserveState = some (.reserve reserve) →
      Mirrors next accounts.assetEntry entry policy) : Mirrored next := by
  obtain ⟨hentry, hpolicy, hreserve⟩ := loadManageOperationalAssetV2_eq_ok hload
  obtain ⟨haddress, -, hlink⟩ := loadManageOperationalAssetV2_links hload
  rw [haddress] at hpolicy
  rw [writeOperational, haddress] at hnext
  obtain ⟨hpolicyAt, hentryAt, hreserveAt⟩ :=
    lookup_written hpolicy hentry hreserve hnext.symm
  apply mirrored_of_target accounts.assetEntry hmirrored
  · exact hnext ▸ confined_written hpolicy hentry hreserve hlink
  · exact hpolicyAt
  · exact hentryAt
  · exact hmirrors hreserveAt

theorem mirrored_setAssetOperationalStatusV2 {accounts : ManageOperationalAssetV2}
    {newStatus : TcapAssetOperationalStatusV2} (hmirrored : Mirrored world)
    (hstep : setAssetOperationalStatusV2 runtime call accounts newStatus world = .ok next) :
    Mirrored next := by
  simp only [setAssetOperationalStatusV2, bind_eq_ok, check_eq_ok] at hstep
  obtain ⟨asset, hload, _, -, _, hreversible, _, hchecks, hstep⟩ := hstep
  obtain ⟨hentry, hpolicy, -⟩ := loadManageOperationalAssetV2_eq_ok hload
  obtain ⟨haddress, hstate, hlink⟩ := loadManageOperationalAssetV2_links hload
  have hmirrors := mirrors_of_lookup hmirrored (haddress ▸ hpolicy) hentry
  split at hstep
  · cases hstep
    exact hmirrored
  · rename_i hchanged
    cases newStatus with
    | inactive =>
        refine mirrored_writeOperational hmirrored hload (pure_eq_ok.mp hstep) fun _ => ?_
        exact mirrors_of_inactive rfl rfl (by simp [forceDisablePolicy]) hmirrors.risk
    | active =>
        have hdisabled := hmirrors.disabled hchanged
        simp only [strictActivationChecks, if_true, bind_eq_ok, check_eq_ok] at hchecks
        obtain ⟨_, -, _, -, _, -, _, happroved, _, hreserveInit, hvaultInit⟩ := hchecks
        refine mirrored_writeOperational hmirrored hload (pure_eq_ok.mp hstep)
          fun hreserveAt => ?_
        refine ⟨hmirrors.deposits, fun _ => rfl, hmirrors.risk, fun _ => ?_⟩
        refine ⟨rfl, rfl, rfl, happroved, hreserveInit, hvaultInit, ?_,
          { asset.reserve with paused := false }, hstate ▸ hreserveAt, hlink, rfl, ?_⟩
        · simpa using hreversible
        · intro henabled
          rw [show asset.policy.depositsEnabled = true from henabled] at hdisabled
          cases hdisabled
    | paused =>
        refine mirrored_writeOperational hmirrored hload (pure_eq_ok.mp hstep) fun _ => ?_
        exact mirrors_of_inactive rfl rfl (by simp [forceDisablePolicy]) hmirrors.risk
    | deprecated =>
        refine mirrored_writeOperational hmirrored hload (pure_eq_ok.mp hstep) fun _ => ?_
        exact mirrors_of_inactive rfl rfl (by simp [forceDisablePolicy]) (by simp)

theorem mirrored_revokeAssetApprovalV2 {accounts : ManageOperationalAssetV2}
    (hmirrored : Mirrored world)
    (hstep : revokeAssetApprovalV2 runtime call accounts world = .ok next) :
    Mirrored next := by
  simp only [revokeAssetApprovalV2, bind_eq_ok] at hstep
  obtain ⟨asset, hload, _, -, _, -, hstep⟩ := hstep
  split at hstep
  · cases hstep
    exact hmirrored
  · simp only [bind_eq_ok, pure_eq_ok] at hstep
    obtain ⟨_, -, hnext⟩ := hstep
    refine mirrored_writeOperational hmirrored hload hnext fun _ => ?_
    exact mirrors_of_inactive rfl rfl (by simp) (by simp)

/-- Every governance instruction keeps the mirrors. -/
theorem mirrored_execute {instruction : Instruction} (hmirrored : Mirrored world)
    (hgovernance : IsGovernance instruction)
    (hstep : execute runtime call instruction world = .ok next) : Mirrored next := by
  cases instruction with
  | raiseMinimumInstructionVersionV2 =>
      exact mirrored_raiseMinimumInstructionVersionV2 hmirrored hstep
  | registerGovernedAssetV2 => exact mirrored_registerGovernedAssetV2 hmirrored hstep
  | migrateLegacyAssetPolicyV2 => exact mirrored_migrateLegacyAssetPolicyV2 hmirrored hstep
  | setAssetApprovalV2 => exact mirrored_setAssetApprovalV2 hmirrored hstep
  | setAssetSettlementPolicyV2 => exact mirrored_setAssetSettlementPolicyV2 hmirrored hstep
  | initializeGovernedReserveV2 => exact mirrored_initializeGovernedReserveV2 hmirrored hstep
  | initializeGovernedVaultV2 => exact mirrored_initializeGovernedVaultV2 hmirrored hstep
  | syncGovernedAssetInfrastructureV2 =>
      exact mirrored_syncGovernedAssetInfrastructureV2 hmirrored hstep
  | setGovernedDepositPolicyV2 => exact mirrored_setGovernedDepositPolicyV2 hmirrored hstep
  | setAssetOperationalStatusV2 => exact mirrored_setAssetOperationalStatusV2 hmirrored hstep
  | revokeAssetApprovalV2 => exact mirrored_revokeAssetApprovalV2 hmirrored hstep
  | _ => exact hgovernance.elim

/-- A step of the chain that is a governance instruction. -/
def GovernanceStep : Step → Prop
  | .tcap _ instruction => IsGovernance instruction
  | .external _ _ => False

/-- No asset is governed yet; entries, reserves and everything else may be there. -/
def Ungoverned (world : World) : Prop :=
  ∀ key policy, world.lookup key ≠ some (.policy policy)

/-- After any governance instructions on any accounts, an asset that was registered or
migrated takes deposits exactly if its policy accepts them. -/
theorem gateOpen_iff_of_run {start : World} {history : List (World × Step)}
    {policy : TcapAssetGovernancePolicyV2} (hstart : Ungoverned start)
    (hrun : Run (step runtime) start history world)
    (hgovernance : ∀ entry ∈ history, GovernanceStep entry.2)
    (hpolicy : world.lookup (deriveAssetGovernancePolicy key) = some (.policy policy)) :
    GateOpen world key ↔ acceptedForDeposits policy = true := by
  have hmirrored : Mirrored world := by
    refine @Run.induct_of_forall _ _ _ (step runtime) start (fun _ => GovernanceStep)
      (fun _ world => Mirrored world) _ _ hrun hgovernance ?_ ?_
    · intro key policy hlookup
      exact absurd hlookup (hstart _ policy)
    · intro history world input next hinput hmirrored hstep
      cases input with
      | tcap call instruction =>
          exact mirrored_execute hmirrored hinput (step_tcap_eq_ok.mp hstep).2
      | external call action => exact hinput.elim
  obtain ⟨entry, hentry, hmirrors⟩ := hmirrored key policy hpolicy
  exact gateOpen_iff_of_mirrors hentry hmirrors

section Listing

def governor : Pubkey := .raw 101
def usdMint : Pubkey := .raw 201

/-- A configuration, a registry and a mint, with an entry from before there were
policies: it is deprecated, and its reserve still takes funding. -/
def legacyWorld : World :=
  let entry := splEntryAddress usdMint
  (((((Finmap.insert globalConfigAddress
    (Account.config ⟨1, 1, 1, governor, governor, assetRegistryAddress, governor, tsnProgram,
      Pubkey.default, false, false, commitmentRootAddress, 1, .development, 255⟩) ∅).insert
    assetRegistryAddress
      (.registry ⟨1, globalConfigAddress, governor, 1, 0, 1, false, 255⟩)).insert
    usdMint (.mint plainMint)).insert
    entry (.entry ⟨1, 1, assetRegistryAddress, 1, ⟨splTokenProgram, usdMint, 1, 1⟩,
      deriveReserveState entry, deriveFutureVault entry, deriveReserveAuthority entry, 6, true,
      true, false, 0, 0, 0, 1, .active, .approved, true, 255⟩)).insert
    (deriveReserveState entry) (.reserve ⟨⟨1, 1, Pubkey.default, entry,
      deriveFutureVault entry, deriveReserveAuthority entry, 0, 0, 0, 0, 0, 0, true, true, 255,
      255, 255⟩, 0⟩)).insert
    (deriveFutureVault entry)
      (.token ⟨splTokenProgram, usdMint, deriveReserveAuthority entry, 0⟩)

theorem ungoverned_insert {account : Account} (hungoverned : Ungoverned world)
    (haccount : ∀ policy, account ≠ .policy policy) :
    Ungoverned (world.insert key account) := by
  intro other policy
  rw [lookup_insert_eq]
  split_ifs
  · exact fun hpolicy => haccount policy (Option.some.inj hpolicy)
  · exact hungoverned other policy

theorem ungoverned_legacyWorld : Ungoverned legacyWorld := by
  refine ungoverned_insert (ungoverned_insert (ungoverned_insert (ungoverned_insert
    (ungoverned_insert (ungoverned_insert ?_ ?_) ?_) ?_) ?_) ?_) ?_ <;> intro
  · simp
  all_goals exact nofun

/-- Migrate the entry, approve it, take over its custody, activate it and open it for
deposits, latest step first. -/
def migrationSteps : List Step :=
  let call : Call := ⟨[governor], 2⟩
  let entry := splEntryAddress usdMint
  let policy := deriveAssetGovernancePolicy entry
  let extension := deriveAssetExtensionPolicy entry
  let reserve := deriveReserveState entry
  let vault := deriveFutureVault entry
  [.tcap call (.setGovernedDepositPolicyV2
      ⟨governor, globalConfigAddress, entry, policy, extension, reserve, usdMint, vault,
        splTokenProgram⟩ true),
    .tcap call (.setAssetOperationalStatusV2
      ⟨governor, globalConfigAddress, assetRegistryAddress, entry, policy, extension,
        reserve, usdMint, vault, splTokenProgram⟩ .active),
    .tcap call (.syncGovernedAssetInfrastructureV2
      ⟨governor, globalConfigAddress, entry, policy, extension, reserve, usdMint, vault,
        splTokenProgram⟩),
    .tcap call (.setAssetApprovalV2
      ⟨governor, globalConfigAddress, assetRegistryAddress, entry, policy⟩ .approved),
    .tcap call (.migrateLegacyAssetPolicyV2
      ⟨governor, globalConfigAddress, assetRegistryAddress, entry, usdMint, splTokenProgram,
        policy, extension⟩
      ⟨Pubkey.default, Pubkey.default, .standardPublic, 0, 0⟩)]

instance (input : Step) : Decidable (GovernanceStep input) := by
  unfold GovernanceStep IsGovernance
  split
  · split <;> infer_instance
  · infer_instance

def policyOf : Account → Option TcapAssetGovernancePolicyV2
  | .policy policy => some policy
  | _ => none

/-- The migrated asset takes deposits, and its policy accepts them. -/
theorem gateOpen_after_migration :
    ∃ history world policy, Run (step localRuntime) legacyWorld history world ∧
      (∀ entry ∈ history, GovernanceStep entry.2) ∧
      world.lookup (deriveAssetGovernancePolicy (splEntryAddress usdMint)) =
        some (.policy policy) ∧
      acceptedForDeposits policy = true ∧ GateOpen world (splEntryAddress usdMint) := by
  have hreaches : reaches (step localRuntime) legacyWorld migrationSteps
      (fun history world => (∀ entry ∈ history, GovernanceStep entry.2) ∧
        ((world.lookup (deriveAssetGovernancePolicy (splEntryAddress usdMint))).bind
          policyOf).any acceptedForDeposits) = true := by
    decide +kernel
  obtain ⟨history, world, hrun, hholds⟩ := exists_run_of_reaches hreaches
  obtain ⟨hgovernance, haccepted⟩ := of_decide_eq_true hholds
  cases hlookup : world.lookup (deriveAssetGovernancePolicy (splEntryAddress usdMint)) with
  | none =>
      rw [hlookup] at haccepted
      cases haccepted
  | some account =>
      rw [hlookup] at haccepted
      cases account with
      | policy policy =>
          refine ⟨history, world, policy, hrun, hgovernance, hlookup, haccepted, ?_⟩
          exact (gateOpen_iff_of_run ungoverned_legacyWorld hrun hgovernance hlookup).mpr
            haccepted
      | _ => cases haccepted

end Listing

end TsnProtocol.Tcap.DepositGate
