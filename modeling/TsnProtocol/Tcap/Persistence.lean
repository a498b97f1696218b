import TsnProtocol.Tcap.Effects
import TsnProtocol.Tcap.Frames

/-!
Accounts persist. An instruction that is not a migration of a layout replaces an account
only by one of the same layout; with its frame this keeps every account of a layout it does
not write as it is.
-/

namespace TsnProtocol.Tcap.Persistence

open Lib.Checked
open Lib.FiniteStore
open Solana.Address
open Tcap.State
open Tcap.Execution
open Tcap.Setup
open Tcap.AssetGovernance
open Tcap.Funding
open Tcap.Tips
open Tcap.Program
open Tcap.Administration
open Tcap.Effects
open Tcap.Frames

variable {runtime : Runtime} {call : Call} {world next : World} {key : Pubkey}

/-- Every account of `world` is still there, or has been rewritten in its own layout. -/
def KeepsKinds (world next : World) : Prop :=
  ∀ key account, world.lookup key = some account →
    ∃ kept, next.lookup key = some kept ∧ kind kept = kind account

/-- An account may be written where nothing was, or over an account of its own layout. -/
def Fits (world : World) (key : Pubkey) (account : Account) : Prop :=
  ∀ old, world.lookup key = some old → kind account = kind old

theorem keepsKinds_refl (world : World) : KeepsKinds world world :=
  fun _ account hlookup => ⟨account, hlookup, rfl⟩

theorem keepsKinds_insert {account : Account} (hkeeps : KeepsKinds world next)
    (hfits : Fits world key account) : KeepsKinds world (next.insert key account) := by
  intro other old hold
  by_cases hkey : other = key
  · subst hkey
    exact ⟨account, Finmap.lookup_insert _, hfits old hold⟩
  · rw [Finmap.lookup_insert_of_ne _ hkey]
    exact hkeeps other old hold

theorem fits_of_lookup {old account : Account} (hlookup : world.lookup key = some old)
    (hkind : kind account = kind old) : Fits world key account := by
  intro other hother
  rw [hlookup] at hother
  cases hother
  exact hkind

theorem fits_of_vacant {address : Pubkey} {account : Account} {result : Unit}
    (hvacant : vacant world key address = .ok result) : Fits world key account := by
  intro old hold
  rw [(vacant_eq_ok.mp hvacant).2] at hold
  cases hold

theorem fits_of_load {α : Type} [AccountData α] {data : α} {account : Account}
    (hload : load world key = .ok data) (hkind : kind account = kind (wrap data)) :
    Fits world key account :=
  fits_of_lookup (load_eq_ok.mp hload) hkind

theorem fits_of_loadOrInit {α : Type} [AccountData α] {address : Pubkey} {zeroed data : α}
    {account : Account} (hload : loadOrInit world key address zeroed = .ok data)
    (hkind : kind account = kind (wrap data)) : Fits world key account := by
  intro old hold
  obtain ⟨-, ⟨hnone, -⟩ | hsome⟩ := loadOrInit_eq_ok.mp hload
  · rw [hnone] at hold
    cases hold
  · rw [hsome] at hold
    cases hold
    exact hkind

theorem fits_of_loadConfig {config config' : TcapGlobalConfigV1}
    (hload : loadConfig runtime world key = .ok config) :
    Fits world key (.config config') :=
  fits_of_lookup (loadConfig_eq_ok.mp hload).1 rfl

theorem fits_of_loadRegistry {registry registry' : TcapAssetRegistryV1}
    (hload : loadRegistry runtime world key = .ok registry) :
    Fits world key (.registry registry') :=
  fits_of_lookup (loadRegistry_eq_ok hload).1 rfl

theorem fits_of_loadEntry {entry entry' : TcapAssetEntryV1}
    (hload : loadEntry runtime world key = .ok entry) : Fits world key (.entry entry') :=
  fits_of_lookup (loadEntry_eq_ok hload) rfl

theorem fits_of_loadPolicy {entryKey : Pubkey}
    {policy policy' : TcapAssetGovernancePolicyV2}
    (hload : loadPolicy runtime world key entryKey = .ok policy) :
    Fits world key (.policy policy') :=
  fits_of_lookup (loadPolicy_eq_ok hload) rfl

section Packages

/-- What `GovernAssetV2` loads may be written back. -/
theorem fits_of_loadGovernAssetV2 {accounts : GovernAssetV2}
    {loaded : TcapGlobalConfigV1 × TcapAssetEntryV1 × TcapAssetGovernancePolicyV2}
    (hload : loadGovernAssetV2 runtime call accounts world = .ok loaded) :
    (∀ entry, Fits world accounts.assetEntry (.entry entry)) ∧
      ∀ policy, Fits world accounts.governancePolicy (.policy policy) := by
  obtain ⟨config, entry, policy⟩ := loaded
  obtain ⟨hentry, hpolicy⟩ := loadGovernAssetV2_eq_ok hload
  exact ⟨fun _ => fits_of_lookup hentry rfl, fun _ => fits_of_lookup hpolicy rfl⟩

/-- What `ManageOperationalAssetV2` loads may be written back. -/
theorem fits_of_loadManageOperationalAssetV2 {accounts : ManageOperationalAssetV2}
    {asset : OperationalAsset}
    (hload : loadManageOperationalAssetV2 runtime call accounts world = .ok asset) :
    (∀ entry, Fits world accounts.assetEntry (.entry entry)) ∧
      (∀ policy, Fits world accounts.governancePolicy (.policy policy)) ∧
        ∀ reserve, Fits world accounts.reserveState (.reserve reserve) := by
  obtain ⟨hentry, hpolicy, hreserve⟩ := loadManageOperationalAssetV2_eq_ok hload
  exact ⟨fun _ => fits_of_lookup hentry rfl, fun _ => fits_of_lookup hpolicy rfl,
    fun _ => fits_of_lookup hreserve rfl⟩

/-- The reserve a deposit loads may be written back. -/
theorem fits_of_loadDepositAssetV2 {accounts : DepositAssetV2} {loaded : DepositAccounts}
    {reserve : TcapReserveStateV1}
    (hload : loadDepositAssetV2 runtime call accounts world = .ok loaded) :
    Fits world accounts.reserveState (.reserve reserve) :=
  fits_of_lookup (loadDepositAssetV2_eq_ok hload).2.2.1 rfl

end Packages

theorem keepsKinds_of_transfer {signers : List Pubkey}
    {program source mint destination authority : Pubkey} {amount decimals : Nat}
    (htransfer : transferChecked world signers program source mint destination authority
      amount decimals = .ok next) :
    KeepsKinds world next := by
  obtain ⟨_, _, hsource, hdestination, -, -, -, ⟨-, rfl⟩ | ⟨-, rfl⟩⟩ :=
    transferChecked_eq_ok htransfer
  · exact keepsKinds_refl _
  · exact keepsKinds_insert (keepsKinds_insert (keepsKinds_refl _)
      (fits_of_lookup hsource rfl)) (fits_of_lookup hdestination rfl)

/-- The instructions that move accounts from one layout to another. -/
def MovesLayout : Instruction → Prop
  | .migrateReserveTransferPendingV1 _ | .migrateTipSealV1 _ | .repairTipSealV1 _ => True
  | _ => False

instance (instruction : Instruction) : Decidable (MovesLayout instruction) := by
  unfold MovesLayout
  split <;> infer_instance

theorem keepsKinds_execute (runtime : Runtime) (call : Call) {instruction : Instruction}
    (world : World) (hlayout : ¬ MovesLayout instruction) :
    Ensures (KeepsKinds world) (execute runtime call instruction world) := by
  cases instruction
  case migrateReserveTransferPendingV1 | migrateTipSealV1 | repairTipSealV1 =>
    exact absurd trivial hlayout
  -- one pass over the text of every instruction: a check, a branch or a write at a time
  all_goals
    clear hlayout
    simp only [execute, initializeTcapV1, initializeOneTimeTip, consumeOneTimeTip,
      creditOneTimeTip, creditOneTimeTipTransfer, initializeOneTimeTipLiability,
      debitTcapBalanceV1, debitTcapExitV1, payoutTcapExitV1, exitTcapLiquidityV1,
      initializeAssetRegistryV1, raiseMinimumInstructionVersionV2, registerGovernedAssetV2,
      migrateLegacyAssetPolicyV2, setAssetApprovalV2, setAssetSettlementPolicyV2,
      initializeGovernedReserveV2, initializeGovernedVaultV2,
      syncGovernedAssetInfrastructureV2, setGovernedDepositPolicyV2,
      setAssetOperationalStatusV2, revokeAssetApprovalV2, writeOperational,
      initializeNullifierRegistryV1, initializeCommitmentRootV1, activateCommitmentRootV1,
      migrateTcapConfigLayoutV1, registerTsnAuthorizationV1, creditGpruMemoV1,
      initializeTcapTipLiabilityV2, migrateAssetEntryCustodyGraphV2, debitTcapGpruTipV2,
      depositAssetV2, depositWithFundingCommitmentV2]
    repeat' first
      | refine ensures_bind fun _ _ => ?_
      | refine ensures_pure ?_
      | exact ensures_error
      | refine keepsKinds_insert ?_ (by
          first
            | exact fits_of_vacant (by assumption)
            | exact fits_of_load (by assumption) rfl
            | exact fits_of_loadOrInit (by assumption) rfl
            | exact fits_of_loadConfig (by assumption)
            | exact fits_of_loadRegistry (by assumption)
            | exact fits_of_loadEntry (by assumption)
            | exact fits_of_loadPolicy (by assumption)
            | exact fits_of_loadDepositAssetV2 (by assumption)
            | exact (fits_of_loadGovernAssetV2 (by assumption)).1 _
            | exact (fits_of_loadGovernAssetV2 (by assumption)).2 _
            | exact (fits_of_loadManageOperationalAssetV2 (by assumption)).1 _
            | exact (fits_of_loadManageOperationalAssetV2 (by assumption)).2.1 _
            | exact (fits_of_loadManageOperationalAssetV2 (by assumption)).2.2 _)
      | exact keepsKinds_of_transfer (by assumption)
      | exact keepsKinds_refl world
      | split

theorem keepsKinds_executeExternal (call : Call) (action : ExternalAction) (world : World) :
    Ensures (KeepsKinds world) (executeExternal call action world) := by
  cases action with
  | transferChecked program source mint destination authority amount decimals =>
      exact fun next hstep => keepsKinds_of_transfer hstep
  | mintTo mint destination authority amount =>
      simp only [executeExternal]
      refine ensures_bind fun _ _ => ensures_bind fun token htoken => ?_
      repeat' refine ensures_bind fun _ _ => ?_
      exact ensures_pure (keepsKinds_insert (keepsKinds_refl _) (fits_of_load htoken rfl))
  | initializeAccount key program mint owner =>
      intro next hstep
      simp only [executeExternal, freshAddress, bind_eq_ok, require_eq_ok, pure_eq_ok] at hstep
      obtain ⟨_, ⟨_, -, hfresh⟩, _, -, _, -, rfl⟩ := hstep
      refine keepsKinds_insert (keepsKinds_refl _) ?_
      intro old hold
      rw [hfresh] at hold
      cases hold
  | initializeMint key data =>
      intro next hstep
      simp only [executeExternal, freshAddress, bind_eq_ok, require_eq_ok, pure_eq_ok] at hstep
      obtain ⟨_, ⟨_, -, hfresh⟩, _, -, rfl⟩ := hstep
      refine keepsKinds_insert (keepsKinds_refl _) ?_
      intro old hold
      rw [hfresh] at hold
      cases hold
  | writeForeign key owner data =>
      intro next hstep
      simp only [executeExternal, bind_eq_ok] at hstep
      obtain ⟨_, -, hstep⟩ := hstep
      split at hstep
      · rename_i hnone
        cases hstep
        refine keepsKinds_insert (keepsKinds_refl _) ?_
        intro old hold
        rw [hnone] at hold
        cases hold
      · rename_i hforeign
        cases hstep
        exact keepsKinds_insert (keepsKinds_refl _) (fits_of_lookup hforeign rfl)
      · cases hstep

/-- The kinds of account a step of the chain may write. -/
def stepWrites : Step → List AccountKind
  | .tcap _ instruction => writes instruction
  | .external _ _ => [.token, .mint, .foreign]

theorem writesOnly_step {input : Step} (hstep : step runtime world input = .ok next) :
    WritesOnly (stepWrites input) world next := by
  cases input with
  | tcap call instruction =>
      exact writesOnly_execute runtime call instruction world next
        (step_tcap_eq_ok.mp hstep).2
  | external call action =>
      exact writesOnly_executeExternal call action world next (step_external_eq_ok.mp hstep).2

/-- A step that moves accounts from one layout to another. -/
def StepMovesLayout : Step → Prop
  | .tcap _ instruction => MovesLayout instruction
  | .external _ _ => False

instance : (input : Step) → Decidable (StepMovesLayout input)
  | .tcap _ instruction => inferInstanceAs (Decidable (MovesLayout instruction))
  | .external _ _ => inferInstanceAs (Decidable False)

theorem keepsKinds_step {input : Step} (hlayout : ¬ StepMovesLayout input)
    (hstep : step runtime world input = .ok next) : KeepsKinds world next := by
  cases input with
  | tcap call instruction =>
      exact keepsKinds_execute runtime call world hlayout next (step_tcap_eq_ok.mp hstep).2
  | external call action =>
      exact keepsKinds_executeExternal call action world next
        (step_external_eq_ok.mp hstep).2

/-- An account of a layout that is not written stays as it is. -/
theorem lookup_of_step {input : Step} {account : Account}
    (hlayout : ¬ StepMovesLayout input) (hkind : kind account ∉ stepWrites input)
    (hstep : step runtime world input = .ok next) (hlookup : world.lookup key = some account) :
    next.lookup key = some account := by
  obtain ⟨kept, hkept, hsame⟩ := keepsKinds_step hlayout hstep key account hlookup
  rcases (writesOnly_step hstep).stored key kept hkept with hstored | hwritten
  · rw [hkept, ← hstored, hlookup]
  · exact absurd (hsame ▸ hwritten) hkind

section Records

variable {α : Type} [AccountData α]

/-- The accounts of one layout, by address. -/
def records (α : Type) [AccountData α] (world : World) (key : Pubkey) : Option α :=
  (world.lookup key).bind AccountData.view

theorem records_eq_some {data : α} :
    records α world key = some data ↔ world.lookup key = some (wrap data) := by
  simp only [records, Option.bind_eq_some_iff, AccountData.view_eq_some]
  constructor
  · rintro ⟨_, hlookup, rfl⟩
    exact hlookup
  · exact fun hlookup => ⟨_, hlookup, rfl⟩

theorem records_insert (world : World) (key : Pubkey) (account : Account) :
    records α (world.insert key account) =
      Function.update (records α world) key (AccountData.view account) := by
  funext other
  simp only [records, lookup_insert_eq, Function.update_apply]
  split_ifs
  · rfl
  · rfl

/-- A write of another layout, where no record was, is not seen. -/
theorem records_insert_of_none {account : Account} (hnone : records α world key = none)
    (hview : (AccountData.view account : Option α) = none) :
    records α (world.insert key account) = records α world := by
  rw [records_insert, hview, ← hnone, Function.update_eq_self]

theorem records_eq_none {account : Account} (hlookup : world.lookup key = some account)
    (hview : (AccountData.view account : Option α) = none) : records α world key = none := by
  simp [records, hlookup, hview]

theorem records_eq_none_of_vacant (hlookup : world.lookup key = none) :
    records α world key = none := by
  simp [records, hlookup]

/-- A step that does not write a layout leaves its records as they are. -/
theorem records_of_step {input : Step} (hlayout : ¬ StepMovesLayout input)
    (hkind : ∀ data : α, kind (wrap data) ∉ stepWrites input)
    (hstep : step runtime world input = .ok next) : records α next = records α world := by
  funext key
  refine Option.ext fun data => ?_
  rw [records_eq_some, records_eq_some]
  constructor
  · intro hnext
    exact ((writesOnly_step hstep).stored key _ hnext).resolve_right (hkind data)
  · exact lookup_of_step hlayout (hkind data) hstep

end Records

end TsnProtocol.Tcap.Persistence
