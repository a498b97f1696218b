import TsnProtocol.Tcap.Frames
import TsnProtocol.Tcap.Refinement

/-!
In every world the chain reaches, an asset entry is at the address that its own fields derive,
under the bump that it holds.
-/

namespace TsnProtocol.Tcap.EntryAddresses

open Lib.Checked
open Lib.FiniteStore
open Solana.Address
open Tcap.State
open Tcap.Execution
open Tcap.AssetGovernance
open Tcap.Funding
open Tcap.Program
open Tcap.Administration
open Tcap.Custody
open Tcap.Frames
open Tcap.Refinement

variable {runtime : Runtime} {call : Call} {world next : World} {key : Pubkey}

/-- Every entry holds the bump of the address it is at. -/
def Homed (runtime : Runtime) (world : World) : Prop :=
  ∀ key entry, world.lookup key = some (.entry entry) → entry.bump = runtime.bump key

theorem homed_insert {account : Account} (hhomed : Homed runtime next)
    (haccount : ∀ entry, account = .entry entry → entry.bump = runtime.bump key) :
    Homed runtime (next.insert key account) := by
  intro other entry hlookup
  rw [lookup_insert_eq] at hlookup
  split_ifs at hlookup with hkey
  · rw [hkey]
    exact haccount entry (Option.some.inj hlookup)
  · exact hhomed other entry hlookup

theorem homed_insert_other {account : Account} (hhomed : Homed runtime next)
    (hview : (AccountData.view account : Option TcapAssetEntryV1) = none) :
    Homed runtime (next.insert key account) := by
  apply homed_insert hhomed
  rintro entry rfl
  cases hview

theorem homed_insert_entry {entry entry' : TcapAssetEntryV1} (hhomed : Homed runtime world)
    (hnext : Homed runtime next) (hlookup : world.lookup key = some (.entry entry))
    (hbump : entry'.bump = entry.bump) : Homed runtime (next.insert key (.entry entry')) := by
  apply homed_insert hnext
  rintro _ ⟨⟩
  rw [hbump, hhomed key entry hlookup]

theorem homed_writeOperational {accounts : ManageOperationalAssetV2} {asset : OperationalAsset}
    {policy : TcapAssetGovernancePolicyV2} {entry : TcapAssetEntryV1}
    {reserve : TcapReserveStateV1} (hhomed : Homed runtime world)
    (hload : loadManageOperationalAssetV2 runtime call accounts world = .ok asset)
    (hbump : entry.bump = asset.entry.bump) :
    Homed runtime (writeOperational accounts world policy entry reserve) :=
  homed_insert_other (homed_insert_entry hhomed (homed_insert_other hhomed rfl)
    (loadManageOperationalAssetV2_eq_ok hload).1 hbump) rfl

theorem homed_registerGovernedAssetV2 {accounts : RegisterGovernedAssetV2}
    {args : RegisterGovernedAssetArgsV2} (hhomed : Homed runtime world)
    (hstep : registerGovernedAssetV2 runtime call accounts args world = .ok next) :
    Homed runtime next := by
  simp only [registerGovernedAssetV2, bind_eq_ok, pure_eq_ok] at hstep
  obtain ⟨_, -, _, -, _, -, _, -, _, -, _, -, _, -, _, -, hstep⟩ := hstep
  obtain ⟨_, -, _, -, _, -, _, -, _, -, _, -, _, -, _, -, _, -, _, -, _, -, _, -, _, -,
    rfl⟩ := hstep
  refine homed_insert_other (homed_insert_other (homed_insert_other
    (homed_insert hhomed ?_) rfl) rfl) rfl
  rintro _ ⟨⟩
  rfl

theorem homed_migrateLegacyAssetPolicyV2 {accounts : MigrateLegacyAssetPolicyV2}
    {args : MigrateLegacyAssetPolicyArgsV2} (hhomed : Homed runtime world)
    (hstep : migrateLegacyAssetPolicyV2 runtime call accounts args world = .ok next) :
    Homed runtime next := by
  simp only [migrateLegacyAssetPolicyV2, bind_eq_ok, load_eq_ok, wrap_entry,
    pure_eq_ok] at hstep
  obtain ⟨_, -, _, -, _, -, entry, hentry, _, -, _, -, _, -, _, -, hstep⟩ := hstep
  obtain ⟨_, -, _, -, _, -, _, -, _, -, _, -, _, -, _, -, _, -, _, -, _, -, _, -, rfl⟩ :=
    hstep
  exact homed_insert_other (homed_insert_other
    (homed_insert_entry hhomed hhomed hentry rfl) rfl) rfl

theorem homed_setAssetApprovalV2 {accounts : GovernAssetV2}
    {newStatus : TcapAssetApprovalStatusV2} (hhomed : Homed runtime world)
    (hstep : setAssetApprovalV2 runtime call accounts newStatus world = .ok next) :
    Homed runtime next := by
  simp only [setAssetApprovalV2, bind_eq_ok] at hstep
  obtain ⟨⟨config, entry, policy⟩, hload, _, -, _, -, _, -, hstep⟩ := hstep
  split at hstep
  · cases hstep
    exact hhomed
  · simp only [bind_eq_ok, okOr_eq_ok, pure_eq_ok] at hstep
    obtain ⟨riskState, -, rfl⟩ := hstep
    exact homed_insert_entry hhomed (homed_insert_other hhomed rfl)
      (loadGovernAssetV2_eq_ok hload).1 rfl

theorem homed_setGovernedDepositPolicyV2 {accounts : SyncGovernedAssetInfrastructureV2}
    {enabled : Bool} (hhomed : Homed runtime world)
    (hstep : setGovernedDepositPolicyV2 runtime call accounts enabled world = .ok next) :
    Homed runtime next := by
  simp only [setGovernedDepositPolicyV2, bind_eq_ok] at hstep
  obtain ⟨_, -, config, -, entry, hentry, policy, -, _, -, reserve, -, hstep⟩ := hstep
  obtain ⟨_, -, _, -, _, -, _, -, _, -, _, -, _, -, _, -, _, -, hstep⟩ := hstep
  obtain ⟨_, -, _, -, _, -, _, -, _, -, _, -, _, -, hstep⟩ := hstep
  split at hstep
  · cases hstep
    exact hhomed
  · rw [pure_eq_ok] at hstep
    rw [← hstep]
    exact homed_insert_other (homed_insert_entry hhomed (homed_insert_other hhomed rfl)
      (loadEntry_eq_ok hentry) rfl) rfl

theorem homed_setAssetOperationalStatusV2 {accounts : ManageOperationalAssetV2}
    {newStatus : TcapAssetOperationalStatusV2} (hhomed : Homed runtime world)
    (hstep : setAssetOperationalStatusV2 runtime call accounts newStatus world = .ok next) :
    Homed runtime next := by
  simp only [setAssetOperationalStatusV2, bind_eq_ok] at hstep
  obtain ⟨asset, hload, _, -, _, -, _, -, hstep⟩ := hstep
  split at hstep
  · cases hstep
    exact hhomed
  · cases newStatus <;>
    · rw [← pure_eq_ok.mp hstep]
      exact homed_writeOperational hhomed hload rfl

theorem homed_revokeAssetApprovalV2 {accounts : ManageOperationalAssetV2}
    (hhomed : Homed runtime world)
    (hstep : revokeAssetApprovalV2 runtime call accounts world = .ok next) :
    Homed runtime next := by
  simp only [revokeAssetApprovalV2, bind_eq_ok] at hstep
  obtain ⟨asset, hload, _, -, _, -, hstep⟩ := hstep
  split at hstep
  · cases hstep
    exact hhomed
  · simp only [bind_eq_ok, pure_eq_ok] at hstep
    obtain ⟨_, -, rfl⟩ := hstep
    exact homed_writeOperational hhomed hload rfl

theorem homed_of_writesOnly {kinds : List AccountKind} (hhomed : Homed runtime world)
    (hwrites : WritesOnly kinds world next) (hkinds : .entry ∉ kinds) : Homed runtime next := by
  intro key entry hlookup
  rcases hwrites.stored key _ hlookup with hold | hkind
  · exact hhomed key entry hold
  · exact absurd hkind hkinds

theorem homed_execute {instruction : Instruction} (hwellFormed : WellFormed world)
    (hhomed : Homed runtime world)
    (hstep : execute runtime call instruction world = .ok next) : Homed runtime next := by
  by_cases hentry : AccountKind.entry ∈ writes instruction
  · cases instruction with
    | registerGovernedAssetV2 => exact homed_registerGovernedAssetV2 hhomed hstep
    | migrateLegacyAssetPolicyV2 => exact homed_migrateLegacyAssetPolicyV2 hhomed hstep
    | setAssetApprovalV2 => exact homed_setAssetApprovalV2 hhomed hstep
    | setGovernedDepositPolicyV2 => exact homed_setGovernedDepositPolicyV2 hhomed hstep
    | setAssetOperationalStatusV2 => exact homed_setAssetOperationalStatusV2 hhomed hstep
    | revokeAssetApprovalV2 => exact homed_revokeAssetApprovalV2 hhomed hstep
    | migrateAssetEntryCustodyGraphV2 =>
        exact absurd hstep (migrateAssetEntryCustodyGraphV2_ne_ok hwellFormed)
    | _ => exact absurd hentry (by simp [writes])
  · exact homed_of_writesOnly hhomed (writesOnly_execute runtime call instruction world _ hstep)
      hentry

theorem homed_step {input : Step} (hwellFormed : WellFormed world)
    (hhomed : Homed runtime world) (hstep : step runtime world input = .ok next) :
    Homed runtime next := by
  rcases input with ⟨call, instruction⟩ | ⟨call, action⟩
  · exact homed_execute hwellFormed hhomed (step_tcap_eq_ok.mp hstep).2
  · refine homed_of_writesOnly hhomed (writesOnly_executeExternal call action world next
      (step_external_eq_ok.mp hstep).2) (by decide)

theorem homed_of_preLaunch (hlaunch : PreLaunch world) : Homed runtime world :=
  fun key _ hlookup => (hlaunch key _ hlookup).elim

theorem homed_of_run {start : World} {history : List (World × Step)}
    (hrun : ChainRun runtime start history world) :
    WellFormed world ∧ Homed runtime world := by
  refine hrun.2.induct_on (fun _ world => WellFormed world ∧ Homed runtime world)
    ⟨wellFormed_of_preLaunch hrun.1, homed_of_preLaunch hrun.1⟩ ?_
  rintro _ world input next - ⟨hwellFormed, hhomed⟩ hstep
  exact ⟨(simulates_step hwellFormed hstep).wellFormed, homed_step hwellFormed hhomed hstep⟩

/-- The entry at an address passes the checks of an instruction that names it. -/
theorem loadEntry_of_run {start : World} {history : List (World × Step)}
    {entry : TcapAssetEntryV1} (hrun : ChainRun runtime start history world)
    (hlookup : world.lookup key = some (.entry entry)) :
    loadEntry runtime world key = .ok entry := by
  obtain ⟨hwellFormed, hhomed⟩ := homed_of_run hrun
  obtain ⟨hkey, hregistry, -⟩ := hwellFormed key _ hlookup
  have hbump := hhomed key entry hlookup
  rw [← hregistry] at hkey
  rw [hkey] at hbump
  simp only [loadEntry, bind_eq_ok, load_eq_ok, wrap_entry, entrySeeds_eq_ok, pure_eq_ok]
  exact ⟨entry, hlookup, ⟨⟩, ⟨hkey, hbump⟩, rfl⟩

/-- The address of an entry tells its program and mint. -/
theorem binding_of_run {start : World} {history : List (World × Step)}
    {entry : TcapAssetEntryV1} {tokenProgram mint : Pubkey}
    (hrun : ChainRun runtime start history world)
    (hlookup : world.lookup (assetEntryAddress assetRegistryAddress tokenProgram mint) =
      some (.entry entry)) :
    entry.asset.tokenProgram = tokenProgram ∧ entry.asset.mint = mint := by
  obtain ⟨hkey, -⟩ := (homed_of_run hrun).1 _ _ hlookup
  simp only [assetEntryAddress, findProgramAddress, List.foldl_cons, List.foldl_nil,
    Pubkey.under.injEq, true_and] at hkey
  exact ⟨hkey.1.symm, hkey.2.symm⟩

end TsnProtocol.Tcap.EntryAddresses
