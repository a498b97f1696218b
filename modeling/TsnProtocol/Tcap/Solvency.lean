import TsnProtocol.Tcap.Refinement

/-!
Solvency of the reserves: along every run whose debits and grants respect the
backing of the asset they touch, a reserve covers its liabilities and the exit
permits issued in its mint.
-/

namespace TsnProtocol.Tcap.Solvency

open Lib.Transition
open Lib.CustodyLedger
open Solana.Address
open Tcap.State
open Tcap.Execution
open Tcap.Tips
open Tcap.Program
open Tcap.Custody
open Tcap.Effects
open Tcap.Refinement

variable {runtime : Runtime} {world next : World}

/-- Every reserve covers its liabilities and the permits outstanding in the mint of
its asset. -/
def Solvent (world : World) : Prop :=
  ∀ key entry reserve, world.lookup key = some (.entry entry) →
    world.lookup entry.reserveState = some (.reserve reserve) →
      reserve.liabilities + outstandingPermits world entry.asset.mint ≤ reserve.actualAssets

/-- The reserve a debit names is the one of the asset whose mint it names. -/
def DebitsBackingReserve (world : World) (accounts : DebitTcapExitV1)
    (args : DebitTcapExitArgsV1) : Prop :=
  (world.lookup (reserveAsset world accounts.reserveState)).bind entryMint = some args.mint

instance (world : World) (accounts : DebitTcapExitV1) (args : DebitTcapExitArgsV1) :
    Decidable (DebitsBackingReserve world accounts args) := by
  unfold DebitsBackingReserve
  infer_instance

/-- The reserve covers the grant on top of everything it already owes. -/
def GrantCovered (world : World) (accounts : InitializeTcapTipLiabilityV2)
    (initialAvailable : Nat) : Prop :=
  match world.lookup accounts.assetEntry, world.lookup accounts.reserveState with
  | some (.entry entry), some (.reserve reserve) =>
      reserve.liabilities + initialAvailable + outstandingPermits world entry.asset.mint ≤
        reserve.actualAssets
  | _, _ => True

instance (world : World) (accounts : InitializeTcapTipLiabilityV2)
    (initialAvailable : Nat) : Decidable (GrantCovered world accounts initialAvailable) := by
  unfold GrantCovered
  split <;> infer_instance

/-- What a step has to respect for reserves to stay solvent. -/
def RespectsBacking (world : World) : Step → Prop
  | .tcap _ (.debitTcapExitV1 accounts args) => DebitsBackingReserve world accounts args
  | .tcap _ (.initializeTcapTipLiabilityV2 accounts initialAvailable) =>
      GrantCovered world accounts initialAvailable
  | _ => True

instance (world : World) (input : Step) : Decidable (RespectsBacking world input) := by
  unfold RespectsBacking
  split <;> infer_instance

theorem keepsBacking_of_step {input : Step} (hwellFormed : WellFormed world)
    (hstep : step runtime world input = .ok next) (hrespects : RespectsBacking world input) :
    KeepsBacking (ledger world) (moveOf world input) := by
  cases input with
  | external call action => trivial
  | tcap call instruction =>
      obtain ⟨-, hstep⟩ := step_tcap_eq_ok.mp hstep
      cases instruction with
      | debitTcapExitV1 accounts args =>
          exact hrespects
      | initializeTcapTipLiabilityV2 accounts initialAvailable =>
          obtain ⟨config, entry, reserve, liability, -, hentry, hreserve, -, -, -, -, -,
            hstate, -, -⟩ := initializeTcapTipLiabilityV2_eq_ok hstep
          have hlink := assetEntry_of_reserveState hwellFormed hentry hreserve hstate
          obtain ⟨hactual, hunsettled, hsettled⟩ := books_of_reserve hwellFormed hreserve
          rw [hlink] at hactual hunsettled hsettled
          intro mint hmint
          obtain rfl : entry.asset.mint = mint :=
            Option.some.inj ((mint_of_entry hentry).symm.trans hmint)
          simp only [RespectsBacking, GrantCovered, hentry, hreserve,
            liabilities_eq_settled_add_unsettled] at hrespects
          rw [hactual, hunsettled, hsettled]
          change _ + outstandingPermits world entry.asset.mint ≤ _
          omega
      | _ => trivial

theorem backed_emptyLedger : Backed emptyLedger where
  distinct := by
    intro first second mint hfirst
    cases hfirst
  permits := fun mint houtstanding => absurd rfl houtstanding
  unlisted := fun _ _ => ⟨rfl, rfl, rfl⟩
  covered := by
    intro asset mint hmint
    cases hmint
  held := fun _ => le_rfl

/-- The shape of the accounts and the backing of the ledger, along every run that
respects backing. -/
theorem backed_of_run {start : World} {history : List (World × Step)}
    (hrun : ChainRun runtime start history world)
    (hrespects : ∀ entry ∈ history, RespectsBacking entry.1 entry.2) :
    WellFormed world ∧ Backed (ledger world) := by
  obtain ⟨hlaunch, hrun⟩ := hrun
  refine hrun.induct_of_forall (fun _ world => WellFormed world ∧ Backed (ledger world))
    hrespects ?_ ?_
  · rw [ledger_of_preLaunch hlaunch]
    exact ⟨wellFormed_of_preLaunch hlaunch, backed_emptyLedger⟩
  · rintro history world input next hinput ⟨hwellFormed, hbacked⟩ hstep
    obtain ⟨hformed, hmoves⟩ := simulates_step hwellFormed hstep
    exact ⟨hformed, backed_of_moves hmoves
      (keepsBacking_of_step hwellFormed hstep hinput) hbacked⟩

/-- A backed ledger is a solvent chain. -/
theorem solvent_of_backed (hwellFormed : WellFormed world)
    (hbacked : Backed (ledger world)) : Solvent world := by
  intro key entry reserve hentry hreserve
  have hlink := assetEntry_of_reserveState hwellFormed hentry hreserve rfl
  obtain ⟨hactual, hunsettled, hsettled⟩ := books_of_reserve hwellFormed hreserve
  rw [hlink] at hactual hunsettled hsettled
  have hcovered := hbacked.covered key entry.asset.mint (mint_of_entry hentry)
  rw [hactual, hunsettled, hsettled] at hcovered
  rw [liabilities_eq_settled_add_unsettled]
  exact hcovered

/-- Reserves stay solvent along every run whose debits name the reserve of the mint
they issue a permit in and whose grants are covered. -/
theorem solvent_of_run {start : World} {history : List (World × Step)}
    (hrun : ChainRun runtime start history world)
    (hrespects : ∀ entry ∈ history, RespectsBacking entry.1 entry.2) : Solvent world := by
  obtain ⟨hwellFormed, hbacked⟩ := backed_of_run hrun hrespects
  exact solvent_of_backed hwellFormed hbacked

section Runs

/-- Solvency of the reserve of one entry. -/
def coveredAt (world : World) (key : Pubkey) : Bool :=
  match world.lookup key with
  | some (.entry entry) =>
      match world.lookup entry.reserveState with
      | some (.reserve reserve) =>
          reserve.liabilities + outstandingPermits world entry.asset.mint ≤
            reserve.actualAssets
      | _ => true
  | _ => true

theorem coveredAt_of_solvent (hsolvent : Solvent world) (key : Pubkey) :
    coveredAt world key = true := by
  unfold coveredAt
  split
  · rename_i entry hentry
    split
    · rename_i reserve hreserve
      exact decide_eq_true (hsolvent key entry reserve hentry hreserve)
    · rfl
  · rfl

def governor : Pubkey := .raw 101
def depositor : Pubkey := .raw 102
def usdMint : Pubkey := .raw 201
def usdWallet : Pubkey := .raw 301
def route : Pubkey := .raw 401

/-- A mint, a wallet that holds 100 of it, and the head of one private route. -/
def usdWorld : World :=
  (((Finmap.insert tsnProgram Account.program ∅).insert usdMint (.mint plainMint)).insert
    usdWallet (.token ⟨splTokenProgram, usdMint, depositor, 100⟩)).insert
    (deriveTcapTinTipV1 route) (.tinTip ⟨1, 1, 0, 1, 0, false, 255⟩)

theorem preLaunch_usdWorld : PreLaunch usdWorld := by
  refine preLaunch_insert (preLaunch_insert (preLaunch_insert (preLaunch_insert
    preLaunch_empty ?_) ?_) ?_) ⟨route, rfl⟩ <;>
  simp [PreLaunchAccount, tsnProgram, usdMint, usdWallet, Pubkey.program?]

/-- Governance opens a liability of the given amount on the route. -/
def grantStep (initialAvailable : Nat) : Step :=
  let entry := splEntryAddress usdMint
  .tcap ⟨[governor], 4⟩ (.initializeTcapTipLiabilityV2
    ⟨governor, globalConfigAddress, deriveTcapTinTipV1 route, route, entry,
      deriveReserveState entry, deriveTcapTipLiabilityV2 (deriveTcapTinTipV1 route) entry⟩
    initialAvailable)

/-- A deposit of 100 still pending, then a grant of 100 on top of it. -/
theorem not_solvent_after_grant :
    ¬ ∀ runtime start history world, ChainRun runtime start history world →
      Solvent world := by
  intro hclaim
  have hreaches : reaches (step localRuntime) usdWorld
      (grantStep 100 :: depositStep usdMint depositor usdWallet 100 ::
        (listingSteps governor usdMint ++ launchSteps governor))
      (fun _ world => !coveredAt world (splEntryAddress usdMint)) = true := by
    decide +kernel
  obtain ⟨history, world, hrun, hfails⟩ := exists_run_of_reaches hreaches
  have hsolvent := hclaim localRuntime usdWorld history world ⟨preLaunch_usdWorld, hrun⟩
  simp [coveredAt_of_solvent hsolvent] at hfails

/-- The same deposit credited to a tip, of which 40 are then debited for an exit. -/
theorem solvent_after_exit :
    ∃ history world, ChainRun localRuntime usdWorld history world ∧
      (∀ entry ∈ history, RespectsBacking entry.1 entry.2) ∧
      outstandingPermits world usdMint = 40 ∧ Solvent world := by
  have hreaches : reaches (step localRuntime) usdWorld
      (exitStep usdMint depositor 5 usdMint usdWallet 40 ::
        creditStep usdMint depositor 5 1 100 ::
        (openTipSteps usdMint depositor 5 1 ++
          depositStep usdMint depositor usdWallet 100 ::
          (listingSteps governor usdMint ++ launchSteps governor)))
      (fun history world => (∀ entry ∈ history, RespectsBacking entry.1 entry.2) ∧
        outstandingPermits world usdMint = 40) = true := by
    decide +kernel
  obtain ⟨history, world, hrun, hholds⟩ := exists_run_of_reaches hreaches
  obtain ⟨hrespects, hpermits⟩ := of_decide_eq_true hholds
  have hchain : ChainRun localRuntime usdWorld history world := ⟨preLaunch_usdWorld, hrun⟩
  exact ⟨history, world, hchain, hrespects, hpermits, solvent_of_run hchain hrespects⟩

end Runs

end TsnProtocol.Tcap.Solvency
