import TsnProtocol.Tcap.Solvency

/-!
Isolation of exits: along every run whose debits stay within one asset, what
leaves a vault was debited from liabilities of its own asset.
-/

namespace TsnProtocol.Tcap.ExitIsolation

open Lib.FiniteStore
open Lib.Transition
open Lib.CustodyLedger
open Solana.Address
open Tcap.State
open Tcap.Execution
open Tcap.Tips
open Tcap.Program
open Tcap.Custody
open Tcap.Effects
open Tcap.Refinement
open Tcap.Solvency

variable {runtime : Runtime} {world next : World}

/-- What a step pays out of the vault of an asset. -/
def paidFrom (asset : Pubkey) (world : World) : Step → Nat
  | .tcap _ (.payoutTcapExitV1 accounts _) =>
      if asset = accounts.assetEntry then permitAmount world accounts.permit else 0
  | _ => 0

/-- What a step debits from the liabilities of an asset. -/
def debitedFrom (asset : Pubkey) (world : World) : Step → Nat
  | .tcap _ (.debitTcapExitV1 accounts args) =>
      if asset = liabilityAsset world accounts.liability then args.amount else 0
  | _ => 0

def totalPaid (history : List (World × Step)) (asset : Pubkey) : Nat :=
  (history.map fun entry => paidFrom asset entry.1 entry.2).sum

def totalDebited (history : List (World × Step)) (asset : Pubkey) : Nat :=
  (history.map fun entry => debitedFrom asset entry.1 entry.2).sum

theorem totalPaid_cons (history : List (World × Step)) (world : World) (input : Step) :
    totalPaid ((world, input) :: history) =
      fun asset => totalPaid history asset + paidFrom asset world input := by
  funext asset
  simp [totalPaid, Nat.add_comm]

theorem totalDebited_cons (history : List (World × Step)) (world : World) (input : Step) :
    totalDebited ((world, input) :: history) =
      fun asset => totalDebited history asset + debitedFrom asset world input := by
  funext asset
  simp [totalDebited, Nat.add_comm]

/-- A debit lowers the settled bucket of the reserve of its liability's asset and of
no other, and issues a permit in the mint of that asset. -/
def DebitsOwnAsset (world : World) (accounts : DebitTcapExitV1)
    (args : DebitTcapExitArgsV1) (next : World) : Prop :=
  ∃ entry reserve permit,
    world.lookup (liabilityAsset world accounts.liability) = some (.entry entry) ∧
    world.lookup entry.reserveState = some (.reserve reserve) ∧
    args.amount ≤ reserve.settledConfidentialLiabilities ∧
    next.lookup entry.reserveState = some (.reserve
      { reserve with
        settledConfidentialLiabilities :=
          reserve.settledConfidentialLiabilities - args.amount }) ∧
    (∀ key other, key ≠ entry.reserveState →
      (next.lookup key = some (.reserve other) ↔ world.lookup key = some (.reserve other))) ∧
    next.lookup accounts.permit = some (.permit permit) ∧
    permit.mint = entry.asset.mint ∧ permit.amount = args.amount

/-- Isolation of exits along a run and in the world it reaches. -/
structure ExitsIsolated (runtime : Runtime) (history : List (World × Step))
    (world : World) : Prop where
  debits : ∀ before call accounts args after,
    (before, Step.tcap call (.debitTcapExitV1 accounts args)) ∈ history →
      step runtime before (.tcap call (.debitTcapExitV1 accounts args)) = .ok after →
        DebitsOwnAsset before accounts args after
  payouts : ∀ asset, totalPaid history asset ≤ totalDebited history asset
  spendable : ∀ key entry reserve, world.lookup key = some (.entry entry) →
    world.lookup entry.reserveState = some (.reserve reserve) →
      availableLiabilities world key ≤ reserve.settledConfidentialLiabilities

/-- A debit names the reserve and the mint of the asset of its liability. -/
def StaysInAsset (world : World) : Step → Prop
  | .tcap _ (.debitTcapExitV1 accounts args) =>
      reserveAsset world accounts.reserveState = liabilityAsset world accounts.liability ∧
        (world.lookup (liabilityAsset world accounts.liability)).bind entryMint =
          some args.mint
  | _ => True

instance (world : World) : (input : Step) → Decidable (StaysInAsset world input)
  | .external _ _ => isTrue trivial
  | .tcap call instruction => by
      apply Instruction.casesOn
        (motive := fun kind => Decidable (StaysInAsset world (.tcap call kind)))
        instruction <;> intros <;> first
        | change Decidable (_ = _ ∧ _ = _)
          infer_instance
        | change Decidable True
          infer_instance

theorem keepsIsolation_of_stays {input : Step} (hstays : StaysInAsset world input) :
    KeepsIsolation (ledger world) (moveOf world input) := by
  cases input with
  | external call action => trivial
  | tcap call instruction =>
      cases instruction with
      | debitTcapExitV1 accounts args => exact hstays
      | _ => trivial

theorem paidOut_moveOf (asset : Pubkey) (world : World) (input : Step) :
    paidOut asset (moveOf world input) = paidFrom asset world input := by
  cases input with
  | external call action => rfl
  | tcap call instruction => cases instruction <;> rfl

theorem debited_moveOf (asset : Pubkey) (world : World) (input : Step) :
    debited asset (moveOf world input) = debitedFrom asset world input := by
  cases input with
  | external call action => rfl
  | tcap call instruction => cases instruction <;> rfl

/-- A debit that stays within one asset does what it should. -/
theorem debitsOwnAsset_of_stays {call : Call} {accounts : DebitTcapExitV1}
    {args : DebitTcapExitArgsV1} (hwellFormed : WellFormed world)
    (hstays : StaysInAsset world (.tcap call (.debitTcapExitV1 accounts args)))
    (hstep : step runtime world (.tcap call (.debitTcapExitV1 accounts args)) = .ok next) :
    DebitsOwnAsset world accounts args next := by
  obtain ⟨-, hstep⟩ := step_tcap_eq_ok.mp hstep
  obtain ⟨tip, tip', reserve, liability, permit, htip, hreserve, hliability, hfresh, hkey,
    hmint, hamount, -, -, -, henough, rfl⟩ := debitTcapExitV1_eq_ok hstep
  obtain ⟨hreserveAsset, hlisted⟩ := hstays
  rw [liabilityAsset_of_lookup hliability] at hreserveAsset hlisted
  rw [reserveAsset_of_lookup hreserve] at hreserveAsset
  obtain ⟨entry, hentry⟩ := (hwellFormed _ _ hliability).2
  obtain ⟨hreserveKey, -⟩ := hwellFormed _ _ hreserve
  obtain ⟨-, -, hstate, -⟩ := hwellFormed _ _ hentry
  have hsame : accounts.reserveState = entry.reserveState := by
    rw [hreserveKey, hreserveAsset, hstate]
  have hpermitNe : ∀ {key account}, world.lookup key = some account →
      accounts.permit ≠ key := by
    rintro key account hlookup rfl
    rw [hfresh] at hlookup
    cases hlookup
  refine ⟨entry, reserve, permit, by rw [liabilityAsset_of_lookup hliability, hentry],
    hsame ▸ hreserve, henough, ?_, ?_, ?_, ?_, hamount⟩
  · rw [← hsame, Finmap.lookup_insert]
  · intro key other hother
    rw [← hsame] at hother
    -- tip, liability and permit are written too, none of them a reserve
    rw [lookup_insert_eq, if_neg hother, lookup_insert_eq, lookup_insert_eq,
      lookup_insert_eq]
    split_ifs with hkeyLiability hkeyTip hkeyPermit
    · rw [hkeyLiability, hliability]
      simp
    · rw [hkeyTip, htip]
      simp
    · rw [hkeyPermit, hfresh]
      simp
    · rfl
  · rw [lookup_insert_eq, if_neg (hpermitNe hreserve), lookup_insert_eq,
      if_neg (hpermitNe hliability), lookup_insert_eq, if_neg (hpermitNe htip),
      Finmap.lookup_insert]
  · rw [hentry, Option.bind_some] at hlisted
    rw [hmint]
    exact (Option.some.inj hlisted).symm

theorem isolated_emptyLedger : Isolated emptyLedger (fun _ => 0) (fun _ => 0) where
  distinct := by
    intro first second mint hfirst
    cases hfirst
  permits := fun mint houtstanding => absurd rfl houtstanding
  unlisted := fun _ _ => ⟨rfl, rfl⟩
  accounted := by
    intro asset mint hmint
    cases hmint
  spendable := fun _ => le_rfl

/-- What payouts and debits add up to, along every run whose debits stay within one
asset. -/
theorem isolated_of_run {start : World} {history : List (World × Step)}
    (hrun : ChainRun runtime start history world)
    (hstays : ∀ entry ∈ history, StaysInAsset entry.1 entry.2) :
    WellFormed world ∧
      Isolated (ledger world) (totalPaid history) (totalDebited history) := by
  obtain ⟨hlaunch, hrun⟩ := hrun
  refine hrun.induct_of_forall (fun history world => WellFormed world ∧
    Isolated (ledger world) (totalPaid history) (totalDebited history)) hstays ?_ ?_
  · rw [ledger_of_preLaunch hlaunch]
    exact ⟨wellFormed_of_preLaunch hlaunch, isolated_emptyLedger⟩
  · rintro history world input next hinput ⟨hwellFormed, hisolated⟩ hstep
    obtain ⟨hformed, hmoves⟩ := simulates_step hwellFormed hstep
    have hnext := isolated_of_moves hmoves (keepsIsolation_of_stays hinput) hisolated
    simp only [paidOut_moveOf, debited_moveOf] at hnext
    rw [totalPaid_cons, totalDebited_cons]
    exact ⟨hformed, hnext⟩

/-- Exits are isolated along every run whose debits name the reserve and the mint of
the asset of the liability they debit. -/
theorem exitsIsolated_of_run {start : World} {history : List (World × Step)}
    (hrun : ChainRun runtime start history world)
    (hstays : ∀ entry ∈ history, StaysInAsset entry.1 entry.2) :
    ExitsIsolated runtime history world := by
  obtain ⟨hwellFormed, hisolated⟩ := isolated_of_run hrun hstays
  refine ⟨?_, ?_, ?_⟩
  · intro before call accounts args after hentry hstep
    exact debitsOwnAsset_of_stays ((wellFormed_of_run hrun).2 _ hentry) (hstays _ hentry) hstep
  · intro asset
    cases hmint : (ledger world).mint asset with
    | none =>
        obtain ⟨hpaid, -⟩ := hisolated.unlisted asset hmint
        omega
    | some mint =>
        have haccounted := hisolated.accounted asset mint hmint
        omega
  · intro key entry reserve hentry hreserve
    have hlink := assetEntry_of_reserveState hwellFormed hentry hreserve rfl
    obtain ⟨-, -, hsettled⟩ := books_of_reserve hwellFormed hreserve
    rw [← hsettled, hlink]
    exact hisolated.spendable key

section Runs

def memeMint : Pubkey := .raw 202
def memeWallet : Pubkey := .raw 302
def attacker : Pubkey := .raw 103
def attackerWallet : Pubkey := .raw 303

/-- Two mints: the attacker holds 100 of one, a depositor 100 of the other. -/
def twoMintWorld : World :=
  ((usdWorld.insert memeMint (.mint plainMint)).insert
    memeWallet (.token ⟨splTokenProgram, memeMint, attacker, 100⟩)).insert
    attackerWallet (.token ⟨splTokenProgram, usdMint, attacker, 0⟩)

theorem preLaunch_twoMintWorld : PreLaunch twoMintWorld := by
  refine preLaunch_insert (preLaunch_insert (preLaunch_insert preLaunch_usdWorld ?_) ?_) ?_ <;>
  simp [PreLaunchAccount, memeMint, memeWallet, attackerWallet, Pubkey.program?]

/-- Both mints are listed and hold a deposit of 100; the attacker's deposit is
credited to a tip of the attacker. Latest step first. -/
def twoMintSteps : List Step :=
  creditStep memeMint attacker 5 2 100 ::
    (openTipSteps memeMint attacker 5 2 ++
      depositStep memeMint attacker memeWallet 100 ::
      depositStep usdMint depositor usdWallet 100 ::
      (listingSteps governor memeMint ++
        (listingSteps governor usdMint ++ launchSteps governor)))

/-- A liability in one mint is debited with a permit in the other, and the permit is
paid from the other vault. -/
theorem not_exitsIsolated_after_crossAsset_exit :
    ¬ ∀ runtime start history world, ChainRun runtime start history world →
      ExitsIsolated runtime history world := by
  intro hclaim
  have hreaches : reaches (step localRuntime) twoMintWorld
      (payoutStep usdMint attacker attackerWallet ::
        exitStep memeMint attacker 5 usdMint attackerWallet 100 :: twoMintSteps)
      (fun history _ => totalDebited history (splEntryAddress usdMint) <
        totalPaid history (splEntryAddress usdMint)) = true := by
    decide +kernel
  obtain ⟨history, world, hrun, hfails⟩ := exists_run_of_reaches hreaches
  have hisolated := hclaim localRuntime twoMintWorld history world
    ⟨preLaunch_twoMintWorld, hrun⟩
  have hpayouts := hisolated.payouts (splEntryAddress usdMint)
  have hmore := of_decide_eq_true hfails
  omega

/-- The same liability debited and paid in its own mint. -/
theorem exitsIsolated_after_exit :
    ∃ history world, ChainRun localRuntime twoMintWorld history world ∧
      (∀ entry ∈ history, StaysInAsset entry.1 entry.2) ∧
      totalPaid history (splEntryAddress memeMint) = 100 ∧
      ExitsIsolated localRuntime history world := by
  have hreaches : reaches (step localRuntime) twoMintWorld
      (payoutStep memeMint attacker memeWallet ::
        exitStep memeMint attacker 5 memeMint memeWallet 100 :: twoMintSteps)
      (fun history _ => (∀ entry ∈ history, StaysInAsset entry.1 entry.2) ∧
        totalPaid history (splEntryAddress memeMint) = 100) = true := by
    decide +kernel
  obtain ⟨history, world, hrun, hholds⟩ := exists_run_of_reaches hreaches
  obtain ⟨hstays, hpaid⟩ := of_decide_eq_true hholds
  have hchain : ChainRun localRuntime twoMintWorld history world :=
    ⟨preLaunch_twoMintWorld, hrun⟩
  exact ⟨history, world, hchain, hstays, hpaid, exitsIsolated_of_run hchain hstays⟩

end Runs

end TsnProtocol.Tcap.ExitIsolation
