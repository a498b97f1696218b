import TsnProtocol.Tcap.TipHistory

/-!
Consumption of one-time tips. A consumed tip is never credited, keeps its commitment and
stays consumed, unless `credit_one_time_tip` names it: that credit alone does not ask
whether the tip is consumed, and stores it as open again.
-/

namespace TsnProtocol.Tcap.TipFinality

open Lib.Checked
open Lib.Transition
open Solana.Address
open Tcap.State
open Tcap.Execution
open Tcap.Funding
open Tcap.Tips
open Tcap.Program
open Tcap.Custody
open Tcap.Administration
open Tcap.Refinement
open Tcap.Frames
open Tcap.Persistence
open Tcap.TipWrites
open Tcap.TipHistory

variable {runtime : Runtime} {call : Call} {world next start final : World} {key : Pubkey}

/-- The tip a step credits. -/
def creditedTip : Step → Option Pubkey
  | .tcap _ (.creditOneTimeTip accounts _) => some accounts.currentTip
  | .tcap _ (.creditOneTimeTipTransfer accounts _) => some accounts.currentTip
  | _ => none

theorem onTips_of_creditedTip {input : Step} (hcredited : creditedTip input = some key) :
    OnTips input := by
  unfold creditedTip at hcredited
  split at hcredited
  · trivial
  · trivial
  · cases hcredited

/-- A credit by `credit_one_time_tip` names a tip that is not consumed. -/
def SparesConsumed (world : World) : Step → Prop
  | .tcap _ (.creditOneTimeTip accounts _) =>
      ∀ tip ∈ tips world accounts.currentTip, tip.consumed = false
  | _ => True

/-- A tip is consumed and has the given commitment. -/
def ConsumedWith (commitment : Bytes32) (world : World) (key : Pubkey) : Prop :=
  ∃ tip, tips world key = some tip ∧ tip.consumed = true ∧ tip.commitment = commitment

/-- A tip without a seal has no seal commitment either. -/
def Aligned (world : World) : Prop :=
  ∀ key tip, tips world key = some tip → tip.sealed = 0 → tip.sealCommitment = 0

/-- A migration of the tip layout leaves the tips of a well-formed world alone. -/
theorem tips_of_migrateTipSealV1 {accounts : MigrateTipSealV1}
    (hwellFormed : WellFormed world)
    (hstep : migrateTipSealV1 runtime call accounts world = .ok next) :
    tips next = tips world := by
  simp only [migrateTipSealV1, bind_eq_ok] at hstep
  obtain ⟨_, -, _, -, _, -, hstep⟩ := hstep
  split at hstep
  · rename_i tip htip
    exact (hwellFormed _ _ htip).elim
  · rename_i root hroot
    cases hstep
    exact records_insert_unseen rfl (records_eq_none hroot rfl) rfl
  · rename_i reserve hreserve
    exact (hwellFormed _ _ hreserve).elim
  · cases hstep
  · cases hstep

/-- A repair asks for a seal commitment without a seal. -/
theorem repairTipSealV1_ne_ok {accounts : MigrateTipSealV1} (haligned : Aligned world) :
    repairTipSealV1 runtime call accounts world ≠ .ok next := by
  intro hstep
  simp only [repairTipSealV1, bind_eq_ok] at hstep
  obtain ⟨_, -, _, -, _, -, hstep⟩ := hstep
  split at hstep
  · rename_i tip htip
    simp only [bind_eq_ok, check_eq_ok] at hstep
    obtain ⟨_, hsealed, _, hcommitment, -⟩ := hstep
    exact hcommitment (haligned accounts.tip tip (records_eq_some.mpr htip) hsealed)
  · cases hstep

/-- Outside of the instructions on tips no step of a well-formed world touches a tip. -/
theorem tips_of_step {input : Step} (hwellFormed : WellFormed world)
    (haligned : Aligned world) (hidle : ¬ OnTips input)
    (hstep : step runtime world input = .ok next) : tips next = tips world := by
  cases input with
  | external call action => exact absurd trivial hidle
  | tcap call instruction =>
      have hexecute := (step_tcap_eq_ok.mp hstep).2
      cases instruction with
      | migrateTipSealV1 accounts => exact tips_of_migrateTipSealV1 hwellFormed hexecute
      | repairTipSealV1 accounts => exact absurd hexecute (repairTipSealV1_ne_ok haligned)
      | migrateReserveTransferPendingV1 accounts =>
          exact absurd hexecute (migrateReserveTransferPendingV1_ne_ok hwellFormed)
      | debitTcapBalanceV1 accounts args => exact absurd hexecute debitTcapBalanceV1_ne_ok
      | debitTcapGpruTipV2 accounts args => exact absurd hexecute debitTcapGpruTipV2_ne_ok
      | initializeTcapTipLiabilityV2 accounts initialAvailable =>
          exact records_of_step id (fun _ => by simp [stepWrites, writes, kind]) hstep
      | _ => exact absurd (by simp [OnTips, MovesLayout, writes]) hidle

section Seals

variable {holds : Sealed → Bytes32 → Prop}

/-- A property that seal and seal commitment of every tip have. -/
def SealsHold (holds : Sealed → Bytes32 → Prop) (world : World) : Prop :=
  ∀ key tip, tips world key = some tip → holds tip.sealed tip.sealCommitment

theorem sealsHold_of_tips_eq (hall : SealsHold holds world) (htips : tips next = tips world) :
    SealsHold holds next := by
  rw [SealsHold, htips]
  exact hall

theorem sealsHold_of_update {changed : Pubkey} {record : TcapOneTimeTip}
    (hall : SealsHold holds world)
    (htips : tips next = Function.update (tips world) changed (some record))
    (hrecord : holds record.sealed record.sealCommitment) : SealsHold holds next := by
  intro key tip htip
  rw [htips, Function.update_apply] at htip
  split_ifs at htip
  · cases htip
    exact hrecord
  · exact hall key tip htip

/-- A property of tips without a seal and of tips with one. -/
structure OfSeals (holds : Sealed → Bytes32 → Prop) : Prop where
  empty : holds 0 0
  full : ∀ sealed commitment, sealed ≠ 0 ∧ commitment ≠ 0 → holds sealed commitment
  aligned : ∀ sealed commitment, holds sealed commitment → sealed = 0 → commitment = 0

/-- A migration gives older tips an empty seal. -/
theorem sealsHold_migrateTipSealV1 {accounts : MigrateTipSealV1} (hempty : holds 0 0)
    (hall : SealsHold holds world)
    (hstep : migrateTipSealV1 runtime call accounts world = .ok next) :
    SealsHold holds next := by
  simp only [migrateTipSealV1, bind_eq_ok] at hstep
  rcases hstep with ⟨_, -, _, -, _, -, hstep⟩
  split at hstep
  · simp only [bind_eq_ok, pure_eq_ok] at hstep
    rcases hstep with ⟨_, -, rfl⟩
    exact sealsHold_of_update hall (records_insert_seen rfl) hempty
  · rename_i root hroot
    cases hstep
    exact sealsHold_of_tips_eq hall
      (records_insert_unseen rfl (records_eq_none hroot rfl) rfl)
  · rename_i reserve hreserve
    cases hstep
    exact sealsHold_of_tips_eq hall
      (records_insert_unseen rfl (records_eq_none hreserve rfl) rfl)
  · cases hstep
  · cases hstep

theorem tips_of_migrateReserveTransferPendingV1
    {accounts : MigrateReserveTransferPendingV1}
    (hstep : migrateReserveTransferPendingV1 runtime call accounts world = .ok next) :
    tips next = tips world := by
  simp only [migrateReserveTransferPendingV1, bind_eq_ok] at hstep
  rcases hstep with ⟨_, -, _, -, _, -, _, -, _, -, hstep⟩
  split at hstep
  · rename_i reserve hreserve
    simp only [bind_eq_ok, pure_eq_ok] at hstep
    rcases hstep with ⟨_, -, rfl⟩
    exact records_insert_unseen rfl (records_eq_none hreserve rfl) rfl
  · cases hstep

/-- Every step of the chain keeps such a property. -/
theorem sealsHold_step {input : Step} (hseals : OfSeals holds) (hall : SealsHold holds world)
    (hstep : step runtime world input = .ok next) : SealsHold holds next := by
  cases input with
  | external call action => exact sealsHold_of_tips_eq hall (records_of_external hstep).1
  | tcap call instruction =>
      have hexecute := (step_tcap_eq_ok.mp hstep).2
      cases instruction with
      | initializeOneTimeTip accounts args =>
          rcases initializeOneTimeTip_opens hexecute with ⟨-, ⟨tip, ⟨hsealed, hseal⟩, htips⟩, -⟩
          refine sealsHold_of_update hall htips ?_
          rw [hsealed, hseal]
          exact hseals.empty
      | consumeOneTimeTip accounts args =>
          rcases consumeOneTimeTip_consumes hexecute with ⟨tip, hconsumes⟩
          intro key record hrecord
          rw [hconsumes.tips_eq, Function.update_apply, Function.update_apply] at hrecord
          split_ifs at hrecord
          · cases hrecord
            exact hseals.empty
          · cases hrecord
            exact hall _ tip hconsumes.tipAt
          · exact hall key record hrecord
      | creditOneTimeTip accounts args =>
          rcases creditOneTimeTip_credits hexecute with ⟨tip, entry, liability, hcredits⟩
          exact sealsHold_of_update hall hcredits.tips_eq (hseals.full _ _ hcredits.sealed)
      | creditOneTimeTipTransfer accounts args =>
          rcases creditOneTimeTipTransfer_credits hexecute with
            ⟨tip, entry, liability, hcredits, -⟩
          exact sealsHold_of_update hall hcredits.tips_eq (hseals.full _ _ hcredits.sealed)
      | initializeOneTimeTipLiability accounts initialAvailable =>
          exact sealsHold_of_tips_eq hall (initializeOneTimeTipLiability_opens hexecute).2.2
      | debitTcapExitV1 accounts args =>
          rcases debitTcapExitV1_debits hexecute with ⟨tip, liability, hdebits⟩
          exact sealsHold_of_update hall hdebits.tips_eq (hseals.full _ _ hdebits.sealed)
      | migrateTipSealV1 accounts =>
          exact sealsHold_migrateTipSealV1 hseals.empty hall hexecute
      | repairTipSealV1 accounts =>
          have haligned : Aligned world :=
            fun key tip htip => hseals.aligned _ _ (hall key tip htip)
          exact absurd hexecute (repairTipSealV1_ne_ok haligned)
      | migrateReserveTransferPendingV1 accounts =>
          exact sealsHold_of_tips_eq hall (tips_of_migrateReserveTransferPendingV1 hexecute)
      | debitTcapBalanceV1 accounts args => exact absurd hexecute debitTcapBalanceV1_ne_ok
      | debitTcapGpruTipV2 accounts args => exact absurd hexecute debitTcapGpruTipV2_ne_ok
      | _ =>
          exact sealsHold_of_tips_eq hall
            (records_of_step id (fun _ => by simp [stepWrites, writes, kind]) hstep)

theorem aligned_step {input : Step} (haligned : Aligned world)
    (hstep : step runtime world input = .ok next) : Aligned next := by
  have hseals : OfSeals fun sealed commitment => sealed = 0 → commitment = 0 :=
    ⟨fun _ => rfl, fun _ _ hfull hempty => absurd hempty hfull.1, fun _ _ hholds => hholds⟩
  exact sealsHold_step hseals haligned hstep

end Seals

/-- What a reachable world is known to be here. -/
structure Sane (world : World) : Prop where
  wellFormed : WellFormed world
  aligned : Aligned world

theorem sane_step {input : Step} (hsane : Sane world)
    (hstep : step runtime world input = .ok next) : Sane next where
  wellFormed := (simulates_step hsane.wellFormed hstep).wellFormed
  aligned := aligned_step hsane.aligned hstep

theorem sane_of_run {history : List (World × Step)}
    (hrun : ChainRun runtime start history world) : Sane world := by
  refine @Run.induct_on _ _ _ (step runtime) start (fun _ world => Sane world) _ _ hrun.2
    ⟨wellFormed_of_preLaunch hrun.1, ?_⟩ fun _ _ _ _ _ hsane hstep => sane_step hsane hstep
  intro key tip htip
  exact (hrun.1 key _ (records_eq_some.mp htip)).elim

section Finality

variable {commitment : Bytes32}

theorem consumedWith_of_tips_eq (hconsumed : ConsumedWith commitment world key)
    (htip : tips next key = tips world key) : ConsumedWith commitment next key := by
  obtain ⟨tip, hworld, hrest⟩ := hconsumed
  exact ⟨tip, htip.trans hworld, hrest⟩

/-- One step finds a consumed tip and leaves it as it is, as far as finality goes. -/
theorem consumedWith_step {input : Step} (hsane : Sane world)
    (hspares : SparesConsumed world input) (hconsumed : ConsumedWith commitment world key)
    (hstep : step runtime world input = .ok next) :
    creditedTip input ≠ some key ∧ ConsumedWith commitment next key := by
  obtain ⟨tip, htip, htrue, rfl⟩ := hconsumed
  have hkept : tips next key = tips world key → ConsumedWith tip.commitment next key :=
    consumedWith_of_tips_eq ⟨tip, htip, htrue, rfl⟩
  -- a record that is not consumed is not the one at `key`
  have hne : ∀ changed found, tips world changed = some found → found.consumed = false →
      key ≠ changed := by
    rintro changed found hfound hfalse rfl
    rw [htip] at hfound
    cases hfound
    rw [htrue] at hfalse
    cases hfalse
  by_cases hon : OnTips input
  · cases input with
    | external call action => exact ⟨nofun, hkept (congrFun (records_of_external hstep).1 key)⟩
    | tcap call instruction =>
        have hexecute := (step_tcap_eq_ok.mp hstep).2
        cases instruction with
        | initializeOneTimeTip accounts args =>
            obtain ⟨hvacant, ⟨opened, -, htips⟩, -⟩ := initializeOneTimeTip_opens hexecute
            refine ⟨nofun, hkept ?_⟩
            rw [htips, Function.update_of_ne (ne_of_records hvacant htip).symm]
        | consumeOneTimeTip accounts args =>
            obtain ⟨found, hconsumes⟩ := consumeOneTimeTip_consumes hexecute
            refine ⟨nofun, hkept ?_⟩
            rw [hconsumes.tips_eq,
              Function.update_of_ne (ne_of_records hconsumes.vacant htip).symm,
              Function.update_of_ne (hne _ found hconsumes.tipAt hconsumes.unconsumed)]
        | creditOneTimeTip accounts args =>
            obtain ⟨found, entry, liability, hcredits⟩ := creditOneTimeTip_credits hexecute
            have hother := hne _ found hcredits.tipAt (hspares found hcredits.tipAt)
            refine ⟨fun hsame => hother (Option.some.inj hsame).symm, hkept ?_⟩
            rw [hcredits.tips_eq, Function.update_of_ne hother]
        | creditOneTimeTipTransfer accounts args =>
            obtain ⟨found, entry, liability, hcredits, hunconsumed⟩ :=
              creditOneTimeTipTransfer_credits hexecute
            have hother := hne _ found hcredits.tipAt hunconsumed
            refine ⟨fun hsame => hother (Option.some.inj hsame).symm, hkept ?_⟩
            rw [hcredits.tips_eq, Function.update_of_ne hother]
        | initializeOneTimeTipLiability accounts initialAvailable =>
            exact ⟨nofun, hkept
              (congrFun (initializeOneTimeTipLiability_opens hexecute).2.2 key)⟩
        | debitTcapExitV1 accounts args =>
            -- a debit still moves the sequence, the nullifier and the seal
            obtain ⟨found, liability, hdebits⟩ := debitTcapExitV1_debits hexecute
            refine ⟨nofun, ?_⟩
            by_cases hkey : key = accounts.currentTip
            · subst hkey
              have hsame := hdebits.tipAt
              rw [htip] at hsame
              cases hsame
              exact ⟨debitedTip tip args,
                by rw [hdebits.tips_eq, Function.update_self], htrue, rfl⟩
            · exact hkept (by rw [hdebits.tips_eq, Function.update_of_ne hkey])
        | _ => exact ⟨nofun, hkept (congrFun (records_of_idle hon hstep).1 key)⟩
  · exact ⟨fun hcredited => hon (onTips_of_creditedTip hcredited),
      hkept (congrFun (tips_of_step hsane.wellFormed hsane.aligned hon hstep) key)⟩

/-- From a reachable state with a consumed tip, every run that credits no consumed tip by
`credit_one_time_tip` leaves the tip uncredited, with its commitment, and consumed. -/
theorem final_of_run {earlier history : List (World × Step)} {tip : TcapOneTimeTip}
    (hreachable : ChainRun runtime start earlier world) (htip : tips world key = some tip)
    (hconsumed : tip.consumed = true) (hrun : Run (step runtime) world history final)
    (hspares : ∀ entry ∈ history, SparesConsumed entry.1 entry.2) :
    (∀ entry ∈ history, creditedTip entry.2 ≠ some key) ∧
      ConsumedWith tip.commitment final key := by
  have hall : (Sane final ∧ ConsumedWith tip.commitment final key) ∧
      ∀ entry ∈ history, creditedTip entry.2 ≠ some key := by
    refine @Run.induct_of_forall _ _ _ (step runtime) world SparesConsumed
      (fun history final => (Sane final ∧ ConsumedWith tip.commitment final key) ∧
        ∀ entry ∈ history, creditedTip entry.2 ≠ some key) history final hrun hspares
      ⟨⟨sane_of_run hreachable, tip, htip, hconsumed, rfl⟩, by simp⟩ ?_
    rintro history world input next hspare ⟨⟨hsane, htip⟩, huncredited⟩ hstep
    obtain ⟨hother, hnext⟩ := consumedWith_step hsane hspare htip hstep
    refine ⟨⟨sane_step hsane hstep, hnext⟩, ?_⟩
    intro entry hentry
    rcases List.mem_cons.mp hentry with rfl | hearlier
    · exact hother
    · exact huncredited entry hearlier
  exact ⟨hall.2, hall.1.2⟩

end Finality

section Sample

open Tcap.Solvency (governor depositor usdMint usdWallet usdWorld
  preLaunch_usdWorld)

/-- TSN consumes the tip opened with commitment 5 in favour of one with commitment 6. -/
def consumeStep : Step :=
  let authorization := deriveTsnAuthorizationSigner tsnProgram 1
  .tcap ⟨[depositor, authorization], 5⟩ (.consumeOneTimeTip
    ⟨depositor, globalConfigAddress, sampleTip, oneTimeTipAddress 6, tsnProgram,
      authorization⟩
    ⟨1, 0, 9, 6, 7, 1, 1, 1, 1⟩)

/-- A credit of 100 to the tip after its consumption. -/
def creditConsumedStep : Step :=
  let entry := splEntryAddress usdMint
  let args : CreditOneTimeTipArgs := ⟨0, 6, 2, 1, 3, 2, 1, 100, 0, 9, 1, 1⟩
  let digest := creditPermit localRuntime creditDomain sampleTip usdMint args
  let authorization := deriveTsnAuthorizationSigner tsnProgram digest
  .tcap ⟨[depositor, authorization], 6⟩ (.creditOneTimeTip
    ⟨depositor, globalConfigAddress, sampleTip, entry, deriveReserveState entry,
      sampleLiability, tsnProgram, authorization⟩
    { args with authorizationDigest := digest })

/-- A deposit of 100 pending, and the tip consumed. -/
theorem exists_consumed :
    ∃ history world tip, ChainRun localRuntime usdWorld history world ∧
      tips world sampleTip = some tip ∧ tip.consumed = true ∧
        (step localRuntime world creditConsumedStep).isOk = true := by
  have hreaches : reaches (step localRuntime) usdWorld
      (consumeStep :: (openTipSteps usdMint depositor 5 1 ++
        depositStep usdMint depositor usdWallet 100 ::
        (listingSteps governor usdMint ++ launchSteps governor)))
      (fun _ world => (tips world sampleTip).any TcapOneTimeTip.consumed &&
        (step localRuntime world creditConsumedStep).isOk) = true := by
    decide +kernel
  obtain ⟨history, world, hrun, hholds⟩ := exists_run_of_reaches hreaches
  obtain ⟨hany, hok⟩ := Bool.and_eq_true_iff.mp hholds
  obtain ⟨tip, htip, hconsumed⟩ := (Option.any_eq_true _ _).mp hany
  exact ⟨history, world, tip, ⟨preLaunch_usdWorld, hrun⟩, htip, hconsumed, hok⟩

/-- Consumption is final while nobody deposits into the tip: another deposit of the chain
leaves it alone. -/
theorem final_of_deposit :
    ∃ earlier world history final, ∃ tip : TcapOneTimeTip,
      ChainRun localRuntime usdWorld earlier world ∧
      Run (step localRuntime) world history final ∧ history ≠ [] ∧
      (∀ entry ∈ history, creditedTip entry.2 ≠ some sampleTip) ∧
        ConsumedWith tip.commitment final sampleTip := by
  have hreaches : reaches (step localRuntime) usdWorld
      (consumeStep :: (openTipSteps usdMint depositor 5 1 ++
        depositStep usdMint depositor usdWallet 60 ::
        (listingSteps governor usdMint ++ launchSteps governor)))
      (fun _ world => (tips world sampleTip).any TcapOneTimeTip.consumed &&
        (step localRuntime world (depositStep usdMint depositor usdWallet 40)).isOk) =
        true := by
    decide +kernel
  obtain ⟨earlier, world, hrun, hholds⟩ := exists_run_of_reaches hreaches
  obtain ⟨hany, hok⟩ := Bool.and_eq_true_iff.mp hholds
  obtain ⟨tip, htip, hconsumed⟩ := (Option.any_eq_true _ _).mp hany
  obtain ⟨final, hfinal⟩ := exists_ok_of_isOk hok
  have hreachable : ChainRun localRuntime usdWorld earlier world := ⟨preLaunch_usdWorld, hrun⟩
  have hlater := Run.step (@Run.start _ _ _ (step localRuntime) world) hfinal
  refine ⟨earlier, world, _, final, tip, hreachable, hlater, nofun, ?_⟩
  refine final_of_run hreachable htip hconsumed hlater ?_
  intro entry hentry
  rw [List.mem_singleton.mp hentry]
  trivial

/-- The credit goes through, and the consumed tip is open again. -/
theorem not_final_of_credit :
    ¬ ∀ runtime start earlier world key tip history final,
      ChainRun runtime start earlier world → tips world key = some tip →
      tip.consumed = true → Run (step runtime) world history final →
      (∀ entry ∈ history, creditedTip entry.2 ≠ some key) ∧
        ConsumedWith tip.commitment final key := by
  intro hclaim
  obtain ⟨earlier, world, tip, hreachable, htip, hconsumed, hok⟩ := exists_consumed
  obtain ⟨final, hfinal⟩ := exists_ok_of_isOk hok
  have hlater := Run.step (@Run.start _ _ _ (step localRuntime) world) hfinal
  refine (hclaim localRuntime usdWorld earlier world sampleTip tip _ final hreachable htip
    hconsumed hlater).1 _ (List.mem_singleton_self _) rfl

end Sample

end TsnProtocol.Tcap.TipFinality
