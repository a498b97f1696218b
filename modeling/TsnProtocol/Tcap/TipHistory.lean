import TsnProtocol.Tcap.Solvency
import TsnProtocol.Tcap.TipWrites

/-!
The life of one-time tips along a run: every instruction that changes a tip advances its
sequence by one, so no permit is accepted twice, and what a liability holds is what was
credited to it less what was debited from it.
-/

namespace TsnProtocol.Tcap.TipHistory

open Lib.Transition
open Solana.Address
open Tcap.State
open Tcap.Execution
open Tcap.Tips
open Tcap.Program
open Tcap.Frames
open Tcap.Persistence
open Tcap.TipWrites

variable {runtime : Runtime} {call : Call} {world next start : World} {key : Pubkey}

/-- The instructions on one-time tips and their liabilities, and steps that write neither. -/
def OnTips : Step → Prop
  | .tcap _ (.initializeOneTimeTip _ _) | .tcap _ (.consumeOneTimeTip _ _)
  | .tcap _ (.creditOneTimeTip _ _) | .tcap _ (.creditOneTimeTipTransfer _ _)
  | .tcap _ (.initializeOneTimeTipLiability _ _) | .tcap _ (.debitTcapExitV1 _ _) => True
  | .tcap _ instruction => ¬ MovesLayout instruction ∧
      .oneTimeTip ∉ writes instruction ∧ .liability ∉ writes instruction
  | .external _ _ => True

/-- The tip a step changes. -/
def mutated : Step → Option Pubkey
  | .tcap _ (.consumeOneTimeTip accounts _) => some accounts.oneTimeTip
  | .tcap _ (.creditOneTimeTip accounts _) => some accounts.currentTip
  | .tcap _ (.creditOneTimeTipTransfer accounts _) => some accounts.currentTip
  | .tcap _ (.debitTcapExitV1 accounts _) => some accounts.currentTip
  | _ => none

/-- Every tip is kept, and advanced by one exactly if the step changes it. -/
def Advances (input : Step) (world next : World) : Prop :=
  ∀ key tip, tips world key = some tip → ∃ tip', tips next key = some tip' ∧
    if mutated input = some key then tip'.sequence = tip.sequence + 1 else tip' = tip

theorem advances_of_update {input : Step} {changed : Pubkey} {tip record : TcapOneTimeTip}
    (hmutated : mutated input = some changed) (htip : tips world changed = some tip)
    (hsequence : record.sequence = tip.sequence + 1)
    (hnext : ∀ key, tips world key ≠ none →
      tips next key = Function.update (tips world) changed (some record) key) :
    Advances input world next := by
  intro key found hfound
  rw [hnext key (by simp [hfound]), hmutated]
  by_cases hkey : key = changed
  · subst hkey
    rw [htip] at hfound
    cases hfound
    exact ⟨record, Function.update_self _ _ _, by simpa using hsequence⟩
  · refine ⟨found, by rw [Function.update_of_ne hkey, hfound], ?_⟩
    rw [if_neg (by simpa using fun h => hkey h.symm)]

theorem advances_of_kept {input : Step} (hmutated : mutated input = none)
    (hnext : ∀ key, tips world key ≠ none → tips next key = tips world key) :
    Advances input world next := by
  intro key tip htip
  rw [hnext key (by simp [htip]), hmutated]
  exact ⟨tip, htip, by simp⟩

/-- A step outside of the instructions on tips leaves tips and liabilities as they are. -/
theorem records_of_idle {instruction : Instruction}
    (hidle : ¬ MovesLayout instruction ∧ .oneTimeTip ∉ writes instruction ∧
      .liability ∉ writes instruction)
    (hstep : step runtime world (.tcap call instruction) = .ok next) :
    tips next = tips world ∧ liabilities next = liabilities world := by
  obtain ⟨hlayout, htip, hliability⟩ := hidle
  have hstay : ¬ StepMovesLayout (.tcap call instruction) := hlayout
  constructor
  · exact records_of_step hstay (fun _ => htip) hstep
  · exact records_of_step hstay (fun _ => hliability) hstep

theorem records_of_external {action : ExternalAction}
    (hstep : step runtime world (.external call action) = .ok next) :
    tips next = tips world ∧ liabilities next = liabilities world := by
  constructor
  · refine records_of_step id (fun _ => ?_) hstep
    simp [stepWrites, kind]
  · refine records_of_step id (fun _ => ?_) hstep
    simp [stepWrites, kind]

theorem advances_step {input : Step} (hon : OnTips input)
    (hstep : step runtime world input = .ok next) : Advances input world next := by
  cases input with
  | external call action =>
      exact advances_of_kept rfl fun key _ => congrFun (records_of_external hstep).1 key
  | tcap call instruction =>
      have hexecute := (step_tcap_eq_ok.mp hstep).2
      cases instruction with
      | initializeOneTimeTip accounts args =>
          obtain ⟨hvacant, ⟨tip, -, htips⟩, -⟩ := initializeOneTimeTip_opens hexecute
          refine advances_of_kept rfl fun key hkey => ?_
          rw [htips, Function.update_of_ne]
          rintro rfl
          exact hkey hvacant
      | consumeOneTimeTip accounts args =>
          obtain ⟨tip, hconsumes⟩ := consumeOneTimeTip_consumes hexecute
          have hsequence : (consumedTip tip args).sequence = tip.sequence + 1 :=
            hconsumes.sequence
          refine advances_of_update rfl hconsumes.tipAt hsequence fun key hkey => ?_
          rw [hconsumes.tips_eq, Function.update_of_ne]
          rintro rfl
          exact hkey hconsumes.vacant
      | creditOneTimeTip accounts args =>
          obtain ⟨tip, entry, liability, hcredits⟩ := creditOneTimeTip_credits hexecute
          exact advances_of_update rfl hcredits.tipAt hcredits.sequence
            fun key _ => congrFun hcredits.tips_eq key
      | creditOneTimeTipTransfer accounts args =>
          obtain ⟨tip, entry, liability, hcredits, -⟩ :=
            creditOneTimeTipTransfer_credits hexecute
          exact advances_of_update rfl hcredits.tipAt hcredits.sequence
            fun key _ => congrFun hcredits.tips_eq key
      | initializeOneTimeTipLiability accounts initialAvailable =>
          obtain ⟨-, -, htips⟩ := initializeOneTimeTipLiability_opens hexecute
          exact advances_of_kept rfl fun key _ => congrFun htips key
      | debitTcapExitV1 accounts args =>
          obtain ⟨tip, liability, hdebits⟩ := debitTcapExitV1_debits hexecute
          exact advances_of_update rfl hdebits.tipAt hdebits.sequence
            fun key _ => congrFun hdebits.tips_eq key
      | _ => exact advances_of_kept rfl fun key _ =>
          congrFun (records_of_idle hon hstep).1 key

section Balance

/-- What the liability at an address holds; nothing where there is none. -/
def balance (world : World) (key : Pubkey) : Nat :=
  ((liabilities world key).map TcapTipLiabilityV2.available).getD 0

/-- What a step credits to the liability at an address. -/
def creditedTo (key : Pubkey) : Step → Nat
  | .tcap _ (.creditOneTimeTip accounts args)
  | .tcap _ (.creditOneTimeTipTransfer accounts args) =>
      if accounts.liability = key then args.amount else 0
  | _ => 0

/-- What a step debits from the liability at an address. -/
def debitedFrom (key : Pubkey) : Step → Nat
  | .tcap _ (.debitTcapExitV1 accounts args) =>
      if accounts.liability = key then args.amount else 0
  | _ => 0

/-- The sum of a quantity over the steps of a run. -/
def totalOf (amount : Step → Nat) (history : List (World × Step)) : Nat :=
  (history.map fun entry => amount entry.2).sum

theorem balance_of_update {changed : Pubkey} {liability : TcapTipLiabilityV2}
    (hnext : liabilities next =
      Function.update (liabilities world) changed (some liability)) :
    balance next key = if changed = key then liability.available else balance world key := by
  rw [balance, hnext, balance, Function.update_apply]
  by_cases hkey : changed = key
  · rw [if_pos hkey.symm, if_pos hkey]
    rfl
  · rw [if_neg fun h => hkey h.symm, if_neg hkey]

theorem balance_of_liability {liability : TcapTipLiabilityV2}
    (hliability : liabilities world key = some liability) :
    balance world key = liability.available := by
  rw [balance, hliability]
  rfl

theorem balance_of_credits {domain : String} {accounts : CreditOneTimeTip}
    {args : CreditOneTimeTipArgs} {tip record : TcapOneTimeTip} {entry : TcapAssetEntryV1}
    {liability : TcapTipLiabilityV2}
    (hcredits : Credits runtime domain accounts args world next tip record entry liability) :
    balance next key =
      balance world key + if accounts.liability = key then args.amount else 0 := by
  rw [balance_of_update hcredits.liabilities_eq]
  split_ifs with hkey
  · rw [← hkey, balance_of_liability hcredits.liabilityAt]
  · rfl

theorem balance_step {input : Step} (hon : OnTips input)
    (hstep : step runtime world input = .ok next) (key : Pubkey) :
    balance next key + debitedFrom key input = balance world key + creditedTo key input := by
  have hkept : liabilities next = liabilities world →
      balance next key = balance world key := by
    intro hsame
    rw [balance, hsame, balance]
  cases input with
  | external call action => exact congrArg (· + 0) (hkept (records_of_external hstep).2)
  | tcap call instruction =>
      have hexecute := (step_tcap_eq_ok.mp hstep).2
      cases instruction with
      | initializeOneTimeTip accounts args =>
          exact congrArg (· + 0) (hkept (initializeOneTimeTip_opens hexecute).2.2)
      | consumeOneTimeTip accounts args =>
          obtain ⟨tip, hconsumes⟩ := consumeOneTimeTip_consumes hexecute
          exact congrArg (· + 0) (hkept hconsumes.liabilities_eq)
      | creditOneTimeTip accounts args =>
          obtain ⟨tip, entry, liability, hcredits⟩ := creditOneTimeTip_credits hexecute
          exact balance_of_credits hcredits
      | creditOneTimeTipTransfer accounts args =>
          obtain ⟨tip, entry, liability, hcredits, -⟩ :=
            creditOneTimeTipTransfer_credits hexecute
          exact balance_of_credits hcredits
      | initializeOneTimeTipLiability accounts initialAvailable =>
          obtain ⟨hvacant, ⟨liability, hempty, hnext⟩, -⟩ :=
            initializeOneTimeTipLiability_opens hexecute
          refine congrArg (· + 0) ?_
          rw [balance_of_update hnext]
          split_ifs with hkey
          · rw [hempty, ← hkey, balance, hvacant]
            rfl
          · rfl
      | debitTcapExitV1 accounts args =>
          obtain ⟨tip, liability, hdebits⟩ := debitTcapExitV1_debits hexecute
          rw [balance_of_update hdebits.liabilities_eq]
          simp only [debitedFrom, creditedTo]
          split_ifs with hkey
          · rw [← hkey, balance_of_liability hdebits.liabilityAt]
            exact Nat.sub_add_cancel hdebits.covered
          · rfl
      | _ => exact congrArg (· + 0) (hkept (records_of_idle hon hstep).2)

end Balance

section Permits

/-- Preimage of the permit a step is accepted under. -/
def permitOf (world : World) : Step → Option (List Chunk)
  | .tcap _ (.creditOneTimeTip accounts args) =>
      (records TcapAssetEntryV1 world accounts.assetEntry).map fun entry =>
        permitPreimage creditDomain accounts.currentTip entry.asset.mint args
  | .tcap _ (.creditOneTimeTipTransfer accounts args) =>
      (records TcapAssetEntryV1 world accounts.assetEntry).map fun entry =>
        permitPreimage transferDomain accounts.currentTip entry.asset.mint args
  | _ => none

/-- Digest of the permit a step is accepted under. -/
def acceptedPermit : Step → Option Bytes32
  | .tcap _ (.creditOneTimeTip _ args) | .tcap _ (.creditOneTimeTipTransfer _ args) =>
      some args.authorizationDigest
  | _ => none

/-- The permit digests a run accepted, latest first. -/
def acceptedPermits (history : List (World × Step)) : List Bytes32 :=
  history.filterMap fun entry => acceptedPermit entry.2

/-- The preimages of the permits a run accepted. -/
def permits (history : List (World × Step)) : List (List Chunk) :=
  history.filterMap fun entry => permitOf entry.1 entry.2

/-- The digest separates the permits a run accepted. -/
def SeparatesPermits (runtime : Runtime) (history : List (World × Step)) : Prop :=
  ∀ permit ∈ permits history, ∀ other ∈ permits history,
    runtime.hashv permit = runtime.hashv other → permit = other

/-- Tip and sequence a credit is accepted for. -/
def creditTicket (_ : World) : Step → Option (Pubkey × Nat)
  | .tcap _ (.creditOneTimeTip accounts args)
  | .tcap _ (.creditOneTimeTipTransfer accounts args) =>
      some (accounts.currentTip, args.sequence)
  | _ => none

/-- How often a tip has been advanced. -/
def tipSequence (world : World) (key : Pubkey) : Nat :=
  ((tips world key).map TcapOneTimeTip.sequence).getD 0

theorem tipSequence_of_tip {tip : TcapOneTimeTip} (htip : tips world key = some tip) :
    tipSequence world key = tip.sequence := by
  rw [tipSequence, htip]
  rfl

/-- Sequences of tips guard the credits. -/
theorem guarded_credits : Guarded (step runtime) tipSequence creditTicket OnTips := by
  constructor
  · intro world input next hon hstep key
    cases htip : tips world key with
    | none =>
        rw [tipSequence, htip]
        exact Nat.zero_le _
    | some tip =>
        obtain ⟨tip', hnext, hadvanced⟩ := advances_step hon hstep key tip htip
        rw [tipSequence_of_tip htip, tipSequence_of_tip hnext]
        split_ifs at hadvanced
        · omega
        · rw [hadvanced]
  · intro world input next key number hon hstep hticket
    have hadvances := advances_step hon hstep
    have hfresh : ∀ tip : TcapOneTimeTip, tips world key = some tip →
        mutated input = some key → number = tip.sequence + 1 →
          tipSequence world key < number ∧ number ≤ tipSequence next key := by
      intro tip htip hmutated hnumber
      obtain ⟨tip', hnext, hadvanced⟩ := hadvances key tip htip
      rw [if_pos hmutated] at hadvanced
      rw [tipSequence_of_tip htip, tipSequence_of_tip hnext]
      omega
    cases input with
    | external call action => cases hticket
    | tcap call instruction =>
        have hexecute := (step_tcap_eq_ok.mp hstep).2
        cases instruction with
        | creditOneTimeTip accounts args =>
            cases hticket
            obtain ⟨tip, entry, liability, hcredits⟩ := creditOneTimeTip_credits hexecute
            exact hfresh tip hcredits.tipAt rfl hcredits.sequence
        | creditOneTimeTipTransfer accounts args =>
            cases hticket
            obtain ⟨tip, entry, liability, hcredits, -⟩ :=
              creditOneTimeTipTransfer_credits hexecute
            exact hfresh tip hcredits.tipAt rfl hcredits.sequence
        | _ => cases hticket

/-- An accepted digest is the digest of a permit, and the permit holds the ticket. -/
theorem permit_of_accepted {input : Step} {digest : Bytes32}
    (hstep : step runtime world input = .ok next) (haccepted : acceptedPermit input = some digest) :
    ∃ permit ticket, permitOf world input = some permit ∧ digest = runtime.hashv permit ∧
      creditTicket world input = some ticket ∧
        permit[1]? = some (.key ticket.1) ∧ permit[6]? = some (.uint 64 ticket.2) := by
  cases input with
  | external call action => cases haccepted
  | tcap call instruction =>
      have hexecute := (step_tcap_eq_ok.mp hstep).2
      cases instruction with
      | creditOneTimeTip accounts args =>
          cases haccepted
          obtain ⟨tip, entry, liability, hcredits⟩ := creditOneTimeTip_credits hexecute
          refine ⟨_, _, ?_, hcredits.permit, rfl, rfl, rfl⟩
          rw [permitOf, records_eq_some.mpr hcredits.entryAt]
          rfl
      | creditOneTimeTipTransfer accounts args =>
          cases haccepted
          obtain ⟨tip, entry, liability, hcredits, -⟩ :=
            creditOneTimeTipTransfer_credits hexecute
          refine ⟨_, _, ?_, hcredits.permit, rfl, rfl, rfl⟩
          rw [permitOf, records_eq_some.mpr hcredits.entryAt]
          rfl
      | _ => cases haccepted

/-- No permit digest is accepted twice. -/
theorem nodup_acceptedPermits {history : List (World × Step)}
    (hrun : Run (step runtime) start history world)
    (hon : ∀ entry ∈ history, OnTips entry.2) (hseparates : SeparatesPermits runtime history) :
    (acceptedPermits history).Nodup := by
  have htickets := (nodup_tickets guarded_credits hrun hon).1
  rw [tickets, List.Nodup, List.pairwise_filterMap] at htickets
  rw [acceptedPermits, List.Nodup, List.pairwise_filterMap]
  refine htickets.imp_of_mem ?_
  rintro ⟨before, input⟩ ⟨before', input'⟩ hentry hentry' hdistinct digest hdigest digest'
    hdigest' hsame
  obtain ⟨after, hstep⟩ := hrun.exists_next hentry
  obtain ⟨after', hstep'⟩ := hrun.exists_next hentry'
  obtain ⟨permit, ticket, hpermit, hhash, hticket, hkey, hnumber⟩ :=
    permit_of_accepted hstep hdigest
  obtain ⟨permit', ticket', hpermit', hhash', hticket', hkey', hnumber'⟩ :=
    permit_of_accepted hstep' hdigest'
  have hpermits : permit = permit' := by
    refine hseparates permit ?_ permit' ?_ ?_
    · exact List.mem_filterMap.mpr ⟨_, hentry, hpermit⟩
    · exact List.mem_filterMap.mpr ⟨_, hentry', hpermit'⟩
    · rw [← hhash, ← hhash', hsame]
  refine hdistinct ticket hticket ticket' hticket' (Prod.ext ?_ ?_)
  · rw [hpermits, hkey'] at hkey
    exact (Chunk.key.inj (Option.some.inj hkey)).symm
  · rw [hpermits, hnumber'] at hnumber
    exact (Chunk.uint.inj (Option.some.inj hnumber)).2.symm

end Permits

theorem balance_of_run {history : List (World × Step)}
    (hrun : Run (step runtime) start history world)
    (hon : ∀ entry ∈ history, OnTips entry.2) (key : Pubkey) :
    balance world key + totalOf (debitedFrom key) history =
      balance start key + totalOf (creditedTo key) history := by
  refine @Run.induct_of_forall _ _ _ (step runtime) start (fun _ input => OnTips input)
    (fun history world => balance world key + totalOf (debitedFrom key) history =
      balance start key + totalOf (creditedTo key) history) history world hrun hon rfl ?_
  intro history world input next hon ih hstep
  have hbalance := balance_step hon hstep key
  simp only [totalOf, List.map_cons, List.sum_cons] at ih ⊢
  omega

/-- Along every run each change of a tip advances its sequence by exactly one, every permit
digest is accepted at most once, and a liability holds what it held and was credited, less
what was debited. -/
theorem tipBooks_of_run {history : List (World × Step)}
    (hrun : Run (step runtime) start history world)
    (hon : ∀ entry ∈ history, OnTips entry.2) (hseparates : SeparatesPermits runtime history) :
    (∀ entry ∈ history, ∀ next, step runtime entry.1 entry.2 = .ok next →
      Advances entry.2 entry.1 next) ∧
    (acceptedPermits history).Nodup ∧
    ∀ key, balance world key + totalOf (debitedFrom key) history =
      balance start key + totalOf (creditedTo key) history := by
  refine ⟨?_, nodup_acceptedPermits hrun hon hseparates, balance_of_run hrun hon⟩
  exact fun entry hentry next hstep => advances_step (hon entry hentry) hstep

section Sample

open Tcap.Solvency (governor depositor usdMint usdWallet usdWorld)

instance : (input : Step) → Decidable (OnTips input)
  | .external _ _ => isTrue trivial
  | .tcap call instruction => by
      apply Instruction.casesOn (motive := fun kind => Decidable (OnTips (.tcap call kind)))
        instruction <;> intros <;> first
        | change Decidable (¬ MovesLayout _ ∧ _ ∉ writes _ ∧ _ ∉ writes _)
          infer_instance
        | change Decidable True
          infer_instance

instance (runtime : Runtime) (history : List (World × Step)) :
    Decidable (SeparatesPermits runtime history) := by
  unfold SeparatesPermits
  infer_instance

def sampleTip : Pubkey := oneTimeTipAddress 5

def sampleLiability : Pubkey := deriveTcapTipLiabilityV2 sampleTip (splEntryAddress usdMint)

/-- A second credit of the tip, after the debit of `exitStep`. -/
def secondCreditStep (amount : Nat) : Step :=
  let entry := splEntryAddress usdMint
  let args : CreditOneTimeTipArgs := ⟨0, 2, 4, 1, 9, 3, 1, amount, 0, 9, 1, 1⟩
  let digest := creditPermit localRuntime creditDomain sampleTip usdMint args
  let authorization := deriveTsnAuthorizationSigner tsnProgram digest
  .tcap ⟨[depositor, authorization], 8⟩ (.creditOneTimeTip
    ⟨depositor, globalConfigAddress, sampleTip, entry, deriveReserveState entry,
      sampleLiability, tsnProgram, authorization⟩
    { args with authorizationDigest := digest })

/-- A credit of 60, a debit of 40 and a credit of 30. -/
theorem tipBooks_of_two_credits :
    ∃ history world, Run (step localRuntime) usdWorld history world ∧
      (acceptedPermits history).length = 2 ∧ balance world sampleLiability = 50 ∧
      (∀ entry ∈ history, ∀ next, step localRuntime entry.1 entry.2 = .ok next →
        Advances entry.2 entry.1 next) ∧
      (acceptedPermits history).Nodup ∧
      ∀ key, balance world key + totalOf (debitedFrom key) history =
        balance usdWorld key + totalOf (creditedTo key) history := by
  have hreaches : reaches (step localRuntime) usdWorld
      (secondCreditStep 30 :: exitStep usdMint depositor 5 usdMint usdWallet 40 ::
        creditStep usdMint depositor 5 1 60 ::
        (openTipSteps usdMint depositor 5 1 ++
          depositStep usdMint depositor usdWallet 100 ::
          (listingSteps governor usdMint ++ launchSteps governor)))
      (fun history world => (∀ entry ∈ history, OnTips entry.2) ∧
        SeparatesPermits localRuntime history ∧
        (acceptedPermits history).length = 2 ∧ balance world sampleLiability = 50) = true := by
    decide +kernel
  obtain ⟨history, world, hrun, hholds⟩ := exists_run_of_reaches hreaches
  obtain ⟨hon, hseparates, hlength, hbalance⟩ := of_decide_eq_true hholds
  exact ⟨history, world, hrun, hlength, hbalance, tipBooks_of_run hrun hon hseparates⟩

end Sample

end TsnProtocol.Tcap.TipHistory
