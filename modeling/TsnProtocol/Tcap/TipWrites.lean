import TsnProtocol.Tcap.Persistence

/-!
One-time tips and liabilities as maps from addresses to records, and what each instruction
on a one-time tip does to the two maps.
-/

namespace TsnProtocol.Tcap.TipWrites

open Lib.Checked
open Solana.Address
open Tcap.State
open Tcap.Execution
open Tcap.AssetGovernance
open Tcap.Tips
open Tcap.Program
open Tcap.Persistence

variable {runtime : Runtime} {call : Call} {world next : World} {key : Pubkey}

abbrev tips (world : World) : Pubkey → Option TcapOneTimeTip :=
  records TcapOneTimeTip world

abbrev liabilities (world : World) : Pubkey → Option TcapTipLiabilityV2 :=
  records TcapTipLiabilityV2 world

/-- What the preimage of a credit permit holds. -/
def permitPreimage (domain : String) (currentTip mint : Pubkey)
    (args : CreditOneTimeTipArgs) : List Chunk :=
  [.text domain, .key currentTip, .uint 64 args.amount, .uint 32 args.tokenId, .key mint,
    .word args.nonce, .uint 64 args.sequence, .word args.previousCommitment]

def creditDomain : String := "TCAP_ONE_TIME_CREDIT_PERMIT_V1"
def transferDomain : String := "TCAP_ONE_TIME_TRANSFER_CREDIT_PERMIT_V1"

/-- The tip a transfer credit leaves. -/
def transferredTip (tip : TcapOneTimeTip) (args : CreditOneTimeTipArgs) : TcapOneTimeTip :=
  { tip with
    commitment := args.newCommitment
    sequence := args.sequence
    transitionNullifier := args.nonce
    sealed := args.sealed
    sealCommitment := args.sealCommitment }

/-- The tip a credit leaves: one more field than a transfer credit writes. -/
def creditedTip (tip : TcapOneTimeTip) (args : CreditOneTimeTipArgs) : TcapOneTimeTip :=
  { transferredTip tip args with consumed := false }

/-- What both credits find, and what they do to tips and liabilities. -/
structure Credits (runtime : Runtime) (domain : String) (accounts : CreditOneTimeTip)
    (args : CreditOneTimeTipArgs) (world next : World) (tip record : TcapOneTimeTip)
    (entry : TcapAssetEntryV1) (liability : TcapTipLiabilityV2) : Prop where
  tipAt : tips world accounts.currentTip = some tip
  entryAt : world.lookup accounts.assetEntry = some (.entry entry)
  liabilityAt : liabilities world accounts.liability = some liability
  owner : liability.tip = accounts.currentTip
  positive : 0 < args.amount
  sealed : args.sealed ≠ 0 ∧ args.sealCommitment ≠ 0
  permit : args.authorizationDigest =
    runtime.hashv (permitPreimage domain accounts.currentTip entry.asset.mint args)
  sequence : args.sequence = tip.sequence + 1
  tips_eq : tips next = Function.update (tips world) accounts.currentTip (some record)
  liabilities_eq : liabilities next = Function.update (liabilities world) accounts.liability
    (some { liability with available := liability.available + args.amount })

section Writes

variable {α : Type} [AccountData α] {other : Pubkey} {account : Account} {value : Option α}

theorem records_insert_unseen (hkept : records α next = records α world)
    (hnone : records α world key = none)
    (hview : (AccountData.view account : Option α) = none) :
    records α (next.insert key account) = records α world := by
  rw [records_insert_of_none _ hview, hkept]
  rw [hkept, hnone]

theorem records_insert_seen (hkept : records α next = records α world) :
    records α (next.insert key account) =
      Function.update (records α world) key (AccountData.view account) := by
  rw [records_insert, hkept]

theorem records_insert_beside
    (hupdated : records α next = Function.update (records α world) other value)
    (hne : key ≠ other) (hnone : records α world key = none)
    (hview : (AccountData.view account : Option α) = none) :
    records α (next.insert key account) =
      Function.update (records α world) other value := by
  rw [records_insert_of_none _ hview, hupdated]
  rw [hupdated, Function.update_of_ne hne, hnone]

theorem ne_of_records (hnone : records α world key = none) {data : α}
    (hsome : records α world other = some data) : key ≠ other := by
  rintro rfl
  rw [hnone] at hsome
  cases hsome

end Writes

theorem creditOneTimeTip_credits {accounts : CreditOneTimeTip} {args : CreditOneTimeTipArgs}
    (hstep : creditOneTimeTip runtime call accounts args world = .ok next) :
    ∃ tip entry liability, Credits runtime creditDomain accounts args world next tip
      (creditedTip tip args) entry liability := by
  simp only [creditOneTimeTip, bind_eq_ok, load_eq_ok, check_eq_ok, addU64_eq_ok,
    subU64_eq_ok, pure_eq_ok, wrap_oneTimeTip, wrap_reserve, wrap_liability] at hstep
  obtain ⟨_, -, config, -, tip, htip, entry, hentry, reserve, hreserve, liability,
    hliability, hstep⟩ := hstep
  obtain ⟨_, -, _, -, _, -, _, howner, _, -, _, -, _, -, _, ⟨-, hpositive⟩, _, -, _, -, _, -,
    hstep⟩ := hstep
  obtain ⟨_, hpermit, _, -, _, -, sequence, ⟨-, rfl⟩, _, hsequence, _, -, _, -, _, -, _, -,
    hstep⟩ := hstep
  obtain ⟨_, -, settled, ⟨-, rfl⟩, _, -, _, -, _, hsealed, pending, ⟨-, rfl⟩, available,
    ⟨-, rfl⟩, rfl⟩ := hstep
  have htipAt : tips world accounts.currentTip = some tip := records_eq_some.mpr htip
  have hliabilityAt : liabilities world accounts.liability = some liability :=
    records_eq_some.mpr hliability
  refine ⟨tip, entry, liability, htipAt, loadEntry_eq_ok hentry, hliabilityAt, howner,
    hpositive, hsealed, hpermit, hsequence, ?_, ?_⟩
  · have htipReserve : tips world accounts.reserveState = none := records_eq_none hreserve rfl
    have htipLiability : tips world accounts.liability = none := records_eq_none hliability rfl
    exact records_insert_beside (records_insert_beside (records_insert_seen rfl)
      (ne_of_records htipReserve htipAt) htipReserve rfl)
      (ne_of_records htipLiability htipAt) htipLiability rfl
  · exact records_insert_seen (records_insert_unseen (records_insert_unseen rfl
      (records_eq_none htip rfl) rfl) (records_eq_none hreserve rfl) rfl)

theorem creditOneTimeTipTransfer_credits {accounts : CreditOneTimeTip}
    {args : CreditOneTimeTipArgs}
    (hstep : creditOneTimeTipTransfer runtime call accounts args world = .ok next) :
    ∃ tip entry liability, Credits runtime transferDomain accounts args world next tip
      (transferredTip tip args) entry liability ∧ tip.consumed = false := by
  simp only [creditOneTimeTipTransfer, bind_eq_ok, load_eq_ok, check_eq_ok, addU64_eq_ok,
    subU64_eq_ok, pure_eq_ok, wrap_oneTimeTip, wrap_reserve, wrap_liability] at hstep
  obtain ⟨_, -, config, -, tip, htip, entry, hentry, reserve, hreserve, liability,
    hliability, hstep⟩ := hstep
  obtain ⟨_, -, _, -, _, howner, _, -, _, -, _, -, _, ⟨-, hpositive⟩, _, hsealed, _, -, _, -,
    _, hpermit, _, -, hstep⟩ := hstep
  obtain ⟨_, -, _, -, sequence, ⟨-, rfl⟩, _, hsequence, _, -, _, -, _, hunconsumed, _, -, _,
    -, _, -, _, -, hstep⟩ := hstep
  obtain ⟨available, ⟨-, rfl⟩, settled, ⟨-, rfl⟩, pending, ⟨-, rfl⟩, _, -, _, -, rfl⟩ :=
    hstep
  have htipAt : tips world accounts.currentTip = some tip := records_eq_some.mpr htip
  have hliabilityAt : liabilities world accounts.liability = some liability :=
    records_eq_some.mpr hliability
  refine ⟨tip, entry, liability, ⟨htipAt, loadEntry_eq_ok hentry, hliabilityAt, howner,
    hpositive, hsealed, hpermit, hsequence, ?_, ?_⟩, hunconsumed⟩
  · exact records_insert_seen (records_insert_unseen (records_insert_unseen rfl
      (records_eq_none hliability rfl) rfl) (records_eq_none hreserve rfl) rfl)
  · have hreserveNone : liabilities world accounts.reserveState = none :=
      records_eq_none hreserve rfl
    have htipNone : liabilities world accounts.currentTip = none := records_eq_none htip rfl
    exact records_insert_beside (records_insert_beside (records_insert_seen rfl)
      (ne_of_records hreserveNone hliabilityAt) hreserveNone rfl)
      (ne_of_records htipNone hliabilityAt) htipNone rfl

/-- The tip a debit leaves: its commitment stays. -/
def debitedTip (tip : TcapOneTimeTip) (args : DebitTcapExitArgsV1) : TcapOneTimeTip :=
  { tip with
    sequence := args.sequence
    transitionNullifier := args.permitNonce
    sealed := args.sealed
    sealCommitment := args.sealCommitment }

/-- What an exit debit finds, and what it does to tips and liabilities. -/
structure Debits (accounts : DebitTcapExitV1) (args : DebitTcapExitArgsV1)
    (world next : World) (tip : TcapOneTimeTip) (liability : TcapTipLiabilityV2) :
    Prop where
  tipAt : tips world accounts.currentTip = some tip
  liabilityAt : liabilities world accounts.liability = some liability
  owner : liability.tip = accounts.currentTip
  covered : args.amount ≤ liability.available
  sealed : args.sealed ≠ 0 ∧ args.sealCommitment ≠ 0
  sequence : args.sequence = tip.sequence + 1
  tips_eq : tips next =
    Function.update (tips world) accounts.currentTip (some (debitedTip tip args))
  liabilities_eq : liabilities next = Function.update (liabilities world) accounts.liability
    (some { liability with
      available := liability.available - args.amount
      spent := liability.spent + args.amount })

theorem debitTcapExitV1_debits {accounts : DebitTcapExitV1} {args : DebitTcapExitArgsV1}
    (hstep : debitTcapExitV1 runtime call accounts args world = .ok next) :
    ∃ tip liability, Debits accounts args world next tip liability := by
  simp only [debitTcapExitV1, bind_eq_ok, load_eq_ok, vacant_eq_ok, check_eq_ok,
    addU64_eq_ok, subU64_eq_ok, pure_eq_ok, wrap_oneTimeTip, wrap_reserve,
    wrap_liability] at hstep
  obtain ⟨_, -, config, -, tip, htip, reserve, hreserve, liability, hliability, _,
    ⟨-, hfresh⟩, hstep⟩ := hstep
  obtain ⟨_, -, _, howner, _, -, _, hsealed, sequence, ⟨-, rfl⟩, _, hsequence, _, hcovered,
    hstep⟩ := hstep
  obtain ⟨available, ⟨-, rfl⟩, spent, ⟨-, rfl⟩, settled, ⟨-, rfl⟩, rfl⟩ := hstep
  have htipAt : tips world accounts.currentTip = some tip := records_eq_some.mpr htip
  have hliabilityAt : liabilities world accounts.liability = some liability :=
    records_eq_some.mpr hliability
  refine ⟨tip, liability, htipAt, hliabilityAt, howner, hcovered, hsealed, hsequence, ?_, ?_⟩
  · have hreserveNone : tips world accounts.reserveState = none := records_eq_none hreserve rfl
    have hliabilityNone : tips world accounts.liability = none := records_eq_none hliability rfl
    exact records_insert_beside (records_insert_beside (records_insert_seen
      (records_insert_unseen rfl (records_eq_none_of_vacant hfresh) rfl))
      (ne_of_records hliabilityNone htipAt) hliabilityNone rfl)
      (ne_of_records hreserveNone htipAt) hreserveNone rfl
  · have hreserveNone : liabilities world accounts.reserveState = none :=
      records_eq_none hreserve rfl
    exact records_insert_beside (records_insert_seen (records_insert_unseen
      (records_insert_unseen rfl (records_eq_none_of_vacant hfresh) rfl)
      (records_eq_none htip rfl) rfl)) (ne_of_records hreserveNone hliabilityAt)
      hreserveNone rfl

/-- The tip a consumption leaves. -/
def consumedTip (tip : TcapOneTimeTip) (args : ConsumeOneTimeTipArgs) : TcapOneTimeTip :=
  { tip with
    commitment := args.nextCommitment
    sequence := args.sequence
    transitionNullifier := args.nullifier
    consumed := true }

/-- The tip a consumption opens. -/
def successorTip (runtime : Runtime) (nextTip : Pubkey) (tip : TcapOneTimeTip)
    (args : ConsumeOneTimeTipArgs) : TcapOneTimeTip where
  commitment := args.nextCommitment
  sequence := args.sequence
  sealed := 0
  sealCommitment := 0
  policyCommitment := tip.policyCommitment
  transitionNullifier := 0
  tokenId := tip.tokenId
  consumed := false
  bump := runtime.bump nextTip

/-- What a consumption finds, and what it does to tips and liabilities. -/
structure Consumes (runtime : Runtime) (accounts : ConsumeOneTimeTip)
    (args : ConsumeOneTimeTipArgs) (world next : World) (tip : TcapOneTimeTip) : Prop where
  tipAt : tips world accounts.oneTimeTip = some tip
  unconsumed : tip.consumed = false
  vacant : tips world accounts.nextTip = none
  sequence : args.sequence = tip.sequence + 1
  tips_eq : tips next = Function.update
    (Function.update (tips world) accounts.oneTimeTip (some (consumedTip tip args)))
    accounts.nextTip (some (successorTip runtime accounts.nextTip tip args))
  liabilities_eq : liabilities next = liabilities world

theorem consumeOneTimeTip_consumes {accounts : ConsumeOneTimeTip}
    {args : ConsumeOneTimeTipArgs}
    (hstep : consumeOneTimeTip runtime call accounts args world = .ok next) :
    ∃ tip, Consumes runtime accounts args world next tip := by
  simp only [consumeOneTimeTip, bind_eq_ok, load_eq_ok, vacant_eq_ok, check_eq_ok,
    addU64_eq_ok, pure_eq_ok, wrap_oneTimeTip] at hstep
  obtain ⟨_, -, config, -, tip, htip, _, ⟨-, hfresh⟩, _, -, _, -, _, -, _, -, _, -, _, -, _,
    -, hstep⟩ := hstep
  obtain ⟨_, -, _, -, _, hunconsumed, sequence, ⟨-, rfl⟩, _, hsequence, _, -, _, -, rfl⟩ :=
    hstep
  refine ⟨tip, records_eq_some.mpr htip, hunconsumed, records_eq_none_of_vacant hfresh,
    hsequence, ?_, ?_⟩
  · rw [tips, records_insert, records_insert]
    rfl
  · exact records_insert_unseen (records_insert_unseen rfl (records_eq_none htip rfl) rfl)
      (records_eq_none_of_vacant hfresh) rfl

theorem initializeOneTimeTip_opens {accounts : InitializeOneTimeTip}
    {args : InitializeOneTimeTipArgs}
    (hstep : initializeOneTimeTip runtime call accounts args world = .ok next) :
    tips world accounts.oneTimeTip = none ∧
      (∃ tip : TcapOneTimeTip, (tip.sealed = 0 ∧ tip.sealCommitment = 0) ∧
        tips next = Function.update (tips world) accounts.oneTimeTip (some tip)) ∧
        liabilities next = liabilities world := by
  simp only [initializeOneTimeTip, bind_eq_ok, vacant_eq_ok, pure_eq_ok] at hstep
  obtain ⟨_, -, _, ⟨-, hfresh⟩, _, -, _, -, rfl⟩ := hstep
  refine ⟨records_eq_none_of_vacant hfresh, ⟨_, ?_, records_insert _ _ _⟩, ?_⟩
  · exact ⟨rfl, rfl⟩
  · exact records_insert_unseen rfl (records_eq_none_of_vacant hfresh) rfl

theorem initializeOneTimeTipLiability_opens {accounts : InitializeOneTimeTipLiability}
    {initialAvailable : Nat}
    (hstep : initializeOneTimeTipLiability runtime call accounts initialAvailable world =
      .ok next) :
    liabilities world accounts.liability = none ∧
      (∃ liability : TcapTipLiabilityV2, liability.available = 0 ∧
        liabilities next =
          Function.update (liabilities world) accounts.liability (some liability)) ∧
      tips next = tips world := by
  simp only [initializeOneTimeTipLiability, bind_eq_ok, vacant_eq_ok, check_eq_ok,
    pure_eq_ok] at hstep
  obtain ⟨_, -, _, -, _, -, entry, -, _, -, _, ⟨-, hfresh⟩, hstep⟩ := hstep
  obtain ⟨_, -, _, -, _, -, _, -, _, rfl, rfl⟩ := hstep
  refine ⟨records_eq_none_of_vacant hfresh, ⟨_, ?_, records_insert _ _ _⟩, ?_⟩
  · rfl
  · exact records_insert_unseen rfl (records_eq_none_of_vacant hfresh) rfl

end TsnProtocol.Tcap.TipWrites
