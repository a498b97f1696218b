import TsnProtocol.Tcap.TipHistory

/-!
What a permit of `credit_one_time_tip` binds. The new commitment, the seal and the seal
commitment are no part of its preimage, and no address of the liability is either: two
credits under one permit agree in their effect exactly if they agree in these.
-/

namespace TsnProtocol.Tcap.CreditBinding

open Lib.Checked
open Lib.Transition
open Solana.Address
open Tcap.State
open Tcap.Execution
open Tcap.Tips
open Tcap.Program
open Tcap.Persistence
open Tcap.TipWrites
open Tcap.TipHistory

variable {runtime : Runtime} {call call' : Call} {accounts accounts' : CreditOneTimeTip}
  {args args' : CreditOneTimeTipArgs} {world next next' : World}

/-- The digest separates the permits of two credits made from one state. -/
def SeparatesCalls (runtime : Runtime) (world : World) (accounts : CreditOneTimeTip)
    (args : CreditOneTimeTipArgs) (accounts' : CreditOneTimeTip)
    (args' : CreditOneTimeTipArgs) : Prop :=
  ∀ entry ∈ records TcapAssetEntryV1 world accounts.assetEntry,
    ∀ entry' ∈ records TcapAssetEntryV1 world accounts'.assetEntry,
      runtime.hashv (permitPreimage creditDomain accounts.currentTip entry.asset.mint args) =
        runtime.hashv
          (permitPreimage creditDomain accounts'.currentTip entry'.asset.mint args') →
      permitPreimage creditDomain accounts.currentTip entry.asset.mint args =
        permitPreimage creditDomain accounts'.currentTip entry'.asset.mint args'

/-- The tip records and the liabilities of two states agree. -/
def SameEffect (next next' : World) : Prop :=
  tips next = tips next' ∧ liabilities next = liabilities next'

theorem creditedTip_eq_iff {tip : TcapOneTimeTip} (hsequence : args.sequence = args'.sequence)
    (hnonce : args.nonce = args'.nonce) :
    creditedTip tip args = creditedTip tip args' ↔
      args.newCommitment = args'.newCommitment ∧ args.sealed = args'.sealed ∧
        args.sealCommitment = args'.sealCommitment := by
  simp [creditedTip, transferredTip, hsequence, hnonce]

theorem update_eq_update_iff {α : Type} {changed : Pubkey} {value value' : α}
    {store : Pubkey → Option α} :
    Function.update store changed (some value) = Function.update store changed (some value') ↔
      value = value' := by
  constructor
  · intro hsame
    have hvalue := congrFun hsame changed
    rw [Function.update_self, Function.update_self] at hvalue
    exact Option.some.inj hvalue
  · rintro rfl
    rfl

/-- A liability that is credited in one store and not in the other tells them apart. -/
theorem liability_eq_of_update {store : Pubkey → Option TcapTipLiabilityV2}
    {first second : Pubkey} {liability liability' : TcapTipLiabilityV2}
    {credited : Option TcapTipLiabilityV2} (hfirst : store first = some liability)
    (havailable : liability'.available ≠ liability.available)
    (hsame : Function.update store first (some liability') =
      Function.update store second credited) :
    first = second := by
  by_contra hne
  have hvalue := congrFun hsame first
  rw [Function.update_self, Function.update_of_ne hne, hfirst] at hvalue
  exact havailable (congrArg TcapTipLiabilityV2.available (Option.some.inj hvalue))

/-- Two credits from one state under one permit have the same effect exactly if they name
the same new commitment, seal, seal commitment and liability. -/
theorem sameEffect_iff
    (hfirst : creditOneTimeTip runtime call accounts args world = .ok next)
    (hsecond : creditOneTimeTip runtime call' accounts' args' world = .ok next')
    (hdigest : args.authorizationDigest = args'.authorizationDigest)
    (hseparates : SeparatesCalls runtime world accounts args accounts' args') :
    SameEffect next next' ↔
      args.newCommitment = args'.newCommitment ∧ args.sealed = args'.sealed ∧
        args.sealCommitment = args'.sealCommitment ∧
          accounts.liability = accounts'.liability := by
  obtain ⟨tip, entry, liability, hcredits⟩ := creditOneTimeTip_credits hfirst
  obtain ⟨tip', entry', liability', hcredits'⟩ := creditOneTimeTip_credits hsecond
  have hpermit := hseparates entry (records_eq_some.mpr hcredits.entryAt) entry'
    (records_eq_some.mpr hcredits'.entryAt)
    (by rw [← hcredits.permit, ← hcredits'.permit, hdigest])
  simp only [permitPreimage, List.cons.injEq, Chunk.key.injEq, Chunk.uint.injEq,
    Chunk.word.injEq, true_and, and_true] at hpermit
  obtain ⟨hkey, hamount, -, -, hnonce, hsequence, -⟩ := hpermit
  have htip : tip = tip' := by
    have hfound := hcredits.tipAt
    rw [hkey, hcredits'.tipAt] at hfound
    exact (Option.some.inj hfound).symm
  subst htip
  have htips : tips next = tips next' ↔ args.newCommitment = args'.newCommitment ∧
      args.sealed = args'.sealed ∧ args.sealCommitment = args'.sealCommitment := by
    rw [hcredits.tips_eq, hcredits'.tips_eq, hkey, update_eq_update_iff,
      creditedTip_eq_iff hsequence hnonce]
  have hliabilities : liabilities next = liabilities next' ↔
      accounts.liability = accounts'.liability := by
    rw [hcredits.liabilities_eq, hcredits'.liabilities_eq]
    constructor
    · intro hsame
      refine liability_eq_of_update hcredits.liabilityAt ?_ hsame
      have hpositive := hcredits.positive
      simp only
      omega
    · intro hsame
      have hfound := hcredits.liabilityAt
      rw [hsame, hcredits'.liabilityAt] at hfound
      cases hfound
      rw [hsame, hamount]
  rw [SameEffect, htips, hliabilities]
  simp only [and_assoc]

section Sample

open Tcap.Solvency (governor depositor usdMint usdWallet usdWorld)

/-- Arguments of a first credit of 100 under the permit of TSN, with a relayer's choice of
the new commitment. -/
def relayedArgs (newCommitment : Bytes32) : CreditOneTimeTipArgs :=
  let args : CreditOneTimeTipArgs := ⟨0, 5, newCommitment, 1, 3, 1, 1, 100, 0, 9, 1, 1⟩
  { args with
    authorizationDigest := creditPermit localRuntime creditDomain sampleTip usdMint args }

/-- The permit of that credit. -/
def relayedDigest : Bytes32 :=
  (relayedArgs 2).authorizationDigest

def relayedAccounts : CreditOneTimeTip :=
  let entry := splEntryAddress usdMint
  ⟨depositor, globalConfigAddress, sampleTip, entry, deriveReserveState entry,
    sampleLiability, tsnProgram, deriveTsnAuthorizationSigner tsnProgram relayedDigest⟩

def relayedCall : Call :=
  ⟨[depositor, deriveTsnAuthorizationSigner tsnProgram relayedDigest], 5⟩

/-- A tip has been opened, and 100 have been deposited. -/
def openedWorld : World :=
  match replay (step localRuntime) usdWorld (openTipSteps usdMint depositor 5 1 ++
      depositStep usdMint depositor usdWallet 100 ::
      (listingSteps governor usdMint ++ launchSteps governor)) with
  | .ok (_, world) => world
  | .error _ => ∅

theorem isOk_relayed {newCommitment : Bytes32} (hchoice : newCommitment ∈ [2, 4]) :
    (creditOneTimeTip localRuntime relayedCall relayedAccounts (relayedArgs newCommitment)
      openedWorld).isOk = true := by
  have hall : List.all [2, 4] (fun newCommitment =>
      (creditOneTimeTip localRuntime relayedCall relayedAccounts (relayedArgs newCommitment)
        openedWorld).isOk) = true := by
    decide +kernel
  exact List.all_eq_true.mp hall newCommitment hchoice

theorem separatesCalls_relayed (first second : Bytes32) :
    SeparatesCalls localRuntime openedWorld relayedAccounts (relayedArgs first)
      relayedAccounts (relayedArgs second) := by
  intro entry hentry entry' hentry' _
  rw [Option.mem_unique hentry hentry']
  rfl

/-- The same credit sent twice has one effect. -/
theorem sameEffect_of_repeated :
    ∃ next next',
      creditOneTimeTip localRuntime relayedCall relayedAccounts (relayedArgs 2) openedWorld =
        .ok next ∧
      creditOneTimeTip localRuntime relayedCall relayedAccounts (relayedArgs 2) openedWorld =
        .ok next' ∧ SameEffect next next' := by
  obtain ⟨next, hnext⟩ := exists_ok_of_isOk (@isOk_relayed 2 (by simp))
  exact ⟨next, next, hnext, hnext,
    (sameEffect_iff hnext hnext rfl (separatesCalls_relayed 2 2)).mpr ⟨rfl, rfl, rfl, rfl⟩⟩

/-- Under one permit the relayer stores either of two commitments. -/
theorem not_sameEffect_of_permit :
    ¬ ∀ runtime call accounts args call' accounts' args' world next next',
      creditOneTimeTip runtime call accounts args world = .ok next →
      creditOneTimeTip runtime call' accounts' args' world = .ok next' →
      args.authorizationDigest = args'.authorizationDigest →
      SeparatesCalls runtime world accounts args accounts' args' → SameEffect next next' := by
  intro hclaim
  obtain ⟨next, hnext⟩ := exists_ok_of_isOk (@isOk_relayed 2 (by simp))
  obtain ⟨next', hnext'⟩ := exists_ok_of_isOk (@isOk_relayed 4 (by simp))
  have hsame := (hclaim _ _ _ _ _ _ _ _ _ _ hnext hnext' rfl (separatesCalls_relayed 2 4)).1
  obtain ⟨tip, _, _, hcredits⟩ := creditOneTimeTip_credits hnext
  obtain ⟨tip', _, _, hcredits'⟩ := creditOneTimeTip_credits hnext'
  rw [hcredits.tips_eq, hcredits'.tips_eq, update_eq_update_iff] at hsame
  have hcommitment : (2 : Bytes32) = 4 := congrArg TcapOneTimeTip.commitment hsame
  exact absurd hcommitment (by decide)

end Sample

end TsnProtocol.Tcap.CreditBinding
