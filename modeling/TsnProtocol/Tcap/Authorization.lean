import TsnProtocol.Tcap.ExitIsolation

/-!
Who has to sign for a transition that moves value: which instructions ask for a
signature of TSN or of governance, and which two do not.
-/

namespace TsnProtocol.Tcap.Authorization

open Lib.FiniteStore
open Lib.Transition
open Solana.Address
open Tcap.State
open Tcap.Execution
open Tcap.Funding
open Tcap.Tips
open Tcap.Program
open Tcap.Custody
open Tcap.Administration
open Tcap.Effects
open Tcap.Refinement
open Tcap.Solvency
open Tcap.ExitIsolation

variable {runtime : Runtime} {call : Call} {world next : World} {key : Pubkey}

/-- What a liability lets its tip spend. -/
def spendableOf : Account → Nat
  | .liability liability => liability.available
  | _ => 0

def isPermit : Option Account → Bool
  | some (.permit _) => true
  | _ => false

/-- The account neither changes what a tip can spend, nor becomes an exit permit, nor
gains settled liabilities. -/
structure Inert (old new : Option Account) : Prop where
  spendable : weigh spendableOf new = weigh spendableOf old
  permit : isPermit new = true → isPermit old = true
  settled : weigh settledOf new ≤ weigh settledOf old

/-- Some tip can spend more or less than before, an exit permit is created, or value
becomes settled. -/
def MovesValue (world next : World) : Prop :=
  ∃ key, weigh spendableOf (next.lookup key) ≠ weigh spendableOf (world.lookup key) ∨
    (isPermit (next.lookup key) = true ∧ isPermit (world.lookup key) = false) ∨
    weigh settledOf (world.lookup key) < weigh settledOf (next.lookup key)

/-- The digest an instruction presents for its authorization, if it has one. -/
def authorizationDigest : Instruction → Option Bytes32
  | .consumeOneTimeTip _ args => some args.authorizationDigest
  | .creditOneTimeTip _ args | .creditOneTimeTipTransfer _ args =>
      some args.authorizationDigest
  | .creditGpruMemoV1 _ args => some args.authorizationDigest
  | .debitTcapBalanceV1 _ args => some args.authorizationDigest
  | .debitTcapGpruTipV2 _ args => some args.authorizationDigest
  | _ => none

/-- Governance signed, or the TSN authorization address did: the one of the digest
presented, or of some digest where the instruction presents none. -/
def Authorized (world : World) (call : Call) (instruction : Instruction) : Prop :=
  ∃ config, world.lookup globalConfigAddress = some (.config config) ∧
    (config.governanceAuthority ∈ call.signers ∨
      ∃ digest, (∀ presented, authorizationDigest instruction = some presented →
          digest = presented) ∧
        deriveTsnAuthorizationSigner config.approvedTsnProgram digest ∈ call.signers)

/-- The two instructions that take any signer. -/
def TakesAnySigner : Instruction → Prop
  | .debitTcapExitV1 _ _ | .creditGpruMemoV1 _ _ => True
  | _ => False

theorem inert_refl (old : Option Account) : Inert old old :=
  ⟨rfl, id, le_rfl⟩

theorem not_movesValue_of_inert
    (hinert : ∀ key, Inert (world.lookup key) (next.lookup key)) :
    ¬ MovesValue world next := by
  rintro ⟨key, hspendable | ⟨hnew, hold⟩ | hsettled⟩
  · exact hspendable (hinert key).spendable
  · rw [(hinert key).permit hnew] at hold
    cases hold
  · exact absurd (hinert key).settled (by omega)

theorem inert_insert {account : Account}
    (hinert : ∀ key, Inert (world.lookup key) (next.lookup key))
    (hwrite : Inert (world.lookup key) (some account)) (other : Pubkey) :
    Inert (world.lookup other) ((next.insert key account).lookup other) := by
  rw [lookup_insert_eq]
  split_ifs with hkey
  · exact hkey ▸ hwrite
  · exact hinert other

private theorem availableOf_le_spendableOf (entry : Pubkey) (account : Account) :
    availableOf entry account ≤ spendableOf account := by
  cases account with
  | liability liability =>
      simp only [availableOf, spendableOf]
      split_ifs <;> omega
  | _ => exact le_rfl

private theorem exists_availableOf_eq (account : Account) :
    ∃ entry, availableOf entry account = spendableOf account := by
  cases account with
  | liability liability => exact ⟨liability.assetEntry, if_pos rfl⟩
  | _ => exact ⟨Pubkey.default, rfl⟩

/-- What the ledger does not see does not move value. -/
theorem inert_of_sameWeight {old : Option Account} {new : Account}
    (hsame : SameWeight old new) : Inert old (some new) where
  spendable := by
    rw [weigh_some]
    refine le_antisymm ?_ ?_
    · obtain ⟨entry, hentry⟩ := exists_availableOf_eq new
      rw [← hentry, ← hsame.available entry]
      cases old with
      | none => exact le_rfl
      | some account => exact availableOf_le_spendableOf entry account
    · cases old with
      | none => exact Nat.zero_le _
      | some account =>
          obtain ⟨entry, hentry⟩ := exists_availableOf_eq account
          rw [weigh_some, ← hentry, ← weigh_some (availableOf entry), hsame.available entry]
          exact availableOf_le_spendableOf entry new
  permit := by
    intro hpermit
    cases new with
    | permit permit => exact absurd rfl (hsame.permit permit)
    | _ => cases hpermit
  settled := by
    rw [weigh_some, hsame.settled]

theorem not_movesValue_of_administers (hadmin : Administers world next) :
    ¬ MovesValue world next := by
  refine not_movesValue_of_inert fun key => ?_
  rcases hadmin key with hsame | ⟨account, haccount, -, -, hsame⟩
  · rw [hsame]
    exact inert_refl _
  · rw [haccount]
    exact inert_of_sameWeight hsame

/-- Rewriting an account as one of its own kind, without touching what it lets spend
or has settled. -/
theorem inert_of_lookup {old new : Account} (hlookup : world.lookup key = some old)
    (hspendable : spendableOf new = spendableOf old)
    (hpermit : isPermit (some new) = isPermit (some old))
    (hsettled : settledOf new = settledOf old) :
    Inert (world.lookup key) (some new) := by
  rw [hlookup]
  exact ⟨hspendable, by rw [hpermit]; exact id, hsettled.le⟩

theorem inert_of_plain {account : Account} (hplain : Plain account)
    (hold : ∀ old, world.lookup key = some old → Plain old) :
    Inert (world.lookup key) (some account) :=
  inert_of_sameWeight (administrative_of_plain hold hplain).2.2

theorem inert_of_transfer {signers : List Pubkey}
    {program source mint destination authority : Pubkey} {amount decimals : Nat}
    (htransfer : transferChecked world signers program source mint destination authority
      amount decimals = .ok next) (key : Pubkey) :
    Inert (world.lookup key) (next.lookup key) := by
  obtain ⟨sourceData, destinationData, hsource, hdestination, -, -, -, hcases⟩ :=
    transferChecked_eq_ok htransfer
  rcases hcases with ⟨-, rfl⟩ | ⟨-, rfl⟩
  · exact inert_refl _
  · refine inert_insert (inert_insert (fun key => inert_refl (world.lookup key)) ?_) ?_ key
    · exact inert_of_lookup hsource rfl rfl rfl
    · exact inert_of_lookup hdestination rfl rfl rfl

theorem inert_of_deposits {accounts : DepositAssetV2} {amount : Nat}
    (hdeposits : Deposits call world accounts amount next) (key : Pubkey) :
    Inert (world.lookup key) (next.lookup key) := by
  obtain ⟨entry, reserve, vault, decimals, moved, vault', -, hreserve, -, -, -, -, -, hmoved,
    -, -, rfl⟩ := hdeposits
  refine inert_insert (inert_of_transfer hmoved) ?_ key
  exact inert_of_lookup hreserve rfl rfl rfl

/-- An instruction that takes any signer moves value whenever it succeeds. -/
theorem movesValue_of_takesAnySigner {instruction : Instruction}
    (htakes : TakesAnySigner instruction)
    (hstep : execute runtime call instruction world = .ok next) : MovesValue world next := by
  cases instruction with
  | debitTcapExitV1 accounts args =>
      obtain ⟨tip, tip', reserve, liability, permit, htip, hreserve, hliability, hfresh, -, -,
        -, -, -, -, -, rfl⟩ := debitTcapExitV1_eq_ok hstep
      refine ⟨accounts.permit, .inr (.inl ⟨?_, by rw [hfresh]; rfl⟩)⟩
      have hne : ∀ {key account}, world.lookup key = some account → accounts.permit ≠ key := by
        rintro key account hlookup rfl
        rw [hfresh] at hlookup
        cases hlookup
      rw [lookup_insert_eq, if_neg (hne hreserve), lookup_insert_eq, if_neg (hne hliability),
        lookup_insert_eq, if_neg (hne htip), Finmap.lookup_insert]
      rfl
  | creditGpruMemoV1 accounts args =>
      obtain ⟨root, root', entry, reserve, hroot, -, hreserve, -, hpositive, -, rfl⟩ :=
        creditGpruMemoV1_eq_ok hstep
      refine ⟨accounts.reserveState, .inr (.inr ?_)⟩
      rw [Finmap.lookup_insert, hreserve]
      simp only [weigh_some, settledOf]
      omega
  | _ => exact htakes.elim

/-- Every other instruction that moves value carries a signature of TSN or of
governance. -/
theorem authorized_of_movesValue {instruction : Instruction} (hwellFormed : WellFormed world)
    (hguarded : ¬ TakesAnySigner instruction)
    (hstep : execute runtime call instruction world = .ok next)
    (hmoves : MovesValue world next) : Authorized world call instruction := by
  cases instruction with
  | debitTcapExitV1 | creditGpruMemoV1 => exact absurd trivial hguarded
  | creditOneTimeTip accounts args =>
      obtain ⟨config, tip, tip', entry, reserve, liability, hconfig, -, -, -, -, -, -, hsigned,
        -, -⟩ := creditOneTimeTip_eq_ok hstep
      refine ⟨config, hconfig, .inr ⟨args.authorizationDigest, ?_, hsigned⟩⟩
      exact fun presented hpresented => Option.some.inj hpresented
  | creditOneTimeTipTransfer accounts args =>
      obtain ⟨config, tip, tip', entry, reserve, liability, hconfig, -, -, -, -, -, -, hsigned,
        -, -⟩ := creditOneTimeTipTransfer_eq_ok hstep
      refine ⟨config, hconfig, .inr ⟨args.authorizationDigest, ?_, hsigned⟩⟩
      exact fun presented hpresented => Option.some.inj hpresented
  | initializeTcapTipLiabilityV2 accounts initialAvailable =>
      obtain ⟨config, entry, reserve, liability, hconfig, -, -, -, -, -, -, -, -, hsigned, -⟩ :=
        initializeTcapTipLiabilityV2_eq_ok hstep
      exact ⟨config, hconfig, .inl hsigned⟩
  | registerGovernedAssetV2 accounts args =>
      refine absurd hmoves (not_movesValue_of_inert ?_)
      obtain ⟨registry, mint, entry, policy, extensionPolicy, registry', hregistry, -, -, -, -,
        -, -, hentry, hpolicy, hextension, -, -, -, -, -, -, rfl⟩ :=
        registerGovernedAssetV2_eq_ok hstep
      refine inert_insert (inert_insert (inert_insert (inert_insert
        (fun key => inert_refl (world.lookup key)) ?_) ?_) ?_) ?_
      · rw [hentry]
        exact ⟨rfl, id, le_rfl⟩
      · exact inert_of_plain trivial (by simp [hpolicy])
      · exact inert_of_plain trivial (by simp [hextension])
      · exact inert_of_lookup hregistry rfl rfl rfl
  | depositAssetV2 accounts amount =>
      exact absurd hmoves
        (not_movesValue_of_inert (inert_of_deposits (depositAssetV2_eq_ok hstep)))
  | depositWithFundingCommitmentV2 accounts args =>
      refine absurd hmoves (not_movesValue_of_inert ?_)
      obtain ⟨funded, claim, root, nonce, hdeposits, -, -, -, hclaim, hroot, hnonce, rfl⟩ :=
        depositWithFundingCommitmentV2_eq_ok hstep
      refine inert_insert (inert_insert (inert_insert (inert_of_deposits hdeposits) ?_) ?_) ?_
      · exact inert_of_plain trivial (by simp [hclaim])
      · refine inert_of_plain trivial ?_
        rcases hroot with hroot | ⟨old, hroot⟩ <;> simp [hroot, Plain]
      · refine inert_of_plain trivial ?_
        rcases hnonce with hnonce | ⟨old, hnonce⟩ <;> simp [hnonce, Plain]
  | payoutTcapExitV1 accounts destinationOwner =>
      refine absurd hmoves (not_movesValue_of_inert ?_)
      obtain ⟨entry, reserve, permit, vault, decimals, moved, -, hreserve, hpermit, -, -, -, -,
        -, -, hmoved, rfl⟩ := payoutTcapExitV1_eq_ok hstep
      exact inert_insert (inert_insert (inert_of_transfer hmoved)
        (inert_of_lookup hreserve rfl rfl rfl)) (inert_of_lookup hpermit rfl rfl rfl)
  | syncGovernedAssetInfrastructureV2 accounts =>
      refine absurd hmoves (not_movesValue_of_inert ?_)
      obtain ⟨entry, policy, reserve, vault, policy', -, hpolicy, hreserve, -, -, -, -, rfl⟩ :=
        syncGovernedAssetInfrastructureV2_eq_ok hstep
      exact inert_insert (inert_insert (fun key => inert_refl (world.lookup key))
        (inert_of_lookup hreserve rfl rfl rfl)) (inert_of_lookup hpolicy rfl rfl rfl)
  | _ =>
      exact absurd hmoves
        (not_movesValue_of_administers (administers_execute id hwellFormed hstep))

section Runs

/-- Somebody who holds nothing. -/
def stranger : Pubkey := .raw 104

def governanceOf : Account → Option Pubkey
  | .config config => some config.governanceAuthority
  | _ => none

end Runs

end TsnProtocol.Tcap.Authorization
