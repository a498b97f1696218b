import TsnProtocol.Escrow.TreasuryPlaces

/-!
What payouts and refunds check of the DNA they settle. A payout is held to every recorded
term. A refund is not held to the mint and the treasury: it agrees with the DNA exactly when
its caller names them right.
-/

namespace TsnProtocol.Escrow.SettlementTerms

open Lib.Transition
open Solana.Address
open Escrow.State
open Escrow.EpochSettlement
open Escrow.Program
open Escrow.Effects
open Escrow.SingleSettlement
open Escrow.TreasuryPlaces

variable {runtime : Runtime} {world next start : World}

/-- The DNA commits to being paid out of the treasury, under some terms. -/
def Commits (runtime : Runtime) (dna : SettlementDna) (treasury : Pubkey) : Prop :=
  ∃ ledger vault recipient mint terms,
    settlementCommitment runtime treasury ledger vault recipient mint terms =
      dna.settlementCommitment

/-- The treasury is the one the DNA commits to, of its escrow, some epoch and its mint. -/
def Designates (runtime : Runtime) (dna : SettlementDna) (treasury : Pubkey) : Prop :=
  Commits runtime dna treasury ∧
    ∃ epochId, treasury = epochTreasuryAddress dna.motherEscrow epochId dna.tokenMint

/-- What is moved out of the treasury is what the DNA records. -/
structure Agrees (runtime : Runtime) (world : World) (accounts : SettlementAccounts)
    (slot : Bytes32) (amount leaseVersion : Nat) (dna : SettlementDna) : Prop where
  mint : ∃ treasury token, world.treasuries.lookup accounts.epochTreasury = some treasury ∧
    treasury.tokenAccount = accounts.treasuryTokenAccount ∧
    world.tokens.lookup accounts.treasuryTokenAccount = some token ∧
    token.mint = dna.tokenMint
  amount : amount = dna.amount
  slot : slot = dna.slot
  lease : leaseVersion = dna.leaseVersion
  treasury : Designates runtime dna accounts.epochTreasury

/-- Payouts and refunds agree with the DNA they settle. A refund names no more of the lease
than its version. -/
def TermsAgree (runtime : Runtime) (world : World) : Step → Prop
  | .tsn _ (.executePrivatePayout accounts args) =>
      ∃ dna, world.dnas.lookup accounts.settlementDna = some dna ∧
        Agrees runtime world accounts.toSettlementAccounts args.slot args.payoutAmount
          args.leaseVersion dna ∧
        args.leaseIdHash = dna.leaseIdHash ∧ args.leaseExpiryTs = dna.leaseExpiryTs
  | .tsn _ (.refundEpochClaim accounts args) =>
      ∃ dna, world.dnas.lookup accounts.settlementDna = some dna ∧
        Agrees runtime world accounts.toSettlementAccounts args.slot args.refundAmount
          args.leaseVersion dna
  | _ => True

/-- The mint and the treasury a refund is called with are those of the DNA. -/
def NamesTreasury (runtime : Runtime) (world : World) : Step → Prop
  | .tsn _ (.refundEpochClaim accounts _) =>
      ∀ dna, world.dnas.lookup accounts.settlementDna = some dna →
        accounts.tokenMint = dna.tokenMint ∧ Commits runtime dna accounts.epochTreasury
  | _ => True

/-- The account debited belongs to the treasury and holds the mint the caller names. -/
theorem mint_of_settles {accounts : SettlementAccounts} {slot : Bytes32}
    {amount settled refunded : Nat} {loaded : Settlement} (hheld : Held world)
    (hsettles : Settles accounts slot amount settled refunded world next loaded) :
    ∃ token, world.tokens.lookup accounts.treasuryTokenAccount = some token ∧
      token.mint = accounts.tokenMint ∧
      ∃ epochId, accounts.epochTreasury =
        epochTreasuryAddress loaded.dna.motherEscrow epochId accounts.tokenMint := by
  have hloads := hsettles.loads
  obtain ⟨token, htoken, hmint, -⟩ := hheld.holds _ _ hloads.treasuryAt
  obtain ⟨haddress, -⟩ := hheld.placed _ _ hloads.treasuryAt
  rw [hloads.tokenAccount] at htoken
  rw [hloads.treasuryMother, hloads.tokenMint] at haddress
  rw [hloads.dnaMother]
  exact ⟨token, htoken, hmint.trans hloads.tokenMint, _, haddress⟩

/-- Amount and slot are checked by every settlement, mint and treasury are not. -/
theorem agrees_iff_of_settles {accounts : SettlementAccounts} {slot : Bytes32}
    {amount settled refunded leaseVersion : Nat} {loaded : Settlement} (hheld : Held world)
    (hsettles : Settles accounts slot amount settled refunded world next loaded)
    (hlease : loaded.dna.leaseVersion = leaseVersion) :
    Agrees runtime world accounts slot amount leaseVersion loaded.dna ↔
      accounts.tokenMint = loaded.dna.tokenMint ∧
        Commits runtime loaded.dna accounts.epochTreasury := by
  obtain ⟨token, htoken, hmint, epochId, haddress⟩ := mint_of_settles hheld hsettles
  constructor
  · intro hagrees
    obtain ⟨treasury, debited, -, -, hdebited, hsame⟩ := hagrees.mint
    rw [htoken] at hdebited
    cases hdebited
    exact ⟨hmint.symm.trans hsame, hagrees.treasury.1⟩
  · rintro ⟨hsame, hcommits⟩
    exact ⟨⟨loaded.treasury, token, hsettles.loads.treasuryAt, hsettles.loads.tokenAccount,
      htoken, hmint.trans hsame⟩, hsettles.owed.symm, hsettles.slotOf.symm, hlease.symm,
      hcommits, epochId, hsame ▸ haddress⟩

theorem termsAgree_of_payout {call : Call} {accounts : ExecutePrivatePayout}
    {args : ExecutePrivatePayoutArgs} (hheld : Held world)
    (hstep : executePrivatePayout runtime call accounts args world = .ok next) :
    TermsAgree runtime world (.tsn call (.executePrivatePayout accounts args)) := by
  obtain ⟨loaded, cranker, vault, hsettles, hpays⟩ := executePrivatePayout_eq_ok hstep
  obtain ⟨-, -, -, -, -, -, -, -, -, hmint, -, hleaseId, hlease, hexpiry, -⟩ := hpays.matched
  have hdna := hsettles.loads.dnaAt
  rw [← hsettles.loads.dnaAddress] at hdna
  refine ⟨loaded.dna, hdna, ?_, hleaseId.symm, hexpiry.symm⟩
  refine (agrees_iff_of_settles hheld hsettles hlease).mpr ⟨hmint.symm, ?_⟩
  exact ⟨_, _, _, _, _, hpays.committed⟩

theorem termsAgree_iff_of_refund {call : Call} {accounts : RefundEpochClaim}
    {args : RefundEpochClaimArgs} (hheld : Held world)
    (hstep : refundEpochClaim runtime call accounts args world = .ok next) :
    TermsAgree runtime world (.tsn call (.refundEpochClaim accounts args)) ↔
      NamesTreasury runtime world (.tsn call (.refundEpochClaim accounts args)) := by
  obtain ⟨loaded, hsettles, hrefunds⟩ := refundEpochClaim_eq_ok hstep
  obtain ⟨-, -, -, -, -, hlease⟩ := hrefunds.matched
  have hdna := hsettles.loads.dnaAt
  rw [← hsettles.loads.dnaAddress] at hdna
  have hagrees : Agrees runtime world accounts.toSettlementAccounts args.slot
      args.refundAmount args.leaseVersion loaded.dna ↔
        accounts.tokenMint = loaded.dna.tokenMint ∧
          Commits runtime loaded.dna accounts.epochTreasury :=
    agrees_iff_of_settles hheld hsettles hlease
  constructor
  · rintro ⟨dna, hfound, hterms⟩ other hother
    rw [hdna] at hfound hother
    cases hfound
    cases hother
    exact hagrees.mp hterms
  · intro hnames
    exact ⟨loaded.dna, hdna, hagrees.mpr (hnames loaded.dna hdna)⟩

section Sample

/-- A refund of a DNA of `dnaStep` that names the mint and the treasury of its terms. -/
def namesSample (world : World) : Step → Bool
  | .tsn _ (.refundEpochClaim accounts args) =>
      (world.dnas.lookup accounts.settlementDna).all fun dna =>
        accounts.tokenMint = dna.tokenMint ∧
          settlementCommitment localRuntime accounts.epochTreasury
            (epochLedgerAddress (treasuryOf usdMint)) sampleVault recipient usdMint
            (payoutTerms args.slot args.refundAmount) = dna.settlementCommitment
  | _ => true

theorem namesTreasury_of_namesSample {input : Step} (hnames : namesSample world input = true) :
    NamesTreasury localRuntime world input := by
  cases input with
  | external call action => trivial
  | tsn call instruction =>
      cases instruction with
      | refundEpochClaim accounts args =>
          intro dna hdna
          rw [namesSample, hdna, Option.all_some] at hnames
          obtain ⟨hmint, hcommitted⟩ := of_decide_eq_true hnames
          exact ⟨hmint, _, _, _, _, _, hcommitted⟩
      | _ => trivial

end Sample

end TsnProtocol.Escrow.SettlementTerms
