import TsnProtocol.Escrow.TreasuryPlaces

/-!
The books of an epoch treasury: what was funded is pending, settled or refunded, the ledger
holds the same totals, and the tokens cover what is pending. They stay right as long as no
treasury is opened a second time under claim slots it had before.
-/

namespace TsnProtocol.Escrow.TreasuryBooks

open Lib.FiniteStore
open Lib.Transition
open Solana.Address
open Escrow.State
open Escrow.EpochSettlement
open Escrow.Program
open Escrow.Effects
open Escrow.SingleSettlement
open Escrow.TreasuryPlaces

variable {runtime : Runtime} {call : Call} {world next start : World} {key : Pubkey}
  {treasury : EpochTreasury} {ledger : EpochSettlementLedger}

/-- One for a claim slot of the treasury. -/
def claims (treasury : Pubkey) (slot : EpochClaimSlot) : Nat :=
  if slot.epochTreasury = treasury then 1 else 0

/-- The number of claim slots of a treasury. -/
def claimCount (world : World) (treasury : Pubkey) : Nat :=
  total (claims treasury) world.claimSlots

/-- The ledger of a treasury holds its totals and counts its claim slots. -/
def Mirrors (world : World) (key : Pubkey) (treasury : EpochTreasury)
    (ledger : EpochSettlementLedger) : Prop :=
  ledger.epochTreasury = key ∧ ledger.pendingTotal = treasury.pendingLiability ∧
    ledger.settledTotal = treasury.settledTotal ∧
    ledger.refundedTotal = treasury.refundedTotal ∧ ledger.slotCount = claimCount world key

/-- The token account of a treasury belongs to its authority and covers what is pending. -/
def Covers (key : Pubkey) (treasury : EpochTreasury) (token : TokenAccount) : Prop :=
  token.mint = treasury.tokenMint ∧ token.owner = treasuryAuthorityAddress key ∧
    treasury.pendingLiability ≤ token.amount

/-- What the books of a treasury say. -/
structure Conserved (world : World) (key : Pubkey) (treasury : EpochTreasury) : Prop where
  funded : treasury.totalFunded =
    treasury.pendingLiability + treasury.settledTotal + treasury.refundedTotal
  reimbursed : treasury.reimbursedTotal = treasury.settledTotal
  mirrored : ∃ ledger, world.ledgers.lookup (epochLedgerAddress key) = some ledger ∧
    Mirrors world key treasury ledger
  covered : ∃ token, world.tokens.lookup treasury.tokenAccount = some token ∧
    Covers key treasury token

/-- The invariant of a run: the books of all treasuries, and no ledger without its treasury. -/
structure Books (world : World) : Prop where
  held : Held world
  conserved : ∀ key treasury, world.treasuries.lookup key = some treasury →
    Conserved world key treasury
  ledgers : ∀ key ledger, world.ledgers.lookup key = some ledger →
    key = epochLedgerAddress ledger.epochTreasury ∧
      ∃ treasury, world.treasuries.lookup ledger.epochTreasury = some treasury

/-- A treasury that was closed after settlements is funded again, under the same address. -/
def Reopens (world : World) : Step → Prop
  | .tsn _ (.fundEpochTreasury accounts _ _) =>
      world.treasuries.lookup accounts.epochTreasury = none ∧
        claimCount world accounts.epochTreasury ≠ 0
  | _ => False

instance (world : World) (input : Step) : Decidable (Reopens world input) := by
  unfold Reopens
  split <;> infer_instance

theorem books_of_launch (hlaunch : Launch start) : Books start := by
  refine ⟨held_of_launch hlaunch, ?_, ?_⟩
  · intro key treasury hlookup
    rw [hlaunch.treasuries, Finmap.lookup_empty] at hlookup
    cases hlookup
  · intro key ledger hlookup
    rw [hlaunch.ledgers, Finmap.lookup_empty] at hlookup
    cases hlookup

/-- The books of a treasury are right while its ledger and its claim slots stay and nothing is
taken from its account. -/
theorem Conserved.of_frame {input : Step} (hconserved : Conserved world key treasury)
    (hstep : step runtime world input = .ok next) (hopen : ¬ Closes key input)
    (hdebit : debit key input = 0)
    (hledger : next.ledgers.lookup (epochLedgerAddress key) =
      world.ledgers.lookup (epochLedgerAddress key))
    (hclaims : claimCount next key = claimCount world key) : Conserved next key treasury := by
  obtain ⟨ledger, hstored, hmirrors⟩ := hconserved.mirrored
  obtain ⟨token, htoken, hmint, howner, hcovers⟩ := hconserved.covered
  obtain ⟨kept, hkept, hmint', howner', hleft⟩ := keeps_of_debit hstep hopen htoken howner
  rw [hdebit] at hleft
  refine ⟨hconserved.funded, hconserved.reimbursed, ⟨ledger, hledger.trans hstored, ?_⟩,
    ⟨kept, hkept, hmint'.trans hmint, howner'.trans howner, by omega⟩⟩
  rw [Mirrors, hclaims]
  exact hmirrors

section Funding

variable {accounts : FundEpochTreasury} {epochId amount : Nat}

/-- The books a deposit finds: right ones, or the empty ones of a new treasury. -/
theorem opened_of_funds (hbooks : Books world)
    (hfunds : Funds runtime call accounts epochId amount world next treasury ledger)
    (hfresh : ¬ Reopens world (.tsn call (.fundEpochTreasury accounts epochId amount))) :
    treasury.totalFunded =
        treasury.pendingLiability + treasury.settledTotal + treasury.refundedTotal ∧
      treasury.reimbursedTotal = treasury.settledTotal ∧
      Mirrors world accounts.epochTreasury treasury ledger ∧
      (world.treasuries.lookup accounts.epochTreasury = some treasury ∨
        treasury.pendingLiability = 0) := by
  have hledger := hfunds.ledger_eq
  rcases stored_or_fresh_of_funds hbooks.held hfunds with hstored | ⟨hlookup, rfl⟩
  · have hconserved := hbooks.conserved _ treasury hstored
    obtain ⟨storedLedger, hfound, hmirrors⟩ := hconserved.mirrored
    rw [hfound, Option.getD_some, openLedger_of_stored] at hledger
    · rw [← hledger]
      exact ⟨hconserved.funded, hconserved.reimbursed, hmirrors, .inl hstored⟩
    · rw [hmirrors.1]
      exact ne_default_of_derived (program?_of_placed (hbooks.held.placed _ treasury hstored))
  · have hnone : world.ledgers.lookup (epochLedgerAddress accounts.epochTreasury) = none := by
      cases hstored : world.ledgers.lookup (epochLedgerAddress accounts.epochTreasury) with
      | none => rfl
      | some stored =>
          obtain ⟨haddress, treasury, htreasury⟩ := hbooks.ledgers _ stored hstored
          rw [← epochLedgerAddress_inj.mp haddress, hlookup] at htreasury
          cases htreasury
    have hunclaimed : claimCount world accounts.epochTreasury = 0 := by
      by_contra hclaims
      exact hfresh ⟨hlookup, hclaims⟩
    rw [hnone] at hledger
    subst hledger
    exact ⟨rfl, rfl, ⟨rfl, rfl, rfl, rfl, hunclaimed.symm⟩, .inr rfl⟩

/-- The books of the treasury a deposit goes to. -/
theorem conserved_of_funds (hbooks : Books world) (hsigners : NoProgramSigner call)
    (hfunds : Funds runtime call accounts epochId amount world next treasury ledger)
    (hstep : fundEpochTreasury runtime call accounts epochId amount world = .ok next)
    (hfresh : ¬ Reopens world (.tsn call (.fundEpochTreasury accounts epochId amount))) :
    Conserved next accounts.epochTreasury
      { treasury with
        totalFunded := treasury.totalFunded + amount
        pendingLiability := treasury.pendingLiability + amount } := by
  obtain ⟨hfunded, hreimbursed, hmirrors, hbefore⟩ := opened_of_funds hbooks hfunds hfresh
  obtain ⟨hledger, hpending, hsettled, hrefunded, hcount⟩ := hmirrors
  obtain ⟨token, htoken, hmint, howner, hamount, hmore⟩ :=
    credited_of_funds hbooks.held hsigners hfunds hstep
  have hclaims : claimCount next accounts.epochTreasury =
      claimCount world accounts.epochTreasury := by
    rw [claimCount, hfunds.claimSlots_eq]
    rfl
  refine ⟨?_, hreimbursed, ⟨{ ledger with pendingTotal := ledger.pendingTotal + amount },
    ?_, hledger, congrArg (· + amount) hpending, hsettled, hrefunded, ?_⟩,
    ⟨token, htoken, hmint, howner, ?_⟩⟩
  · show treasury.totalFunded + amount = treasury.pendingLiability + amount +
      treasury.settledTotal + treasury.refundedTotal
    omega
  · rw [hfunds.ledgers_eq, Finmap.lookup_insert]
  · rw [hclaims]
    exact hcount
  · show treasury.pendingLiability + amount ≤ token.amount
    rcases hbefore with hstored | hnone
    · obtain ⟨before, hfound, -, -, hcovers⟩ := (hbooks.conserved _ treasury hstored).covered
      have hgrown := hmore before hstored hfound
      omega
    · omega

theorem books_of_funds (hbooks : Books world) (hheld : Held next)
    (hstep : step runtime world (.tsn call (.fundEpochTreasury accounts epochId amount)) =
      .ok next)
    (hfresh : ¬ Reopens world (.tsn call (.fundEpochTreasury accounts epochId amount))) :
    Books next := by
  obtain ⟨hsigners, hexecute⟩ := step_tsn_eq_ok.mp hstep
  obtain ⟨treasury, ledger, hfunds⟩ := fundEpochTreasury_eq_ok hexecute
  obtain ⟨-, -, hmirrors, -⟩ := opened_of_funds hbooks hfunds hfresh
  refine ⟨hheld, ?_, ?_⟩
  · intro key other hlookup
    rw [hfunds.treasuries_eq, lookup_insert_eq] at hlookup
    split_ifs at hlookup with hkey
    · cases hlookup
      subst hkey
      exact conserved_of_funds hbooks hsigners hfunds hexecute hfresh
    · refine (hbooks.conserved key other hlookup).of_frame hstep id rfl ?_ ?_
      · rw [hfunds.ledgers_eq, Finmap.lookup_insert_of_ne]
        exact fun hsame => hkey (epochLedgerAddress_inj.mp hsame)
      · rw [claimCount, hfunds.claimSlots_eq]
        rfl
  · intro key other hlookup
    rw [hfunds.ledgers_eq, lookup_insert_eq] at hlookup
    split_ifs at hlookup with hkey
    · cases hlookup
      rw [hkey]
      show _ = epochLedgerAddress ledger.epochTreasury ∧
        ∃ treasury, next.treasuries.lookup ledger.epochTreasury = some treasury
      rw [hmirrors.1, hfunds.treasuries_eq, Finmap.lookup_insert]
      exact ⟨rfl, _, rfl⟩
    · obtain ⟨haddress, stored, hstored⟩ := hbooks.ledgers key other hlookup
      refine ⟨haddress, ?_⟩
      rw [hfunds.treasuries_eq, lookup_insert_eq]
      split_ifs
      · exact ⟨_, rfl⟩
      · exact ⟨stored, hstored⟩

end Funding

section Settling

variable {accounts : SettlementAccounts} {slot : Bytes32} {amount settled refunded : Nat}
  {loaded : Settlement}

/-- A settlement adds one claim slot to its treasury and none to any other. -/
theorem claimCount_of_settles
    (hsettles : Settles accounts slot amount settled refunded world next loaded)
    (hkey : key ≠ Pubkey.default) :
    claimCount next key =
      claimCount world key + if accounts.epochTreasury = key then 1 else 0 := by
  obtain ⟨claimSlot, hclaimSlot, hnext⟩ := hsettles.claimSlots_eq
  have hold : weigh (claims key) (world.claimSlots.lookup accounts.claimSlot) = 0 := by
    have hunclaimed := hsettles.unclaimed
    rw [← hsettles.loads.claimSlotAt] at hunclaimed
    cases hlookup : world.claimSlots.lookup accounts.claimSlot with
    | none => rfl
    | some old =>
        rw [hlookup, Option.getD_some] at hunclaimed
        exact if_neg fun hsame => hkey (hsame.symm.trans hunclaimed)
  have htotal := total_insert (claims key) world.claimSlots accounts.claimSlot claimSlot
  rw [← hnext, hold] at htotal
  simp only [claims, hclaimSlot] at htotal
  exact htotal

/-- The books of the treasury a settlement is made out of. -/
theorem conserved_of_settles {input : Step} (hbooks : Books world)
    (hstep : step runtime world input = .ok next)
    (hopen : ¬ Closes accounts.epochTreasury input)
    (hdebit : debit accounts.epochTreasury input = amount)
    (hsettles : Settles accounts slot amount settled refunded world next loaded)
    (hamount : settled + refunded = amount) :
    Conserved next accounts.epochTreasury
      { loaded.treasury with
        pendingLiability := loaded.treasury.pendingLiability - amount
        settledTotal := loaded.treasury.settledTotal + settled
        refundedTotal := loaded.treasury.refundedTotal + refunded
        reimbursedTotal := loaded.treasury.reimbursedTotal + settled } := by
  have hstored := hsettles.loads.treasuryAt
  have hkey := ne_default_of_derived (program?_of_placed (hbooks.held.placed _ _ hstored))
  obtain ⟨hfunded, hreimbursed, hmirrored, hcovered⟩ := hbooks.conserved _ _ hstored
  obtain ⟨ledger, hledger, htreasury, hpending, hsettled, hrefunded, hcount⟩ := hmirrored
  rw [hsettles.loads.ledgerAt] at hledger
  cases hledger
  obtain ⟨token, htoken, hmint, howner, hcovers⟩ := hcovered
  obtain ⟨kept, hkept, hmint', howner', hloss⟩ := keeps_of_debit hstep hopen htoken howner
  rw [hdebit] at hloss
  obtain ⟨hleft, -⟩ := hsettles.pending
  have hfound := congrArg (Finmap.lookup (epochLedgerAddress accounts.epochTreasury))
    hsettles.ledgers_eq
  rw [Finmap.lookup_insert] at hfound
  refine ⟨?funded, ?reimbursed, ⟨_, hfound, ?mirrors⟩,
    ⟨kept, hkept, hmint'.trans hmint, howner'.trans howner, ?covered⟩⟩
  case mirrors =>
    refine ⟨htreasury, congrArg (· - amount) hpending, congrArg (· + settled) hsettled,
      congrArg (· + refunded) hrefunded, ?_⟩
    rw [claimCount_of_settles hsettles hkey, if_pos rfl, ← hcount]
  all_goals
    simp only
    omega

theorem books_of_settles {input : Step} (hbooks : Books world) (hheld : Held next)
    (hstep : step runtime world input = .ok next) (hopen : ∀ key, ¬ Closes key input)
    (hdebit : ∀ key, debit key input = if accounts.epochTreasury = key then amount else 0)
    (hsettles : Settles accounts slot amount settled refunded world next loaded)
    (hamount : settled + refunded = amount) : Books next := by
  refine ⟨hheld, ?_, ?_⟩
  · intro key other hlookup
    rw [hsettles.treasuries_eq, lookup_insert_eq] at hlookup
    split_ifs at hlookup with hsame
    · cases hlookup
      subst hsame
      refine conserved_of_settles hbooks hstep (hopen _) ?_ hsettles hamount
      rw [hdebit, if_pos rfl]
    · have hne : key ≠ Pubkey.default :=
        ne_default_of_derived (program?_of_placed (hbooks.held.placed key other hlookup))
      refine (hbooks.conserved key other hlookup).of_frame hstep (hopen key) ?_ ?_ ?_
      · rw [hdebit, if_neg (Ne.symm hsame)]
      · rw [hsettles.ledgers_eq, Finmap.lookup_insert_of_ne]
        exact fun h => hsame (epochLedgerAddress_inj.mp h)
      · rw [claimCount_of_settles hsettles hne, if_neg (Ne.symm hsame), Nat.add_zero]
  · have hstored : ∀ key, (∃ treasury, world.treasuries.lookup key = some treasury) →
        ∃ treasury, next.treasuries.lookup key = some treasury := by
      rintro key ⟨treasury, htreasury⟩
      rw [hsettles.treasuries_eq, lookup_insert_eq]
      split_ifs
      · exact ⟨_, rfl⟩
      · exact ⟨treasury, htreasury⟩
    intro key other hlookup
    rw [hsettles.ledgers_eq, lookup_insert_eq] at hlookup
    split_ifs at hlookup with hsame
    · cases hlookup
      obtain ⟨haddress, hthere⟩ := hbooks.ledgers _ _ hsettles.loads.ledgerAt
      exact ⟨hsame.trans haddress, hstored _ hthere⟩
    · obtain ⟨haddress, hthere⟩ := hbooks.ledgers key other hlookup
      exact ⟨haddress, hstored _ hthere⟩

end Settling

theorem books_of_close {accounts : CloseEpochTreasury} (hbooks : Books world)
    (hheld : Held next)
    (hstep : step runtime world (.tsn call (.closeEpochTreasury accounts)) = .ok next) :
    Books next := by
  have hexecute := (step_tsn_eq_ok.mp hstep).2
  obtain ⟨closed, hclosed, hone, htreasuries, hledgers, hclaimSlots, -⟩ :=
    closeEpochTreasury_eq_ok hexecute
  have haddress : accounts.epochLedger = epochLedgerAddress accounts.epochTreasury := by
    rw [(hbooks.ledgers _ closed hclosed).1, hone]
  refine ⟨hheld, ?_, ?_⟩
  · intro key treasury hlookup
    obtain ⟨hkey, hstored⟩ := lookup_of_close hexecute hlookup
    refine (hbooks.conserved key treasury hstored).of_frame hstep (Ne.symm hkey) rfl ?_ ?_
    · rw [hledgers, Finmap.lookup_erase_ne]
      rw [haddress]
      exact fun h => hkey (epochLedgerAddress_inj.mp h)
    · rw [claimCount, hclaimSlots]
      rfl
  · intro key ledger hlookup
    rw [hledgers] at hlookup
    have hkey : key ≠ accounts.epochLedger := by
      rintro rfl
      rw [Finmap.lookup_erase] at hlookup
      cases hlookup
    rw [Finmap.lookup_erase_ne hkey] at hlookup
    obtain ⟨hplaced, stored, hthere⟩ := hbooks.ledgers key ledger hlookup
    refine ⟨hplaced, stored, ?_⟩
    rw [htreasuries, Finmap.lookup_erase_ne, hthere]
    intro hsame
    exact hkey (by rw [hplaced, hsame, haddress])

/-- The books stay right when a step writes neither treasuries nor ledgers nor claim slots. -/
theorem books_of_frame {input : Step} (hbooks : Books world) (hheld : Held next)
    (hstep : step runtime world input = .ok next) (hopen : ∀ key, ¬ Closes key input)
    (hdebit : ∀ key, debit key input = 0) (hepochs : KeepsEpochs world next)
    (hclaimSlots : next.claimSlots = world.claimSlots) : Books next := by
  refine ⟨hheld, ?_, ?_⟩
  · intro key treasury hlookup
    rw [hepochs.treasuries_eq] at hlookup
    refine (hbooks.conserved key treasury hlookup).of_frame hstep (hopen key) (hdebit key) ?_ ?_
    · rw [hepochs.ledgers_eq]
    · rw [claimCount, hclaimSlots]
      rfl
  · rw [hepochs.ledgers_eq, hepochs.treasuries_eq]
    exact hbooks.ledgers

theorem books_of_step {input : Step} (hbooks : Books world)
    (hstep : step runtime world input = .ok next) (hfresh : ¬ Reopens world input) :
    Books next := by
  have hheld := held_of_step hbooks.held hstep
  cases input with
  | external call action =>
      have hkeeps := keepsProgram_of_executeExternal (step_external_eq_ok.mp hstep).2
      exact books_of_frame hbooks hheld hstep (fun _ => id) (fun _ => rfl) hkeeps.epochs
        hkeeps.claimSlots_eq
  | tsn call instruction =>
      have hexecute := (step_tsn_eq_ok.mp hstep).2
      cases instruction with
      | fundEpochTreasury accounts epochId amount =>
          exact books_of_funds hbooks hheld hstep hfresh
      | executePrivatePayout accounts args =>
          obtain ⟨_, _, _, hsettles, -⟩ := executePrivatePayout_eq_ok hexecute
          exact books_of_settles hbooks hheld hstep (fun _ => id) (fun _ => rfl) hsettles
            (Nat.add_zero _)
      | refundEpochClaim accounts args =>
          obtain ⟨_, hsettles, -⟩ := refundEpochClaim_eq_ok hexecute
          exact books_of_settles hbooks hheld hstep (fun _ => id) (fun _ => rfl) hsettles
            (Nat.zero_add _)
      | closeEpochTreasury accounts => exact books_of_close hbooks hheld hstep
      | createSettlementDna accounts args =>
          exact books_of_frame hbooks hheld hstep (fun _ => id) (fun _ => rfl)
            (keepsEpochs_of_execute hexecute trivial) (createSettlementDna_claimSlots hexecute)
      | _ =>
          exact books_of_frame hbooks hheld hstep (fun _ => id) (fun _ => rfl)
            (keepsEpochs_of_execute hexecute trivial)
            (keepsSettlements_of_execute hexecute trivial).claimSlots_eq

theorem books_of_run {history : List (World × Step)} (hlaunch : Launch start)
    (hrun : Run (step runtime) start history world)
    (hfresh : ∀ entry ∈ history, ¬ Reopens entry.1 entry.2) : Books world := by
  refine @Run.induct_of_forall _ _ _ (step runtime) start (fun world input => ¬ Reopens world input)
    (fun _ world => Books world) history world hrun hfresh (books_of_launch hlaunch) ?_
  intro history world input next hfresh hbooks hstep
  exact books_of_step hbooks hstep hfresh

section Sample

/-- The authority closes the treasury of a mint. -/
def closeStep (mint : Pubkey) : Step :=
  .tsn ⟨[authority], 6, none⟩ (.closeEpochTreasury
    ⟨authority, motherEscrowAddress, treasuryOf mint, epochLedgerAddress (treasuryOf mint),
      treasuryAuthorityAddress (treasuryOf mint), treasuryTokens mint⟩)

end Sample

end TsnProtocol.Escrow.TreasuryBooks
