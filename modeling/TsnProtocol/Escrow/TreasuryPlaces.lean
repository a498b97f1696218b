import TsnProtocol.Escrow.SingleSettlement
import TsnProtocol.Escrow.TokenOwners

/-!
Where the treasuries of a run lie, and which token accounts are theirs. Only the program signs
for a treasury, so nothing but a settlement out of it takes tokens from its account.
-/

namespace TsnProtocol.Escrow.TreasuryPlaces

open Lib.Checked
open Lib.FiniteStore
open Lib.Transition
open Solana.Address
open Escrow.State
open Escrow.Tokens
open Escrow.CrankerFunding
open Escrow.EpochSettlement
open Escrow.Program
open Escrow.Effects
open Escrow.SingleSettlement
open Escrow.TokenOwners

variable {runtime : Runtime} {call : Call} {world next start : World} {key : Pubkey}
  {treasury : EpochTreasury} {ledger : EpochSettlementLedger}

/-- A treasury lies at the address of its escrow, epoch and mint. -/
def Placed (key : Pubkey) (treasury : EpochTreasury) : Prop :=
  key = epochTreasuryAddress treasury.motherEscrow treasury.epochId treasury.tokenMint ∧
    treasury.motherEscrow ≠ Pubkey.default

/-- The token account of a treasury is there, with its mint and its authority. -/
def Holds (tokens : Tokens) (key : Pubkey) (treasury : EpochTreasury) : Prop :=
  ∃ token, tokens.lookup treasury.tokenAccount = some token ∧
    token.mint = treasury.tokenMint ∧ token.owner = treasuryAuthorityAddress key

/-- The invariant of a run: treasuries lie at their addresses and hold their accounts. -/
structure Held (world : World) : Prop where
  mothers : MotherPlaced world
  placed : ∀ key treasury, world.treasuries.lookup key = some treasury → Placed key treasury
  holds : ∀ key treasury, world.treasuries.lookup key = some treasury →
    Holds world.tokens key treasury

theorem held_of_launch (hlaunch : Launch start) : Held start := by
  refine ⟨motherPlaced_of_launch hlaunch, ?_, ?_⟩
  · intro key treasury hlookup
    rw [hlaunch.treasuries, Finmap.lookup_empty] at hlookup
    cases hlookup
  · intro key treasury hlookup
    rw [hlaunch.treasuries, Finmap.lookup_empty] at hlookup
    cases hlookup

theorem program?_of_placed (hplaced : Placed key treasury) :
    key.program? = some tsnProgram := by
  rw [hplaced.1]
  exact program?_findProgramAddress _ _ _

/-- Nobody but the program signs for the authority of a treasury. -/
theorem treasuryAuthority_notMem_signers (hsigners : NoProgramSigner call) (key : Pubkey) :
    treasuryAuthorityAddress key ∉ call.signers := fun hsigner =>
  (hsigners _ hsigner).1 (program?_findProgramAddress _ _ _)

section Funding

variable {accounts : FundEpochTreasury} {epochId amount : Nat}

/-- What funding a treasury finds and does. -/
structure Funds (runtime : Runtime) (call : Call) (accounts : FundEpochTreasury)
    (epochId amount : Nat) (world next : World) (treasury : EpochTreasury)
    (ledger : EpochSettlementLedger) : Prop where
  motherAt : ∃ mother, world.motherEscrows.lookup accounts.motherEscrow = some mother
  address : accounts.epochTreasury =
    epochTreasuryAddress accounts.motherEscrow epochId accounts.tokenMint
  treasury_eq : openTreasury runtime accounts epochId
    ((world.treasuries.lookup accounts.epochTreasury).getD EpochTreasury.zeroed) = treasury
  ledger_eq : openLedger runtime accounts epochId
    ((world.ledgers.lookup (epochLedgerAddress accounts.epochTreasury)).getD
      EpochSettlementLedger.zeroed) = ledger
  tokenAccount : treasury.tokenAccount = accounts.treasuryTokenAccount
  motherEscrows_eq : next.motherEscrows = world.motherEscrows
  claimSlots_eq : next.claimSlots = world.claimSlots
  treasuries_eq : next.treasuries = world.treasuries.insert accounts.epochTreasury
    { treasury with
      totalFunded := treasury.totalFunded + amount
      pendingLiability := treasury.pendingLiability + amount }
  ledgers_eq : next.ledgers = world.ledgers.insert (epochLedgerAddress accounts.epochTreasury)
    { ledger with pendingTotal := ledger.pendingTotal + amount }

theorem fundEpochTreasury_eq_ok
    (hstep : fundEpochTreasury runtime call accounts epochId amount world = .ok next) :
    ∃ treasury ledger, Funds runtime call accounts epochId amount world next treasury ledger := by
  simp only [fundEpochTreasury, bind_eq_ok, load_eq_ok, require_eq_ok, derivedAt_eq_ok,
    loadOrInit_eq_ok, check_eq_ok, addU64_eq_ok, pure_eq_ok] at hstep
  obtain ⟨_, -, mother, hmother, _, -, _, -, _, -, _, -, _, ⟨haddress, rfl⟩, _, ⟨hledger, rfl⟩,
    hstep⟩ := hstep
  obtain ⟨_, -, opened, -, _, -, _, -, _, -, _, -, _, haccount, tokens, -, hstep⟩ := hstep
  obtain ⟨_, ⟨-, rfl⟩, _, ⟨-, rfl⟩, _, ⟨-, rfl⟩, rfl⟩ := hstep
  rw [hledger] at *
  exact ⟨_, _, ⟨mother, hmother⟩, haddress, rfl, rfl, haccount, rfl, rfl, rfl, rfl⟩

theorem openTreasury_of_stored (hmother : treasury.motherEscrow ≠ Pubkey.default) :
    openTreasury runtime accounts epochId treasury = treasury :=
  if_neg hmother

theorem openLedger_of_stored (hledger : ledger.epochTreasury ≠ Pubkey.default) :
    openLedger runtime accounts epochId ledger = ledger :=
  if_neg hledger

/-- The treasury a deposit goes to is one that is there, or a new one at its address. -/
theorem stored_or_fresh_of_funds (hheld : Held world)
    (hfunds : Funds runtime call accounts epochId amount world next treasury ledger) :
    world.treasuries.lookup accounts.epochTreasury = some treasury ∨
      world.treasuries.lookup accounts.epochTreasury = none ∧
        treasury = openTreasury runtime accounts epochId EpochTreasury.zeroed := by
  have htreasury := hfunds.treasury_eq
  cases hlookup : world.treasuries.lookup accounts.epochTreasury with
  | some stored =>
      rw [hlookup, Option.getD_some,
        openTreasury_of_stored (hheld.placed _ stored hlookup).2] at htreasury
      exact .inl (htreasury ▸ rfl)
  | none =>
      rw [hlookup, Option.getD_none] at htreasury
      exact .inr ⟨rfl, htreasury.symm⟩

theorem placed_of_funds (hheld : Held world)
    (hfunds : Funds runtime call accounts epochId amount world next treasury ledger) :
    Placed accounts.epochTreasury treasury := by
  rcases stored_or_fresh_of_funds hheld hfunds with hstored | ⟨-, rfl⟩
  · exact hheld.placed _ treasury hstored
  · obtain ⟨mother, hmother⟩ := hfunds.motherAt
    exact ⟨hfunds.address, ne_default_of_motherPlaced hheld.mothers hmother⟩

/-- The account a deposit goes to, and what it holds afterwards. -/
theorem credited_of_funds (hheld : Held world) (hsigners : NoProgramSigner call)
    (hfunds : Funds runtime call accounts epochId amount world next treasury ledger)
    (hstep : fundEpochTreasury runtime call accounts epochId amount world = .ok next) :
    ∃ token, next.tokens.lookup treasury.tokenAccount = some token ∧
      token.mint = treasury.tokenMint ∧
      token.owner = treasuryAuthorityAddress accounts.epochTreasury ∧
      amount ≤ token.amount ∧
      ∀ before, world.treasuries.lookup accounts.epochTreasury = some treasury →
        world.tokens.lookup treasury.tokenAccount = some before →
          before.amount + amount ≤ token.amount := by
  obtain ⟨opened, hopen, htransfers⟩ := fundEpochTreasury_tokens hstep
  obtain ⟨-, ⟨token, htoken, hmint, howner⟩, hkept, -⟩ := openAssociated_eq_ok hopen
  rw [← hfunds.tokenAccount] at htoken
  have hfunder : token.owner ≠ accounts.funder := by
    rw [howner]
    exact ne_of_notMem (treasuryAuthority_notMem_signers hsigners _) htransfers.signed
  refine ⟨_, lookup_of_transfers htransfers htoken hfunder, ?_, howner, ?_, ?_⟩
  · show token.mint = treasury.tokenMint
    rcases stored_or_fresh_of_funds hheld hfunds with hstored | ⟨-, rfl⟩
    · obtain ⟨before, hbefore, hmint', -⟩ := hheld.holds _ treasury hstored
      rw [hkept _ before hbefore] at htoken
      cases htoken
      exact hmint'
    · exact hmint
  · show amount ≤ token.amount + _
    rw [if_pos hfunds.tokenAccount]
    exact Nat.le_add_left _ _
  · intro before hstored hbefore
    rw [hkept _ before hbefore] at htoken
    cases htoken
    show token.amount + amount ≤ token.amount + _
    rw [if_pos hfunds.tokenAccount]

end Funding

theorem closeEpochTreasury_eq_ok
    (hstep : closeEpochTreasury call accounts world = .ok next) :
    ∃ ledger, world.ledgers.lookup accounts.epochLedger = some ledger ∧
      ledger.epochTreasury = accounts.epochTreasury ∧
      next.treasuries = world.treasuries.erase accounts.epochTreasury ∧
      next.ledgers = world.ledgers.erase accounts.epochLedger ∧
      next.claimSlots = world.claimSlots ∧ next.motherEscrows = world.motherEscrows := by
  simp only [closeEpochTreasury, bind_eq_ok, load_eq_ok, require_eq_ok, derivedAt_eq_ok,
    pure_eq_ok] at hstep
  obtain ⟨_, -, mother, -, _, -, treasury, -, _, -, ledger, hledger, _, hone, hstep⟩ := hstep
  obtain ⟨_, -, token, -, _, -, _, -, _, -, rfl⟩ := hstep
  exact ⟨ledger, hledger, hone, rfl, rfl, rfl, rfl⟩

/-- What a step takes out of the account of a treasury. -/
def debit (key : Pubkey) : Step → Nat
  | .tsn _ (.executePrivatePayout accounts args) =>
      if accounts.epochTreasury = key then args.payoutAmount else 0
  | .tsn _ (.refundEpochClaim accounts args) =>
      if accounts.epochTreasury = key then args.refundAmount else 0
  | _ => 0

/-- The step closes the treasury. -/
def Closes (key : Pubkey) : Step → Prop
  | .tsn _ (.closeEpochTreasury accounts) => accounts.epochTreasury = key
  | _ => False

/-- Unless it closes the treasury, a step leaves the account of a treasury there and takes no
more from it than the amount of its settlement. -/
theorem keeps_of_debit {input : Step} {account : Pubkey} {token : TokenAccount}
    (hstep : step runtime world input = .ok next) (hopen : ¬ Closes key input)
    (hlookup : world.tokens.lookup account = some token)
    (howner : token.owner = treasuryAuthorityAddress key) :
    Keeps next.tokens account token (debit key input) := by
  cases input with
  | external call action =>
      refine keeps_of_step hstep hlookup ?_
      rw [howner]
      exact treasuryAuthority_notMem_signers (step_external_eq_ok.mp hstep).1 key
  | tsn call instruction =>
      obtain ⟨hsigners, hexecute⟩ := step_tsn_eq_ok.mp hstep
      have hunsigned := treasuryAuthority_notMem_signers hsigners key
      cases instruction with
      | withdrawCrankerFunds accounts amount =>
          refine keeps_of_step hstep hlookup ?_
          rw [howner, authorities, List.mem_cons, not_or]
          exact ⟨treasuryAuthorityAddress_ne_vaultAuthorityAddress _ _, hunsigned⟩
      | executePrivatePayout accounts args =>
          obtain ⟨loaded, cranker, vault, hsettles, hpays⟩ := executePrivatePayout_eq_ok hexecute
          rw [debit]
          split_ifs with hkey
          · obtain ⟨paid, hfirst, hsecond⟩ := payoutTransfers_eq_ok hpays.transfers
            have hvault : token.owner ≠ accounts.vaultAuthority := by
              rw [howner, hpays.authority]
              exact treasuryAuthorityAddress_ne_vaultAuthorityAddress _ _
            have hpaid := lookup_of_transfers hfirst (lookup_of_createIfMissing hlookup) hvault
            obtain ⟨kept, hkept, hmint, howner', hloss⟩ := keeps_of_transfers hsecond hpaid
            exact ⟨kept, hkept, hmint, howner', le_trans (Nat.le_add_right _ _) hloss⟩
          · refine keeps_of_step hstep hlookup ?_
            rw [howner, authorities, List.mem_cons, List.mem_cons, not_or, not_or]
            exact ⟨treasuryAuthorityAddress_ne_vaultAuthorityAddress _ _,
              fun h => hkey (treasuryAuthorityAddress_inj.mp h).symm, hunsigned⟩
      | refundEpochClaim accounts args =>
          obtain ⟨loaded, hsettles, hrefunds⟩ := refundEpochClaim_eq_ok hexecute
          rw [debit]
          split_ifs with hkey
          · exact keeps_of_transfers (transfer_eq_ok hrefunds.transfers)
              (lookup_of_createIfMissing hlookup)
          · refine keeps_of_step hstep hlookup ?_
            rw [howner, authorities, List.mem_cons, not_or]
            exact ⟨fun h => hkey (treasuryAuthorityAddress_inj.mp h).symm, hunsigned⟩
      | closeEpochTreasury accounts =>
          refine keeps_of_step hstep hlookup ?_
          rw [howner, authorities, List.mem_cons, not_or]
          exact ⟨fun h => hopen (treasuryAuthorityAddress_inj.mp h).symm, hunsigned⟩
      | _ =>
          refine keeps_of_step hstep hlookup ?_
          rw [howner]
          exact hunsigned

/-- The treasuries agree in what their address and their account are derived from. -/
def SamePlace (old treasury : EpochTreasury) : Prop :=
  treasury.motherEscrow = old.motherEscrow ∧ treasury.epochId = old.epochId ∧
    treasury.tokenMint = old.tokenMint ∧ treasury.tokenAccount = old.tokenAccount

theorem place_of_settles {accounts : SettlementAccounts} {slot : Bytes32}
    {amount settled refunded : Nat} {loaded : Settlement}
    (hsettles : Settles accounts slot amount settled refunded world next loaded)
    (hlookup : next.treasuries.lookup key = some treasury) :
    ∃ old, world.treasuries.lookup key = some old ∧ SamePlace old treasury := by
  rw [hsettles.treasuries_eq, lookup_insert_eq] at hlookup
  split_ifs at hlookup with hkey
  · cases hlookup
    subst hkey
    exact ⟨loaded.treasury, hsettles.loads.treasuryAt, rfl, rfl, rfl, rfl⟩
  · exact ⟨treasury, hlookup, rfl, rfl, rfl, rfl⟩

theorem lookup_of_close {accounts : CloseEpochTreasury}
    (hstep : closeEpochTreasury call accounts world = .ok next)
    (hlookup : next.treasuries.lookup key = some treasury) :
    key ≠ accounts.epochTreasury ∧ world.treasuries.lookup key = some treasury := by
  obtain ⟨closed, -, -, htreasuries, -⟩ := closeEpochTreasury_eq_ok hstep
  rw [htreasuries] at hlookup
  have hkey : key ≠ accounts.epochTreasury := by
    rintro rfl
    rw [Finmap.lookup_erase] at hlookup
    cases hlookup
  rw [Finmap.lookup_erase_ne hkey] at hlookup
  exact ⟨hkey, hlookup⟩

/-- A treasury after a step was there before, or has just been funded for the first time. -/
theorem place_of_step {input : Step} (hheld : Held world)
    (hstep : step runtime world input = .ok next)
    (hlookup : next.treasuries.lookup key = some treasury) :
    (∃ old, world.treasuries.lookup key = some old ∧ SamePlace old treasury) ∨
      Placed key treasury ∧ Holds next.tokens key treasury := by
  have hkept : KeepsEpochs world next →
      ∃ old, world.treasuries.lookup key = some old ∧ SamePlace old treasury := by
    intro hkeeps
    exact ⟨treasury, hkeeps.treasuries_eq ▸ hlookup, rfl, rfl, rfl, rfl⟩
  cases input with
  | external call action =>
      exact .inl (hkept (keepsProgram_of_executeExternal (step_external_eq_ok.mp hstep).2).epochs)
  | tsn call instruction =>
      obtain ⟨hsigners, hexecute⟩ := step_tsn_eq_ok.mp hstep
      cases instruction with
      | fundEpochTreasury accounts epochId amount =>
          obtain ⟨funded, ledger, hfunds⟩ := fundEpochTreasury_eq_ok hexecute
          rw [hfunds.treasuries_eq, lookup_insert_eq] at hlookup
          split_ifs at hlookup with hkey
          · cases hlookup
            subst hkey
            obtain ⟨token, htoken, hmint, howner, -⟩ :=
              credited_of_funds hheld hsigners hfunds hexecute
            have hplaced := placed_of_funds hheld hfunds
            exact .inr ⟨hplaced, token, htoken, hmint, howner⟩
          · exact .inl ⟨treasury, hlookup, rfl, rfl, rfl, rfl⟩
      | executePrivatePayout accounts args =>
          obtain ⟨_, _, _, hsettles, -⟩ := executePrivatePayout_eq_ok hexecute
          exact .inl (place_of_settles hsettles hlookup)
      | refundEpochClaim accounts args =>
          obtain ⟨_, hsettles, -⟩ := refundEpochClaim_eq_ok hexecute
          exact .inl (place_of_settles hsettles hlookup)
      | closeEpochTreasury accounts =>
          exact .inl ⟨treasury, (lookup_of_close hexecute hlookup).2, rfl, rfl, rfl, rfl⟩
      | _ => exact .inl (hkept (keepsEpochs_of_execute hexecute trivial))

/-- A step that closes a treasury leaves none there. -/
theorem not_closes_of_lookup {input : Step} (hstep : step runtime world input = .ok next)
    (hlookup : next.treasuries.lookup key = some treasury) : ¬ Closes key input := by
  cases input with
  | external call action => exact id
  | tsn call instruction =>
      cases instruction with
      | closeEpochTreasury accounts =>
          exact fun hcloses =>
            (lookup_of_close (step_tsn_eq_ok.mp hstep).2 hlookup).1 hcloses.symm
      | _ => exact id

theorem held_of_step {input : Step} (hheld : Held world)
    (hstep : step runtime world input = .ok next) : Held next := by
  refine ⟨motherPlaced_of_step hheld.mothers hstep, ?_, ?_⟩
  · intro key treasury hlookup
    rcases place_of_step hheld hstep hlookup with ⟨old, hold, hmother, hepoch, hmint, -⟩ | hnew
    · rw [Placed, hmother, hepoch, hmint]
      exact hheld.placed key old hold
    · exact hnew.1
  · intro key treasury hlookup
    rcases place_of_step hheld hstep hlookup with ⟨old, hold, -, -, hmint, haccount⟩ | hnew
    · obtain ⟨token, htoken, hmint', howner⟩ := hheld.holds key old hold
      obtain ⟨kept, hkept, hmint'', howner', -⟩ :=
        keeps_of_debit hstep (not_closes_of_lookup hstep hlookup) htoken howner
      rw [Holds, haccount, hmint]
      exact ⟨kept, hkept, hmint''.trans hmint', howner'.trans howner⟩
    · exact hnew.2

theorem held_of_run {history : List (World × Step)} (hlaunch : Launch start)
    (hrun : Run (step runtime) start history world) : Held world := by
  refine hrun.induct_on (fun _ world => Held world) (held_of_launch hlaunch) ?_
  intro history world input next _ hheld hstep
  exact held_of_step hheld hstep

end TsnProtocol.Escrow.TreasuryPlaces
