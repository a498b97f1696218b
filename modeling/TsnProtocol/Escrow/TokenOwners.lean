import TsnProtocol.Escrow.Effects

/-!
Who a step can take tokens from: the owners that sign for it, and the derived authorities the
program itself signs for. All other accounts keep their mint, their owner and what they hold.
-/

namespace TsnProtocol.Escrow.TokenOwners

open Lib.Checked
open Solana.Address
open Escrow.State
open Escrow.Tokens
open Escrow.CrankerFunding
open Escrow.EpochSettlement
open Escrow.Program
open Escrow.Effects

variable {runtime : Runtime} {call : Call} {world next : World} {tokens tokens' : Tokens}
  {signers : List Pubkey} {source destination authority key : Pubkey} {amount : Nat}
  {token : TokenAccount}

/-- The account at `key` is still there, and has lost at most `amount`. -/
def Keeps (tokens : Tokens) (key : Pubkey) (token : TokenAccount) (amount : Nat) : Prop :=
  ∃ kept, tokens.lookup key = some kept ∧ kept.mint = token.mint ∧
    kept.owner = token.owner ∧ token.amount ≤ kept.amount + amount

theorem keeps_of_lookup (hlookup : tokens.lookup key = some token) :
    Keeps tokens key token 0 :=
  ⟨token, hlookup, rfl, rfl, Nat.le_refl _⟩

theorem keeps_of_transfers_beside
    (htransfers : Transfers tokens signers source destination authority amount tokens')
    (hlookup : tokens.lookup key = some token) (howner : token.owner ≠ authority) :
    Keeps tokens' key token 0 :=
  ⟨_, lookup_of_transfers htransfers hlookup howner, rfl, rfl, Nat.le_add_right _ _⟩

theorem keeps_of_transfers
    (htransfers : Transfers tokens signers source destination authority amount tokens')
    (hlookup : tokens.lookup key = some token) : Keeps tokens' key token amount := by
  refine ⟨{ token with amount := moved source destination amount key token.amount }, ?_, rfl,
    rfl, ?_⟩
  · rw [htransfers.lookup_eq, hlookup]
    rfl
  · show token.amount ≤ moved source destination amount key token.amount + amount
    unfold moved
    split_ifs
    · omega
    · omega
    · omega
    · omega

theorem Keeps.trans {between : TokenAccount} {more : Nat}
    (hfirst : tokens.lookup key = some between ∧ between.mint = token.mint ∧
      between.owner = token.owner ∧ token.amount ≤ between.amount + amount)
    (hsecond : Keeps tokens' key between more) : Keeps tokens' key token (amount + more) := by
  obtain ⟨-, hmint, howner, hleft⟩ := hfirst
  obtain ⟨kept, hkept, hmint', howner', hleft'⟩ := hsecond
  exact ⟨kept, hkept, hmint'.trans hmint, howner'.trans howner, by omega⟩

theorem lookup_of_createIfMissing {wallet mint other : Pubkey}
    (hlookup : tokens.lookup other = some token) :
    (createIfMissing tokens key wallet mint).lookup other = some token := by
  unfold createIfMissing
  split
  · rename_i hnone
    rw [Finmap.lookup_insert_of_ne, hlookup]
    rintro rfl
    rw [hnone] at hlookup
    cases hlookup
  · exact hlookup

/-- The owners a step can take tokens from. -/
def authorities : Step → List Pubkey
  | .tsn call (.withdrawCrankerFunds accounts _) =>
      vaultAuthorityAddress accounts.crankerVault :: call.signers
  | .tsn call (.executePrivatePayout accounts _) =>
      vaultAuthorityAddress accounts.crankerVault ::
        treasuryAuthorityAddress accounts.epochTreasury :: call.signers
  | .tsn call (.refundEpochClaim accounts _) =>
      treasuryAuthorityAddress accounts.epochTreasury :: call.signers
  | .tsn call (.closeEpochTreasury accounts) =>
      treasuryAuthorityAddress accounts.epochTreasury :: call.signers
  | .tsn call _ | .external call _ => call.signers

theorem initializeCrankerVault_tokens {accounts : InitializeCrankerVault}
    (hstep : initializeCrankerVault runtime call accounts world = .ok next) :
    accounts.vaultTokenAccount = vaultTokenAddress accounts.crankerVault ∧
      accounts.vaultAuthority = vaultAuthorityAddress accounts.crankerVault ∧
      world.tokens.lookup accounts.vaultTokenAccount = none ∧
      next.tokens = world.tokens.insert accounts.vaultTokenAccount
        ⟨accounts.tokenMint, accounts.vaultAuthority, 0⟩ := by
  simp only [initializeCrankerVault, bind_eq_ok, load_eq_ok, require_eq_ok, derivedAt_eq_ok,
    vacant_eq_ok, pure_eq_ok] at hstep
  obtain ⟨_, -, _, -, _, -, _, -, _, -, _, -, _, hauthority, _, ⟨htoken, hfresh⟩, rfl⟩ := hstep
  exact ⟨htoken, hauthority, hfresh, rfl⟩

theorem fundCranker_tokens {accounts : FundCranker}
    (hstep : fundCranker runtime call accounts amount world = .ok next) :
    Transfers world.tokens call.signers accounts.funderTokenAccount
      accounts.vaultTokenAccount accounts.funder amount next.tokens := by
  simp only [fundCranker, bind_eq_ok, pure_eq_ok] at hstep
  obtain ⟨_, -, ⟨cranker, vault⟩, -, _, -, _, -, _, -, _, -, _, -, hstep⟩ := hstep
  obtain ⟨_, -, _, -, tokens, htokens, _, -, _, -, _, -, _, -, _, -, rfl⟩ := hstep
  exact transfer_eq_ok htokens

theorem withdrawCrankerFunds_tokens {accounts : WithdrawCrankerFunds}
    (hstep : withdrawCrankerFunds runtime call accounts amount world = .ok next) :
    Transfers world.tokens (vaultAuthorityAddress accounts.crankerVault :: call.signers)
      accounts.vaultTokenAccount accounts.funderTokenAccount
      (vaultAuthorityAddress accounts.crankerVault) amount next.tokens := by
  simp only [withdrawCrankerFunds, bind_eq_ok, seeds_eq_ok, pure_eq_ok] at hstep
  obtain ⟨_, -, ⟨cranker, vault⟩, -, _, ⟨hauthority, -⟩, _, -, _, -, _, -, _, -, hstep⟩ :=
    hstep
  obtain ⟨_, -, _, -, _, -, _, -, burned, -, tokens, htokens, _, -, _, -, _, -, _, -, _, -,
    rfl⟩ := hstep
  exact hauthority ▸ transfer_eq_ok htokens

theorem fundEpochTreasury_tokens {accounts : FundEpochTreasury} {epochId : Nat}
    (hstep : fundEpochTreasury runtime call accounts epochId amount world = .ok next) :
    ∃ opened, openAssociated world.tokens accounts.treasuryTokenAccount
        (treasuryAuthorityAddress accounts.epochTreasury) accounts.tokenMint = .ok opened ∧
      Transfers opened call.signers accounts.funderTokenAccount
        accounts.treasuryTokenAccount accounts.funder amount next.tokens := by
  simp only [fundEpochTreasury, bind_eq_ok, derivedAt_eq_ok, pure_eq_ok] at hstep
  obtain ⟨_, -, _, -, _, -, _, -, _, -, _, -, _, -, _, -, _, hauthority, hstep⟩ := hstep
  obtain ⟨opened, hopened, _, -, _, -, _, -, _, -, _, -, tokens, htokens, _, -, _, -, _, -,
    rfl⟩ := hstep
  exact ⟨opened, hauthority ▸ hopened, transfer_eq_ok htokens⟩

theorem payoutTransfers_eq_ok {accounts : ExecutePrivatePayout}
    (hpaid : payoutTransfers call accounts amount tokens = .ok tokens') :
    ∃ paid,
      Transfers (createIfMissing tokens accounts.recipientTokenAccount
        accounts.recipientWallet accounts.tokenMint) (accounts.vaultAuthority :: call.signers)
        accounts.vaultTokenAccount accounts.recipientTokenAccount accounts.vaultAuthority
        amount paid ∧
      Transfers paid (accounts.treasuryAuthority :: call.signers)
        accounts.treasuryTokenAccount accounts.vaultTokenAccount accounts.treasuryAuthority
        amount tokens' := by
  simp only [payoutTransfers, bind_eq_ok] at hpaid
  obtain ⟨paid, hfirst, hsecond⟩ := hpaid
  exact ⟨paid, transfer_eq_ok hfirst, transfer_eq_ok hsecond⟩

theorem closeEpochTreasury_tokens {accounts : CloseEpochTreasury}
    (hstep : closeEpochTreasury call accounts world = .ok next) :
    ∃ closed, world.tokens.lookup accounts.treasuryTokenAccount = some closed ∧
      closed.owner = treasuryAuthorityAddress accounts.epochTreasury ∧
        next.tokens = world.tokens.erase accounts.treasuryTokenAccount := by
  simp only [closeEpochTreasury, bind_eq_ok, load_eq_ok, require_eq_ok, derivedAt_eq_ok,
    pure_eq_ok] at hstep
  obtain ⟨_, -, _, -, _, -, _, -, _, -, _, -, _, -, _, hauthority, token, htoken, _, -, _, -,
    _, howner, rfl⟩ := hstep
  exact ⟨token, htoken, howner.trans hauthority, rfl⟩

/-- The instructions that move no tokens. -/
def MovesNothing : Instruction → Prop
  | .registerCranker _ | .setCrankerFundingPolicy _ _ | .configurePrivateSettlement _ _ _
  | .createSettlementDna _ _ => True
  | _ => False

theorem tokens_of_execute {instruction : Instruction}
    (hexecute : execute runtime call instruction world = .ok next)
    (hinstruction : MovesNothing instruction) : next.tokens = world.tokens := by
  revert hexecute
  suffices Ensures (fun next => next.tokens = world.tokens)
    (execute runtime call instruction world) from this next
  cases instruction
  case registerCranker | setCrankerFundingPolicy | configurePrivateSettlement
    | createSettlementDna =>
    simp only [execute, registerCranker, setCrankerFundingPolicy, configurePrivateSettlement,
      createSettlementDna]
    repeat' first
      | exact ensures_pure rfl
      | refine ensures_bind fun _ _ => ?_
  all_goals exact absurd hinstruction id

theorem ne_of_notMem {signer owner : Pubkey} {signers : List Pubkey}
    (howner : owner ∉ signers) (hsigner : signer ∈ signers) : owner ≠ signer := by
  rintro rfl
  exact howner hsigner

theorem keeps_of_executeExternal {action : ExternalAction}
    (hexecute : executeExternal call action world = .ok next)
    (hlookup : world.tokens.lookup key = some token) (howner : token.owner ∉ call.signers) :
    Keeps next.tokens key token 0 := by
  cases action with
  | writeMotherEscrow data =>
      cases hexecute
      exact keeps_of_lookup hlookup
  | createMint mint =>
      cases hexecute
      exact keeps_of_lookup hlookup
  | mintTo destination amount =>
      simp only [executeExternal, bind_eq_ok, load_eq_ok, require_eq_ok, pure_eq_ok] at hexecute
      obtain ⟨credited, hcredited, _, -, rfl⟩ := hexecute
      by_cases hkey : key = destination
      · subst hkey
        rw [hlookup] at hcredited
        cases hcredited
        exact ⟨_, Finmap.lookup_insert _, rfl, rfl, Nat.le_add_right _ _⟩
      · exact keeps_of_lookup (by rw [Finmap.lookup_insert_of_ne _ hkey, hlookup])
  | transfer source destination authority amount =>
      simp only [executeExternal, bind_eq_ok, pure_eq_ok] at hexecute
      obtain ⟨tokens, htransfer, rfl⟩ := hexecute
      have htransfers := transfer_eq_ok htransfer
      exact keeps_of_transfers_beside htransfers hlookup
        (ne_of_notMem howner htransfers.signed)
  | openToken opened mint owner =>
      simp only [executeExternal, bind_eq_ok, require_eq_ok, pure_eq_ok] at hexecute
      obtain ⟨_, -, _, hnone, rfl⟩ := hexecute
      refine keeps_of_lookup ?_
      rw [Finmap.lookup_insert_of_ne, hlookup]
      rintro rfl
      rw [hnone] at hlookup
      cases hlookup
  | openAssociated wallet mint =>
      simp only [executeExternal, bind_eq_ok, pure_eq_ok] at hexecute
      obtain ⟨tokens, hopen, rfl⟩ := hexecute
      exact keeps_of_lookup ((openAssociated_eq_ok hopen).2.2.1 key token hlookup)
  | setOwner changed owner =>
      simp only [executeExternal, bind_eq_ok, load_eq_ok, require_eq_ok, pure_eq_ok] at hexecute
      obtain ⟨old, hold, _, hsigned, rfl⟩ := hexecute
      refine keeps_of_lookup ?_
      rw [Finmap.lookup_insert_of_ne, hlookup]
      rintro rfl
      rw [hold] at hlookup
      cases hlookup
      exact howner hsigned
  | closeToken closed =>
      simp only [executeExternal, bind_eq_ok, load_eq_ok, require_eq_ok, pure_eq_ok] at hexecute
      obtain ⟨old, hold, _, ⟨hsigned, -⟩, rfl⟩ := hexecute
      refine keeps_of_lookup ?_
      rw [Finmap.lookup_erase_ne, hlookup]
      rintro rfl
      rw [hold] at hlookup
      cases hlookup
      exact howner hsigned

/-- A step takes nothing from an account whose owner it has no authority of. -/
theorem keeps_of_step {input : Step} (hstep : step runtime world input = .ok next)
    (hlookup : world.tokens.lookup key = some token) (howner : token.owner ∉ authorities input) :
    Keeps next.tokens key token 0 := by
  cases input with
  | external call action =>
      exact keeps_of_executeExternal (step_external_eq_ok.mp hstep).2 hlookup howner
  | tsn call instruction =>
      have hexecute := (step_tsn_eq_ok.mp hstep).2
      cases instruction with
      | initializeCrankerVault accounts =>
          obtain ⟨-, -, hfresh, hnext⟩ := initializeCrankerVault_tokens hexecute
          refine keeps_of_lookup ?_
          rw [hnext, Finmap.lookup_insert_of_ne, hlookup]
          rintro rfl
          rw [hfresh] at hlookup
          cases hlookup
      | fundCranker accounts amount =>
          have htransfers := fundCranker_tokens hexecute
          exact keeps_of_transfers_beside htransfers hlookup
            (ne_of_notMem howner htransfers.signed)
      | withdrawCrankerFunds accounts amount =>
          exact keeps_of_transfers_beside (withdrawCrankerFunds_tokens hexecute) hlookup
            (ne_of_notMem howner List.mem_cons_self)
      | fundEpochTreasury accounts epochId amount =>
          obtain ⟨opened, hopened, htransfers⟩ := fundEpochTreasury_tokens hexecute
          exact keeps_of_transfers_beside htransfers
            ((openAssociated_eq_ok hopened).2.2.1 key token hlookup)
            (ne_of_notMem howner htransfers.signed)
      | executePrivatePayout accounts args =>
          obtain ⟨loaded, cranker, vault, hsettles, hpays⟩ := executePrivatePayout_eq_ok hexecute
          obtain ⟨paid, hfirst, hsecond⟩ := payoutTransfers_eq_ok hpays.transfers
          have hpaid := keeps_of_transfers_beside hfirst (lookup_of_createIfMissing hlookup)
            (ne_of_notMem howner (hpays.authority ▸ List.mem_cons_self))
          obtain ⟨kept, hkept, hmint, howner', hleft⟩ := hpaid
          refine Keeps.trans ⟨hkept, hmint, howner', hleft⟩
            (keeps_of_transfers_beside hsecond hkept ?_)
          rw [howner', hsettles.loads.authority]
          exact ne_of_notMem howner (List.mem_cons_of_mem _ List.mem_cons_self)
      | refundEpochClaim accounts args =>
          obtain ⟨loaded, hsettles, hrefunds⟩ := refundEpochClaim_eq_ok hexecute
          refine keeps_of_transfers_beside (transfer_eq_ok hrefunds.transfers)
            (lookup_of_createIfMissing hlookup) ?_
          rw [hsettles.loads.authority]
          exact ne_of_notMem howner List.mem_cons_self
      | closeEpochTreasury accounts =>
          obtain ⟨closed, hclosed, hauthority, hnext⟩ := closeEpochTreasury_tokens hexecute
          refine keeps_of_lookup ?_
          rw [hnext, Finmap.lookup_erase_ne, hlookup]
          rintro rfl
          rw [hclosed] at hlookup
          cases hlookup
          exact howner (hauthority ▸ List.mem_cons_self)
      | _ =>
          refine keeps_of_lookup ?_
          rw [tokens_of_execute hexecute trivial, hlookup]

end TsnProtocol.Escrow.TokenOwners
