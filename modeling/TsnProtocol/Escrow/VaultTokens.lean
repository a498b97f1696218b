import TsnProtocol.Escrow.SingleSettlement
import TsnProtocol.Escrow.TokenOwners

/-!
The token accounts of cranker vaults. Every change of what one holds is a deposit or a
withdrawal of a funder, or a transfer into it that the program takes no part in: a payout
leaves it as it was.
-/

namespace TsnProtocol.Escrow.VaultTokens

open Lib.Checked
open Lib.FiniteStore
open Lib.Transition
open Solana.Address
open Escrow.State
open Escrow.Tokens
open Escrow.CrankerFunding
open Escrow.EpochSettlement
open Escrow.Program
open Escrow.Effects
open Escrow.SingleSettlement
open Escrow.TokenOwners

variable {runtime : Runtime} {call : Call} {world next start : World} {key : Pubkey}
  {amount : Nat} {tokens tokens' : Tokens} {signers : List Pubkey}
  {source destination authority : Pubkey} {token : TokenAccount}

section Funding

/-- What funding a vault finds and does. -/
structure Deposits (runtime : Runtime) (call : Call) (accounts : FundCranker) (amount : Nat)
    (world next : World) (vault : CrankerVault) (position : LiquidityPosition)
    (minted : Nat) : Prop where
  vaultAt : world.vaults.lookup accounts.crankerVault = some vault
  account : vault.vaultTokenAccount = accounts.vaultTokenAccount
  signed : accounts.funder ∈ call.signers
  positionAddress : accounts.liquidityPosition =
    liquidityPositionAddress accounts.crankerVault accounts.funder
  position_eq : openPosition runtime call accounts
    ((world.positions.lookup accounts.liquidityPosition).getD LiquidityPosition.zeroed) =
      position
  minted_eq : mintedShares vault amount = .ok minted
  bounded : vault.totalLiquidity + amount < 2 ^ 64
  transfers : Transfers world.tokens call.signers accounts.funderTokenAccount
    accounts.vaultTokenAccount accounts.funder amount next.tokens
  crankers_eq : next.crankers = world.crankers
  positions_eq : next.positions = world.positions.insert accounts.liquidityPosition
    { position with
      principalAmount := position.principalAmount + minted
      updatedAtTs := call.now }
  vaults_eq : next.vaults = world.vaults.insert accounts.crankerVault
    { vault with
      totalLiquidity := vault.totalLiquidity + amount
      totalShares := vault.totalShares + minted }

theorem fundCranker_eq_ok {accounts : FundCranker}
    (hstep : fundCranker runtime call accounts amount world = .ok next) :
    ∃ vault position minted,
      Deposits runtime call accounts amount world next vault position minted := by
  simp only [fundCranker, loadVault, bind_eq_ok, load_eq_ok, signer_eq_ok, require_eq_ok,
    loadOrInit_eq_ok, check_eq_ok, addU64_eq_ok, pure_eq_ok] at hstep
  obtain ⟨_, hsigned, ⟨cranker, vault⟩, hvault, _, -, _, -, _, -, _, -, _, -, hstep⟩ := hstep
  obtain ⟨_, -, _, -, _, -, stored, hstored, _, -, _, -, _, haccount, hpair⟩ := hvault
  cases hpair
  obtain ⟨_, ⟨haddress, rfl⟩, _, -, tokens, htokens, minted, hminted, _, -, hstep⟩ := hstep
  obtain ⟨_, ⟨-, rfl⟩, _, ⟨hbounded, rfl⟩, _, ⟨-, rfl⟩, rfl⟩ := hstep
  exact ⟨_, _, _, hstored, haccount, hsigned, haddress, rfl, hminted, hbounded,
    transfer_eq_ok htokens, rfl, rfl, rfl⟩

/-- What a withdrawal finds and does. -/
structure Withdraws (call : Call) (accounts : WithdrawCrankerFunds) (amount : Nat)
    (world next : World) (vault : CrankerVault) (position : LiquidityPosition)
    (vaultToken : TokenAccount) (burned : Nat) : Prop where
  vaultAt : world.vaults.lookup accounts.crankerVault = some vault
  account : vault.vaultTokenAccount = accounts.vaultTokenAccount
  signed : accounts.funder ∈ call.signers
  vaultTokenAt : world.tokens.lookup accounts.vaultTokenAccount = some vaultToken
  wallet : ∃ token, world.tokens.lookup accounts.funderTokenAccount = some token ∧
    token.owner = accounts.funder ∧ token.mint = vault.tokenMint
  positionAt : world.positions.lookup accounts.liquidityPosition = some position
  positionVault : position.crankerVault = accounts.crankerVault
  positionFunder : position.funder = accounts.funder
  burned_eq : sharesToBurn vault position.principalAmount vaultToken.amount amount = .ok burned
  covered : burned ≤ position.principalAmount ∧ amount ≤ vault.totalLiquidity ∧
    burned ≤ vault.totalShares
  counted : vault.totalWithdrawn + amount < 2 ^ 64
  transfers : Transfers world.tokens
    (vaultAuthorityAddress accounts.crankerVault :: call.signers) accounts.vaultTokenAccount
    accounts.funderTokenAccount (vaultAuthorityAddress accounts.crankerVault) amount
    next.tokens
  crankers_eq : next.crankers = world.crankers
  positions_eq : next.positions = world.positions.insert accounts.liquidityPosition
    { position with
      principalAmount := position.principalAmount - burned
      withdrawnAmount := position.withdrawnAmount + amount
      updatedAtTs := call.now }
  vaults_eq : next.vaults = world.vaults.insert accounts.crankerVault
    { vault with
      totalLiquidity := vault.totalLiquidity - amount
      totalShares := vault.totalShares - burned
      totalWithdrawn := vault.totalWithdrawn + amount }

theorem withdrawCrankerFunds_eq_ok {accounts : WithdrawCrankerFunds}
    (hstep : withdrawCrankerFunds runtime call accounts amount world = .ok next) :
    ∃ vault position vaultToken burned,
      Withdraws call accounts amount world next vault position vaultToken burned := by
  simp only [withdrawCrankerFunds, loadVault, bind_eq_ok, load_eq_ok, signer_eq_ok,
    require_eq_ok, seeds_eq_ok, addU64_eq_ok, subU64_eq_ok, pure_eq_ok] at hstep
  obtain ⟨_, hsigned, ⟨cranker, vault⟩, hvault, _, ⟨hauthority, -⟩, vaultToken, hvaultToken, _,
    -, hstep⟩ := hstep
  obtain ⟨_, -, _, -, _, -, stored, hstored, _, -, _, -, _, haccount, hpair⟩ := hvault
  cases hpair
  obtain ⟨wallet, hwallet, _, howner, _, hmint, position, hposition, _, hvaultOf, _, hfunder,
    burned, hburned, tokens, htokens, hstep⟩ := hstep
  obtain ⟨_, ⟨hshares, rfl⟩, _, ⟨-, rfl⟩, _, ⟨hliquid, rfl⟩, _, ⟨htotal, rfl⟩, _,
    ⟨hcounted, rfl⟩, rfl⟩ := hstep
  exact ⟨_, position, vaultToken, burned, hstored, haccount, hsigned, hvaultToken,
    ⟨wallet, hwallet, howner, hmint⟩, hposition, hvaultOf, hfunder, hburned,
    ⟨hshares, hliquid, htotal⟩, hcounted, hauthority ▸ transfer_eq_ok htokens, rfl, rfl, rfl⟩

end Funding

section Places

/-- The vaults agree in everything that is fixed when a vault is set up. -/
def SameVault (old vault : CrankerVault) : Prop :=
  vault.motherEscrow = old.motherEscrow ∧ vault.cranker = old.cranker ∧
    vault.tokenMint = old.tokenMint ∧ vault.vaultTokenAccount = old.vaultTokenAccount ∧
    vault.vaultAuthorityBump = old.vaultAuthorityBump ∧
    vault.reservedLiquidity = old.reservedLiquidity

theorem SameVault.refl (vault : CrankerVault) : SameVault vault vault :=
  ⟨rfl, rfl, rfl, rfl, rfl, rfl⟩

/-- A vault with its cranker, its escrow and its token account. -/
structure Registered (runtime : Runtime) (world : World) (key : Pubkey)
    (vault : CrankerVault) : Prop where
  account : vault.vaultTokenAccount = vaultTokenAddress key
  bump : vault.vaultAuthorityBump = runtime.bump (vaultAuthorityAddress key)
  unreserved : vault.reservedLiquidity = 0
  mother : ∃ mother, world.motherEscrows.lookup vault.motherEscrow = some mother
  cranker : ∃ cranker, world.crankers.lookup vault.cranker = some cranker ∧
    cranker.motherEscrow = vault.motherEscrow
  holds : ∃ token, world.tokens.lookup (vaultTokenAddress key) = some token ∧
    token.mint = vault.tokenMint ∧ token.owner = vaultAuthorityAddress key

/-- All vaults are registered. -/
def AllRegistered (runtime : Runtime) (world : World) : Prop :=
  ∀ key vault, world.vaults.lookup key = some vault → Registered runtime world key vault

theorem allRegistered_of_launch (hlaunch : Launch start) : AllRegistered runtime start := by
  intro key vault hvault
  rw [hlaunch.vaults, Finmap.lookup_empty] at hvault
  cases hvault

theorem vaultAuthority_notMem_signers (hsigners : NoProgramSigner call) (key : Pubkey) :
    vaultAuthorityAddress key ∉ call.signers := fun hsigner =>
  (hsigners _ hsigner).1 (program?_findProgramAddress _ _ _)

/-- What setting up a vault finds and does. -/
structure Opens (runtime : Runtime) (accounts : InitializeCrankerVault)
    (world next : World) (vault : CrankerVault) : Prop where
  vacant : world.vaults.lookup accounts.crankerVault = none
  account : vault.vaultTokenAccount = vaultTokenAddress accounts.crankerVault
  bump : vault.vaultAuthorityBump = runtime.bump (vaultAuthorityAddress accounts.crankerVault)
  empty : vault.totalLiquidity = 0 ∧ vault.totalShares = 0 ∧ vault.reservedLiquidity = 0 ∧
    vault.totalWithdrawn = 0
  mother : ∃ mother, world.motherEscrows.lookup vault.motherEscrow = some mother
  cranker : ∃ cranker, world.crankers.lookup vault.cranker = some cranker ∧
    cranker.motherEscrow = vault.motherEscrow
  unopened : world.tokens.lookup (vaultTokenAddress accounts.crankerVault) = none
  tokens_eq : next.tokens = world.tokens.insert (vaultTokenAddress accounts.crankerVault)
    ⟨vault.tokenMint, vaultAuthorityAddress accounts.crankerVault, 0⟩
  crankers_eq : next.crankers = world.crankers
  positions_eq : next.positions = world.positions
  vaults_eq : next.vaults = world.vaults.insert accounts.crankerVault vault

theorem initializeCrankerVault_eq_ok {accounts : InitializeCrankerVault}
    (hstep : initializeCrankerVault runtime call accounts world = .ok next) :
    ∃ vault, Opens runtime accounts world next vault := by
  simp only [initializeCrankerVault, bind_eq_ok, load_eq_ok, require_eq_ok, derivedAt_eq_ok,
    vacant_eq_ok, pure_eq_ok] at hstep
  obtain ⟨_, -, mother, hmother, cranker, hcranker, _, hof, _, -, _, ⟨-, hvacant⟩, _, hauthority,
    _, ⟨htoken, hfresh⟩, rfl⟩ := hstep
  rw [hauthority, htoken] at *
  exact ⟨_, hvacant, rfl, rfl, ⟨rfl, rfl, rfl, rfl⟩, ⟨mother, hmother⟩,
    ⟨cranker, hcranker, hof⟩, hfresh, rfl, rfl, rfl, rfl⟩

/-- A cranker stays where it is, under its escrow. -/
theorem cranker_of_step {input : Step} {cranker : Cranker}
    (hstep : step runtime world input = .ok next)
    (hcranker : world.crankers.lookup key = some cranker) :
    ∃ cranker', next.crankers.lookup key = some cranker' ∧
      cranker'.motherEscrow = cranker.motherEscrow := by
  have hkept : next.crankers = world.crankers →
      ∃ cranker', next.crankers.lookup key = some cranker' ∧
        cranker'.motherEscrow = cranker.motherEscrow := by
    intro hsame
    exact ⟨cranker, hsame ▸ hcranker, rfl⟩
  have hupdated : ∀ key' old updated, world.crankers.lookup key' = some old →
      updated.motherEscrow = old.motherEscrow →
      next.crankers = world.crankers.insert key' updated →
      ∃ cranker', next.crankers.lookup key = some cranker' ∧
        cranker'.motherEscrow = cranker.motherEscrow := by
    intro key' old updated hold hmother hnext
    rw [hnext, lookup_insert_eq]
    split_ifs with hkey
    · subst hkey
      rw [hold] at hcranker
      cases hcranker
      exact ⟨updated, rfl, hmother⟩
    · exact ⟨cranker, hcranker, rfl⟩
  cases input with
  | external call action =>
      exact hkept (keepsProgram_of_executeExternal
        (step_external_eq_ok.mp hstep).2).crankers.crankers_eq
  | tsn call instruction =>
      have hexecute := (step_tsn_eq_ok.mp hstep).2
      cases instruction with
      | registerCranker accounts =>
          simp only [execute, registerCranker, bind_eq_ok, vacant_eq_ok, pure_eq_ok] at hexecute
          obtain ⟨_, -, _, -, _, ⟨-, hnone⟩, rfl⟩ := hexecute
          refine ⟨cranker, ?_, rfl⟩
          rw [Finmap.lookup_insert_of_ne, hcranker]
          rintro rfl
          rw [hnone] at hcranker
          cases hcranker
      | setCrankerFundingPolicy accounts allowed =>
          simp only [execute, setCrankerFundingPolicy, bind_eq_ok, load_eq_ok,
            pure_eq_ok] at hexecute
          obtain ⟨_, -, _, -, old, hold, _, -, _, -, _, -, rfl⟩ := hexecute
          exact hupdated _ old { old with allowExternalFunding := allowed } hold rfl rfl
      | initializeCrankerVault accounts =>
          obtain ⟨_, hopens⟩ := initializeCrankerVault_eq_ok hexecute
          exact hkept hopens.crankers_eq
      | fundCranker accounts amount =>
          obtain ⟨_, _, _, hdeposits⟩ := fundCranker_eq_ok hexecute
          exact hkept hdeposits.crankers_eq
      | withdrawCrankerFunds accounts amount =>
          obtain ⟨_, _, _, _, hwithdraws⟩ := withdrawCrankerFunds_eq_ok hexecute
          exact hkept hwithdraws.crankers_eq
      | executePrivatePayout accounts args =>
          obtain ⟨_, old, _, -, hpays⟩ := executePrivatePayout_eq_ok hexecute
          obtain ⟨updated, hmother, hnext⟩ := hpays.crankers_eq
          exact hupdated _ old updated hpays.crankerAt hmother hnext
      | _ => exact hkept (keepsCrankers_of_execute hexecute trivial).crankers_eq

/-- A step writes one vault at most: one that was there, or one it has just set up. -/
theorem vaults_of_step {input : Step} (hstep : step runtime world input = .ok next) :
    next.vaults = world.vaults ∨
      ∃ key written, next.vaults = world.vaults.insert key written ∧
        ((∃ old, world.vaults.lookup key = some old ∧ SameVault old written) ∨
          ∃ accounts, Opens runtime accounts world next written ∧
            accounts.crankerVault = key) := by
  cases input with
  | external call action =>
      exact .inl (keepsProgram_of_executeExternal
        (step_external_eq_ok.mp hstep).2).crankers.vaults_eq
  | tsn call instruction =>
      have hexecute := (step_tsn_eq_ok.mp hstep).2
      cases instruction with
      | registerCranker accounts =>
          simp only [execute, registerCranker, bind_eq_ok, pure_eq_ok] at hexecute
          obtain ⟨_, -, _, -, _, -, rfl⟩ := hexecute
          exact .inl rfl
      | setCrankerFundingPolicy accounts allowed =>
          simp only [execute, setCrankerFundingPolicy, bind_eq_ok, pure_eq_ok] at hexecute
          obtain ⟨_, -, _, -, _, -, _, -, _, -, _, -, rfl⟩ := hexecute
          exact .inl rfl
      | initializeCrankerVault accounts =>
          obtain ⟨opened, hopens⟩ := initializeCrankerVault_eq_ok hexecute
          exact .inr ⟨_, opened, hopens.vaults_eq, .inr ⟨accounts, hopens, rfl⟩⟩
      | fundCranker accounts amount =>
          obtain ⟨old, _, _, hdeposits⟩ := fundCranker_eq_ok hexecute
          exact .inr ⟨_, _, hdeposits.vaults_eq,
            .inl ⟨old, hdeposits.vaultAt, rfl, rfl, rfl, rfl, rfl, rfl⟩⟩
      | withdrawCrankerFunds accounts amount =>
          obtain ⟨old, _, _, _, hwithdraws⟩ := withdrawCrankerFunds_eq_ok hexecute
          exact .inr ⟨_, _, hwithdraws.vaults_eq,
            .inl ⟨old, hwithdraws.vaultAt, rfl, rfl, rfl, rfl, rfl, rfl⟩⟩
      | executePrivatePayout accounts args =>
          obtain ⟨_, _, old, -, hpays⟩ := executePrivatePayout_eq_ok hexecute
          obtain ⟨rewards, hnext⟩ := hpays.vaults_eq
          exact .inr ⟨_, _, hnext, .inl ⟨old, hpays.vaultAt, rfl, rfl, rfl, rfl, rfl, rfl⟩⟩
      | _ => exact .inl (keepsCrankers_of_execute hexecute trivial).vaults_eq

/-- A vault after a step was there before, or has just been set up. -/
theorem vault_of_step {input : Step} {vault : CrankerVault}
    (hstep : step runtime world input = .ok next)
    (hvault : next.vaults.lookup key = some vault) :
    (∃ old, world.vaults.lookup key = some old ∧ SameVault old vault) ∨
      ∃ accounts, Opens runtime accounts world next vault ∧ accounts.crankerVault = key := by
  rcases vaults_of_step hstep with hsame | ⟨key', written, hnext, hwritten⟩
  · exact .inl ⟨vault, hsame ▸ hvault, SameVault.refl vault⟩
  · rw [hnext, lookup_insert_eq] at hvault
    split_ifs at hvault with hkey
    · cases hvault
      subst hkey
      exact hwritten
    · exact .inl ⟨vault, hvault, SameVault.refl vault⟩

/-- A vault is never removed. -/
theorem lookup_none_of_step {input : Step} (hstep : step runtime world input = .ok next)
    (hnone : next.vaults.lookup key = none) : world.vaults.lookup key = none := by
  rcases vaults_of_step hstep with hsame | ⟨key', written, hnext, -⟩
  · rwa [hsame] at hnone
  · rw [hnext, lookup_insert_eq] at hnone
    split_ifs at hnone
    exact hnone

end Places

section Balances

/-- What a step puts into the account of a vault besides what the program books. -/
def donation (key : Pubkey) : Step → Nat
  | .external _ (.mintTo destination amount) =>
      if destination = vaultTokenAddress key then amount else 0
  | .external _ (.transfer source destination _ amount) =>
      if source ≠ destination ∧ destination = vaultTokenAddress key then amount else 0
  | _ => 0

/-- What a funder puts into a vault with a step. -/
def intoVault (key : Pubkey) : Step → Nat
  | .tsn _ (.fundCranker accounts amount) =>
      if accounts.crankerVault = key then amount else 0
  | _ => 0

/-- What a funder takes out of a vault with a step. -/
def outOfVault (key : Pubkey) : Step → Nat
  | .tsn _ (.withdrawCrankerFunds accounts amount) =>
      if accounts.crankerVault = key then amount else 0
  | _ => 0

/-- The account is as before, with another balance. -/
def Changes (tokens : Tokens) (key : Pubkey) (token : TokenAccount) (less more : Nat) : Prop :=
  ∃ after, tokens.lookup key = some { token with amount := after } ∧
    after + less = token.amount + more

theorem changes_of_lookup (hlookup : tokens.lookup key = some token) :
    Changes tokens key token 0 0 :=
  ⟨token.amount, hlookup, rfl⟩

theorem changes_of_transfers_beside
    (htransfers : Transfers tokens signers source destination authority amount tokens')
    (hlookup : tokens.lookup key = some token) (howner : token.owner ≠ authority) :
    Changes tokens' key token 0 (if key = destination then amount else 0) :=
  ⟨_, lookup_of_transfers htransfers hlookup howner, rfl⟩

theorem changes_of_external {action : ExternalAction}
    (hexecute : executeExternal call action world = .ok next)
    (hlookup : world.tokens.lookup (vaultTokenAddress key) = some token)
    (howner : token.owner ∉ call.signers) :
    Changes next.tokens (vaultTokenAddress key) token 0 (donation key (.external call action)) := by
  cases action with
  | writeMotherEscrow data =>
      cases hexecute
      exact changes_of_lookup hlookup
  | createMint mint =>
      cases hexecute
      exact changes_of_lookup hlookup
  | mintTo destination amount =>
      simp only [executeExternal, bind_eq_ok, load_eq_ok, require_eq_ok, pure_eq_ok] at hexecute
      obtain ⟨credited, hcredited, _, -, rfl⟩ := hexecute
      rw [donation]
      split_ifs with hkey
      · subst hkey
        rw [hlookup] at hcredited
        cases hcredited
        exact ⟨_, Finmap.lookup_insert _, rfl⟩
      · refine changes_of_lookup ?_
        rw [Finmap.lookup_insert_of_ne _ (Ne.symm hkey), hlookup]
  | transfer source destination authority amount =>
      simp only [executeExternal, bind_eq_ok, pure_eq_ok] at hexecute
      obtain ⟨tokens, htransfer, rfl⟩ := hexecute
      have htransfers := transfer_eq_ok htransfer
      have hchanges := changes_of_transfers_beside htransfers hlookup
        (ne_of_notMem howner htransfers.signed)
      have hsource : vaultTokenAddress key = destination → source ≠ destination := by
        rintro rfl rfl
        obtain ⟨debited, hdebited, howner', -⟩ := htransfers.debited
        rw [hlookup] at hdebited
        cases hdebited
        exact howner (howner' ▸ htransfers.signed)
      have hsame : donation key (.external call (.transfer source destination authority amount)) =
          if vaultTokenAddress key = destination then amount else 0 := by
        rw [donation]
        by_cases hkey : vaultTokenAddress key = destination
        · rw [if_pos ⟨hsource hkey, hkey.symm⟩, if_pos hkey]
        · rw [if_neg fun h => hkey h.2.symm, if_neg hkey]
      rw [hsame]
      exact hchanges
  | openToken opened mint owner =>
      simp only [executeExternal, bind_eq_ok, require_eq_ok, pure_eq_ok] at hexecute
      obtain ⟨_, -, _, hnone, rfl⟩ := hexecute
      refine changes_of_lookup ?_
      rw [Finmap.lookup_insert_of_ne, hlookup]
      rintro rfl
      rw [hnone] at hlookup
      cases hlookup
  | openAssociated wallet mint =>
      simp only [executeExternal, bind_eq_ok, pure_eq_ok] at hexecute
      obtain ⟨tokens, hopen, rfl⟩ := hexecute
      exact changes_of_lookup ((openAssociated_eq_ok hopen).2.2.1 _ token hlookup)
  | setOwner changed owner =>
      simp only [executeExternal, bind_eq_ok, load_eq_ok, require_eq_ok, pure_eq_ok] at hexecute
      obtain ⟨old, hold, _, hsigned, rfl⟩ := hexecute
      refine changes_of_lookup ?_
      rw [Finmap.lookup_insert_of_ne, hlookup]
      rintro rfl
      rw [hold] at hlookup
      cases hlookup
      exact howner hsigned
  | closeToken closed =>
      simp only [executeExternal, bind_eq_ok, load_eq_ok, require_eq_ok, pure_eq_ok] at hexecute
      obtain ⟨old, hold, _, ⟨hsigned, -⟩, rfl⟩ := hexecute
      refine changes_of_lookup ?_
      rw [Finmap.lookup_erase_ne, hlookup]
      rintro rfl
      rw [hold] at hlookup
      cases hlookup
      exact howner hsigned

theorem changes_of_withdraw {accounts : WithdrawCrankerFunds}
    (hregistered : AllRegistered runtime world) (hsigners : NoProgramSigner call)
    (hexecute : withdrawCrankerFunds runtime call accounts amount world = .ok next)
    (hlookup : world.tokens.lookup (vaultTokenAddress key) = some token)
    (howner : token.owner = vaultAuthorityAddress key) :
    Changes next.tokens (vaultTokenAddress key) token
      (if accounts.crankerVault = key then amount else 0) 0 := by
  obtain ⟨vault, position, vaultToken, burned, hwithdraws⟩ :=
    withdrawCrankerFunds_eq_ok hexecute
  have haccount := (hregistered _ vault hwithdraws.vaultAt).account
  rw [hwithdraws.account] at haccount
  obtain ⟨wallet, hwallet, hfunder, -⟩ := hwithdraws.wallet
  have hbeside : vaultTokenAddress key ≠ accounts.funderTokenAccount := by
    intro hsame
    rw [← hsame, hlookup] at hwallet
    cases hwallet
    exact vaultAuthority_notMem_signers hsigners key
      (howner ▸ hfunder ▸ hwithdraws.signed)
  have htransfers := hwithdraws.transfers
  split_ifs with hkey
  · subst hkey
    obtain ⟨debited, hdebited, -, henough⟩ := htransfers.debited
    rw [haccount] at hdebited
    rw [hlookup] at hdebited
    cases hdebited
    refine ⟨token.amount - amount, ?_, by omega⟩
    rw [htransfers.lookup_eq, hlookup, Option.map_some, moved, if_neg, if_pos haccount.symm]
    rw [haccount]
    exact hbeside
  · have hchanges := changes_of_transfers_beside htransfers hlookup (by
      rw [howner]
      exact fun h => hkey (vaultAuthorityAddress_inj.mp h).symm)
    rw [if_neg hbeside] at hchanges
    exact hchanges

/-- A payout takes from the vault what its treasury gives back. -/
theorem changes_of_payout {accounts : ExecutePrivatePayout} {args : ExecutePrivatePayoutArgs}
    (hregistered : AllRegistered runtime world)
    (hexecute : executePrivatePayout runtime call accounts args world = .ok next)
    (hlookup : world.tokens.lookup (vaultTokenAddress key) = some token)
    (howner : token.owner = vaultAuthorityAddress key) :
    Changes next.tokens (vaultTokenAddress key) token 0 0 := by
  obtain ⟨loaded, cranker, vault, hsettles, hpays⟩ := executePrivatePayout_eq_ok hexecute
  have haccount := (hregistered _ vault hpays.vaultAt).account
  rw [hpays.vaultToken] at haccount
  obtain ⟨paid, hfirst, hsecond⟩ := payoutTransfers_eq_ok hpays.transfers
  have htreasury : token.owner ≠ accounts.treasuryAuthority := by
    rw [howner, hsettles.loads.authority]
    exact (treasuryAuthorityAddress_ne_vaultAuthorityAddress _ _).symm
  have hrecipient : vaultTokenAddress key ≠ accounts.recipientTokenAccount := by
    rw [hpays.destination]
    exact (getAssociatedTokenAddress_ne_vaultTokenAddress _ _ _).symm
  have hcreated : (createIfMissing world.tokens accounts.recipientTokenAccount
      accounts.recipientWallet accounts.tokenMint).lookup (vaultTokenAddress key) = some token :=
    lookup_of_createIfMissing hlookup
  by_cases hkey : accounts.crankerVault = key
  · subst hkey
    obtain ⟨debited, hdebited, -, henough⟩ := hfirst.debited
    rw [haccount] at hdebited
    rw [hcreated] at hdebited
    cases hdebited
    have hpaid : paid.lookup (vaultTokenAddress accounts.crankerVault) =
        some { token with amount := token.amount - args.payoutAmount } := by
      rw [hfirst.lookup_eq, hcreated, Option.map_some, moved, if_neg, if_pos haccount.symm]
      rw [haccount]
      exact hrecipient
    have hdebited : ({ token with amount := token.amount - args.payoutAmount } :
        TokenAccount).owner ≠ accounts.treasuryAuthority := htreasury
    have hback := lookup_of_transfers hsecond hpaid hdebited
    rw [if_pos haccount.symm] at hback
    exact ⟨token.amount - args.payoutAmount + args.payoutAmount, hback, by omega⟩
  · have hbeside : vaultTokenAddress key ≠ accounts.vaultTokenAccount := by
      rw [haccount]
      exact fun h => hkey (vaultTokenAddress_inj.mp h).symm
    have hvault : token.owner ≠ accounts.vaultAuthority := by
      rw [howner, hpays.authority]
      exact fun h => hkey (vaultAuthorityAddress_inj.mp h).symm
    have hpaid := lookup_of_transfers hfirst hcreated hvault
    rw [if_neg hrecipient] at hpaid
    refine ⟨_, lookup_of_transfers hsecond hpaid htreasury, ?_⟩
    rw [if_neg hbeside]

/-- The balance of a vault changes by deposits, withdrawals and donations only. -/
theorem changes_of_step {input : Step} (hregistered : AllRegistered runtime world)
    (hstep : step runtime world input = .ok next)
    (hlookup : world.tokens.lookup (vaultTokenAddress key) = some token)
    (howner : token.owner = vaultAuthorityAddress key) :
    Changes next.tokens (vaultTokenAddress key) token (outOfVault key input)
      (intoVault key input + donation key input) := by
  cases input with
  | external call action =>
      obtain ⟨hsigners, hexecute⟩ := step_external_eq_ok.mp hstep
      have hchanges := changes_of_external hexecute hlookup
        (howner ▸ vaultAuthority_notMem_signers hsigners key)
      have hbooked : intoVault key (.external call action) = 0 := rfl
      rw [hbooked, Nat.zero_add]
      exact hchanges
  | tsn call instruction =>
      obtain ⟨hsigners, hexecute⟩ := step_tsn_eq_ok.mp hstep
      have hunsigned := howner ▸ vaultAuthority_notMem_signers hsigners key
      cases instruction with
      | initializeCrankerVault accounts =>
          obtain ⟨vault, hopens⟩ := initializeCrankerVault_eq_ok hexecute
          refine changes_of_lookup ?_
          rw [hopens.tokens_eq, Finmap.lookup_insert_of_ne, hlookup]
          intro hsame
          rw [hsame, hopens.unopened] at hlookup
          cases hlookup
      | fundCranker accounts amount =>
          obtain ⟨vault, position, minted, hdeposits⟩ := fundCranker_eq_ok hexecute
          have haccount := (hregistered _ vault hdeposits.vaultAt).account
          rw [hdeposits.account] at haccount
          have hchanges := changes_of_transfers_beside hdeposits.transfers hlookup
            (ne_of_notMem hunsigned hdeposits.signed)
          rw [haccount] at hchanges
          simp only [vaultTokenAddress_inj] at hchanges
          show Changes next.tokens (vaultTokenAddress key) token 0
            (if accounts.crankerVault = key then amount else 0)
          simp only [@eq_comm _ accounts.crankerVault]
          exact hchanges
      | withdrawCrankerFunds accounts amount =>
          exact changes_of_withdraw hregistered hsigners hexecute hlookup howner
      | fundEpochTreasury accounts epochId amount =>
          obtain ⟨opened, hopened, htransfers⟩ := fundEpochTreasury_tokens hexecute
          obtain ⟨haddress, -, hkept, -⟩ := openAssociated_eq_ok hopened
          have hchanges := changes_of_transfers_beside htransfers (hkept _ token hlookup)
            (ne_of_notMem hunsigned htransfers.signed)
          rw [if_neg] at hchanges
          · exact hchanges
          · rw [haddress]
            exact (getAssociatedTokenAddress_ne_vaultTokenAddress _ _ _).symm
      | executePrivatePayout accounts args =>
          exact changes_of_payout hregistered hexecute hlookup howner
      | refundEpochClaim accounts args =>
          obtain ⟨loaded, hsettles, hrefunds⟩ := refundEpochClaim_eq_ok hexecute
          have hchanges := changes_of_transfers_beside (transfer_eq_ok hrefunds.transfers)
            (lookup_of_createIfMissing hlookup) (by
              rw [howner, hsettles.loads.authority]
              exact (treasuryAuthorityAddress_ne_vaultAuthorityAddress _ _).symm)
          rw [if_neg] at hchanges
          · exact hchanges
          · rw [hrefunds.destination]
            exact (getAssociatedTokenAddress_ne_vaultTokenAddress _ _ _).symm
      | closeEpochTreasury accounts =>
          obtain ⟨closed, hclosed, hauthority, hnext⟩ := closeEpochTreasury_tokens hexecute
          refine changes_of_lookup ?_
          rw [hnext, Finmap.lookup_erase_ne, hlookup]
          intro hsame
          rw [← hsame, hlookup] at hclosed
          cases hclosed
          exact treasuryAuthorityAddress_ne_vaultAuthorityAddress _ _
            (hauthority.symm.trans howner)
      | _ =>
          refine changes_of_lookup ?_
          rw [tokens_of_execute hexecute trivial, hlookup]

end Balances

theorem exists_mother_of_step {input : Step} (hstep : step runtime world input = .ok next)
    (hmother : ∃ mother, world.motherEscrows.lookup key = some mother) :
    ∃ mother, next.motherEscrows.lookup key = some mother := by
  rcases motherEscrows_of_step hstep with hsame | ⟨data, hnext⟩
  · rwa [hsame]
  · rw [hnext, lookup_insert_eq]
    split_ifs
    · exact ⟨data, rfl⟩
    · exact hmother

theorem allRegistered_of_step {input : Step} (hregistered : AllRegistered runtime world)
    (hstep : step runtime world input = .ok next) : AllRegistered runtime next := by
  intro key vault hvault
  rcases vault_of_step hstep hvault with
    ⟨old, hold, hmother, hcranker, hmint, haccount, hbump, hreserved⟩ | ⟨accounts, hopens, rfl⟩
  · have hplace := hregistered key old hold
    obtain ⟨token, htoken, hmint', howner⟩ := hplace.holds
    obtain ⟨after, hafter, -⟩ := changes_of_step hregistered hstep htoken howner
    obtain ⟨cranker, hstored, hof⟩ := hplace.cranker
    obtain ⟨cranker', hstored', hof'⟩ := cranker_of_step hstep hstored
    refine ⟨haccount.trans hplace.account, hbump.trans hplace.bump,
      hreserved.trans hplace.unreserved, ?_, ?_, ⟨_, hafter, hmint'.trans hmint.symm, howner⟩⟩
    · rw [hmother]
      exact exists_mother_of_step hstep hplace.mother
    · rw [hcranker, hmother]
      exact ⟨cranker', hstored', hof'.trans hof⟩
  · obtain ⟨cranker, hstored, hof⟩ := hopens.cranker
    obtain ⟨cranker', hstored', hof'⟩ := cranker_of_step hstep hstored
    refine ⟨hopens.account, hopens.bump, hopens.empty.2.2.1,
      exists_mother_of_step hstep hopens.mother, ⟨cranker', hstored', hof'.trans hof⟩,
      ⟨⟨vault.tokenMint, vaultAuthorityAddress accounts.crankerVault, 0⟩, ?_, rfl, rfl⟩⟩
    rw [hopens.tokens_eq, Finmap.lookup_insert]

theorem allRegistered_of_run {history : List (World × Step)} (hlaunch : Launch start)
    (hrun : Run (step runtime) start history world) : AllRegistered runtime world := by
  refine hrun.induct_on (fun _ world => AllRegistered runtime world)
    (allRegistered_of_launch hlaunch) ?_
  intro history world input next _ hregistered hstep
  exact allRegistered_of_step hregistered hstep

/-- The liquidity a vault has booked changes by deposits and withdrawals only. -/
theorem booked_of_step {input : Step} {vault vault' : CrankerVault}
    (hstep : step runtime world input = .ok next)
    (hvault : world.vaults.lookup key = some vault)
    (hvault' : next.vaults.lookup key = some vault') :
    vault'.totalLiquidity + outOfVault key input =
      vault.totalLiquidity + intoVault key input := by
  have hkept : next.vaults = world.vaults → vault'.totalLiquidity = vault.totalLiquidity := by
    intro hsame
    rw [hsame, hvault] at hvault'
    cases hvault'
    rfl
  cases input with
  | external call action =>
      exact hkept (keepsProgram_of_executeExternal
        (step_external_eq_ok.mp hstep).2).crankers.vaults_eq
  | tsn call instruction =>
      have hexecute := (step_tsn_eq_ok.mp hstep).2
      cases instruction with
      | registerCranker accounts =>
          simp only [execute, registerCranker, bind_eq_ok, pure_eq_ok] at hexecute
          obtain ⟨_, -, _, -, _, -, rfl⟩ := hexecute
          exact hkept rfl
      | setCrankerFundingPolicy accounts allowed =>
          simp only [execute, setCrankerFundingPolicy, bind_eq_ok, pure_eq_ok] at hexecute
          obtain ⟨_, -, _, -, _, -, _, -, _, -, _, -, rfl⟩ := hexecute
          exact hkept rfl
      | initializeCrankerVault accounts =>
          obtain ⟨opened, hopens⟩ := initializeCrankerVault_eq_ok hexecute
          rw [hopens.vaults_eq, lookup_insert_eq] at hvault'
          split_ifs at hvault' with hkey
          · rw [hkey, hopens.vacant] at hvault
            cases hvault
          · rw [hvault] at hvault'
            cases hvault'
            rfl
      | fundCranker accounts amount =>
          obtain ⟨old, _, _, hdeposits⟩ := fundCranker_eq_ok hexecute
          rw [hdeposits.vaults_eq, lookup_insert_eq] at hvault'
          show vault'.totalLiquidity + 0 =
            vault.totalLiquidity + if accounts.crankerVault = key then amount else 0
          split_ifs at hvault' with hkey
          · subst hkey
            rw [hdeposits.vaultAt] at hvault
            cases hvault
            cases hvault'
            rw [if_pos rfl, Nat.add_zero]
          · rw [hvault] at hvault'
            cases hvault'
            rw [if_neg (Ne.symm hkey)]
      | withdrawCrankerFunds accounts amount =>
          obtain ⟨old, _, _, _, hwithdraws⟩ := withdrawCrankerFunds_eq_ok hexecute
          rw [hwithdraws.vaults_eq, lookup_insert_eq] at hvault'
          show vault'.totalLiquidity + (if accounts.crankerVault = key then amount else 0) =
            vault.totalLiquidity + 0
          split_ifs at hvault' with hkey
          · subst hkey
            rw [hwithdraws.vaultAt] at hvault
            cases hvault
            cases hvault'
            rw [if_pos rfl, Nat.add_zero]
            exact Nat.sub_add_cancel hwithdraws.covered.2.1
          · rw [hvault] at hvault'
            cases hvault'
            rw [if_neg (Ne.symm hkey)]
      | executePrivatePayout accounts args =>
          obtain ⟨_, _, old, -, hpays⟩ := executePrivatePayout_eq_ok hexecute
          obtain ⟨rewards, hnext⟩ := hpays.vaults_eq
          rw [hnext, lookup_insert_eq] at hvault'
          split_ifs at hvault' with hkey
          · subst hkey
            rw [hpays.vaultAt] at hvault
            cases hvault
            cases hvault'
            rfl
          · rw [hvault] at hvault'
            cases hvault'
            rfl
      | _ => exact hkept (keepsCrankers_of_execute hexecute trivial).vaults_eq

/-- What a run has put into the account of a vault besides what the program books. -/
def donated (history : List (World × Step)) (key : Pubkey) : Nat :=
  (history.map fun entry =>
    if (entry.1.vaults.lookup key).isSome then donation key entry.2 else 0).sum

/-- A vault holds what it has booked and what it was given. -/
structure Balanced (history : List (World × Step)) (world : World) : Prop where
  untouched : ∀ key, world.vaults.lookup key = none → donated history key = 0
  balances : ∀ key vault, world.vaults.lookup key = some vault →
    ∃ token, world.tokens.lookup (vaultTokenAddress key) = some token ∧
      token.owner = vaultAuthorityAddress key ∧ token.mint = vault.tokenMint ∧
      token.amount = vault.totalLiquidity + donated history key

theorem balanced_of_step {input : Step} {history : List (World × Step)}
    (hregistered : AllRegistered runtime world) (hbalanced : Balanced history world)
    (hstep : step runtime world input = .ok next) :
    Balanced ((world, input) :: history) next := by
  have hcons : ∀ key, donated ((world, input) :: history) key =
      (if (world.vaults.lookup key).isSome then donation key input else 0) +
        donated history key := by
    intro key
    rw [donated, List.map_cons, List.sum_cons]
    rfl
  constructor
  · intro key hnone
    have hbefore := lookup_none_of_step hstep hnone
    rw [hcons, hbefore, hbalanced.untouched key hbefore]
    rfl
  · intro key vault' hvault'
    rcases vault_of_step hstep hvault' with ⟨vault, hvault, hsame⟩ | ⟨accounts, hopens, rfl⟩
    · obtain ⟨token, htoken, howner, hmint, hamount⟩ := hbalanced.balances key vault hvault
      obtain ⟨after, hafter, hchange⟩ := changes_of_step hregistered hstep htoken howner
      have hbooked := booked_of_step hstep hvault hvault'
      refine ⟨_, hafter, howner, hmint.trans hsame.2.2.1.symm, ?_⟩
      rw [hcons, hvault, Option.isSome_some, if_pos rfl]
      show after = _
      omega
    · refine ⟨⟨vault'.tokenMint, vaultAuthorityAddress accounts.crankerVault, 0⟩, ?_, rfl, rfl,
        ?_⟩
      · rw [hopens.tokens_eq, Finmap.lookup_insert]
      · rw [hcons, hopens.vacant, hbalanced.untouched _ hopens.vacant, hopens.empty.1]
        rfl

theorem balanced_of_run {history : List (World × Step)} (hlaunch : Launch start)
    (hrun : Run (step runtime) start history world) : Balanced history world := by
  refine hrun.induct_on Balanced ⟨fun _ _ => rfl, ?_⟩ ?_
  · intro key vault hvault
    rw [hlaunch.vaults, Finmap.lookup_empty] at hvault
    cases hvault
  · intro history world input next hprefix hbalanced hstep
    exact balanced_of_step (allRegistered_of_run hlaunch hprefix) hbalanced hstep

end TsnProtocol.Escrow.VaultTokens
