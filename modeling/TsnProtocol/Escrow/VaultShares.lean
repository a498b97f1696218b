import TsnProtocol.Escrow.VaultTokens

/-!
The shares of a cranker vault. Deposits and withdrawals keep the liquidity of a vault equal to
its shares, so every conversion is the identity, no cast loses a bit, and a funder can take out
no more than what it put in.
-/

namespace TsnProtocol.Escrow.VaultShares

open Lib.Checked
open Lib.FiniteStore
open Lib.Transition
open Solana.Address
open Escrow.State
open Escrow.CrankerFunding
open Escrow.EpochSettlement
open Escrow.Program
open Escrow.Effects
open Escrow.SingleSettlement
open Escrow.VaultTokens

variable {runtime : Runtime} {call : Call} {world next start : World} {key funder : Pubkey}
  {amount : Nat} {vault vault' : CrankerVault} {position : LiquidityPosition}

section Conversions

variable {liquidity shares burned : Nat}

theorem sharesFor_self (hpos : 0 < liquidity) : sharesFor amount liquidity liquidity = amount :=
  Nat.mul_div_cancel amount hpos

theorem withdrawableFor_self (hpos : 0 < liquidity) :
    withdrawableFor shares liquidity liquidity = shares :=
  Nat.mul_div_cancel shares hpos

/-- Rounding up burns no more than is withdrawn. -/
theorem sharesToBurnFor_self (hpos : 0 < liquidity) :
    sharesToBurnFor amount liquidity liquidity = amount := by
  rw [sharesToBurnFor, Nat.add_sub_assoc hpos, Nat.mul_comm, Nat.mul_add_div hpos,
    Nat.div_eq_of_lt (Nat.sub_lt hpos Nat.zero_lt_one), Nat.add_zero]

theorem minted_of_price (hprice : vault.totalLiquidity = vault.totalShares)
    (hamount : amount < 2 ^ 64) (hminted : mintedShares vault amount = .ok shares) :
    shares = amount := by
  rw [mintedShares] at hminted
  split_ifs at hminted with hshares hliquidity
  · simp only [bind_eq_ok, pure_eq_ok] at hminted
    obtain ⟨_, -, hshares⟩ := hminted
    exact hshares.symm
  · simp only [bind_eq_ok, pure_eq_ok] at hminted
    obtain ⟨_, -, rfl⟩ := hminted
    rw [← hprice, sharesFor_self (Nat.pos_of_ne_zero hliquidity), asU64_eq_self hamount]

theorem burned_of_price (hprice : vault.totalLiquidity = vault.totalShares)
    (hbounded : vault.totalLiquidity < 2 ^ 64) {balance : Nat}
    (hburned : sharesToBurn vault shares balance amount = .ok burned) :
    burned = amount ∧ burned ≤ shares ∧ balance = vault.totalLiquidity := by
  simp only [sharesToBurn, bind_eq_ok, check_eq_ok, subU64_eq_ok, pure_eq_ok] at hburned
  obtain ⟨_, -, _, hbalance, _, hshares, liquid, ⟨-, rfl⟩, _, -, _, -, _, hamount, _, -, _,
    hcovers, rfl⟩ := hburned
  have hsmall : amount < 2 ^ 64 := by omega
  rw [← hprice, sharesToBurnFor_self (hprice ▸ hshares), asU64_eq_self hsmall] at hcovers ⊢
  exact ⟨rfl, hcovers, hbalance⟩

end Conversions

/-- The shares a position has in a vault. -/
def sharesIn (key : Pubkey) (position : LiquidityPosition) : Nat :=
  if position.crankerVault = key then position.principalAmount else 0

/-- What was withdrawn from a vault through a position. -/
def withdrawnIn (key : Pubkey) (position : LiquidityPosition) : Nat :=
  if position.crankerVault = key then position.withdrawnAmount else 0

/-- Positions lie at the address of their vault and funder. -/
def Positioned (world : World) : Prop :=
  ∀ key position, world.positions.lookup key = some position →
    key = liquidityPositionAddress position.crankerVault position.funder ∧
      position.funder ≠ Pubkey.default ∧ position.funder.program? ≠ some tsnProgram ∧
      ∃ vault, world.vaults.lookup position.crankerVault = some vault

/-- One share is worth one token, and the totals of a vault are those of its positions. -/
structure Priced (world : World) (key : Pubkey) (vault : CrankerVault) : Prop where
  price : vault.totalLiquidity = vault.totalShares
  shares : vault.totalShares = total (sharesIn key) world.positions
  taken : vault.totalWithdrawn = total (withdrawnIn key) world.positions
  bounded : vault.totalLiquidity < 2 ^ 64

/-- The invariant of a run. -/
structure Shared (world : World) : Prop where
  positioned : Positioned world
  priced : ∀ key vault, world.vaults.lookup key = some vault → Priced world key vault

theorem shared_of_launch (hlaunch : Launch start) : Shared start := by
  constructor
  · intro key position hposition
    rw [hlaunch.positions, Finmap.lookup_empty] at hposition
    cases hposition
  · intro key vault hvault
    rw [hlaunch.vaults, Finmap.lookup_empty] at hvault
    cases hvault

/-- A vault without a record has no positions. -/
theorem total_eq_zero_of_vacant {weight : LiquidityPosition → Nat} (hpositioned : Positioned world)
    (hvacant : world.vaults.lookup key = none)
    (hweight : ∀ position, position.crankerVault ≠ key → weight position = 0) :
    total weight world.positions = 0 := by
  refine total_eq_zero fun address position hposition => hweight position ?_
  rintro rfl
  obtain ⟨-, -, -, vault, hvault⟩ := hpositioned address position hposition
  rw [hvacant] at hvault
  cases hvault

section Steps

/-- A step that leaves the positions and the totals of all vaults as they were. -/
theorem shared_of_same (hshared : Shared world) (hpositions : next.positions = world.positions)
    (hkept : ∀ key vault, world.vaults.lookup key = some vault →
      ∃ vault', next.vaults.lookup key = some vault')
    (hvaults : ∀ key vault', next.vaults.lookup key = some vault' →
      (∃ vault, world.vaults.lookup key = some vault ∧
        vault'.totalLiquidity = vault.totalLiquidity ∧ vault'.totalShares = vault.totalShares ∧
          vault'.totalWithdrawn = vault.totalWithdrawn) ∨
      world.vaults.lookup key = none ∧ vault'.totalLiquidity = 0 ∧ vault'.totalShares = 0 ∧
        vault'.totalWithdrawn = 0) : Shared next := by
  constructor
  · intro key position hposition
    rw [hpositions] at hposition
    obtain ⟨haddress, hfunder, hwallet, vault, hvault⟩ :=
      hshared.positioned key position hposition
    exact ⟨haddress, hfunder, hwallet, hkept _ vault hvault⟩
  · intro key vault' hvault'
    rcases hvaults key vault' hvault' with
      ⟨vault, hvault, hliquidity, hshares, hwithdrawn⟩ | ⟨hvacant, hliquidity, hshares, hwithdrawn⟩
    · obtain ⟨hprice, htotal, htaken, hbounded⟩ := hshared.priced key vault hvault
      rw [← hliquidity, ← hshares] at hprice
      refine ⟨hprice, ?_, ?_, hliquidity ▸ hbounded⟩
      · rw [hshares, htotal, hpositions]
      · rw [hwithdrawn, htaken, hpositions]
    · refine ⟨hliquidity.trans hshares.symm, ?_, ?_, by omega⟩
      · rw [hshares, hpositions, total_eq_zero_of_vacant hshared.positioned hvacant]
        exact fun position hother => if_neg hother
      · rw [hwithdrawn, hpositions, total_eq_zero_of_vacant hshared.positioned hvacant]
        exact fun position hother => if_neg hother

/-- The weight is one of what a position holds and has paid out. -/
def Vanishes (weight : LiquidityPosition → Nat) : Prop :=
  ∀ position, position.principalAmount = 0 → position.withdrawnAmount = 0 → weight position = 0

theorem sharesIn_vanishes (key : Pubkey) : Vanishes (sharesIn key) := by
  intro position hprincipal _
  rw [sharesIn, hprincipal]
  exact ite_self 0

theorem withdrawnIn_vanishes (key : Pubkey) : Vanishes (withdrawnIn key) := by
  intro position _ hwithdrawn
  rw [withdrawnIn, hwithdrawn]
  exact ite_self 0

/-- A step that writes one position and its vault, and books in the vault what it books in the
position. -/
theorem shared_of_update {address : Pubkey} {old new : LiquidityPosition} (hshared : Shared world)
    (hvault : world.vaults.lookup key = some vault)
    (hpositions : next.positions = world.positions.insert address new)
    (hvaults : next.vaults = world.vaults.insert key vault')
    (hold : old.crankerVault = key) (hnew : new.crankerVault = key)
    (haddress : address = liquidityPositionAddress key new.funder)
    (hfunder : new.funder ≠ Pubkey.default ∧ new.funder.program? ≠ some tsnProgram)
    (hweigh : ∀ weight, Vanishes weight →
      weigh weight (world.positions.lookup address) = weight old)
    (hprice : vault'.totalLiquidity = vault'.totalShares)
    (hbounded : vault'.totalLiquidity < 2 ^ 64)
    (hshares : vault'.totalShares + old.principalAmount =
      vault.totalShares + new.principalAmount)
    (htaken : vault'.totalWithdrawn + old.withdrawnAmount =
      vault.totalWithdrawn + new.withdrawnAmount) : Shared next := by
  constructor
  · intro address' position hposition
    have hkept : ∀ key', (∃ vault, world.vaults.lookup key' = some vault) →
        ∃ vault, next.vaults.lookup key' = some vault := by
      intro key' hstored
      rw [hvaults, lookup_insert_eq]
      split_ifs
      · exact ⟨vault', rfl⟩
      · exact hstored
    rw [hpositions, lookup_insert_eq] at hposition
    split_ifs at hposition with hsame
    · cases hposition
      rw [hsame, hnew]
      exact ⟨haddress, hfunder.1, hfunder.2, hkept key ⟨vault, hvault⟩⟩
    · obtain ⟨hplace, hdefault, hwallet, hstored⟩ := hshared.positioned address' position hposition
      exact ⟨hplace, hdefault, hwallet, hkept _ hstored⟩
  · intro key' other hother
    have hsum := total_insert (sharesIn key') world.positions address new
    have hsum' := total_insert (withdrawnIn key') world.positions address new
    rw [← hpositions, hweigh _ (sharesIn_vanishes key')] at hsum
    rw [← hpositions, hweigh _ (withdrawnIn_vanishes key')] at hsum'
    simp only [sharesIn, withdrawnIn, hold, hnew] at hsum hsum'
    rw [hvaults, lookup_insert_eq] at hother
    split_ifs at hother with hkey
    · cases hother
      subst hkey
      have hbefore := hshared.priced key' vault hvault
      have htotal := hbefore.shares
      have htaken' := hbefore.taken
      rw [if_pos rfl, if_pos rfl] at hsum hsum'
      exact ⟨hprice, by omega, by omega, hbounded⟩
    · obtain ⟨hprice', htotal, htaken', hbounded'⟩ := hshared.priced key' other hother
      rw [if_neg (Ne.symm hkey), if_neg (Ne.symm hkey)] at hsum hsum'
      exact ⟨hprice', htotal.trans hsum.symm, htaken'.trans hsum'.symm, hbounded'⟩

/-- The position a deposit goes to: that of the funder in the vault, empty when there is
none. -/
theorem position_of_deposits {accounts : FundCranker} {minted : Nat}
    (hpositioned : Positioned world)
    (hdeposits : Deposits runtime call accounts amount world next vault position minted) :
    position.crankerVault = accounts.crankerVault ∧ position.funder = accounts.funder ∧
      ∀ weight, Vanishes weight →
        weigh weight (world.positions.lookup accounts.liquidityPosition) = weight position := by
  have hposition := hdeposits.position_eq
  cases hlookup : world.positions.lookup accounts.liquidityPosition with
  | none =>
      rw [hlookup] at hposition
      subst hposition
      exact ⟨rfl, rfl, fun weight hvanishes => (hvanishes _ rfl rfl).symm⟩
  | some stored =>
      obtain ⟨haddress, hfunder, -⟩ := hpositioned _ stored hlookup
      rw [hlookup, Option.getD_some, openPosition, if_neg hfunder] at hposition
      subst hposition
      rw [hdeposits.positionAddress, liquidityPositionAddress_inj] at haddress
      exact ⟨haddress.1.symm, haddress.2.symm, fun weight _ => rfl⟩

/-- A deposit mints as many shares as it brings tokens. -/
theorem minted_of_deposits {accounts : FundCranker} {minted : Nat} (hshared : Shared world)
    (hdeposits : Deposits runtime call accounts amount world next vault position minted) :
    minted = amount := by
  have hbounded := hdeposits.bounded
  exact minted_of_price (hshared.priced _ vault hdeposits.vaultAt).price (by omega)
    hdeposits.minted_eq

theorem shared_of_deposits {accounts : FundCranker} {minted : Nat} (hshared : Shared world)
    (hsigners : NoProgramSigner call)
    (hdeposits : Deposits runtime call accounts amount world next vault position minted) :
    Shared next := by
  obtain ⟨hvaultOf, hfunderOf, hweigh⟩ := position_of_deposits hshared.positioned hdeposits
  have hminted := minted_of_deposits hshared hdeposits
  have hprice := (hshared.priced _ vault hdeposits.vaultAt).price
  have hwallet := hsigners _ hdeposits.signed
  refine shared_of_update hshared hdeposits.vaultAt hdeposits.positions_eq hdeposits.vaults_eq
    hvaultOf hvaultOf ?_ ?_ hweigh ?_ hdeposits.bounded ?_ rfl
  · show accounts.liquidityPosition =
      liquidityPositionAddress accounts.crankerVault position.funder
    rw [hfunderOf, hdeposits.positionAddress]
  · show position.funder ≠ _ ∧ position.funder.program? ≠ _
    rw [hfunderOf]
    exact ⟨hwallet.2, hwallet.1⟩
  · show vault.totalLiquidity + amount = vault.totalShares + minted
    rw [hprice, hminted]
  · show vault.totalShares + minted + position.principalAmount =
      vault.totalShares + (position.principalAmount + minted)
    omega

/-- A withdrawal burns as many shares as it takes tokens. -/
theorem burned_of_withdraws {accounts : WithdrawCrankerFunds} {vaultToken : TokenAccount}
    {burned : Nat} (hshared : Shared world)
    (hwithdraws : Withdraws call accounts amount world next vault position vaultToken burned) :
    burned = amount := by
  have hpriced := hshared.priced _ vault hwithdraws.vaultAt
  exact (burned_of_price hpriced.price hpriced.bounded hwithdraws.burned_eq).1

theorem shared_of_withdraws {accounts : WithdrawCrankerFunds} {vaultToken : TokenAccount}
    {burned : Nat} (hshared : Shared world)
    (hwithdraws : Withdraws call accounts amount world next vault position vaultToken burned) :
    Shared next := by
  have hburned := burned_of_withdraws hshared hwithdraws
  have hpriced := hshared.priced _ vault hwithdraws.vaultAt
  obtain ⟨hheld, hliquid, htotal⟩ := hwithdraws.covered
  obtain ⟨haddress, hfunder, hwallet, -⟩ :=
    hshared.positioned _ position hwithdraws.positionAt
  have hprice := hpriced.price
  have hbounded := hpriced.bounded
  refine shared_of_update hshared hwithdraws.vaultAt hwithdraws.positions_eq
    hwithdraws.vaults_eq hwithdraws.positionVault hwithdraws.positionVault ?_
    ⟨hfunder, hwallet⟩ ?_ ?_ ?_ ?_ ?_
  · rw [haddress, hwithdraws.positionVault]
  · intro weight _
    rw [hwithdraws.positionAt, weigh_some]
  · show vault.totalLiquidity - amount = vault.totalShares - burned
    rw [hprice, hburned]
  · show vault.totalLiquidity - amount < 2 ^ 64
    omega
  · show vault.totalShares - burned + position.principalAmount =
      vault.totalShares + (position.principalAmount - burned)
    omega
  · show vault.totalWithdrawn + amount + position.withdrawnAmount =
      vault.totalWithdrawn + (position.withdrawnAmount + amount)
    omega

theorem shared_of_step {input : Step} (hshared : Shared world)
    (hstep : step runtime world input = .ok next) : Shared next := by
  have hkeeps : next.positions = world.positions → next.vaults = world.vaults →
      Shared next := by
    intro hpositions hvaults
    refine shared_of_same hshared hpositions ?_ ?_
    · rw [hvaults]
      exact fun key vault hvault => ⟨vault, hvault⟩
    · rw [hvaults]
      exact fun key vault hvault => .inl ⟨vault, hvault, rfl, rfl, rfl⟩
  cases input with
  | external call action =>
      have hcrankers := (keepsProgram_of_executeExternal (step_external_eq_ok.mp hstep).2).crankers
      exact hkeeps hcrankers.positions_eq hcrankers.vaults_eq
  | tsn call instruction =>
      obtain ⟨hsigners, hexecute⟩ := step_tsn_eq_ok.mp hstep
      cases instruction with
      | registerCranker accounts =>
          simp only [execute, registerCranker, bind_eq_ok, pure_eq_ok] at hexecute
          obtain ⟨_, -, _, -, _, -, rfl⟩ := hexecute
          exact hkeeps rfl rfl
      | setCrankerFundingPolicy accounts allowed =>
          simp only [execute, setCrankerFundingPolicy, bind_eq_ok, pure_eq_ok] at hexecute
          obtain ⟨_, -, _, -, _, -, _, -, _, -, _, -, rfl⟩ := hexecute
          exact hkeeps rfl rfl
      | initializeCrankerVault accounts =>
          obtain ⟨opened, hopens⟩ := initializeCrankerVault_eq_ok hexecute
          refine shared_of_same hshared hopens.positions_eq ?_ ?_
          · intro key vault hvault
            rw [hopens.vaults_eq, lookup_insert_eq]
            split_ifs
            · exact ⟨opened, rfl⟩
            · exact ⟨vault, hvault⟩
          · intro key vault' hvault'
            rw [hopens.vaults_eq, lookup_insert_eq] at hvault'
            split_ifs at hvault' with hkey
            · cases hvault'
              rw [hkey]
              exact .inr ⟨hopens.vacant, hopens.empty.1, hopens.empty.2.1, hopens.empty.2.2.2⟩
            · exact .inl ⟨vault', hvault', rfl, rfl, rfl⟩
      | fundCranker accounts amount =>
          obtain ⟨vault, position, minted, hdeposits⟩ := fundCranker_eq_ok hexecute
          exact shared_of_deposits hshared hsigners hdeposits
      | withdrawCrankerFunds accounts amount =>
          obtain ⟨vault, position, token, burned, hwithdraws⟩ :=
            withdrawCrankerFunds_eq_ok hexecute
          exact shared_of_withdraws hshared hwithdraws
      | executePrivatePayout accounts args =>
          obtain ⟨loaded, cranker, vault, hsettles, hpays⟩ := executePrivatePayout_eq_ok hexecute
          obtain ⟨rewards, hnext⟩ := hpays.vaults_eq
          refine shared_of_same hshared hsettles.positions_eq ?_ ?_
          · intro key stored hstored
            rw [hnext, lookup_insert_eq]
            split_ifs
            · exact ⟨_, rfl⟩
            · exact ⟨stored, hstored⟩
          · intro key vault' hvault'
            rw [hnext, lookup_insert_eq] at hvault'
            split_ifs at hvault' with hkey
            · cases hvault'
              exact .inl ⟨vault, hkey ▸ hpays.vaultAt, rfl, rfl, rfl⟩
            · exact .inl ⟨vault', hvault', rfl, rfl, rfl⟩
      | _ =>
          have hcrankers := keepsCrankers_of_execute hexecute trivial
          exact hkeeps hcrankers.positions_eq hcrankers.vaults_eq

theorem shared_of_run {history : List (World × Step)} (hlaunch : Launch start)
    (hrun : Run (step runtime) start history world) : Shared world := by
  refine hrun.induct_on (fun _ world => Shared world) (shared_of_launch hlaunch) ?_
  intro history world input next _ hshared hstep
  exact shared_of_step hshared hstep

end Steps

section Ledger

/-- What a funder puts into a vault with a step. -/
def deposit (key funder : Pubkey) : Step → Nat
  | .tsn _ (.fundCranker accounts amount) =>
      if accounts.crankerVault = key ∧ accounts.funder = funder then amount else 0
  | _ => 0

/-- What a funder takes out of a vault with a step. -/
def withdrawal (key funder : Pubkey) : Step → Nat
  | .tsn _ (.withdrawCrankerFunds accounts amount) =>
      if accounts.crankerVault = key ∧ accounts.funder = funder then amount else 0
  | _ => 0

/-- What a funder has put into a vault. -/
def funded (history : List (World × Step)) (key funder : Pubkey) : Nat :=
  (history.map fun entry => deposit key funder entry.2).sum

/-- What a funder has taken out of a vault. -/
def withdrawn (history : List (World × Step)) (key funder : Pubkey) : Nat :=
  (history.map fun entry => withdrawal key funder entry.2).sum

/-- The shares of a funder in a vault. -/
def principal (world : World) (key funder : Pubkey) : Nat :=
  weigh LiquidityPosition.principalAmount
    (world.positions.lookup (liquidityPositionAddress key funder))

theorem principal_of_deposits {accounts : FundCranker} {minted : Nat} (hshared : Shared world)
    (hdeposits : Deposits runtime call accounts amount world next vault position minted) :
    principal next key funder = principal world key funder +
      if accounts.crankerVault = key ∧ accounts.funder = funder then amount else 0 := by
  obtain ⟨hvaultOf, hfunderOf, hweigh⟩ := position_of_deposits hshared.positioned hdeposits
  have hminted := minted_of_deposits hshared hdeposits
  rw [principal, hdeposits.positions_eq, lookup_insert_eq, hdeposits.positionAddress]
  by_cases hsame : accounts.crankerVault = key ∧ accounts.funder = funder
  · obtain ⟨rfl, rfl⟩ := hsame
    have hbefore := hweigh LiquidityPosition.principalAmount fun _ hnone _ => hnone
    rw [hdeposits.positionAddress] at hbefore
    rw [if_pos rfl, if_pos ⟨rfl, rfl⟩, weigh_some, principal, hbefore]
    exact congrArg (position.principalAmount + ·) hminted
  · rw [if_neg hsame, if_neg]
    · rfl
    · intro haddress
      obtain ⟨rfl, rfl⟩ := liquidityPositionAddress_inj.mp haddress
      exact hsame ⟨rfl, rfl⟩

theorem principal_of_withdraws {accounts : WithdrawCrankerFunds} {vaultToken : TokenAccount}
    {burned : Nat} (hshared : Shared world)
    (hwithdraws : Withdraws call accounts amount world next vault position vaultToken burned) :
    principal next key funder +
      (if accounts.crankerVault = key ∧ accounts.funder = funder then amount else 0) =
        principal world key funder := by
  have hburned := burned_of_withdraws hshared hwithdraws
  obtain ⟨hheld, -⟩ := hwithdraws.covered
  obtain ⟨haddress, -⟩ := hshared.positioned _ position hwithdraws.positionAt
  rw [hwithdraws.positionVault, hwithdraws.positionFunder] at haddress
  have hstored := hwithdraws.positionAt
  rw [haddress] at hstored
  rw [principal, hwithdraws.positions_eq, lookup_insert_eq, haddress]
  by_cases hsame : accounts.crankerVault = key ∧ accounts.funder = funder
  · obtain ⟨rfl, rfl⟩ := hsame
    rw [if_pos rfl, if_pos ⟨rfl, rfl⟩, weigh_some, principal, hstored, weigh_some]
    show position.principalAmount - burned + amount = position.principalAmount
    omega
  · rw [if_neg hsame, if_neg]
    · rfl
    · intro hplace
      obtain ⟨rfl, rfl⟩ := liquidityPositionAddress_inj.mp hplace
      exact hsame ⟨rfl, rfl⟩

theorem principal_of_step {input : Step} (hshared : Shared world)
    (hstep : step runtime world input = .ok next) :
    principal next key funder + withdrawal key funder input =
      principal world key funder + deposit key funder input := by
  have hkept : next.positions = world.positions →
      principal next key funder = principal world key funder := by
    intro hpositions
    rw [principal, hpositions]
    rfl
  cases input with
  | external call action =>
      exact hkept (keepsProgram_of_executeExternal
        (step_external_eq_ok.mp hstep).2).crankers.positions_eq
  | tsn call instruction =>
      have hexecute := (step_tsn_eq_ok.mp hstep).2
      cases instruction with
      | registerCranker accounts =>
          simp only [execute, registerCranker, bind_eq_ok, pure_eq_ok] at hexecute
          obtain ⟨_, -, _, -, _, -, rfl⟩ := hexecute
          exact hkept rfl
      | setCrankerFundingPolicy accounts allowed =>
          simp only [execute, setCrankerFundingPolicy, bind_eq_ok, pure_eq_ok] at hexecute
          obtain ⟨_, -, _, -, _, -, _, -, _, -, _, -, rfl⟩ := hexecute
          exact hkept rfl
      | initializeCrankerVault accounts =>
          obtain ⟨opened, hopens⟩ := initializeCrankerVault_eq_ok hexecute
          exact hkept hopens.positions_eq
      | fundCranker accounts amount =>
          obtain ⟨vault, position, minted, hdeposits⟩ := fundCranker_eq_ok hexecute
          exact principal_of_deposits hshared hdeposits
      | withdrawCrankerFunds accounts amount =>
          obtain ⟨vault, position, token, burned, hwithdraws⟩ :=
            withdrawCrankerFunds_eq_ok hexecute
          exact principal_of_withdraws hshared hwithdraws
      | executePrivatePayout accounts args =>
          obtain ⟨_, _, _, hsettles, -⟩ := executePrivatePayout_eq_ok hexecute
          exact hkept hsettles.positions_eq
      | _ => exact hkept (keepsCrankers_of_execute hexecute trivial).positions_eq

/-- The shares of a funder are what it put in less what it took out. -/
theorem principal_of_run {history : List (World × Step)} (hlaunch : Launch start)
    (hrun : Run (step runtime) start history world) (key funder : Pubkey) :
    principal world key funder + withdrawn history key funder = funded history key funder := by
  refine hrun.induct_on (fun history world =>
    principal world key funder + withdrawn history key funder = funded history key funder) ?_ ?_
  · rw [principal, hlaunch.positions]
    rfl
  · intro history world input next hprefix ih hstep
    have hchange : principal next key funder + withdrawal key funder input =
        principal world key funder + deposit key funder input :=
      principal_of_step (shared_of_run hlaunch hprefix) hstep
    simp only [withdrawn, funded, List.map_cons, List.sum_cons] at ih ⊢
    omega

/-- What is left in a vault of what came in through a position. -/
def remainingIn (history : List (World × Step)) (key : Pubkey)
    (position : LiquidityPosition) : Nat :=
  if position.crankerVault = key then
    funded history key position.funder - withdrawn history key position.funder
  else 0

theorem total_sharesIn_eq {history : List (World × Step)} (hlaunch : Launch start)
    (hrun : Run (step runtime) start history world) (key : Pubkey) :
    total (sharesIn key) world.positions = total (remainingIn history key) world.positions := by
  rw [total_eq_sum_keys, total_eq_sum_keys]
  refine Finset.sum_congr rfl fun address _ => ?_
  cases hlookup : world.positions.lookup address with
  | none => rfl
  | some position =>
      obtain ⟨haddress, -⟩ := (shared_of_run hlaunch hrun).positioned address position hlookup
      have hprincipal := principal_of_run hlaunch hrun position.crankerVault position.funder
      rw [principal, ← haddress, hlookup, weigh_some] at hprincipal
      rw [weigh_some, weigh_some, sharesIn, remainingIn]
      split_ifs with hkey
      · subst hkey
        omega
      · rfl

end Ledger

/-- What holds of a vault in every state. -/
structure Sound (history : List (World × Step)) (world : World) (key : Pubkey)
    (vault : CrankerVault) : Prop where
  shares : vault.totalShares = total (sharesIn key) world.positions
  liquidity : vault.totalLiquidity = total (remainingIn history key) world.positions
  covered : ∃ token, world.tokens.lookup vault.vaultTokenAccount = some token ∧
    vault.totalLiquidity ≤ token.amount
  mintCast : ∀ amount, amount < 2 ^ 64 →
    sharesFor amount vault.totalShares vault.totalLiquidity < 2 ^ 64
  burnCast : ∀ amount, amount < 2 ^ 64 →
    sharesToBurnFor amount vault.totalShares vault.totalLiquidity < 2 ^ 64
  withdrawCast : ∀ address position, world.positions.lookup address = some position →
    position.crankerVault = key →
      withdrawableFor position.principalAmount
        (vault.totalLiquidity - vault.reservedLiquidity) vault.totalShares < 2 ^ 64

theorem casts_of_priced (hpriced : Priced world key vault) (hamount : amount < 2 ^ 64) :
    sharesFor amount vault.totalShares vault.totalLiquidity < 2 ^ 64 ∧
      sharesToBurnFor amount vault.totalShares vault.totalLiquidity < 2 ^ 64 := by
  rw [← hpriced.price]
  rcases Nat.eq_zero_or_pos vault.totalLiquidity with hzero | hpos
  · rw [hzero, sharesFor, sharesToBurnFor, Nat.div_zero, Nat.div_zero]
    exact ⟨Nat.two_pow_pos 64, Nat.two_pow_pos 64⟩
  · rw [sharesFor_self hpos, sharesToBurnFor_self hpos]
    exact ⟨hamount, hamount⟩

/-- A position has no more shares than its vault. -/
theorem principal_le_of_priced {address : Pubkey} (hpriced : Priced world key vault)
    (hposition : world.positions.lookup address = some position)
    (hkey : position.crankerVault = key) :
    position.principalAmount ≤ vault.totalLiquidity := by
  have hle : sharesIn key position ≤ total (sharesIn key) world.positions :=
    weight_le_total hposition
  rw [sharesIn, if_pos hkey, ← hpriced.shares, ← hpriced.price] at hle
  exact hle

/-- Along every run the totals of a vault are the sums over its positions and lie in its
account, no cast loses a bit, and nobody takes out more than it put in. -/
theorem sound_of_run {history : List (World × Step)} (hlaunch : Launch start)
    (hrun : Run (step runtime) start history world) :
    (∀ key vault, world.vaults.lookup key = some vault → Sound history world key vault) ∧
      ∀ key funder, withdrawn history key funder ≤ funded history key funder := by
  constructor
  · intro key vault hvault
    have hpriced := (shared_of_run hlaunch hrun).priced key vault hvault
    have hregistered := allRegistered_of_run hlaunch hrun key vault hvault
    obtain ⟨token, htoken, -, -, hamount⟩ :=
      (balanced_of_run hlaunch hrun).balances key vault hvault
    refine ⟨hpriced.shares, ?_, ⟨token, ?_, by omega⟩, fun amount hamount =>
      (casts_of_priced hpriced hamount).1, fun amount hamount =>
      (casts_of_priced hpriced hamount).2, ?_⟩
    · rw [hpriced.price, hpriced.shares, total_sharesIn_eq hlaunch hrun]
    · rw [hregistered.account, htoken]
    · intro address position hposition hkey
      have hle := principal_le_of_priced hpriced hposition hkey
      have hbounded := hpriced.bounded
      rw [hregistered.unreserved, Nat.sub_zero, ← hpriced.price]
      rcases Nat.eq_zero_or_pos vault.totalLiquidity with hzero | hpos
      · rw [hzero, withdrawableFor, Nat.div_zero]
        exact Nat.two_pow_pos 64
      · rw [withdrawableFor_self hpos]
        omega
  · intro key funder
    have hprincipal := principal_of_run hlaunch hrun key funder
    omega

section Sample

/-- A funder takes tokens out of the vault. -/
def withdrawStep (funder wallet : Pubkey) (amount : Nat) : Step :=
  .tsn ⟨[funder], 1, none⟩ (.withdrawCrankerFunds
    ⟨funder, motherEscrowAddress, sampleCranker, sampleVault, vaultAuthorityAddress sampleVault,
      vaultTokenAddress sampleVault, wallet, liquidityPositionAddress sampleVault funder⟩ amount)

/-- Two funders, a payout, and a withdrawal of all that one of them put in. -/
theorem sound_after_withdrawal :
    ∃ history world vault, Run (step localRuntime) walletWorld history world ∧
      world.vaults.lookup sampleVault = some vault ∧ vault.totalLiquidity = 500 ∧
      withdrawn history sampleVault sender = 200 ∧ Sound history world sampleVault vault := by
  have hreaches : reaches (step localRuntime) walletWorld
      (withdrawStep sender usdWallet 200 :: payoutStep 1 100 :: dnaStep 1 100 ::
        fundTreasuryStep usdMint usdWallet 300 :: fundVaultStep sender usdWallet 200 ::
        fundVaultStep operator operatorWallet 500 :: setupSteps)
      (fun history world =>
        (world.vaults.lookup sampleVault).any (fun vault => vault.totalLiquidity = 500) = true ∧
          withdrawn history sampleVault sender = 200) = true := by
    decide +kernel
  obtain ⟨history, world, hrun, hproperty⟩ := exists_run_of_reaches hreaches
  obtain ⟨hvault, hwithdrawn⟩ := of_decide_eq_true hproperty
  obtain ⟨vault, hlookup, hliquidity⟩ := (Option.any_eq_true _ _).mp hvault
  exact ⟨history, world, vault, hrun, hlookup, of_decide_eq_true hliquidity, hwithdrawn,
    (sound_of_run launch_walletWorld hrun).1 sampleVault vault hlookup⟩

end Sample

end TsnProtocol.Escrow.VaultShares
