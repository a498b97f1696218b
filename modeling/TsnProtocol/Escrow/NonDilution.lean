import Mathlib
import TsnProtocol.Escrow.VaultShares

/-!
What a deposit or a withdrawal of one funder does to the value of the others. A deposit
mints rounding down and a withdrawal burns rounding up, so the price of a share does not fall;
this holds for every vault whose shares are worth at least one token each, not only for the
vaults of a run, where they are worth exactly one.
-/

namespace TsnProtocol.Escrow.NonDilution

open Lib.Checked
open Lib.FiniteStore
open Lib.Transition
open Solana.Address
open Escrow.State
open Escrow.CrankerFunding
open Escrow.Program
open Escrow.SingleSettlement
open Escrow.VaultTokens
open Escrow.VaultShares

variable {runtime : Runtime} {call : Call} {world next start : World}
  {key funder other : Pubkey} {amount : Nat} {vault vault' : CrankerVault}
  {position held : LiquidityPosition}

section Prices

variable {liquidity liquidity' shares shares' minted burned part : Nat}

theorem value_le_of_price (hprice : liquidity * shares' ≤ liquidity' * shares)
    (hshares : 0 < shares) (hshares' : 0 < shares') :
    part * liquidity / shares ≤ part * liquidity' / shares' := by
  rw [Nat.le_div_iff_mul_le hshares']
  refine Nat.le_of_mul_le_mul_right ?_ hshares
  calc
    part * liquidity / shares * shares' * shares =
        part * liquidity / shares * shares * shares' := by ring
    _ ≤ part * liquidity * shares' := Nat.mul_le_mul_right _ (Nat.div_mul_le_self _ _)
    _ = part * (liquidity * shares') := by ring
    _ ≤ part * (liquidity' * shares) := Nat.mul_le_mul_left _ hprice
    _ = part * liquidity' * shares := by ring

theorem sharesFor_mul_le : sharesFor amount shares liquidity * liquidity ≤ amount * shares :=
  Nat.div_mul_le_self _ _

theorem sharesFor_le (hle : shares ≤ liquidity) : sharesFor amount shares liquidity ≤ amount :=
  Nat.div_le_of_le_mul ((Nat.mul_le_mul_left _ hle).trans_eq (Nat.mul_comm _ _))

theorem mul_le_sharesToBurnFor (hpos : 0 < liquidity) :
    amount * shares ≤ liquidity * sharesToBurnFor amount shares liquidity := by
  have hround : amount * shares + liquidity - 1 <
      liquidity * sharesToBurnFor amount shares liquidity + liquidity :=
    Nat.lt_mul_div_succ _ hpos
  omega

theorem sharesToBurnFor_le (hpos : 0 < liquidity) (hle : shares ≤ liquidity) :
    sharesToBurnFor amount shares liquidity ≤ amount := by
  have hprod : amount * shares ≤ liquidity * amount :=
    (Nat.mul_le_mul_left _ hle).trans_eq (Nat.mul_comm _ _)
  rw [sharesToBurnFor, ← Nat.lt_succ_iff, Nat.div_lt_iff_lt_mul hpos, Nat.succ_mul,
    Nat.mul_comm amount liquidity]
  omega

/-- A deposit does not lower the price of a share. -/
theorem price_le_of_minted (hpos : 0 < vault.totalShares)
    (hle : vault.totalShares ≤ vault.totalLiquidity) (hamount : amount < 2 ^ 64)
    (hminted : mintedShares vault amount = .ok minted) :
    vault.totalLiquidity * (vault.totalShares + minted) ≤
      (vault.totalLiquidity + amount) * vault.totalShares := by
  rw [mintedShares, if_neg (by omega), if_neg (by omega)] at hminted
  simp only [bind_eq_ok, pure_eq_ok] at hminted
  obtain ⟨_, -, rfl⟩ := hminted
  rw [asU64_eq_self ((sharesFor_le hle).trans_lt hamount)]
  have hdown : sharesFor amount vault.totalShares vault.totalLiquidity * vault.totalLiquidity ≤
      amount * vault.totalShares := sharesFor_mul_le
  rw [Nat.mul_add, Nat.add_mul, Nat.mul_comm vault.totalLiquidity (sharesFor _ _ _)]
  omega

/-- A withdrawal does not lower the price of the shares that stay. -/
theorem price_le_of_burned {balance : Nat} (hpos : 0 < vault.totalShares)
    (hle : vault.totalShares ≤ vault.totalLiquidity)
    (hburned : sharesToBurn vault part balance amount = .ok burned) :
    vault.totalLiquidity * (vault.totalShares - burned) ≤
      (vault.totalLiquidity - amount) * vault.totalShares := by
  simp only [sharesToBurn, bind_eq_ok, check_eq_ok, subU64_eq_ok, pure_eq_ok] at hburned
  obtain ⟨_, -, _, -, _, -, withdrawable, -, _, -, _, hcapped, _, -, _, -, _, -, rfl⟩ := hburned
  have hliquid : 0 < vault.totalLiquidity := by omega
  have hamount : amount < 2 ^ 64 := hcapped.trans_lt (Nat.mod_lt _ (Nat.two_pow_pos 64))
  rw [asU64_eq_self ((sharesToBurnFor_le hliquid hle).trans_lt hamount)]
  have hup : amount * vault.totalShares ≤
      vault.totalLiquidity * sharesToBurnFor amount vault.totalShares vault.totalLiquidity :=
    mul_le_sharesToBurnFor hliquid
  rw [Nat.mul_sub, Nat.sub_mul]
  omega

end Prices

section Holders

/-- What the shares of a position are worth. -/
def redeemable (vault : CrankerVault) (position : LiquidityPosition) : Nat :=
  position.principalAmount * vault.totalLiquidity / vault.totalShares

/-- The position of a funder in a vault. -/
structure Holds (world : World) (key funder : Pubkey) (position : LiquidityPosition) :
    Prop where
  stored : world.positions.lookup (liquidityPositionAddress key funder) = some position
  vaultOf : position.crankerVault = key
  funderOf : position.funder = funder

/-- The shares of a vault cover those of its positions. -/
def Covered (world : World) (key : Pubkey) (vault : CrankerVault) : Prop :=
  total (sharesIn key) world.positions ≤ vault.totalShares

/-- A deposit or a withdrawal of a funder at a vault. -/
inductive Moves (runtime : Runtime) (call : Call) (key funder : Pubkey) (amount : Nat)
    (world next : World) : Prop where
  | deposit (accounts : FundCranker) (hkey : accounts.crankerVault = key)
      (hfunder : accounts.funder = funder)
      (hstep : fundCranker runtime call accounts amount world = .ok next)
  | withdrawal (accounts : WithdrawCrankerFunds) (hkey : accounts.crankerVault = key)
      (hfunder : accounts.funder = funder)
      (hstep : withdrawCrankerFunds runtime call accounts amount world = .ok next)

/-- What a write adds to the shares of a position, the vault adds to its own. -/
theorem covered_of_write {address : Pubkey} (hcovered : Covered world key vault)
    (hpositions : next.positions = world.positions.insert address position)
    (hgrows : sharesIn key position + vault.totalShares ≤
      weigh (sharesIn key) (world.positions.lookup address) + vault'.totalShares) :
    Covered next key vault' := by
  have hsum := total_insert (sharesIn key) world.positions address position
  rw [← hpositions] at hsum
  rw [Covered] at *
  omega

theorem sharesIn_of_deposits {accounts : FundCranker} {minted : Nat}
    (hdeposits : Deposits runtime call accounts amount world next vault position minted) :
    sharesIn key { position with
        principalAmount := position.principalAmount + minted
        updatedAtTs := call.now } ≤
      weigh (sharesIn key) (world.positions.lookup accounts.liquidityPosition) + minted := by
  have hposition := hdeposits.position_eq
  rw [openPosition] at hposition
  split at hposition
  · subst hposition
    simp only [sharesIn]
    split
    · omega
    · omega
  · next hfunder =>
      cases hlookup : world.positions.lookup accounts.liquidityPosition with
      | none =>
          rw [hlookup] at hfunder
          exact absurd rfl hfunder
      | some stored =>
          rw [hlookup] at hposition
          subst hposition
          simp only [weigh_some, sharesIn, Option.getD_some]
          split
          · omega
          · omega

/-- A move leaves the positions of other funders alone. -/
theorem holds_of_moves (hmoves : Moves runtime call key funder amount world next)
    (hother : other ≠ funder) (hholds : Holds world key other held) :
    Holds next key other held := by
  refine ⟨?_, hholds.vaultOf, hholds.funderOf⟩
  rcases hmoves with ⟨accounts, rfl, rfl, hstep⟩ | ⟨accounts, rfl, rfl, hstep⟩
  · obtain ⟨vault, position, minted, hdeposits⟩ := fundCranker_eq_ok hstep
    rw [hdeposits.positions_eq, lookup_insert_eq, if_neg]
    · exact hholds.stored
    · rw [hdeposits.positionAddress, liquidityPositionAddress_inj]
      rintro ⟨-, rfl⟩
      exact hother rfl
  · obtain ⟨vault, position, vaultToken, burned, hwithdraws⟩ := withdrawCrankerFunds_eq_ok hstep
    rw [hwithdraws.positions_eq, lookup_insert_eq, if_neg]
    · exact hholds.stored
    · intro haddress
      have hsame := hholds.stored
      rw [haddress, hwithdraws.positionAt] at hsame
      cases hsame
      exact hother (hholds.funderOf.symm.trans hwithdraws.positionFunder)

/-- A move leaves a vault whose shares are not cheaper and still cover the positions. -/
theorem price_le_of_moves (hmoves : Moves runtime call key funder amount world next)
    (hvault : world.vaults.lookup key = some vault)
    (hpos : 0 < vault.totalShares) (hle : vault.totalShares ≤ vault.totalLiquidity) :
    ∃ vault', next.vaults.lookup key = some vault' ∧
      vault.totalLiquidity * vault'.totalShares ≤ vault'.totalLiquidity * vault.totalShares ∧
      (Covered world key vault → Covered next key vault') := by
  rcases hmoves with ⟨accounts, rfl, rfl, hstep⟩ | ⟨accounts, rfl, rfl, hstep⟩
  · obtain ⟨stored, position, minted, hdeposits⟩ := fundCranker_eq_ok hstep
    obtain rfl : stored = vault := Option.some.inj (hdeposits.vaultAt.symm.trans hvault)
    have hlookup := (congrArg (Finmap.lookup accounts.crankerVault) hdeposits.vaults_eq).trans
      (Finmap.lookup_insert _)
    have hbounded := hdeposits.bounded
    refine ⟨_, hlookup, price_le_of_minted hpos hle (by omega) hdeposits.minted_eq, ?_⟩
    intro hcovered
    refine covered_of_write hcovered hdeposits.positions_eq ?_
    have hshares := @sharesIn_of_deposits _ _ _ _ accounts.crankerVault _ _ _ _ _ hdeposits
    show _ ≤ _ + (stored.totalShares + minted)
    omega
  · obtain ⟨stored, position, vaultToken, burned, hwithdraws⟩ :=
      withdrawCrankerFunds_eq_ok hstep
    obtain rfl : stored = vault := Option.some.inj (hwithdraws.vaultAt.symm.trans hvault)
    have hlookup := (congrArg (Finmap.lookup accounts.crankerVault) hwithdraws.vaults_eq).trans
      (Finmap.lookup_insert _)
    refine ⟨_, hlookup, price_le_of_burned hpos hle hwithdraws.burned_eq, ?_⟩
    intro hcovered
    refine covered_of_write hcovered hwithdraws.positions_eq ?_
    obtain ⟨hheld, -, htotal⟩ := hwithdraws.covered
    rw [hwithdraws.positionAt, weigh_some]
    simp only [sharesIn, hwithdraws.positionVault, if_true]
    omega

end Holders

/-- No deposit and no withdrawal lowers what the position of another funder is worth, while
any shares are left; and none is left only where the others had none. -/
theorem redeemable_le_of_moves (hmoves : Moves runtime call key funder amount world next)
    (hvault : world.vaults.lookup key = some vault)
    (hpos : 0 < vault.totalShares) (hle : vault.totalShares ≤ vault.totalLiquidity)
    (hother : other ≠ funder) (hholds : Holds world key other held) :
    ∃ vault', next.vaults.lookup key = some vault' ∧ Holds next key other held ∧
      (0 < vault'.totalShares → redeemable vault held ≤ redeemable vault' held) ∧
      (Covered world key vault →
        Covered next key vault' ∧ redeemable vault held ≤ redeemable vault' held) := by
  obtain ⟨vault', hvault', hprice, hcovers⟩ := price_le_of_moves hmoves hvault hpos hle
  have hheld := holds_of_moves hmoves hother hholds
  have hvalue : 0 < vault'.totalShares → redeemable vault held ≤ redeemable vault' held :=
    value_le_of_price hprice hpos
  refine ⟨vault', hvault', hheld, hvalue, ?_⟩
  intro hcovered
  refine ⟨hcovers hcovered, ?_⟩
  rcases Nat.eq_zero_or_pos vault'.totalShares with hzero | hleft
  · -- the last shares were the mover's own
    have hshares : sharesIn key held ≤ vault'.totalShares :=
      (weight_le_total hheld.stored).trans (hcovers hcovered)
    rw [sharesIn, if_pos hheld.vaultOf, hzero, Nat.le_zero] at hshares
    rw [redeemable, hshares, Nat.zero_mul, Nat.zero_div]
    exact Nat.zero_le _
  · exact hvalue hleft

section Sample

/-- The sample vault with some tokens on top of its shares. -/
def withYield (world : World) (yield : Nat) : World :=
  match world.vaults.lookup sampleVault with
  | none => world
  | some vault =>
      { world with
        vaults := world.vaults.insert sampleVault
          { vault with totalLiquidity := vault.totalLiquidity + yield }
        tokens := world.tokens.insert (vaultTokenAddress sampleVault)
          ⟨usdMint, vaultAuthorityAddress sampleVault, vault.totalLiquidity + yield⟩ }

/-- The sender takes part of its tokens out of the sample vault. -/
def senderWithdraws (world : World) : Result World :=
  withdrawCrankerFunds localRuntime ⟨[sender], 1, none⟩
    ⟨sender, motherEscrowAddress, sampleCranker, sampleVault, vaultAuthorityAddress sampleVault,
      vaultTokenAddress sampleVault, usdWallet, liquidityPositionAddress sampleVault sender⟩
    100 world

/-- The operator loses nothing when the sender withdraws at a price above one. -/
theorem redeemable_le_of_senderWithdraws :
    ∃ world next vault vault' held, senderWithdraws world = .ok next ∧
      world.vaults.lookup sampleVault = some vault ∧
      vault.totalShares < vault.totalLiquidity ∧ Holds world sampleVault operator held ∧
      next.vaults.lookup sampleVault = some vault' ∧
      redeemable vault held ≤ redeemable vault' held := by
  have hreaches : reaches (step localRuntime) walletWorld
      (fundVaultStep sender usdWallet 200 :: fundVaultStep operator operatorWallet 500 ::
        setupSteps)
      (fun _ reached => let world := withYield reached 33
        (senderWithdraws world).toOption.isSome = true ∧
        (world.vaults.lookup sampleVault).any (fun vault => 0 < vault.totalShares ∧
          vault.totalShares < vault.totalLiquidity) = true ∧
        (world.positions.lookup (liquidityPositionAddress sampleVault operator)).any
          (fun held => held.crankerVault = sampleVault ∧ held.funder = operator) = true ∧
        ((senderWithdraws world).toOption.bind fun next =>
          next.vaults.lookup sampleVault).any (fun vault => 0 < vault.totalShares) = true)
      = true := by
    decide +kernel
  obtain ⟨history, reached, -, hproperty⟩ := exists_run_of_reaches hreaches
  obtain ⟨hsome, hvault, hheld, hnext⟩ := of_decide_eq_true hproperty
  obtain ⟨vault, hlookup, hprice⟩ := (Option.any_eq_true _ _).mp hvault
  obtain ⟨held, hstored, hheld⟩ := (Option.any_eq_true _ _).mp hheld
  obtain ⟨hpos, hless⟩ := of_decide_eq_true hprice
  obtain ⟨hvaultOf, hfunderOf⟩ := of_decide_eq_true hheld
  generalize withYield reached 33 = world at *
  cases hresult : senderWithdraws world with
  | error problem =>
      rw [hresult] at hsome
      cases hsome
  | ok next =>
      have hholds : Holds world sampleVault operator held := ⟨hstored, hvaultOf, hfunderOf⟩
      obtain ⟨vault', hvault', -, hvalue, -⟩ := redeemable_le_of_moves
        (.withdrawal _ rfl rfl hresult) hlookup hpos hless.le (by decide) hholds
      obtain ⟨left, hleft, hpositive⟩ := (Option.any_eq_true _ _).mp hnext
      rw [hresult] at hleft
      obtain rfl : vault' = left := Option.some.inj (hvault'.symm.trans hleft)
      exact ⟨world, next, vault, vault', held, hresult, hlookup, hless, hholds, hvault',
        hvalue (of_decide_eq_true hpositive)⟩

end Sample

end TsnProtocol.Escrow.NonDilution
