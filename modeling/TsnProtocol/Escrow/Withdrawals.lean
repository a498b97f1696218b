import TsnProtocol.Escrow.VaultShares

/-!
When a funder can take its tokens out again. A withdrawal asks for a vault that holds exactly
what it has booked, so one token somebody else puts into its account stops all of them.
-/

namespace TsnProtocol.Escrow.Withdrawals

open Lib.Checked
open Lib.FiniteStore
open Lib.Transition
open Solana.Address
open Escrow.State
open Escrow.Tokens
open Escrow.CrankerFunding
open Escrow.Program
open Escrow.SingleSettlement
open Escrow.VaultTokens
open Escrow.VaultShares

variable {runtime : Runtime} {world next start : World} {history : List (World × Step)}
  {key funder : Pubkey} {amount : Nat} {vault : CrankerVault} {position : LiquidityPosition}

/-- The funder can withdraw the amount: some transaction it signs goes through. -/
def CanWithdraw (runtime : Runtime) (world : World) (key funder : Pubkey)
    (amount : Nat) : Prop :=
  ∃ call accounts next, accounts.crankerVault = key ∧ accounts.funder = funder ∧
    step runtime world (.tsn call (.withdrawCrankerFunds accounts amount)) = .ok next

/-- The funder has an account of the mint with room for the amount. -/
def HasWallet (world : World) (mint funder : Pubkey) (amount : Nat) : Prop :=
  ∃ wallet token, world.tokens.lookup wallet = some token ∧ token.owner = funder ∧
    token.mint = mint ∧ token.amount + amount < 2 ^ 64

/-- What a withdrawal that goes through says about the state before. -/
theorem room_of_canWithdraw (hlaunch : Launch start)
    (hrun : Run (step runtime) start history world)
    (hvault : world.vaults.lookup key = some vault)
    (hcan : CanWithdraw runtime world key funder amount) :
    donated history key = 0 ∧ vault.totalWithdrawn + amount < 2 ^ 64 ∧
      HasWallet world vault.tokenMint funder amount := by
  obtain ⟨call, accounts, next, rfl, rfl, hstep⟩ := hcan
  obtain ⟨hsigners, hexecute⟩ := step_tsn_eq_ok.mp hstep
  obtain ⟨stored, position, vaultToken, burned, hwithdraws⟩ :=
    withdrawCrankerFunds_eq_ok hexecute
  have hfound := hwithdraws.vaultAt
  rw [hvault] at hfound
  cases hfound
  have hpriced := (shared_of_run hlaunch hrun).priced _ vault hvault
  have hregistered := allRegistered_of_run hlaunch hrun _ vault hvault
  obtain ⟨-, -, hexact⟩ :=
    burned_of_price hpriced.price hpriced.bounded hwithdraws.burned_eq
  obtain ⟨token, htoken, howner, -, hamount⟩ :=
    (balanced_of_run hlaunch hrun).balances _ vault hvault
  have hheld := hwithdraws.vaultTokenAt
  rw [← hwithdraws.account, hregistered.account, htoken] at hheld
  cases hheld
  obtain ⟨wallet, hwallet, hfunder, hmint⟩ := hwithdraws.wallet
  refine ⟨by omega, hwithdraws.counted, accounts.funderTokenAccount, wallet, hwallet, hfunder,
    hmint, hwithdraws.transfers.room ?_ wallet hwallet⟩
  intro hsame
  rw [← hsame, ← hwithdraws.account, hregistered.account, htoken] at hwallet
  cases hwallet
  exact vaultAuthority_notMem_signers hsigners accounts.crankerVault
    (howner ▸ hfunder ▸ hwithdraws.signed)

/-- At a price of one a withdrawal burns what it takes, when the position covers it. -/
theorem sharesToBurn_of_price {shares : Nat} (hprice : vault.totalLiquidity = vault.totalShares)
    (hbounded : vault.totalLiquidity < 2 ^ 64) (hreserved : vault.reservedLiquidity = 0)
    (hshares : shares ≤ vault.totalLiquidity) (hpos : 0 < amount) (hle : amount ≤ shares) :
    ∃ burned, sharesToBurn vault shares vault.totalLiquidity amount = .ok burned := by
  have hliquid : 0 < vault.totalLiquidity := by omega
  have hproduct : shares * vault.totalLiquidity < 2 ^ 128 := by
    calc shares * vault.totalLiquidity ≤ vault.totalLiquidity * vault.totalLiquidity :=
          Nat.mul_le_mul_right _ hshares
      _ < 2 ^ 64 * 2 ^ 64 := Nat.mul_lt_mul'' hbounded hbounded
      _ = 2 ^ 128 := (pow_add 2 64 64).symm
  have hproduct' : amount * vault.totalLiquidity < 2 ^ 128 :=
    lt_of_le_of_lt (Nat.mul_le_mul_right _ hle) hproduct
  have hsmall : asU64 shares = shares := asU64_eq_self (by omega)
  have hsmall' : asU64 amount = amount := asU64_eq_self (by omega)
  rw [sharesToBurn, ← hprice, hreserved]
  refine exists_ok_seq (check_eq_ok.mpr hpos) ?_
  refine exists_ok_seq (check_eq_ok.mpr rfl) ?_
  refine exists_ok_seq (check_eq_ok.mpr hliquid) ?_
  refine exists_ok_bind (subU64_eq_ok.mpr ⟨Nat.zero_le _, rfl⟩) ?_
  refine exists_ok_bind (mulU128_eq_ok.mpr ⟨hproduct, rfl⟩) ?_
  rw [Nat.sub_zero, withdrawableFor_self hliquid, hsmall]
  refine exists_ok_seq (check_eq_ok.mpr hle) ?_
  refine exists_ok_seq (check_eq_ok.mpr (hle.trans hshares)) ?_
  refine exists_ok_bind (mulU128_eq_ok.mpr ⟨hproduct', rfl⟩) ?_
  rw [sharesToBurnFor_self hliquid, hsmall']
  exact exists_ok_seq (check_eq_ok.mpr hle) ⟨amount, rfl⟩

/-- What the position of a funder says, in every state. -/
theorem position_of_run (hlaunch : Launch start)
    (hrun : Run (step runtime) start history world)
    (hvault : world.vaults.lookup key = some vault)
    (hposition : world.positions.lookup (liquidityPositionAddress key funder) = some position) :
    position.crankerVault = key ∧ position.funder = funder ∧
      NoProgramSigner ⟨[funder], 0, none⟩ ∧
      position.principalAmount ≤ vault.totalLiquidity ∧
      position.withdrawnAmount ≤ vault.totalWithdrawn := by
  have hshared := shared_of_run hlaunch hrun
  obtain ⟨haddress, hdefault, hwallet, -⟩ := hshared.positioned _ position hposition
  obtain ⟨hkey, hfunder⟩ := liquidityPositionAddress_inj.mp haddress
  have hpriced := hshared.priced key vault hvault
  refine ⟨hkey.symm, hfunder.symm, ?_, principal_le_of_priced hpriced hposition hkey.symm, ?_⟩
  · intro signer hsigner
    rw [List.mem_singleton.mp hsigner, hfunder]
    exact ⟨hwallet, hdefault⟩
  · have hle : withdrawnIn key position ≤ total (withdrawnIn key) world.positions :=
      weight_le_total hposition
    rw [withdrawnIn, if_pos hkey.symm, ← hpriced.taken] at hle
    exact hle

/-- Without donations a withdrawal of what the position covers goes through. -/
theorem canWithdraw_of_room (hlaunch : Launch start)
    (hrun : Run (step runtime) start history world)
    (hvault : world.vaults.lookup key = some vault)
    (hposition : world.positions.lookup (liquidityPositionAddress key funder) = some position)
    (hpos : 0 < amount) (hle : amount ≤ position.principalAmount)
    (hdonated : donated history key = 0) (hcounted : vault.totalWithdrawn + amount < 2 ^ 64)
    (hwallet : HasWallet world vault.tokenMint funder amount) :
    CanWithdraw runtime world key funder amount := by
  obtain ⟨hvaultOf, hfunderOf, hsigners, hshares, hwithdrawn⟩ :=
    position_of_run hlaunch hrun hvault hposition
  obtain ⟨haccount, hbump, hreserved, ⟨mother, hmother⟩, ⟨cranker, hcranker, hcrankerOf⟩, -⟩ :=
    allRegistered_of_run hlaunch hrun key vault hvault
  have hpriced := (shared_of_run hlaunch hrun).priced key vault hvault
  obtain ⟨token, htoken, howner, hmint, hamount⟩ :=
    (balanced_of_run hlaunch hrun).balances key vault hvault
  obtain ⟨wallet, walletToken, hfound, hwalletOf, hwalletMint, hroom⟩ := hwallet
  rw [hdonated, Nat.add_zero] at hamount
  obtain ⟨burned, hburned⟩ := sharesToBurn_of_price hpriced.price hpriced.bounded hreserved
    hshares hpos hle
  obtain ⟨rfl, -, -⟩ := burned_of_price hpriced.price hpriced.bounded hburned
  let call : Call := ⟨[funder], 0, none⟩
  let accounts : WithdrawCrankerFunds := ⟨funder, vault.motherEscrow, vault.cranker, key,
    vaultAuthorityAddress key, vaultTokenAddress key, wallet,
    liquidityPositionAddress key funder⟩
  have hprice := hpriced.price
  obtain ⟨tokens, htransfer⟩ : ∃ tokens, transfer world.tokens
      (vaultAuthorityAddress key :: call.signers) (vaultTokenAddress key) wallet
      (vaultAuthorityAddress key) burned = .ok tokens := by
    rw [← howner]
    refine exists_transfer htoken hfound (by omega) (hmint.trans hwalletMint.symm) ?_ hroom
    exact List.mem_cons_self
  have hexecute : ∃ next, withdrawCrankerFunds runtime call accounts burned world =
      .ok next := by
    refine exists_ok_seq (signer_eq_ok.mpr List.mem_cons_self) ?_
    have hload : loadVault vault.motherEscrow vault.cranker key (vaultTokenAddress key) world =
        .ok (cranker, vault) := by
      simp only [loadVault, bind_eq_ok, load_eq_ok, require_eq_ok, pure_eq_ok]
      exact ⟨mother, hmother, cranker, hcranker, (), hcrankerOf, vault, hvault, (), rfl, (), rfl,
        (), haccount, rfl⟩
    refine exists_ok_bind hload ?_
    refine exists_ok_seq (seeds_eq_ok.mpr ⟨rfl, hbump⟩) ?_
    refine exists_ok_bind (load_eq_ok.mpr htoken) ?_
    refine exists_ok_seq (require_eq_ok.mpr hmint) ?_
    refine exists_ok_bind (load_eq_ok.mpr hfound) ?_
    refine exists_ok_seq (require_eq_ok.mpr hwalletOf) ?_
    refine exists_ok_seq (require_eq_ok.mpr hwalletMint) ?_
    refine exists_ok_bind (load_eq_ok.mpr hposition) ?_
    refine exists_ok_seq (require_eq_ok.mpr hvaultOf) ?_
    refine exists_ok_seq (require_eq_ok.mpr hfunderOf) ?_
    rw [hamount]
    refine exists_ok_bind hburned ?_
    refine exists_ok_bind htransfer ?_
    refine exists_ok_bind (subU64_eq_ok.mpr ⟨hle, rfl⟩) ?_
    refine exists_ok_bind (addU64_eq_ok.mpr ⟨by omega, rfl⟩) ?_
    refine exists_ok_bind (subU64_eq_ok.mpr ⟨by omega, rfl⟩) ?_
    refine exists_ok_bind (subU64_eq_ok.mpr ⟨by omega, rfl⟩) ?_
    exact exists_ok_bind (addU64_eq_ok.mpr ⟨hcounted, rfl⟩) ⟨_, rfl⟩
  obtain ⟨next, hnext⟩ := hexecute
  exact ⟨call, accounts, next, rfl, rfl, step_tsn_eq_ok.mpr ⟨hsigners, hnext⟩⟩

/-- In every state a run reaches, a funder can withdraw what its share of the vault covers
exactly when nobody has put tokens into the account of the vault, the count of all withdrawals
has room, and it has an account to receive the tokens. -/
theorem canWithdraw_iff_of_run (hlaunch : Launch start)
    (hrun : Run (step runtime) start history world)
    (hvault : world.vaults.lookup key = some vault)
    (hposition : world.positions.lookup (liquidityPositionAddress key funder) = some position)
    (hpos : 0 < amount)
    (hcovered : amount ≤ withdrawableFor position.principalAmount
      (vault.totalLiquidity - vault.reservedLiquidity) vault.totalShares) :
    CanWithdraw runtime world key funder amount ↔
      donated history key = 0 ∧ vault.totalWithdrawn + amount < 2 ^ 64 ∧
        HasWallet world vault.tokenMint funder amount := by
  constructor
  · exact room_of_canWithdraw hlaunch hrun hvault
  · rintro ⟨hdonated, hcounted, hwallet⟩
    refine canWithdraw_of_room hlaunch hrun hvault hposition hpos ?_ hdonated hcounted hwallet
    have hprice := ((shared_of_run hlaunch hrun).priced key vault hvault).price
    have hreserved := (allRegistered_of_run hlaunch hrun key vault hvault).unreserved
    rw [hreserved, Nat.sub_zero, ← hprice] at hcovered
    rcases Nat.eq_zero_or_pos vault.totalLiquidity with hzero | hliquid
    · rw [hzero, withdrawableFor, Nat.div_zero] at hcovered
      omega
    · rwa [withdrawableFor_self hliquid] at hcovered

section Sample

/-- A funder takes out half of what it put in. -/
theorem canWithdraw_half :
    ∃ history world, Run (step localRuntime) walletWorld history world ∧
      CanWithdraw localRuntime world sampleVault operator 250 := by
  have hreaches : reaches (step localRuntime) walletWorld
      (fundVaultStep operator operatorWallet 500 :: setupSteps)
      (fun history world =>
        ((world.vaults.lookup sampleVault).any fun vault =>
          (world.positions.lookup (liquidityPositionAddress sampleVault operator)).any
            fun position =>
              250 ≤ withdrawableFor position.principalAmount
                (vault.totalLiquidity - vault.reservedLiquidity) vault.totalShares ∧
              vault.totalWithdrawn = 0 ∧ vault.tokenMint = usdMint) = true ∧
        donated history sampleVault = 0 ∧
        world.tokens.lookup operatorWallet = some ⟨usdMint, operator, 0⟩) = true := by
    decide +kernel
  obtain ⟨history, world, hrun, hproperty⟩ := exists_run_of_reaches hreaches
  obtain ⟨hvault, hdonated, hwallet⟩ := of_decide_eq_true hproperty
  obtain ⟨vault, hstored, hvault⟩ := (Option.any_eq_true _ _).mp hvault
  obtain ⟨position, hposition, hterms⟩ := (Option.any_eq_true _ _).mp hvault
  obtain ⟨hcovered, hwithdrawn, hmint⟩ := of_decide_eq_true hterms
  refine ⟨history, world, hrun, (canWithdraw_iff_of_run launch_walletWorld hrun hstored hposition
    (by decide) hcovered).mpr ⟨hdonated, ?_, operatorWallet, _, hwallet, rfl, hmint.symm, ?_⟩⟩
  · rw [hwithdrawn]
    decide
  · decide

/-- Somebody sends one token to the account of the vault. -/
def donationStep : Step :=
  .external ⟨[sender], 1, none⟩
    (.transfer usdWallet (vaultTokenAddress sampleVault) sender 1)

/-- One token sent to the vault stops the withdrawals of a funder that holds all of it. -/
theorem exists_not_canWithdraw :
    ∃ history world vault position, Launch walletWorld ∧
      Run (step localRuntime) walletWorld history world ∧
      world.vaults.lookup sampleVault = some vault ∧
      world.positions.lookup (liquidityPositionAddress sampleVault operator) = some position ∧
      100 ≤ withdrawableFor position.principalAmount
        (vault.totalLiquidity - vault.reservedLiquidity) vault.totalShares ∧
      HasWallet world vault.tokenMint operator 100 ∧
      ∀ funder amount, ¬ CanWithdraw localRuntime world sampleVault funder amount := by
  have hreaches : reaches (step localRuntime) walletWorld
      (donationStep :: fundVaultStep operator operatorWallet 500 :: setupSteps)
      (fun history world =>
        ((world.vaults.lookup sampleVault).any fun vault =>
          (world.positions.lookup (liquidityPositionAddress sampleVault operator)).any
            fun position =>
              100 ≤ withdrawableFor position.principalAmount
                (vault.totalLiquidity - vault.reservedLiquidity) vault.totalShares ∧
              vault.tokenMint = usdMint) = true ∧
        donated history sampleVault = 1 ∧
        world.tokens.lookup operatorWallet = some ⟨usdMint, operator, 0⟩) = true := by
    decide +kernel
  obtain ⟨history, world, hrun, hproperty⟩ := exists_run_of_reaches hreaches
  obtain ⟨hvault, hdonated, hwallet⟩ := of_decide_eq_true hproperty
  obtain ⟨vault, hstored, hvault⟩ := (Option.any_eq_true _ _).mp hvault
  obtain ⟨position, hposition, hterms⟩ := (Option.any_eq_true _ _).mp hvault
  obtain ⟨hcovered, hmint⟩ := of_decide_eq_true hterms
  refine ⟨history, world, vault, position, launch_walletWorld, hrun, hstored, hposition, hcovered,
    ⟨operatorWallet, _, hwallet, rfl, hmint.symm, by decide⟩, fun funder amount hcan => ?_⟩
  have hnone := (room_of_canWithdraw launch_walletWorld hrun hstored hcan).1
  rw [hdonated] at hnone
  cases hnone

end Sample

end TsnProtocol.Escrow.Withdrawals
