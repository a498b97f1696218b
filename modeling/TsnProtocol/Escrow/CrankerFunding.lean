import TsnProtocol.Escrow.Tokens

/-!
Crankers and the vaults their liquidity lies in. Funders put tokens in and take them out
against shares of the vault.
-/

namespace TsnProtocol.Escrow.CrankerFunding

open Lib.Checked
open Solana.Address
open Escrow.State
open Escrow.Tokens

variable (runtime : Runtime) (call : Call)

def computeCrankerDna (motherEscrow operator : Pubkey) (protocolSeed : Bytes32) : Bytes32 :=
  runtime.hashv [.text "tsn_dna", .key motherEscrow, .key operator, .word protocolSeed]

structure RegisterCranker where
  (operator motherEscrow cranker : Pubkey)
  deriving DecidableEq

def registerCranker (accounts : RegisterCranker) (world : World) : Result World := do
  signer call accounts.operator
  let motherEscrow ← load world.motherEscrows accounts.motherEscrow
  vacant world.crankers accounts.cranker
    (crankerAddress accounts.motherEscrow accounts.operator)
  let dnaHash := computeCrankerDna runtime accounts.motherEscrow accounts.operator
    motherEscrow.protocolSeed
  return { world with
    crankers := world.crankers.insert accounts.cranker
      { motherEscrow := accounts.motherEscrow
        operator := accounts.operator
        dnaHash := dnaHash
        allowExternalFunding := true
        stakedAmount := 0
        reputationScore := 0
        claimCredits := 0
        totalClaims := 0
        totalExecutes := 0
        totalFailures := 0
        lastActiveTs := call.now
        bump := runtime.bump accounts.cranker } }

structure SetCrankerFundingPolicy where
  (operator motherEscrow cranker : Pubkey)
  deriving DecidableEq

def setCrankerFundingPolicy (accounts : SetCrankerFundingPolicy)
    (allowExternalFunding : Bool) (world : World) : Result World := do
  signer call accounts.operator
  let _ ← load world.motherEscrows accounts.motherEscrow
  let cranker ← load world.crankers accounts.cranker
  require (cranker.motherEscrow = accounts.motherEscrow) .constraintHasOne
  require (cranker.operator = accounts.operator) .constraintRaw
  check (cranker.operator = accounts.operator) .unauthorized
  return { world with
    crankers := world.crankers.insert accounts.cranker
      { cranker with allowExternalFunding := allowExternalFunding } }

structure InitializeCrankerVault where
  (payer motherEscrow cranker tokenMint crankerVault vaultAuthority vaultTokenAccount : Pubkey)
  deriving DecidableEq

def initializeCrankerVault (accounts : InitializeCrankerVault) (world : World) :
    Result World := do
  signer call accounts.payer
  let _ ← load world.motherEscrows accounts.motherEscrow
  let cranker ← load world.crankers accounts.cranker
  require (cranker.motherEscrow = accounts.motherEscrow) .constraintHasOne
  require (accounts.tokenMint ∈ world.mints) .accountNotInitialized
  vacant world.vaults accounts.crankerVault
    (crankerVaultAddress accounts.cranker accounts.tokenMint)
  derivedAt accounts.vaultAuthority (vaultAuthorityAddress accounts.crankerVault)
  vacant world.tokens accounts.vaultTokenAccount (vaultTokenAddress accounts.crankerVault)
  return { world with
    vaults := world.vaults.insert accounts.crankerVault
      { motherEscrow := accounts.motherEscrow
        cranker := accounts.cranker
        tokenMint := accounts.tokenMint
        vaultTokenAccount := accounts.vaultTokenAccount
        vaultAuthorityBump := runtime.bump accounts.vaultAuthority
        totalLiquidity := 0
        totalShares := 0
        reservedLiquidity := 0
        totalWithdrawn := 0
        totalRewardsAccrued := 0
        bump := runtime.bump accounts.crankerVault }
    tokens := world.tokens.insert accounts.vaultTokenAccount
      ⟨accounts.tokenMint, accounts.vaultAuthority, 0⟩ }

/-- The constraints both sides of a vault share: its cranker and its token account. -/
def loadVault (motherEscrow cranker crankerVault vaultTokenAccount : Pubkey)
    (world : World) : Result (Cranker × CrankerVault) := do
  let _ ← load world.motherEscrows motherEscrow
  let crankerData ← load world.crankers cranker
  require (crankerData.motherEscrow = motherEscrow) .constraintHasOne
  let vault ← load world.vaults crankerVault
  require (vault.motherEscrow = motherEscrow) .constraintHasOne
  require (vault.cranker = cranker) .constraintRaw
  require (vault.vaultTokenAccount = vaultTokenAccount) .constraintRaw
  return (crankerData, vault)

structure FundCranker where
  (funder motherEscrow cranker crankerVault funderTokenAccount vaultTokenAccount
    liquidityPosition : Pubkey)
  deriving DecidableEq

/-- Shares at the price of the vault before they are cast to `u64`. -/
def sharesFor (amount totalShares totalLiquidity : Nat) : Nat :=
  amount * totalShares / totalLiquidity

/-- The shares a deposit mints. -/
def mintedShares (vault : CrankerVault) (amount : Nat) : Result Nat :=
  if vault.totalShares = 0 then do
    check (vault.totalLiquidity = 0) .invalidLiquidityShareAmount
    return amount
  else if vault.totalLiquidity = 0 then
    .error (.tsn .invalidLiquidityShareAmount)
  else do
    let _ ← mulU128 amount vault.totalShares .feeSplitOverflow
    return asU64 (sharesFor amount vault.totalShares vault.totalLiquidity)

/-- A position that nobody has used yet is set up for its funder. -/
def openPosition (accounts : FundCranker) (position : LiquidityPosition) :
    LiquidityPosition :=
  if position.funder = Pubkey.default then
    { position with
      crankerVault := accounts.crankerVault
      funder := accounts.funder
      principalAmount := 0
      withdrawnAmount := 0
      rewardAmount := 0
      createdAtTs := call.now
      bump := runtime.bump accounts.liquidityPosition }
  else position

def fundCranker (accounts : FundCranker) (amount : Nat) (world : World) : Result World := do
  signer call accounts.funder
  let (cranker, vault) ← loadVault accounts.motherEscrow accounts.cranker
    accounts.crankerVault accounts.vaultTokenAccount world
  let funderToken ← load world.tokens accounts.funderTokenAccount
  require (funderToken.owner = accounts.funder) .constraintRaw
  require (funderToken.mint = vault.tokenMint) .constraintRaw
  let vaultToken ← load world.tokens accounts.vaultTokenAccount
  require (vaultToken.mint = vault.tokenMint) .constraintRaw
  let stored ← loadOrInit world.positions accounts.liquidityPosition
    (liquidityPositionAddress accounts.crankerVault accounts.funder)
    LiquidityPosition.zeroed
  check (cranker.allowExternalFunding = true ∨ cranker.operator = accounts.funder)
    .externalFundingDisabled
  let tokens ← transfer world.tokens call.signers accounts.funderTokenAccount
    accounts.vaultTokenAccount accounts.funder amount
  let position := openPosition runtime call accounts stored
  let minted ← mintedShares vault amount
  check (0 < minted) .invalidLiquidityShareAmount
  let principalAmount ← addU64 position.principalAmount minted .feeSplitOverflow
  let totalLiquidity ← addU64 vault.totalLiquidity amount .feeSplitOverflow
  let totalShares ← addU64 vault.totalShares minted .feeSplitOverflow
  return { world with
    tokens := tokens
    positions := world.positions.insert accounts.liquidityPosition
      { position with principalAmount := principalAmount, updatedAtTs := call.now }
    vaults := world.vaults.insert accounts.crankerVault
      { vault with totalLiquidity := totalLiquidity, totalShares := totalShares } }

structure WithdrawCrankerFunds where
  (funder motherEscrow cranker crankerVault vaultAuthority vaultTokenAccount funderTokenAccount
    liquidityPosition : Pubkey)
  deriving DecidableEq

/-- What a number of shares may withdraw, before the cast to `u64`. -/
def withdrawableFor (positionShares withdrawableLiquidity totalShares : Nat) : Nat :=
  positionShares * withdrawableLiquidity / totalShares

/-- The shares a withdrawal burns, rounded up, before the cast to `u64`. -/
def sharesToBurnFor (amount totalShares totalLiquidity : Nat) : Nat :=
  (amount * totalShares + totalLiquidity - 1) / totalLiquidity

/-- The shares a withdrawal burns, when the position covers it. -/
def sharesToBurn (vault : CrankerVault) (positionShares vaultBalance amount : Nat) :
    Result Nat := do
  check (0 < amount) .invalidPayoutAmount
  check (vaultBalance = vault.totalLiquidity) .insufficientWithdrawableLiquidity
  check (0 < vault.totalShares) .insufficientLiquidityPosition
  let withdrawableLiquidity ← subU64 vault.totalLiquidity vault.reservedLiquidity
    .insufficientWithdrawableLiquidity
  let _ ← mulU128 positionShares withdrawableLiquidity .feeSplitOverflow
  let maxWithdrawable :=
    asU64 (withdrawableFor positionShares withdrawableLiquidity vault.totalShares)
  check (amount ≤ maxWithdrawable) .insufficientLiquidityPosition
  check (amount ≤ withdrawableLiquidity) .insufficientWithdrawableLiquidity
  let _ ← mulU128 amount vault.totalShares .feeSplitOverflow
  let burned := asU64 (sharesToBurnFor amount vault.totalShares vault.totalLiquidity)
  check (burned ≤ positionShares) .insufficientLiquidityPosition
  return burned

def withdrawCrankerFunds (accounts : WithdrawCrankerFunds) (amount : Nat) (world : World) :
    Result World := do
  signer call accounts.funder
  let (_, vault) ← loadVault accounts.motherEscrow accounts.cranker accounts.crankerVault
    accounts.vaultTokenAccount world
  seeds runtime accounts.vaultAuthority (vaultAuthorityAddress accounts.crankerVault)
    vault.vaultAuthorityBump
  let vaultToken ← load world.tokens accounts.vaultTokenAccount
  require (vaultToken.mint = vault.tokenMint) .constraintRaw
  let funderToken ← load world.tokens accounts.funderTokenAccount
  require (funderToken.owner = accounts.funder) .constraintRaw
  require (funderToken.mint = vault.tokenMint) .constraintRaw
  let position ← load world.positions accounts.liquidityPosition
  require (position.crankerVault = accounts.crankerVault) .constraintRaw
  require (position.funder = accounts.funder) .constraintRaw
  let burned ← sharesToBurn vault position.principalAmount vaultToken.amount amount
  -- the vault authority signs the transfer as a derived address of the program
  let tokens ← transfer world.tokens (accounts.vaultAuthority :: call.signers)
    accounts.vaultTokenAccount accounts.funderTokenAccount accounts.vaultAuthority amount
  let principalAmount ← subU64 position.principalAmount burned .insufficientLiquidityPosition
  let withdrawnAmount ← addU64 position.withdrawnAmount amount .feeSplitOverflow
  let totalLiquidity ← subU64 vault.totalLiquidity amount .insufficientWithdrawableLiquidity
  let totalShares ← subU64 vault.totalShares burned .insufficientLiquidityPosition
  let totalWithdrawn ← addU64 vault.totalWithdrawn amount .feeSplitOverflow
  return { world with
    tokens := tokens
    positions := world.positions.insert accounts.liquidityPosition
      { position with
        principalAmount := principalAmount
        withdrawnAmount := withdrawnAmount
        updatedAtTs := call.now }
    vaults := world.vaults.insert accounts.crankerVault
      { vault with
        totalLiquidity := totalLiquidity
        totalShares := totalShares
        totalWithdrawn := totalWithdrawn } }

end TsnProtocol.Escrow.CrankerFunding
