import TsnProtocol.Lib.Checked
import TsnProtocol.Lib.FiniteStore
import TsnProtocol.Solana.Address

/-!
Accounts of the settlement layer of the TSN program, and the token accounts it moves
between. Every layout has a store of its own: the discriminator keeps layouts apart, and no
two of them share the seeds of an address.
-/

namespace TsnProtocol.Escrow.State

open Lib.Checked
open Lib.FiniteStore
open Solana.Address

/-- The part of the mother escrow that settlement reads. -/
structure MotherEscrow where
  authority : Pubkey
  protocolSeed : Bytes32
  epochId : Nat
  deriving DecidableEq

structure PrivateSettlementConfig where
  (motherEscrow authority permitSigner : Pubkey)
  enabled : Bool
  bump : Nat
  deriving DecidableEq

structure Cranker where
  (motherEscrow operator : Pubkey)
  dnaHash : Bytes32
  allowExternalFunding : Bool
  (stakedAmount reputationScore claimCredits totalClaims totalExecutes totalFailures : Nat)
  lastActiveTs : Int
  bump : Nat
  deriving DecidableEq

structure CrankerVault where
  (motherEscrow cranker tokenMint vaultTokenAccount : Pubkey)
  (vaultAuthorityBump totalLiquidity totalShares reservedLiquidity totalWithdrawn
    totalRewardsAccrued bump : Nat)
  deriving DecidableEq

/-- `principalAmount` holds shares of the vault. -/
structure LiquidityPosition where
  (crankerVault funder : Pubkey)
  (principalAmount withdrawnAmount rewardAmount : Nat)
  (createdAtTs updatedAtTs : Int)
  bump : Nat
  deriving DecidableEq

structure EpochTreasury where
  motherEscrow : Pubkey
  epochId : Nat
  (tokenMint tokenAccount : Pubkey)
  (totalFunded pendingLiability settledTotal refundedTotal reimbursedTotal : Nat)
  closed : Bool
  bump : Nat
  deriving DecidableEq

structure EpochSettlementLedger where
  epochTreasury : Pubkey
  epochId : Nat
  tokenMint : Pubkey
  (pendingTotal settledTotal refundedTotal slotCount : Nat)
  closed : Bool
  bump : Nat
  deriving DecidableEq

inductive ClaimSlotStatus where
  | settled | refunded
  deriving DecidableEq

inductive SettlementDnaStatus where
  | active | consumed
  deriving DecidableEq

structure SettlementDna where
  motherEscrow : Pubkey
  (slot commitmentDigest settlementCommitment payoutNullifier randomNonce : Bytes32)
  (cranker crankerVault recipient tokenMint : Pubkey)
  amount : Nat
  leaseIdHash : Bytes32
  leaseVersion : Nat
  (leaseExpiryTs authorizationExpiryTs : Int)
  status : SettlementDnaStatus
  bump : Nat
  deriving DecidableEq

structure EpochClaimSlot where
  epochTreasury : Pubkey
  slot : Bytes32
  amount : Nat
  tokenMint : Pubkey
  status : ClaimSlotStatus
  (settlementCranker crankerVault : Pubkey)
  (commitmentDigest settlementCommitment payoutNullifier randomNonce : Bytes32)
  recipient : Pubkey
  leaseIdHash : Bytes32
  leaseVersion : Nat
  (leaseExpiryTs authorizationExpiryTs : Int)
  reimbursed : Bool
  bump : Nat
  deriving DecidableEq

structure TokenAccount where
  (mint owner : Pubkey)
  amount : Nat
  deriving DecidableEq

abbrev Tokens := Store Pubkey TokenAccount

/-- The accounts of the chain that settlement reads or writes, by layout and address. -/
structure World where
  motherEscrows : Store Pubkey MotherEscrow
  configs : Store Pubkey PrivateSettlementConfig
  crankers : Store Pubkey Cranker
  vaults : Store Pubkey CrankerVault
  positions : Store Pubkey LiquidityPosition
  treasuries : Store Pubkey EpochTreasury
  ledgers : Store Pubkey EpochSettlementLedger
  dnas : Store Pubkey SettlementDna
  claimSlots : Store Pubkey EpochClaimSlot
  tokens : Tokens
  mints : List Pubkey

section Zeroed

/-! What `init_if_needed` finds in an account it has just created. -/

def PrivateSettlementConfig.zeroed : PrivateSettlementConfig :=
  ⟨Pubkey.default, Pubkey.default, Pubkey.default, false, 0⟩

def LiquidityPosition.zeroed : LiquidityPosition :=
  ⟨Pubkey.default, Pubkey.default, 0, 0, 0, 0, 0, 0⟩

def EpochTreasury.zeroed : EpochTreasury :=
  ⟨Pubkey.default, 0, Pubkey.default, Pubkey.default, 0, 0, 0, 0, 0, false, 0⟩

def EpochSettlementLedger.zeroed : EpochSettlementLedger :=
  ⟨Pubkey.default, 0, Pubkey.default, 0, 0, 0, 0, false, 0⟩

def SettlementDna.zeroed : SettlementDna :=
  ⟨Pubkey.default, 0, 0, 0, 0, 0, Pubkey.default, Pubkey.default, Pubkey.default,
    Pubkey.default, 0, 0, 0, 0, 0, .active, 0⟩

def EpochClaimSlot.zeroed : EpochClaimSlot :=
  ⟨Pubkey.default, 0, 0, Pubkey.default, .settled, Pubkey.default, Pubkey.default, 0, 0, 0, 0,
    Pubkey.default, 0, 0, 0, 0, false, 0⟩

end Zeroed

inductive TsnError where
  | unauthorized | crankerDnaMismatch | externalFundingDisabled
  | insufficientLiquidityPosition | invalidLiquidityShareAmount
  | insufficientWithdrawableLiquidity | invalidLiquidityReservation | epochNotReady
  | invalidPayoutAmount | invalidMotherEscrowAccount | feeSplitOverflow
  | insufficientCrankerVaultLiquidity | insufficientEpochTreasuryLiquidity
  | oneTimeDecryptionTokenAlreadyUsed | privateSettlementDisabled | permitExpired
  | invalidPermitSigner | missingPermitVerification | invalidPermitVerification
  | invalidEpochTreasuryTokenAccount | invalidRecoveryDestination
  | invalidPrivateCommitment
  deriving DecidableEq

/-- An error of the program, of the account framework around it, or of the token program. -/
inductive Failure where
  | tsn (error : TsnError)
  | accountNotInitialized
  | accountNotSigner
  | accountInUse
  | constraintSeeds
  | constraintHasOne
  | constraintAddress
  | constraintRaw
  | constraintTokenMint
  | constraintTokenOwner
  | token
  deriving DecidableEq

abbrev Result := Except Failure

/-- `require!` with an error of the program. -/
def check (condition : Prop) [Decidable condition] (error : TsnError) : Result Unit :=
  require condition (.tsn error)

@[simp] theorem check_eq_ok {condition : Prop} [Decidable condition] {error : TsnError}
    {result : Unit} :
    check condition error = .ok result ↔ condition := by
  simp [check]

/-- `checked_add` on `u64`. -/
def addU64 (left right : Nat) (error : TsnError) : Result Nat :=
  okOr (checkedAdd 64 left right) (.tsn error)

@[simp] theorem addU64_eq_ok {left right result : Nat} {error : TsnError} :
    addU64 left right error = .ok result ↔ left + right < 2 ^ 64 ∧ left + right = result := by
  simp [addU64]

/-- `checked_sub` on `u64`. -/
def subU64 (left right : Nat) (error : TsnError) : Result Nat :=
  okOr (checkedSub left right) (.tsn error)

@[simp] theorem subU64_eq_ok {left right result : Nat} {error : TsnError} :
    subU64 left right error = .ok result ↔ right ≤ left ∧ left - right = result := by
  simp [subU64]

/-- `checked_mul` on `u128`. -/
def mulU128 (left right : Nat) (error : TsnError) : Result Nat := do
  check (left * right < 2 ^ 128) error
  return left * right

@[simp] theorem mulU128_eq_ok {left right result : Nat} {error : TsnError} :
    mulU128 left right error = .ok result ↔
      left * right < 2 ^ 128 ∧ left * right = result := by
  simp [mulU128]

/-- `as u64` on a `u128`. -/
def asU64 (value : Nat) : Nat :=
  value % 2 ^ 64

theorem asU64_eq_self {value : Nat} (hbound : value < 2 ^ 64) : asU64 value = value :=
  Nat.mod_eq_of_lt hbound

/-- `saturating_add` on `u64`. -/
def saturatingAddU64 (left right : Nat) : Nat :=
  min (left + right) (2 ^ 64 - 1)

/-- What the program takes from the chain: the canonical bump of an address and the hash
function. -/
structure Runtime where
  bump : Pubkey → Nat
  hashv : List Chunk → Bytes32

/-- The record the Ed25519 program verified in the instruction before. -/
structure VerifiedPermit where
  signer : Pubkey
  signature : BitVec 512
  message : List Chunk
  deriving DecidableEq

/-- The signers of the transaction, the time it runs at and the permit it carries. -/
structure Call where
  signers : List Pubkey
  now : Int
  permit : Option VerifiedPermit
  deriving DecidableEq

section Constraints

variable {V : Type}

/-- `Account<'info, T>`. -/
def load (store : Store Pubkey V) (key : Pubkey) : Result V :=
  okOr (store.lookup key) .accountNotInitialized

@[simp] theorem load_eq_ok {store : Store Pubkey V} {key : Pubkey} {data : V} :
    load store key = .ok data ↔ store.lookup key = some data :=
  okOr_eq_ok

/-- `Signer<'info>`. -/
def signer (call : Call) (key : Pubkey) : Result Unit :=
  require (key ∈ call.signers) .accountNotSigner

@[simp] theorem signer_eq_ok {call : Call} {key : Pubkey} {result : Unit} :
    signer call key = .ok result ↔ key ∈ call.signers :=
  require_eq_ok

/-- `seeds = [..], bump`. -/
def derivedAt (key address : Pubkey) : Result Unit :=
  require (key = address) .constraintSeeds

@[simp] theorem derivedAt_eq_ok {key address : Pubkey} {result : Unit} :
    derivedAt key address = .ok result ↔ key = address :=
  require_eq_ok

/-- `seeds = [..], bump = bump`: the address is derived with a stored bump. -/
def seeds (runtime : Runtime) (key address : Pubkey) (bump : Nat) : Result Unit :=
  require (key = address ∧ bump = runtime.bump address) .constraintSeeds

@[simp] theorem seeds_eq_ok {runtime : Runtime} {key address : Pubkey} {bump : Nat}
    {result : Unit} :
    seeds runtime key address bump = .ok result ↔
      key = address ∧ bump = runtime.bump address :=
  require_eq_ok

/-- `init`: the account is created at an address nothing is stored under. -/
def vacant (store : Store Pubkey V) (key address : Pubkey) : Result Unit := do
  derivedAt key address
  require (store.lookup key = none) .accountInUse

@[simp] theorem vacant_eq_ok {store : Store Pubkey V} {key address : Pubkey}
    {result : Unit} :
    vacant store key address = .ok result ↔ key = address ∧ store.lookup key = none := by
  simp [vacant]

/-- `init_if_needed`: the stored data, or the zeroed layout of a new account. -/
def loadOrInit (store : Store Pubkey V) (key address : Pubkey) (zeroed : V) : Result V := do
  derivedAt key address
  return (store.lookup key).getD zeroed

@[simp] theorem loadOrInit_eq_ok {store : Store Pubkey V} {key address : Pubkey}
    {zeroed data : V} :
    loadOrInit store key address zeroed = .ok data ↔
      key = address ∧ (store.lookup key).getD zeroed = data := by
  simp [loadOrInit]

end Constraints

section Addresses

def associatedTokenProgram : Pubkey :=
  .raw 0x8c97258f4e2489f1bb3d1029148e0d830b5a1399daff1084048e7bd8dbe9f859

def getAssociatedTokenAddress (wallet mint : Pubkey) : Pubkey :=
  findProgramAddress associatedTokenProgram "" [wallet, splTokenProgram, mint]

def motherEscrowAddress : Pubkey :=
  findProgramAddress tsnProgram "tsn_mother_escrow" []

def privateSettlementConfigAddress (motherEscrow : Pubkey) : Pubkey :=
  findProgramAddress tsnProgram "tsn_private_config" [motherEscrow]

def crankerAddress (motherEscrow operator : Pubkey) : Pubkey :=
  findProgramAddress tsnProgram "tsn_cranker" [motherEscrow, operator]

def crankerVaultAddress (cranker tokenMint : Pubkey) : Pubkey :=
  findProgramAddress tsnProgram "tsn_cranker_vault" [cranker, tokenMint]

def vaultAuthorityAddress (crankerVault : Pubkey) : Pubkey :=
  findProgramAddress tsnProgram "tsn_cranker_vault_authority" [crankerVault]

def vaultTokenAddress (crankerVault : Pubkey) : Pubkey :=
  findProgramAddress tsnProgram "tsn_cranker_vault_token" [crankerVault]

def liquidityPositionAddress (crankerVault funder : Pubkey) : Pubkey :=
  findProgramAddress tsnProgram "tsn_liquidity_position" [crankerVault, funder]

/-- The seed of an epoch is its number. -/
def epochTreasuryAddress (motherEscrow : Pubkey) (epochId : Nat) (tokenMint : Pubkey) :
    Pubkey :=
  findProgramAddress tsnProgram "tsn_epoch_treasury"
    [motherEscrow, .raw (BitVec.ofNat 256 epochId), tokenMint]

def treasuryAuthorityAddress (epochTreasury : Pubkey) : Pubkey :=
  findProgramAddress tsnProgram "tsn_epoch_treasury_authority" [epochTreasury]

def epochLedgerAddress (epochTreasury : Pubkey) : Pubkey :=
  findProgramAddress tsnProgram "tsn_epoch_ledger" [epochTreasury]

def claimSlotAddress (epochTreasury : Pubkey) (slot : Bytes32) : Pubkey :=
  findProgramAddress tsnProgram "tsn_epoch_claim_slot" [epochTreasury, .raw slot]

def settlementDnaAddress (motherEscrow : Pubkey) (slot : Bytes32) : Pubkey :=
  findProgramAddress tsnProgram "tsn_settlement_dna" [motherEscrow, .raw slot]

theorem treasuryAuthorityAddress_inj {treasury treasury' : Pubkey} :
    treasuryAuthorityAddress treasury = treasuryAuthorityAddress treasury' ↔
      treasury = treasury' := by
  simp [treasuryAuthorityAddress, findProgramAddress]

theorem vaultAuthorityAddress_inj {vault vault' : Pubkey} :
    vaultAuthorityAddress vault = vaultAuthorityAddress vault' ↔ vault = vault' := by
  simp [vaultAuthorityAddress, findProgramAddress]

theorem vaultTokenAddress_inj {vault vault' : Pubkey} :
    vaultTokenAddress vault = vaultTokenAddress vault' ↔ vault = vault' := by
  simp [vaultTokenAddress, findProgramAddress]

theorem epochLedgerAddress_inj {treasury treasury' : Pubkey} :
    epochLedgerAddress treasury = epochLedgerAddress treasury' ↔ treasury = treasury' := by
  simp [epochLedgerAddress, findProgramAddress]

theorem liquidityPositionAddress_inj {vault vault' funder funder' : Pubkey} :
    liquidityPositionAddress vault funder = liquidityPositionAddress vault' funder' ↔
      vault = vault' ∧ funder = funder' := by
  simp [liquidityPositionAddress, findProgramAddress]

theorem treasuryAuthorityAddress_ne_vaultAuthorityAddress (treasury vault : Pubkey) :
    treasuryAuthorityAddress treasury ≠ vaultAuthorityAddress vault := by
  simp [treasuryAuthorityAddress, vaultAuthorityAddress, findProgramAddress]

theorem getAssociatedTokenAddress_ne_vaultTokenAddress (wallet mint vault : Pubkey) :
    getAssociatedTokenAddress wallet mint ≠ vaultTokenAddress vault := by
  intro hsame
  have hprogram := congrArg Pubkey.program? hsame
  rw [getAssociatedTokenAddress, vaultTokenAddress, program?_findProgramAddress,
    program?_findProgramAddress] at hprogram
  exact absurd (Option.some.inj hprogram) (by decide)

theorem ne_default_of_derived {key program : Pubkey} (hderived : key.program? = some program) :
    key ≠ Pubkey.default := by
  rintro rfl
  cases hderived

end Addresses

end TsnProtocol.Escrow.State
