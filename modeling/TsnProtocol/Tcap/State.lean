import TsnProtocol.Lib.Checked
import TsnProtocol.Lib.FiniteStore
import TsnProtocol.Solana.Address

/-!
Accounts the TCAP program owns or reads, as the values their layouts decode to.
Unsigned integers are natural numbers; the program's checked arithmetic is what
keeps them in range.
-/

namespace TsnProtocol.Tcap.State

open Lib.Checked
open Lib.FiniteStore
open Solana.Address

def tcapStateVersionV1 : Nat := 1
def tcapInstructionVersionV1 : Nat := 1
def tcapInstructionVersionV2 : Nat := 2
def tsnAuthorizationVersionV1 : Nat := 1
def tcapAssetPolicyVersionV2 : Nat := 2

/-- AES-GCM ciphertext of a sealed balance: 48 bytes. -/
abbrev Sealed := BitVec 384

/-- Replay-protection head of a private GPRU route. -/
structure TCapTinTipV1 where
  version : Nat
  currentCommitment : Bytes32
  sequence : Nat
  (policyCommitment lastTransitionNullifier : Bytes32)
  frozen : Bool
  bump : Nat
  deriving DecidableEq

/-- Blinded-root tip whose commitment, nullifier and sequence are updated in
place. -/
structure TcapOneTimeTip where
  commitment : Bytes32
  sequence : Nat
  sealed : Sealed
  (sealCommitment policyCommitment transitionNullifier : Bytes32)
  tokenId : Nat
  consumed : Bool
  bump : Nat
  deriving DecidableEq

/-- The tip layout before seals: 118 bytes. -/
structure LegacyTip where
  commitment : Bytes32
  sequence : Nat
  (policyCommitment transitionNullifier : Bytes32)
  tokenId : Nat
  consumed : Bool
  bump : Nat
  deriving DecidableEq

/-- Spendable confidential liability of one tip in one asset. -/
structure TcapTipLiabilityV2 where
  version : Nat
  (tip assetEntry : Pubkey)
  (available spent bump : Nat)
  deriving DecidableEq

inductive TcapMigrationStateV1 where
  | development | auditRequired | ready
  deriving DecidableEq

structure TcapGlobalConfigV1 where
  (version protocolVersion minimumInstructionVersion : Nat)
  (governanceAuthority registryAuthority assetRegistry emergencyAuthority approvedTsnProgram
    proofVerifierProgram : Pubkey)
  (proofVerifierEnabled paused : Bool)
  commitmentRootState : Pubkey
  domainVersion : Nat
  migrationState : TcapMigrationStateV1
  bump : Nat
  deriving DecidableEq

structure TcapAssetIdV1 where
  (tokenProgram mint : Pubkey)
  registryVersion : Nat
  assetCommitment : Bytes32
  deriving DecidableEq

inductive TcapAssetStatusV1 where
  | proposed | active | depositsPaused | withdrawalsOnly | deprecated
  deriving DecidableEq

inductive TcapRiskStateV1 where
  | pendingReview | approved | restricted | blocked
  deriving DecidableEq

structure TcapAssetRegistryV1 where
  version : Nat
  (config authority : Pubkey)
  registryVersion : Nat
  entryRoot : Bytes32
  entryCount : Nat
  frozen : Bool
  bump : Nat
  deriving DecidableEq

structure TcapAssetEntryV1 where
  (version protocolVersion : Nat)
  registry : Pubkey
  tokenId : Nat
  asset : TcapAssetIdV1
  (reserveState futureVault reserveAuthority : Pubkey)
  decimals : Nat
  (depositsEnabled withdrawalsEnabled paused : Bool)
  (transferFeePolicy freezeAuthorityPolicy issuerControlPolicy : Nat)
  governanceApproval : Bytes32
  status : TcapAssetStatusV1
  riskState : TcapRiskStateV1
  deprecated : Bool
  bump : Nat
  deriving DecidableEq

structure TcapAssetStateV1 where
  (config tokenProgram mint reserveState futureVault reserveAuthority : Pubkey)
  bump : Nat
  deriving DecidableEq

/-- The reserve layout before private transfers: 193 bytes. -/
structure LegacyReserveState where
  (version protocolVersion : Nat)
  (assetState assetEntry futureVault reserveAuthority : Pubkey)
  (actualAssets pendingLiabilities settledConfidentialLiabilities
    authorizedWithdrawalLiabilities reservedRefundLiabilities accountingEpoch : Nat)
  (fundingEnabled paused : Bool)
  (bump reserveAuthorityBump futureVaultBump : Nat)
  deriving DecidableEq

/-- Accounting record of one asset. The last field keeps private tip-to-tip
transfers apart from the public on-ramp. -/
structure TcapReserveStateV1 extends LegacyReserveState where
  transferPending : Nat
  deriving DecidableEq

inductive TcapAssetApprovalStatusV2 where
  | pending | approved | rejected | revoked
  deriving DecidableEq

inductive TcapAssetOperationalStatusV2 where
  | inactive | active | paused | deprecated
  deriving DecidableEq

inductive TcapAssetMintProfileV2 where
  | standardPublic | confidentialTransferEnabled
  deriving DecidableEq

structure TcapAssetGovernancePolicyV2 where
  (version policyVersion : Nat)
  (registry assetEntry mint tokenProgram : Pubkey)
  approvalStatus : TcapAssetApprovalStatusV2
  operationalStatus : TcapAssetOperationalStatusV2
  (depositsEnabled settlementsEnabled publicExitEnabled confidentialSettlementEnabled
    reserveInitialized vaultInitialized deprecatedIrreversible : Bool)
  lastUpdatedSlot : Nat
  authority : Pubkey
  bump : Nat
  deriving DecidableEq

/-- Extension policy of a governed mint. The seven flags that every path sets
to false are left out. -/
structure TcapAssetExtensionPolicyV2 where
  version : Nat
  (assetEntry mint tokenProgram : Pubkey)
  decimals : Nat
  mintProfile : TcapAssetMintProfileV2
  (requiredExtensionBitmap allowedExtensionBitmap extensionBitmap : BitVec 64)
  extensionConfigHash : Bytes32
  (expectedMintAuthority expectedFreezeAuthority : Pubkey)
  (confidentialTransferEnabled metadataPointerEnabled tokenMetadataEnabled : Bool)
  bump : Nat
  deriving DecidableEq

/-- Liquidity accounting for exits; no instruction creates one. -/
structure TcapLiquidityPoolV1 where
  config : Pubkey
  (tokenId actualAssets reservedLiabilities bump : Nat)
  deriving DecidableEq

structure NullifierRegistryV1 where
  (version protocolVersion : Nat)
  config : Pubkey
  domainSeparator : Bytes32
  (shardCount consumedCount : Nat)
  paused : Bool
  bump : Nat
  deriving DecidableEq

structure TcapCommitmentRootStateV1 where
  (version protocolVersion : Nat)
  (currentRoot previousRoot : Bytes32)
  (rootVersion sequence historyPolicy : Nat)
  verifierConfig : Pubkey
  (verifierEnabled paused : Bool)
  bump : Nat
  deriving DecidableEq

inductive TcapTransitionTypeV1 where
  | authorizationOnly | confidentialSettlement | publicExit
  deriving DecidableEq

structure TsnSettlementAuthorizationV1 where
  version : Nat
  tsnProgramId : Pubkey
  epochId : Nat
  intentCommitment : Bytes32
  amount : Nat
  (settlementCommitment acceptedIntentRoot previousTcapRoot : Bytes32)
  transitionType : TcapTransitionTypeV1
  (assetCommitment authorizationDigest : Bytes32)
  (verifierDomainVersion validAfterSlot expiresAtSlot : Nat)
  replayNonce : Bytes32
  tinTip : Pubkey
  (previousCommitment newCommitment : Bytes32)
  (sequence tokenId : Nat)
  (policyCommitment gpruScopeCommitment nullifier : Bytes32)
  deriving DecidableEq

/-- Receipt of a registered authorization: the authorization it copies, and the
flags it adds. -/
structure TsnAuthorizationReceiptV1 where
  version : Nat
  config : Pubkey
  authorization : TsnSettlementAuthorizationV1
  (nonSpendable consumed : Bool)
  bump : Nat
  deriving DecidableEq

structure TcapExitPermitV1 where
  tip : Pubkey
  destinationCommitment : Bytes32
  mint : Pubkey
  (amount sequence : Nat)
  nonce : Bytes32
  sourceDebitSignature : BitVec 512
  consumed : Bool
  bump : Nat
  deriving DecidableEq

inductive FundingSettlementModeV1 where
  | confidentialOwner | publicWallet
  deriving DecidableEq

structure FundingRootV1 where
  (version protocolVersion : Nat)
  assetEntry : Pubkey
  (currentRoot previousRoot : Bytes32)
  (sequence bump : Nat)
  deriving DecidableEq

structure FundingClaimV1 where
  (version protocolVersion : Nat)
  (config assetEntry reserveState : Pubkey)
  (fundingIdentifier fundingCommitment : Bytes32)
  amount : Nat
  settlementMode : FundingSettlementModeV1
  (destinationCommitment depositorAuthorizationCommitment : Bytes32)
  (authorizationNonce expiresAtSlot : Nat)
  (feeAuthorizationCommitment domainSeparator : Bytes32)
  (fundingRootSequence bump : Nat)
  deriving DecidableEq

structure FundingAuthorizationNonceV1 where
  version : Nat
  (assetEntry depositor : Pubkey)
  nextNonce : Nat
  lastFundingClaim : Pubkey
  bump : Nat
  deriving DecidableEq

/-- SPL token account: the token program that owns it and the fields TCAP
reads. -/
structure TokenAccount where
  (program mint owner : Pubkey)
  amount : Nat
  deriving DecidableEq

/-- Token-2022 mint extensions, as far as TCAP tells them apart. -/
inductive ExtensionType where
  | uninitialized | confidentialTransferMint | metadataPointer | tokenMetadata
  | other (code : Nat)
  deriving DecidableEq

structure Mint where
  program : Pubkey
  decimals : Nat
  (mintAuthority freezeAuthority : Option Pubkey)
  extensions : List ExtensionType
  extensionBytes : List (BitVec 8)
  deriving DecidableEq

/-- TSN accounts that TCAP decodes by offset. -/
inductive TsnRecord where
  | epochCommitment (version epochId : Nat)
      (acceptedIntentRoot previousTcapStateRoot : Bytes32)
  | acceptedIntent (intentCommitment : Bytes32) (amount : Nat) (tipRoot : Pubkey)
      (settlementCommitment acceptedIntentRoot : Bytes32) (status : Nat)
  | other
  deriving DecidableEq

/-- Everything an address can hold. The last four kinds belong to other
programs; `unreadable` is an account of TCAP no instruction accepts any more. -/
inductive Account where
  | config (data : TcapGlobalConfigV1)
  | registry (data : TcapAssetRegistryV1)
  | entry (data : TcapAssetEntryV1)
  | policy (data : TcapAssetGovernancePolicyV2)
  | extensionPolicy (data : TcapAssetExtensionPolicyV2)
  | assetState (data : TcapAssetStateV1)
  | reserve (data : TcapReserveStateV1)
  | legacyReserve (data : LegacyReserveState)
  | liquidityPool (data : TcapLiquidityPoolV1)
  | oneTimeTip (data : TcapOneTimeTip)
  | legacyTip (data : LegacyTip)
  | tinTip (data : TCapTinTipV1)
  | liability (data : TcapTipLiabilityV2)
  | permit (data : TcapExitPermitV1)
  | commitmentRoot (data : TcapCommitmentRootStateV1)
  | nullifierRegistry (data : NullifierRegistryV1)
  | receipt (data : TsnAuthorizationReceiptV1)
  | fundingRoot (data : FundingRootV1)
  | fundingClaim (data : FundingClaimV1)
  | fundingNonce (data : FundingAuthorizationNonceV1)
  | unreadable
  | token (data : TokenAccount)
  | mint (data : Mint)
  | foreign (owner : Pubkey) (data : TsnRecord)
  | program
  deriving DecidableEq

/-- The accounts of the chain, by address. -/
abbrev World := Store Pubkey Account

/-- Sum of the liability buckets. -/
def TcapReserveStateV1.liabilities (reserve : TcapReserveStateV1) : Nat :=
  reserve.pendingLiabilities + reserve.settledConfidentialLiabilities +
    reserve.transferPending + reserve.authorizedWithdrawalLiabilities +
      reserve.reservedRefundLiabilities

def TcapReserveStateV1.totalLiabilities (reserve : TcapReserveStateV1) :
    Option Nat := do
  let settled ← checkedAdd 64 reserve.pendingLiabilities
    reserve.settledConfidentialLiabilities
  let pending ← checkedAdd 64 settled reserve.transferPending
  let authorized ← checkedAdd 64 pending reserve.authorizedWithdrawalLiabilities
  checkedAdd 64 authorized reserve.reservedRefundLiabilities

/-- Liability view of private tip-to-tip transfers, without the public on-ramp
bucket. -/
def TcapReserveStateV1.transferLiabilities (reserve : TcapReserveStateV1) :
    Option Nat := do
  let pending ← checkedAdd 64 reserve.settledConfidentialLiabilities
    reserve.transferPending
  let authorized ← checkedAdd 64 pending reserve.authorizedWithdrawalLiabilities
  checkedAdd 64 authorized reserve.reservedRefundLiabilities

@[simp] theorem totalLiabilities_eq_some {reserve : TcapReserveStateV1}
    {sum : Nat} :
    reserve.totalLiabilities = some sum ↔
      reserve.liabilities < 2 ^ 64 ∧ reserve.liabilities = sum := by
  simp only [TcapReserveStateV1.totalLiabilities, TcapReserveStateV1.liabilities,
    Option.bind_eq_bind, Option.bind_eq_some_iff, checkedAdd_eq_some]
  constructor
  · rintro ⟨_, ⟨_, rfl⟩, _, ⟨_, rfl⟩, _, ⟨_, rfl⟩, hbound, rfl⟩
    exact ⟨hbound, rfl⟩
  · rintro ⟨hbound, rfl⟩
    exact ⟨_, ⟨by omega, rfl⟩, _, ⟨by omega, rfl⟩, _, ⟨by omega, rfl⟩, hbound, rfl⟩

end TsnProtocol.Tcap.State
