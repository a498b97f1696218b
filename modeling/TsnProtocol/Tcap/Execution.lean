import TsnProtocol.Tcap.State

/-!
What a TCAP instruction runs on: errors, typed access to accounts, address
derivations, and the token program it calls. An instruction returns the world
after it or the first error; a failed instruction changes nothing.
-/

namespace TsnProtocol.Tcap.Execution

open Lib.Checked
open Solana.Address
open Tcap.State

inductive TcapError where
  | invalidTsnProgram | invalidAuthority | invalidPda | protocolPaused
  | assetUnavailable | invalidTokenProgram | emptyCommitment | invalidReserve
  | invalidTsnAuthorizationSigner | invalidTsnEpochRecord | wrongEpochRoot
  | wrongTcapRoot | authorizationExpired | wrongAsset | proofVerifierDisabled
  | arithmeticOverflow | invalidDepositAmount | reserveVaultUnavailable
  | invalidDepositSource | invalidSettlementMode | fundingAuthorizationExpired
  | invalidFundingDomain | fundingCommitmentMismatch | invalidFundingRoot
  | insolventPendingFunding | invalidFundingAuthorizationNonce | assetNotApproved
  | invalidAssetOperationalStatus | deprecatedAssetImmutable
  | reserveNotInitialized | vaultNotInitialized | unsupportedTokenExtension
  | extensionPolicyMismatch | invalidMintDecimals | settlementNotImplemented
  | invalidAssetPolicy | invalidMintAuthority | invalidFreezeAuthority
  | legacyInstructionDisabled | invalidInstructionVersion
  | unexpectedTokenBalanceDelta | invalidMintProfile | invalidTipSequence
  | tipCommitmentMismatch | tipFrozen | nullifierAlreadyConsumed
  | invalidTipAuthorization | invalidGpruScope | proofPayloadRequired
  | proofSystemNotEnabled | invalidRateVersion | invalidTipLiability
  | insufficientConfidentialBalance | invalidReserveLiability
  | invalidTransferLiability | tipSealAlreadyMigrated | tipSealRequired
  | invalidCrankerDna
  deriving DecidableEq

/-- An error of the program itself, of the account framework around it, or of a
program it calls. -/
inductive Failure where
  | tcap (error : TcapError)
  | accountNotInitialized
  | accountDiscriminatorMismatch
  | accountNotSigner
  | accountInUse
  | constraintSeeds
  | constraintExecutable
  | constraintAddress
  | token
  | gpru
  deriving DecidableEq

abbrev Result := Except Failure

/-- `require!` with an error of the program. -/
def check (condition : Prop) [Decidable condition] (error : TcapError) :
    Result Unit :=
  require condition (.tcap error)

@[simp] theorem check_eq_ok {condition : Prop} [Decidable condition]
    {error : TcapError} {result : Unit} :
    check condition error = .ok result ↔ condition := by
  simp [check]

/-- `checked_add(..).ok_or(ArithmeticOverflow)` on `u64`. -/
def addU64 (left right : Nat) : Result Nat :=
  okOr (checkedAdd 64 left right) (.tcap .arithmeticOverflow)

/-- `checked_sub(..).ok_or(ArithmeticOverflow)` on `u64`. -/
def subU64 (left right : Nat) : Result Nat :=
  okOr (checkedSub left right) (.tcap .arithmeticOverflow)

@[simp] theorem addU64_eq_ok {left right result : Nat} :
    addU64 left right = .ok result ↔
      left + right < 2 ^ 64 ∧ left + right = result := by
  simp [addU64]

@[simp] theorem subU64_eq_ok {left right result : Nat} :
    subU64 left right = .ok result ↔ right ≤ left ∧ left - right = result := by
  simp [subU64]

/-- A proof handed to the GPRU verifier with a credit. -/
structure HiddenHeadProofArgsV1 where
  publicInputs : Fin 12 → Bytes32
  proofA : BitVec 512
  proofB : BitVec 1024
  proofC : BitVec 512
  (actionKind tokenId amount : Nat)
  authorizationCommitment : Bytes32

/-- What the program takes from the chain: the canonical bump of an address,
the hash functions, and the verdict of the GPRU program on a proof against a
route root, the commitment root, a verifier key and the transaction at hand. -/
structure Runtime where
  bump : Pubkey → Nat
  hashv : List Chunk → Bytes32
  poseidon : Bytes32 → Bytes32 → Bytes32
  verifyHiddenHeadTransition : HiddenHeadProofArgsV1 → (tipRouteRoot : Pubkey) →
    TcapCommitmentRootStateV1 → (gpruVerifier : Pubkey) → Bool

/-- The signers of the transaction, with those a calling program adds, and the
slot it runs in. -/
structure Call where
  signers : List Pubkey
  slot : Nat
  deriving DecidableEq

/-- Typed view of an account: owner and discriminator select the layout. -/
class AccountData (α : Type) where
  wrap : α → Account
  view : Account → Option α
  view_eq_some : ∀ account data, view account = some data ↔ account = wrap data

export AccountData (wrap)

instance : AccountData TcapGlobalConfigV1 where
  wrap := .config
  view | .config data => some data | _ => none
  view_eq_some account data := by cases account <;> simp

instance : AccountData TcapAssetRegistryV1 where
  wrap := .registry
  view | .registry data => some data | _ => none
  view_eq_some account data := by cases account <;> simp

instance : AccountData TcapAssetEntryV1 where
  wrap := .entry
  view | .entry data => some data | _ => none
  view_eq_some account data := by cases account <;> simp

instance : AccountData TcapAssetGovernancePolicyV2 where
  wrap := .policy
  view | .policy data => some data | _ => none
  view_eq_some account data := by cases account <;> simp

instance : AccountData TcapAssetExtensionPolicyV2 where
  wrap := .extensionPolicy
  view | .extensionPolicy data => some data | _ => none
  view_eq_some account data := by cases account <;> simp

instance : AccountData TcapAssetStateV1 where
  wrap := .assetState
  view | .assetState data => some data | _ => none
  view_eq_some account data := by cases account <;> simp

instance : AccountData TcapReserveStateV1 where
  wrap := .reserve
  view | .reserve data => some data | _ => none
  view_eq_some account data := by cases account <;> simp

instance : AccountData TcapLiquidityPoolV1 where
  wrap := .liquidityPool
  view | .liquidityPool data => some data | _ => none
  view_eq_some account data := by cases account <;> simp

instance : AccountData TcapOneTimeTip where
  wrap := .oneTimeTip
  view | .oneTimeTip data => some data | _ => none
  view_eq_some account data := by cases account <;> simp

instance : AccountData TCapTinTipV1 where
  wrap := .tinTip
  view | .tinTip data => some data | _ => none
  view_eq_some account data := by cases account <;> simp

instance : AccountData TcapTipLiabilityV2 where
  wrap := .liability
  view | .liability data => some data | _ => none
  view_eq_some account data := by cases account <;> simp

instance : AccountData TcapExitPermitV1 where
  wrap := .permit
  view | .permit data => some data | _ => none
  view_eq_some account data := by cases account <;> simp

instance : AccountData TcapCommitmentRootStateV1 where
  wrap := .commitmentRoot
  view | .commitmentRoot data => some data | _ => none
  view_eq_some account data := by cases account <;> simp

instance : AccountData FundingRootV1 where
  wrap := .fundingRoot
  view | .fundingRoot data => some data | _ => none
  view_eq_some account data := by cases account <;> simp

instance : AccountData FundingClaimV1 where
  wrap := .fundingClaim
  view | .fundingClaim data => some data | _ => none
  view_eq_some account data := by cases account <;> simp

instance : AccountData FundingAuthorizationNonceV1 where
  wrap := .fundingNonce
  view | .fundingNonce data => some data | _ => none
  view_eq_some account data := by cases account <;> simp

instance : AccountData TokenAccount where
  wrap := .token
  view | .token data => some data | _ => none
  view_eq_some account data := by cases account <;> simp

instance : AccountData Mint where
  wrap := .mint
  view | .mint data => some data | _ => none
  view_eq_some account data := by cases account <;> simp

section Wrap

@[simp] theorem wrap_config (data : TcapGlobalConfigV1) : wrap data = Account.config data := rfl

@[simp] theorem wrap_registry (data : TcapAssetRegistryV1) : wrap data = Account.registry data := rfl

@[simp] theorem wrap_entry (data : TcapAssetEntryV1) : wrap data = Account.entry data := rfl

@[simp] theorem wrap_policy (data : TcapAssetGovernancePolicyV2) : wrap data = Account.policy data := rfl

@[simp] theorem wrap_extensionPolicy (data : TcapAssetExtensionPolicyV2) : wrap data = Account.extensionPolicy data := rfl

@[simp] theorem wrap_assetState (data : TcapAssetStateV1) : wrap data = Account.assetState data := rfl

@[simp] theorem wrap_reserve (data : TcapReserveStateV1) : wrap data = Account.reserve data := rfl

@[simp] theorem wrap_liquidityPool (data : TcapLiquidityPoolV1) : wrap data = Account.liquidityPool data := rfl

@[simp] theorem wrap_oneTimeTip (data : TcapOneTimeTip) : wrap data = Account.oneTimeTip data := rfl

@[simp] theorem wrap_tinTip (data : TCapTinTipV1) : wrap data = Account.tinTip data := rfl

@[simp] theorem wrap_liability (data : TcapTipLiabilityV2) : wrap data = Account.liability data := rfl

@[simp] theorem wrap_permit (data : TcapExitPermitV1) : wrap data = Account.permit data := rfl

@[simp] theorem wrap_commitmentRoot (data : TcapCommitmentRootStateV1) : wrap data = Account.commitmentRoot data := rfl

@[simp] theorem wrap_fundingRoot (data : FundingRootV1) : wrap data = Account.fundingRoot data := rfl

@[simp] theorem wrap_fundingClaim (data : FundingClaimV1) : wrap data = Account.fundingClaim data := rfl

@[simp] theorem wrap_fundingNonce (data : FundingAuthorizationNonceV1) : wrap data = Account.fundingNonce data := rfl

@[simp] theorem wrap_token (data : TokenAccount) : wrap data = Account.token data := rfl

@[simp] theorem wrap_mint (data : Mint) : wrap data = Account.mint data := rfl

end Wrap

variable {α : Type} [AccountData α]

/-- `Account<'info, T>`: the account exists and has the layout of `T`. -/
def load (world : World) (key : Pubkey) : Result α :=
  match world.lookup key with
  | none => .error .accountNotInitialized
  | some account => okOr (AccountData.view account) .accountDiscriminatorMismatch

@[simp] theorem load_eq_ok {world : World} {key : Pubkey} {data : α} :
    load world key = .ok data ↔ world.lookup key = some (wrap data) := by
  unfold load
  cases world.lookup key <;> simp [AccountData.view_eq_some]

/-- `Signer<'info>`. -/
def signer (call : Call) (key : Pubkey) : Result Unit :=
  require (key ∈ call.signers) .accountNotSigner

@[simp] theorem signer_eq_ok {call : Call} {key : Pubkey} {result : Unit} :
    signer call key = .ok result ↔ key ∈ call.signers := by
  simp [signer]

/-- `seeds = [..], bump = ..`: the account sits at the derived address and the
bump it is checked with is the canonical one. -/
def seeds (runtime : Runtime) (key address : Pubkey) (bump : Nat) :
    Result Unit :=
  require (key = address ∧ bump = runtime.bump address) .constraintSeeds

@[simp] theorem seeds_eq_ok {runtime : Runtime} {key address : Pubkey}
    {bump : Nat} {result : Unit} :
    seeds runtime key address bump = .ok result ↔
      key = address ∧ bump = runtime.bump address := by
  simp [seeds]

/-- `init`: the account sits at the derived address and does not exist yet. -/
def vacant (world : World) (key address : Pubkey) : Result Unit := do
  require (key = address) .constraintSeeds
  require (world.lookup key = none) .accountInUse

@[simp] theorem vacant_eq_ok {world : World} {key address : Pubkey}
    {result : Unit} :
    vacant world key address = .ok result ↔
      key = address ∧ world.lookup key = none := by
  simp [vacant]

/-- `init_if_needed`: the stored data, or the zeroed layout of a new account. -/
def loadOrInit (world : World) (key address : Pubkey) (zeroed : α) :
    Result α := do
  require (key = address) .constraintSeeds
  match world.lookup key with
  | none => .ok zeroed
  | some account => okOr (AccountData.view account) .accountDiscriminatorMismatch

theorem loadOrInit_eq_ok {world : World} {key address : Pubkey}
    {zeroed data : α} :
    loadOrInit world key address zeroed = .ok data ↔
      key = address ∧
        (world.lookup key = none ∧ zeroed = data ∨
          world.lookup key = some (wrap data)) := by
  unfold loadOrInit
  simp only [bind_eq_ok, require_eq_ok, exists_and_left]
  cases world.lookup key <;> simp [AccountData.view_eq_some]

/-- `executable, address = ..`. -/
def executable (world : World) (key : Pubkey) : Result Unit :=
  require (world.lookup key = some .program) .constraintExecutable

@[simp] theorem executable_eq_ok {world : World} {key : Pubkey} {result : Unit} :
    executable world key = .ok result ↔ world.lookup key = some .program := by
  simp [executable]

/-- `Program<'info, ..>` and key comparisons without an error of their own. -/
def atAddress (key address : Pubkey) : Result Unit :=
  require (key = address) .constraintAddress

@[simp] theorem atAddress_eq_ok {key address : Pubkey} {result : Unit} :
    atAddress key address = .ok result ↔ key = address := by
  simp [atAddress]

def globalConfigAddress : Pubkey :=
  findProgramAddress tcapProgram "tcap:global-config:v1" []

def assetRegistryAddress : Pubkey :=
  findProgramAddress tcapProgram "tcap:asset-registry:v1" []

def assetEntryAddress (registry tokenProgram mint : Pubkey) : Pubkey :=
  findProgramAddress tcapProgram "tcap:asset-entry:v1" [registry, tokenProgram, mint]

def assetStateAddress (tokenProgram mint : Pubkey) : Pubkey :=
  findProgramAddress tcapProgram "tcap:asset-state:v1" [tokenProgram, mint]

def deriveReserveState (assetEntry : Pubkey) : Pubkey :=
  findProgramAddress tcapProgram "tcap:reserve-state:v1" [assetEntry]

def deriveReserveAuthority (assetEntry : Pubkey) : Pubkey :=
  findProgramAddress tcapProgram "tcap:reserve-authority:v1" [assetEntry]

def deriveFutureVault (assetEntry : Pubkey) : Pubkey :=
  findProgramAddress tcapProgram "tcap:future-vault:v1" [assetEntry]

def nullifierRegistryAddress : Pubkey :=
  findProgramAddress tcapProgram "tcap:nullifier-registry:v1" []

def commitmentRootAddress : Pubkey :=
  findProgramAddress tcapProgram "tcap:commitment-root:v1" []

def deriveTcapTinTipV1 (root : Pubkey) : Pubkey :=
  findProgramAddress tcapProgram "tcap:tin-tip:v1" [root]

def liquidityPoolAddress (config : Pubkey) (tokenId : Nat) : Pubkey :=
  findProgramAddress tcapProgram "tcap:liquidity-pool:v1"
    [config, .raw (BitVec.ofNat 256 tokenId)]

def authorizationReceiptAddress (digest : Bytes32) : Pubkey :=
  findProgramAddress tcapProgram "tcap:tsn-auth-receipt:v1" [.raw digest]

def deriveFundingRoot (assetEntry : Pubkey) : Pubkey :=
  findProgramAddress tcapProgram "tcap:funding-root:v1" [assetEntry]

def deriveFundingClaim (assetEntry : Pubkey) (fundingIdentifier : Bytes32) :
    Pubkey :=
  findProgramAddress tcapProgram "tcap:funding-claim:v1"
    [assetEntry, .raw fundingIdentifier]

def deriveFundingAuthorizationNonce (assetEntry depositor : Pubkey) : Pubkey :=
  findProgramAddress tcapProgram "tcap:funding-nonce:v1" [assetEntry, depositor]

def deriveAssetGovernancePolicy (assetEntry : Pubkey) : Pubkey :=
  findProgramAddress tcapProgram "tcap:asset-governance:v2" [assetEntry]

def deriveAssetExtensionPolicy (assetEntry : Pubkey) : Pubkey :=
  findProgramAddress tcapProgram "tcap:extension-policy:v2" [assetEntry]

def deriveTcapTipLiabilityV2 (tip assetEntry : Pubkey) : Pubkey :=
  findProgramAddress tcapProgram "tcap:tip-liability:v2" [tip, assetEntry]

def oneTimeTipAddress (commitment : Bytes32) : Pubkey :=
  findProgramAddress tcapProgram "tcap:one-time-tip:v1" [.raw commitment]

def exitPermitAddress (nonce : Bytes32) : Pubkey :=
  findProgramAddress tcapProgram "tcap:exit-permit:v1" [.raw nonce]

/-- Signer the approved TSN program adds when it calls with a digest. -/
def deriveTsnAuthorizationSigner (approvedTsnProgram : Pubkey)
    (authorizationDigest : Bytes32) : Pubkey :=
  findProgramAddress approvedTsnProgram "tsn:tcap-authorization:v1"
    [.raw authorizationDigest]

/-- Poseidon root of the empty head map composed with the empty nullifier map,
both of depth 128. -/
def emptyGpruHiddenHeadRootV1 (runtime : Runtime) : Bytes32 :=
  let node := (fun node => runtime.poseidon node node)^[128] 0
  runtime.poseidon node node

/-- `transfer_checked` of a token program: exactly `amount` moves, signed for by
the owner of the source; a transfer of an account to itself changes nothing. -/
def transferChecked (world : World) (signers : List Pubkey)
    (program source mint destination authority : Pubkey)
    (amount decimals : Nat) : Result World := do
  let sourceData : TokenAccount ← load world source
  let mintData : Mint ← load world mint
  let destinationData : TokenAccount ← load world destination
  require (sourceData.program = program ∧ destinationData.program = program ∧
    mintData.program = program) .token
  require (sourceData.mint = mint ∧ destinationData.mint = mint) .token
  require (mintData.decimals = decimals) .token
  require (sourceData.owner = authority ∧ authority ∈ signers) .token
  require (amount ≤ sourceData.amount) .token
  if source = destination then
    return world
  else
    require (destinationData.amount + amount < 2 ^ 64) .token
    return (world.insert source
      (.token { sourceData with amount := sourceData.amount - amount })).insert destination
        (.token { destinationData with amount := destinationData.amount + amount })

end TsnProtocol.Tcap.Execution
