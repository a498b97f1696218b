import TsnProtocol.Bn254.Scalar
import TsnProtocol.Tcap.Funding

/-!
Tips and the liabilities behind them: creation, the credits authorized by TSN,
the debit of a public exit, and the migrations of the tip layout.
-/

namespace TsnProtocol.Tcap.Tips

open Lib.Checked
open Solana.Address
open Bn254.Scalar
open Tcap.State
open Tcap.Execution
open Tcap.Setup
open Tcap.AssetGovernance

variable (runtime : Runtime) (call : Call)

/-- The asset is active, approved, neither paused nor deprecated. -/
def assetAvailable (entry : TcapAssetEntryV1) : Prop :=
  entry.status = .active ∧ entry.riskState = .approved ∧
    entry.paused = false ∧ entry.deprecated = false

instance (entry : TcapAssetEntryV1) : Decidable (assetAvailable entry) := by
  unfold assetAvailable
  infer_instance

/-- The current slot lies in the window of an authorization. -/
def withinWindow (validAfterSlot expiresAtSlot : Nat) : Result Unit :=
  check (validAfterSlot ≤ call.slot ∧ call.slot ≤ expiresAtSlot) .authorizationExpired

/-- The account passed is the TSN authorization address of the digest. -/
def tsnAuthorizationKey (config : TcapGlobalConfigV1) (digest : Bytes32)
    (key : Pubkey) : Result Unit :=
  check (deriveTsnAuthorizationSigner config.approvedTsnProgram digest = key)
    .invalidTsnAuthorizationSigner

/-- The account passed is the TSN authorization address of the digest, and it
signed. -/
def tsnAuthorized (config : TcapGlobalConfigV1) (digest : Bytes32)
    (key : Pubkey) : Result Unit := do
  tsnAuthorizationKey config digest key
  check (key ∈ call.signers) .invalidTsnAuthorizationSigner

@[simp] theorem tsnAuthorizationKey_eq_ok {config : TcapGlobalConfigV1}
    {digest : Bytes32} {key : Pubkey} {result : Unit} :
    tsnAuthorizationKey config digest key = .ok result ↔
      deriveTsnAuthorizationSigner config.approvedTsnProgram digest = key := by
  simp [tsnAuthorizationKey]

@[simp] theorem tsnAuthorized_eq_ok {call : Call} {config : TcapGlobalConfigV1}
    {digest : Bytes32} {key : Pubkey} {result : Unit} :
    tsnAuthorized call config digest key = .ok result ↔
      deriveTsnAuthorizationSigner config.approvedTsnProgram digest = key ∧
        key ∈ call.signers := by
  simp [tsnAuthorized]

/-- The approved TSN program, as an executable account. -/
def approvedTsnProgram (world : World) (config : TcapGlobalConfigV1)
    (key : Pubkey) : Result Unit := do
  executable world key
  check (key = config.approvedTsnProgram) .invalidTsnProgram

structure InitializeOneTimeTip where
  (payer oneTimeTip : Pubkey)
  deriving DecidableEq

structure InitializeOneTimeTipArgs where
  (blindedSettlementCommitment policyCommitment : Bytes32)
  tokenId : Nat
  deriving DecidableEq

def initializeOneTimeTip (accounts : InitializeOneTimeTip)
    (args : InitializeOneTimeTipArgs) (world : World) : Result World := do
  signer call accounts.payer
  vacant world accounts.oneTimeTip (oneTimeTipAddress args.blindedSettlementCommitment)
  check (args.blindedSettlementCommitment ≠ 0) .emptyCommitment
  check (args.policyCommitment ≠ 0) .emptyCommitment
  return world.insert accounts.oneTimeTip (.oneTimeTip
    { commitment := args.blindedSettlementCommitment
      sequence := 0
      sealed := 0
      sealCommitment := 0
      policyCommitment := args.policyCommitment
      transitionNullifier := 0
      tokenId := args.tokenId
      consumed := false
      bump := runtime.bump accounts.oneTimeTip })

structure ConsumeOneTimeTip where
  (payer config oneTimeTip nextTip tsnProgram tsnAuthorizationSigner : Pubkey)
  deriving DecidableEq

structure ConsumeOneTimeTipArgs where
  authorizationDigest : Bytes32
  (validAfterSlot expiresAtSlot : Nat)
  (nextCommitment nullifier : Bytes32)
  (sequence amount : Nat)
  (policyCommitment gpruScopeCommitment : Bytes32)
  deriving DecidableEq

def consumeOneTimeTip (accounts : ConsumeOneTimeTip) (args : ConsumeOneTimeTipArgs)
    (world : World) : Result World := do
  signer call accounts.payer
  let config ← loadConfig runtime world accounts.config
  let tip : TcapOneTimeTip ← load world accounts.oneTimeTip
  vacant world accounts.nextTip (oneTimeTipAddress args.nextCommitment)
  check (config.paused = false) .protocolPaused
  approvedTsnProgram world config accounts.tsnProgram
  check (args.authorizationDigest ≠ 0) .emptyCommitment
  check (args.nextCommitment ≠ 0) .emptyCommitment
  check (args.nullifier ≠ 0) .emptyCommitment
  check (args.gpruScopeCommitment ≠ 0) .invalidGpruScope
  check (0 < args.amount) .invalidDepositAmount
  tsnAuthorized call config args.authorizationDigest accounts.tsnAuthorizationSigner
  withinWindow call args.validAfterSlot args.expiresAtSlot
  check (tip.consumed = false) .tipFrozen
  let sequence ← addU64 tip.sequence 1
  check (args.sequence = sequence) .invalidTipSequence
  check (args.policyCommitment = tip.policyCommitment) .tipCommitmentMismatch
  check (args.nullifier ≠ tip.transitionNullifier) .nullifierAlreadyConsumed
  return (world.insert accounts.oneTimeTip (.oneTimeTip
    { tip with
      commitment := args.nextCommitment
      sequence := args.sequence
      transitionNullifier := args.nullifier
      consumed := true })).insert
    accounts.nextTip (.oneTimeTip
      { commitment := args.nextCommitment
        sequence := args.sequence
        sealed := 0
        sealCommitment := 0
        policyCommitment := tip.policyCommitment
        transitionNullifier := 0
        tokenId := tip.tokenId
        consumed := false
        bump := runtime.bump accounts.nextTip })

structure InitializeOneTimeTipLiability where
  (payer config oneTimeTip assetEntry reserveState liability : Pubkey)
  deriving DecidableEq

def initializeOneTimeTipLiability (accounts : InitializeOneTimeTipLiability)
    (initialAvailable : Nat) (world : World) : Result World := do
  signer call accounts.payer
  let config ← loadConfig runtime world accounts.config
  let tip : TcapOneTimeTip ← load world accounts.oneTimeTip
  let entry ← loadEntry runtime world accounts.assetEntry
  let _ : TcapReserveStateV1 ← load world accounts.reserveState
  vacant world accounts.liability
    (deriveTcapTipLiabilityV2 accounts.oneTimeTip accounts.assetEntry)
  check (config.paused = false) .protocolPaused
  check (assetAvailable entry) .assetUnavailable
  check (tip.tokenId = entry.tokenId) .assetUnavailable
  check (accounts.reserveState = entry.reserveState) .invalidReserve
  check (initialAvailable = 0) .invalidDepositAmount
  return world.insert accounts.liability (.liability
    { version := 2
      tip := accounts.oneTimeTip
      assetEntry := accounts.assetEntry
      available := initialAvailable
      spent := 0
      bump := runtime.bump accounts.liability })

structure InitializeTcapTipLiabilityV2 where
  (authority config tinTip tipRoot assetEntry reserveState liability : Pubkey)
  deriving DecidableEq

def initializeTcapTipLiabilityV2 (accounts : InitializeTcapTipLiabilityV2)
    (initialAvailable : Nat) (world : World) : Result World := do
  signer call accounts.authority
  let config ← loadConfig runtime world accounts.config
  let tinTip : TCapTinTipV1 ← load world accounts.tinTip
  let entry ← loadEntry runtime world accounts.assetEntry
  let reserve : TcapReserveStateV1 ← load world accounts.reserveState
  vacant world accounts.liability
    (deriveTcapTipLiabilityV2 accounts.tinTip accounts.assetEntry)
  governed config accounts.authority
  check (config.paused = false) .protocolPaused
  seeds runtime accounts.tinTip (deriveTcapTinTipV1 accounts.tipRoot) tinTip.bump
  check (accounts.reserveState = entry.reserveState) .invalidReserve
  check (0 < initialAvailable) .invalidDepositAmount
  let settled ← addU64 reserve.settledConfidentialLiabilities initialAvailable
  check (settled ≤ reserve.actualAssets) .invalidReserveLiability
  return (world.insert accounts.liability (.liability
    { version := 2
      tip := accounts.tinTip
      assetEntry := accounts.assetEntry
      available := initialAvailable
      spent := 0
      bump := runtime.bump accounts.liability })).insert
    accounts.reserveState
      (.reserve { reserve with settledConfidentialLiabilities := settled })

structure CreditOneTimeTip where
  (payer config currentTip assetEntry reserveState liability tsnProgram tsnAuthorizationSigner
    : Pubkey)
  deriving DecidableEq

structure CreditOneTimeTipArgs where
  (authorizationDigest previousCommitment newCommitment policyCommitment nonce : Bytes32)
  (sequence tokenId amount validAfterSlot expiresAtSlot : Nat)
  sealed : Sealed
  sealCommitment : Bytes32
  deriving DecidableEq

/-- Digest a credit permit commits to, under the domain of its instruction. -/
def creditPermit (domain : String) (currentTip mint : Pubkey)
    (args : CreditOneTimeTipArgs) : Bytes32 :=
  runtime.hashv
    [.text domain, .key currentTip, .uint 64 args.amount, .uint 32 args.tokenId,
      .key mint, .word args.nonce, .uint 64 args.sequence,
      .word args.previousCommitment]

def creditOneTimeTip (accounts : CreditOneTimeTip) (args : CreditOneTimeTipArgs)
    (world : World) : Result World := do
  signer call accounts.payer
  let config ← loadConfig runtime world accounts.config
  let tip : TcapOneTimeTip ← load world accounts.currentTip
  let entry ← loadEntry runtime world accounts.assetEntry
  let reserve : TcapReserveStateV1 ← load world accounts.reserveState
  let liability : TcapTipLiabilityV2 ← load world accounts.liability
  check (config.paused = false) .protocolPaused
  check (assetAvailable entry) .assetUnavailable
  check (accounts.reserveState = entry.reserveState) .invalidReserve
  check (liability.tip = accounts.currentTip) .invalidTipLiability
  check (liability.assetEntry = accounts.assetEntry) .invalidTipLiability
  approvedTsnProgram world config accounts.tsnProgram
  check (args.authorizationDigest ≠ 0 ∧ args.newCommitment ≠ 0 ∧ args.nonce ≠ 0)
    .emptyCommitment
  check (args.policyCommitment ≠ 0 ∧ 0 < args.amount) .invalidDepositAmount
  check (args.validAfterSlot ≤ args.expiresAtSlot) .authorizationExpired
  tsnAuthorized call config args.authorizationDigest accounts.tsnAuthorizationSigner
  withinWindow call args.validAfterSlot args.expiresAtSlot
  check (args.authorizationDigest =
    creditPermit runtime "TCAP_ONE_TIME_CREDIT_PERMIT_V1" accounts.currentTip
      entry.asset.mint args) .invalidTipAuthorization
  check ((tip.sealed ≠ 0 ∧ tip.sealCommitment ≠ 0) ∨
    (tip.sealed = 0 ∧ tip.sealCommitment = 0)) .tipSealRequired
  check (args.previousCommitment = tip.commitment) .tipCommitmentMismatch
  let sequence ← addU64 tip.sequence 1
  check (args.sequence = sequence) .invalidTipSequence
  check (args.tokenId = tip.tokenId) .assetUnavailable
  check (args.tokenId = entry.tokenId) .assetUnavailable
  check (args.policyCommitment = tip.policyCommitment) .tipCommitmentMismatch
  check (args.nonce ≠ tip.transitionNullifier) .nullifierAlreadyConsumed
  check (args.amount ≤ reserve.pendingLiabilities) .invalidReserveLiability
  let settled ← addU64 reserve.settledConfidentialLiabilities args.amount
  check (settled ≤ reserve.actualAssets) .invalidReserveLiability
  check (liability.version = 2) .invalidTipLiability
  check (args.sealed ≠ 0 ∧ args.sealCommitment ≠ 0) .tipSealRequired
  let pending ← subU64 reserve.pendingLiabilities args.amount
  let available ← addU64 liability.available args.amount
  return ((world.insert accounts.currentTip (.oneTimeTip
    { tip with
      commitment := args.newCommitment
      sequence := args.sequence
      transitionNullifier := args.nonce
      sealed := args.sealed
      sealCommitment := args.sealCommitment
      consumed := false })).insert
    accounts.reserveState (.reserve
      { reserve with
        pendingLiabilities := pending
        settledConfidentialLiabilities := settled })).insert
    accounts.liability (.liability { liability with available := available })

def creditOneTimeTipTransfer (accounts : CreditOneTimeTip)
    (args : CreditOneTimeTipArgs) (world : World) : Result World := do
  signer call accounts.payer
  let config ← loadConfig runtime world accounts.config
  let tip : TcapOneTimeTip ← load world accounts.currentTip
  let entry ← loadEntry runtime world accounts.assetEntry
  let reserve : TcapReserveStateV1 ← load world accounts.reserveState
  let liability : TcapTipLiabilityV2 ← load world accounts.liability
  check (config.paused = false) .protocolPaused
  check (accounts.reserveState = entry.reserveState) .invalidReserve
  check (liability.tip = accounts.currentTip) .invalidTipLiability
  check (liability.assetEntry = accounts.assetEntry) .invalidTipLiability
  approvedTsnProgram world config accounts.tsnProgram
  check (args.authorizationDigest ≠ 0 ∧ args.previousCommitment ≠ 0 ∧
    args.newCommitment ≠ 0 ∧ args.nonce ≠ 0) .emptyCommitment
  check (args.policyCommitment ≠ 0 ∧ 0 < args.amount) .invalidDepositAmount
  check (args.sealed ≠ 0 ∧ args.sealCommitment ≠ 0) .tipSealRequired
  check (args.validAfterSlot ≤ args.expiresAtSlot) .authorizationExpired
  withinWindow call args.validAfterSlot args.expiresAtSlot
  check (args.authorizationDigest =
    creditPermit runtime "TCAP_ONE_TIME_TRANSFER_CREDIT_PERMIT_V1" accounts.currentTip
      entry.asset.mint args) .invalidTipAuthorization
  tsnAuthorized call config args.authorizationDigest accounts.tsnAuthorizationSigner
  check (args.previousCommitment = tip.commitment) .tipCommitmentMismatch
  check (tip.sealed ≠ 0 ∧ tip.sealCommitment ≠ 0) .tipSealRequired
  let sequence ← addU64 tip.sequence 1
  check (args.sequence = sequence) .invalidTipSequence
  check (args.policyCommitment = tip.policyCommitment) .tipCommitmentMismatch
  check (args.nonce ≠ tip.transitionNullifier) .nullifierAlreadyConsumed
  check (tip.consumed = false) .tipFrozen
  check (args.tokenId = tip.tokenId ∧ args.tokenId = entry.tokenId) .wrongAsset
  check (assetAvailable entry) .assetUnavailable
  check (args.amount ≤ reserve.transferPending) .invalidTransferLiability
  check (liability.version = 2) .invalidTipLiability
  let available ← addU64 liability.available args.amount
  let settled ← addU64 reserve.settledConfidentialLiabilities args.amount
  let transferPending ← subU64 reserve.transferPending args.amount
  let reserve : TcapReserveStateV1 := { reserve with
    settledConfidentialLiabilities := settled
    transferPending := transferPending }
  let transferLiabilities ←
    okOr reserve.transferLiabilities (.tcap .arithmeticOverflow)
  check (transferLiabilities ≤ reserve.actualAssets) .invalidReserveLiability
  return ((world.insert accounts.liability
      (.liability { liability with available := available })).insert
    accounts.reserveState (.reserve reserve)).insert
    accounts.currentTip (.oneTimeTip
      { tip with
        commitment := args.newCommitment
        sequence := args.sequence
        transitionNullifier := args.nonce
        sealed := args.sealed
        sealCommitment := args.sealCommitment })

structure DebitTcapExitV1 where
  (authority config currentTip reserveState liability permit : Pubkey)
  deriving DecidableEq

structure DebitTcapExitArgsV1 where
  (permitNonce destinationCommitment : Bytes32)
  mint : Pubkey
  (amount sequence : Nat)
  sealed : Sealed
  sealCommitment : Bytes32
  sourceDebitSignature : BitVec 512
  deriving DecidableEq

def debitTcapExitV1 (accounts : DebitTcapExitV1) (args : DebitTcapExitArgsV1)
    (world : World) : Result World := do
  signer call accounts.authority
  let config ← loadConfig runtime world accounts.config
  let tip : TcapOneTimeTip ← load world accounts.currentTip
  let reserve : TcapReserveStateV1 ← load world accounts.reserveState
  let liability : TcapTipLiabilityV2 ← load world accounts.liability
  vacant world accounts.permit (exitPermitAddress args.permitNonce)
  check (config.paused = false) .protocolPaused
  check (liability.tip = accounts.currentTip) .invalidTipLiability
  check (0 < args.amount ∧ args.permitNonce ≠ 0) .invalidDepositAmount
  check (args.sealed ≠ 0 ∧ args.sealCommitment ≠ 0) .tipSealRequired
  let sequence ← addU64 tip.sequence 1
  check (args.sequence = sequence) .invalidTipSequence
  check (args.amount ≤ liability.available) .insufficientConfidentialBalance
  let available ← subU64 liability.available args.amount
  let spent ← addU64 liability.spent args.amount
  let settled ← subU64 reserve.settledConfidentialLiabilities args.amount
  return (((world.insert accounts.permit (.permit
    { tip := accounts.currentTip
      destinationCommitment := args.destinationCommitment
      mint := args.mint
      amount := args.amount
      sequence := args.sequence
      nonce := args.permitNonce
      sourceDebitSignature := args.sourceDebitSignature
      consumed := false
      bump := runtime.bump accounts.permit })).insert
    accounts.currentTip (.oneTimeTip
      { tip with
        sequence := args.sequence
        transitionNullifier := args.permitNonce
        sealed := args.sealed
        sealCommitment := args.sealCommitment })).insert
    accounts.liability
      (.liability { liability with available := available, spent := spent })).insert
    accounts.reserveState
      (.reserve { reserve with settledConfidentialLiabilities := settled })

/-- Fail-closed guard of the debit paths that still lack a proof. -/
def proofGate : Result Unit :=
  .error (.tcap .proofSystemNotEnabled)

structure DebitTcapBalanceV1 where
  (authority config currentTip assetEntry reserveState liability tsnAuthorizationSigner : Pubkey)
  deriving DecidableEq

structure DebitTcapBalanceV1Args where
  authorizationDigest : Bytes32
  (validAfterSlot expiresAtSlot : Nat)
  (previousCommitment newCommitment : Bytes32)
  (sequence tokenId : Nat)
  (policyCommitment gpruScopeCommitment nullifier : Bytes32)
  debitAmount : Nat
  sealed : Sealed
  sealCommitment : Bytes32
  deriving DecidableEq

def debitTcapBalanceV1 (accounts : DebitTcapBalanceV1) (args : DebitTcapBalanceV1Args)
    (world : World) : Result World := do
  signer call accounts.authority
  let config ← loadConfig runtime world accounts.config
  let tip : TcapOneTimeTip ← load world accounts.currentTip
  let entry ← loadEntry runtime world accounts.assetEntry
  let reserve : TcapReserveStateV1 ← load world accounts.reserveState
  let liability : TcapTipLiabilityV2 ← load world accounts.liability
  check (config.paused = false) .protocolPaused
  check (accounts.reserveState = entry.reserveState) .invalidReserve
  check (liability.tip = accounts.currentTip) .invalidTipLiability
  check (liability.assetEntry = accounts.assetEntry) .invalidTipLiability
  proofGate
  check (args.authorizationDigest ≠ 0 ∧ args.previousCommitment ≠ 0 ∧
    args.newCommitment ≠ 0) .emptyCommitment
  check (args.policyCommitment ≠ 0 ∧ args.gpruScopeCommitment ≠ 0 ∧
    args.nullifier ≠ 0) .invalidGpruScope
  check (0 < args.debitAmount) .invalidDepositAmount
  check (args.sealed ≠ 0 ∧ args.sealCommitment ≠ 0) .tipSealRequired
  check (args.validAfterSlot ≤ args.expiresAtSlot) .authorizationExpired
  withinWindow call args.validAfterSlot args.expiresAtSlot
  check (args.authorizationDigest = runtime.hashv
    [.text "TSN_GPRU_TCAP_DEBIT_V2", .key accounts.currentTip,
      .uint 64 args.validAfterSlot, .uint 64 args.expiresAtSlot,
      .word args.previousCommitment, .word args.newCommitment,
      .uint 64 args.sequence, .uint 32 args.tokenId, .word args.policyCommitment,
      .word args.gpruScopeCommitment, .word args.nullifier,
      .uint 64 args.debitAmount]) .invalidTipAuthorization
  check (args.previousCommitment = tip.commitment) .tipCommitmentMismatch
  check (tip.sealed ≠ 0 ∧ tip.sealCommitment ≠ 0) .tipSealRequired
  let sequence ← addU64 tip.sequence 1
  check (args.sequence = sequence) .invalidTipSequence
  check (args.policyCommitment = tip.policyCommitment) .tipCommitmentMismatch
  check (args.nullifier ≠ tip.transitionNullifier) .nullifierAlreadyConsumed
  check (tip.consumed = false) .tipFrozen
  check (args.tokenId = tip.tokenId ∧ args.tokenId = entry.tokenId) .wrongAsset
  check (assetAvailable entry) .assetUnavailable
  check (liability.version = 2) .invalidTipLiability
  check (args.debitAmount ≤ liability.available) .insufficientConfidentialBalance
  let transferLiabilities ←
    okOr reserve.transferLiabilities (.tcap .arithmeticOverflow)
  check (transferLiabilities ≤ reserve.actualAssets) .invalidReserveLiability
  check (args.debitAmount ≤ reserve.settledConfidentialLiabilities)
    .invalidReserveLiability
  tsnAuthorized call config args.authorizationDigest accounts.tsnAuthorizationSigner
  let available ← subU64 liability.available args.debitAmount
  let spent ← addU64 liability.spent args.debitAmount
  let settled ← subU64 reserve.settledConfidentialLiabilities args.debitAmount
  let transferPending ← addU64 reserve.transferPending args.debitAmount
  let reserve : TcapReserveStateV1 := { reserve with
    settledConfidentialLiabilities := settled
    transferPending := transferPending }
  let newLiabilities ← okOr reserve.transferLiabilities (.tcap .arithmeticOverflow)
  check (newLiabilities ≤ reserve.actualAssets) .invalidReserveLiability
  return ((world.insert accounts.liability
      (.liability { liability with available := available, spent := spent })).insert
    accounts.reserveState (.reserve reserve)).insert
    accounts.currentTip (.oneTimeTip
      { tip with
        commitment := args.newCommitment
        sequence := args.sequence
        transitionNullifier := args.nullifier
        sealed := args.sealed
        sealCommitment := args.sealCommitment })

structure DebitTcapGpruTipV2 where
  (authority config tinTip tipRoot assetEntry reserveState liability tsnAuthorizationSigner
    : Pubkey)
  deriving DecidableEq

structure DebitTcapGpruTipV2Args where
  authorizationDigest : Bytes32
  (validAfterSlot expiresAtSlot : Nat)
  (previousCommitment newCommitment : Bytes32)
  (sequence tokenId : Nat)
  (policyCommitment gpruScopeCommitment nullifier : Bytes32)
  debitAmount : Nat
  deriving DecidableEq

def validateDebit (tip : TCapTinTipV1) (asset : TcapAssetEntryV1)
    (liability : TcapTipLiabilityV2) (reserve : TcapReserveStateV1)
    (args : DebitTcapGpruTipV2Args) : Result Unit := do
  check (args.authorizationDigest ≠ 0 ∧ args.previousCommitment ≠ 0 ∧
    args.newCommitment ≠ 0) .emptyCommitment
  check (args.policyCommitment ≠ 0 ∧ args.gpruScopeCommitment ≠ 0 ∧
    args.nullifier ≠ 0) .invalidGpruScope
  check (0 < args.debitAmount) .invalidDepositAmount
  check (args.validAfterSlot ≤ args.expiresAtSlot) .authorizationExpired
  check (args.previousCommitment = tip.currentCommitment) .tipCommitmentMismatch
  let sequence ← addU64 tip.sequence 1
  check (args.sequence = sequence) .invalidTipSequence
  check (args.policyCommitment = tip.policyCommitment) .tipCommitmentMismatch
  check (args.nullifier ≠ tip.lastTransitionNullifier) .nullifierAlreadyConsumed
  check (tip.frozen = false) .tipFrozen
  check (args.tokenId = asset.tokenId) .wrongAsset
  check (assetAvailable asset) .assetUnavailable
  check (liability.tip ≠ Pubkey.default ∧ liability.assetEntry ≠ Pubkey.default ∧
    liability.version = 2) .invalidTipLiability
  check (args.debitAmount ≤ liability.available) .insufficientConfidentialBalance
  check (args.debitAmount ≤ reserve.settledConfidentialLiabilities)
    .invalidReserveLiability
  check (reserve.settledConfidentialLiabilities ≤ reserve.actualAssets)
    .invalidReserveLiability
  withinWindow call args.validAfterSlot args.expiresAtSlot

def debitTcapGpruTipV2 (accounts : DebitTcapGpruTipV2) (args : DebitTcapGpruTipV2Args)
    (world : World) : Result World := do
  signer call accounts.authority
  let config ← loadConfig runtime world accounts.config
  let tip : TCapTinTipV1 ← load world accounts.tinTip
  let entry ← loadEntry runtime world accounts.assetEntry
  let reserve : TcapReserveStateV1 ← load world accounts.reserveState
  let liability : TcapTipLiabilityV2 ← load world accounts.liability
  check (config.paused = false) .protocolPaused
  seeds runtime accounts.tinTip (deriveTcapTinTipV1 accounts.tipRoot) tip.bump
  check (accounts.reserveState = entry.reserveState) .invalidReserve
  seeds runtime accounts.liability
    (deriveTcapTipLiabilityV2 accounts.tinTip accounts.assetEntry) liability.bump
  proofGate
  validateDebit call tip entry liability reserve args
  tsnAuthorizationKey config args.authorizationDigest accounts.tsnAuthorizationSigner
  let spent ← addU64 liability.spent args.debitAmount
  return ((world.insert accounts.liability (.liability
    { liability with
      available := liability.available - args.debitAmount
      spent := spent })).insert
    accounts.reserveState (.reserve
      { reserve with
        settledConfidentialLiabilities :=
          reserve.settledConfidentialLiabilities - args.debitAmount })).insert
    accounts.tinTip (.tinTip
      { tip with
        currentCommitment := args.newCommitment
        sequence := args.sequence
        lastTransitionNullifier := args.nullifier })

structure ExitTcapLiquidityV1 where
  (payer config tinTip tipRoot assetEntry liquidityPool : Pubkey)
  deriving DecidableEq

structure ExitTcapLiquidityV1Args where
  (previousCommitment newCommitment : Bytes32)
  (sequence tokenId : Nat)
  (policyCommitment nullifier : Bytes32)
  (validAfterSlot expiresAtSlot exitAmount : Nat)
  destination : Pubkey
  (destinationBinding exitReceiptDigest : Bytes32)
  deriving DecidableEq

def validateStructure (tip : TCapTinTipV1) (asset : TcapAssetEntryV1)
    (pool : TcapLiquidityPoolV1) (args : ExitTcapLiquidityV1Args) : Result Unit := do
  check (args.previousCommitment ≠ 0 ∧ args.newCommitment ≠ 0) .emptyCommitment
  check (args.policyCommitment ≠ 0 ∧ args.nullifier ≠ 0) .emptyCommitment
  check (args.destination ≠ Pubkey.default ∧ args.destinationBinding ≠ 0) .invalidPda
  check (args.exitReceiptDigest ≠ 0) .emptyCommitment
  check (args.previousCommitment = tip.currentCommitment) .tipCommitmentMismatch
  let sequence ← addU64 tip.sequence 1
  check (args.sequence = sequence) .invalidTipSequence
  check (args.policyCommitment = tip.policyCommitment) .tipCommitmentMismatch
  check (args.tokenId = asset.tokenId ∧ args.tokenId = pool.tokenId) .wrongAsset
  check (0 < args.exitAmount) .invalidDepositAmount
  check (args.validAfterSlot ≤ args.expiresAtSlot) .authorizationExpired
  check (pool.reservedLiabilities ≤ pool.actualAssets) .insolventPendingFunding

def exitTcapLiquidityV1 (accounts : ExitTcapLiquidityV1) (args : ExitTcapLiquidityV1Args)
    (world : World) : Result World := do
  signer call accounts.payer
  let _ ← loadConfig runtime world accounts.config
  let tip : TCapTinTipV1 ← load world accounts.tinTip
  let entry ← loadEntry runtime world accounts.assetEntry
  let pool : TcapLiquidityPoolV1 ← load world accounts.liquidityPool
  seeds runtime accounts.tinTip (deriveTcapTinTipV1 accounts.tipRoot) tip.bump
  seeds runtime accounts.liquidityPool
    (liquidityPoolAddress accounts.config args.tokenId) pool.bump
  validateStructure tip entry pool args
  proofGate
  .error (.tcap .proofSystemNotEnabled)

structure MigrateTipSealV1 where
  (governance config tip : Pubkey)
  deriving DecidableEq

/-- Insert the seal head into an older tip. The account is checked by owner and
length only: a commitment root and an older reserve also have between 118 and
197 bytes. Both keep their discriminator and lose their bump or their tail, so
nothing reads them afterwards. -/
def migrateTipSealV1 (accounts : MigrateTipSealV1) (world : World) : Result World := do
  signer call accounts.governance
  let config ← loadConfig runtime world accounts.config
  governed config accounts.governance
  match world.lookup accounts.tip with
  | some (.legacyTip tip) =>
      check (tip.commitment ≠ 0) .emptyCommitment
      return world.insert accounts.tip (.oneTimeTip
        { commitment := tip.commitment
          sequence := tip.sequence
          sealed := 0
          sealCommitment := 0
          policyCommitment := tip.policyCommitment
          transitionNullifier := tip.transitionNullifier
          tokenId := tip.tokenId
          consumed := tip.consumed
          bump := tip.bump })
  | some (.commitmentRoot _) | some (.legacyReserve _) =>
      return world.insert accounts.tip .unreadable
  | some (.oneTimeTip _) => .error (.tcap .tipSealAlreadyMigrated)
  | _ => .error (.tcap .invalidPda)

/-- Byte of a word, counted from its start. -/
def byteAt (word : Bytes32) (index : Nat) : Nat :=
  word.toNat / 256 ^ (31 - index) % 256

/-- First four bytes of a word as a little-endian integer. -/
def leadingU32 (word : Bytes32) : Nat :=
  byteAt word 0 + 256 * byteAt word 1 + 256 ^ 2 * byteAt word 2 +
    256 ^ 3 * byteAt word 3

/-- Undo a migration that left policy and nullifier one field too early. The
flag of the result comes from a byte of the nullifier, which need not be a
boolean. -/
def repairTipSealV1 (accounts : MigrateTipSealV1) (world : World) : Result World := do
  signer call accounts.governance
  let config ← loadConfig runtime world accounts.config
  governed config accounts.governance
  match world.lookup accounts.tip with
  | some (.oneTimeTip tip) =>
      check (tip.sealed = 0) .tipSealAlreadyMigrated
      check (tip.sealCommitment ≠ 0) .invalidPda
      if byteAt tip.transitionNullifier 4 ≤ 1 then
        return world.insert accounts.tip (.oneTimeTip
          { tip with
            sealed := 0
            sealCommitment := 0
            policyCommitment := tip.sealCommitment
            transitionNullifier := tip.policyCommitment
            tokenId := leadingU32 tip.transitionNullifier
            consumed := byteAt tip.transitionNullifier 4 = 1
            bump := byteAt tip.transitionNullifier 5 })
      else
        return world.insert accounts.tip .unreadable
  | _ => .error (.tcap .invalidPda)

structure CreditGpruMemoV1 where
  (payer config commitmentRoot assetEntry reserveState tsnProgram tsnAuthorizationSigner
    tipRouteRoot gpruVerifier : Pubkey)
  deriving DecidableEq

structure CreditGpruMemoV1Args where
  authorizationDigest : Bytes32
  (validAfterSlot expiresAtSlot : Nat)
  previousTcapRoot : Bytes32
  (tcapRootSequence tokenId : Nat)
  nullifier : Bytes32
  amount : Nat
  proof : HiddenHeadProofArgsV1

def actionKindCreditV1 : Nat := 1

section Inputs

local instance neZero_publicInputs : NeZero 12 := ⟨by decide⟩

def creditGpruMemoV1 (accounts : CreditGpruMemoV1) (args : CreditGpruMemoV1Args)
    (world : World) : Result World := do
  signer call accounts.payer
  let config ← loadConfig runtime world accounts.config
  let root : TcapCommitmentRootStateV1 ← load world accounts.commitmentRoot
  let entry ← loadEntry runtime world accounts.assetEntry
  let reserve : TcapReserveStateV1 ← load world accounts.reserveState
  check (config.paused = false) .protocolPaused
  seeds runtime accounts.commitmentRoot commitmentRootAddress root.bump
  check (config.commitmentRootState = accounts.commitmentRoot) .invalidPda
  check (root.paused = false) .protocolPaused
  check (accounts.reserveState = entry.reserveState) .invalidReserve
  check (reserve.assetEntry = accounts.assetEntry) .invalidReserve
  check (reserve.paused = false) .assetUnavailable
  approvedTsnProgram world config accounts.tsnProgram
  check (args.authorizationDigest ≠ 0) .emptyCommitment
  check (args.nullifier ≠ 0) .emptyCommitment
  check (0 < args.amount) .invalidDepositAmount
  check (args.previousTcapRoot ≠ 0) .wrongTcapRoot
  check (entry.tokenId = args.tokenId) .wrongAsset
  check (assetAvailable entry) .assetUnavailable
  check (root.version = tcapStateVersionV1) .invalidPda
  check (args.previousTcapRoot = root.currentRoot) .wrongTcapRoot
  let sequence ← addU64 root.sequence 1
  check (args.tcapRootSequence = sequence) .wrongTcapRoot
  check (args.proof.actionKind = actionKindCreditV1 ∧
    args.proof.tokenId = args.tokenId ∧ args.proof.amount = args.amount)
    .proofPayloadRequired
  check (args.proof.publicInputs 0 = root.currentRoot ∧
    args.proof.publicInputs 1 ≠ root.currentRoot ∧
    args.proof.publicInputs 4 = args.nullifier) .wrongTcapRoot
  check (args.proof.authorizationCommitment =
    sha256ToBn254Scalar args.authorizationDigest) .invalidTsnAuthorizationSigner
  -- the key is compared, but nothing asks whether that account signed
  tsnAuthorizationKey config args.authorizationDigest accounts.tsnAuthorizationSigner
  withinWindow call args.validAfterSlot args.expiresAtSlot
  check (args.amount ≤ reserve.pendingLiabilities) .invalidReserveLiability
  let totalLiabilities ← okOr reserve.totalLiabilities (.tcap .arithmeticOverflow)
  check (totalLiabilities ≤ reserve.actualAssets) .invalidReserveLiability
  require (runtime.verifyHiddenHeadTransition args.proof accounts.tipRouteRoot root
    accounts.gpruVerifier = true) .gpru
  let rootVersion ← okOr (checkedAdd 32 root.rootVersion 1) (.tcap .arithmeticOverflow)
  let pending ← subU64 reserve.pendingLiabilities args.amount
  let settled ← addU64 reserve.settledConfidentialLiabilities args.amount
  return (world.insert accounts.commitmentRoot (.commitmentRoot
    { root with
      previousRoot := root.currentRoot
      currentRoot := args.proof.publicInputs 1
      sequence := args.tcapRootSequence
      rootVersion := rootVersion })).insert
    accounts.reserveState (.reserve
      { reserve with
        pendingLiabilities := pending
        settledConfidentialLiabilities := settled })

end Inputs

end TsnProtocol.Tcap.Tips
