import TsnProtocol.Escrow.State
import TsnProtocol.Lib.Transition

/-!
The faucet of the test token. A request mints to its wallet and is recorded three times: in
the totals of the faucet, in the state of the wallet, and in a receipt of its own.
-/

namespace TsnProtocol.Faucet.Program

open Lib.Checked
open Lib.FiniteStore
open Solana.Address

def faucetVersionV1 : Nat := 1
def stableTcapDecimals : Nat := 6
def minRequestBaseUnits : Nat := 10000
def maxRequestBaseUnits : Nat := 1000000000000
def defaultCooldownSlots : Nat := 1

structure FaucetState where
  version : Nat
  (admin mint tokenProgram : Pubkey)
  (minimumRequestAmount maximumRequestAmount cooldownSlots totalMinted requestCount : Nat)
  paused : Bool
  (bump mintAuthorityBump : Nat)
  deriving DecidableEq

structure FaucetWalletState where
  version : Nat
  (faucet wallet : Pubkey)
  (nextNonce lastRequestSlot totalMinted bump : Nat)
  deriving DecidableEq

/-- What `init_if_needed` finds in an account it has just created. -/
def FaucetWalletState.zeroed : FaucetWalletState :=
  ⟨0, Pubkey.default, Pubkey.default, 0, 0, 0, 0⟩

inductive FaucetRequestStatus where
  | minted
  deriving DecidableEq

structure FaucetRequestReceipt where
  version : Nat
  (faucet wallet : Pubkey)
  requestId : Bytes32
  (amount nonce executedSlot : Nat)
  status : FaucetRequestStatus
  bump : Nat
  deriving DecidableEq

/-- A mint, with the token program that owns it. -/
structure Mint where
  program : Pubkey
  decimals : Nat
  mintAuthority : Option Pubkey
  supply : Nat
  deriving DecidableEq

structure TokenAccount where
  (program mint owner : Pubkey)
  amount : Nat
  deriving DecidableEq

/-- The accounts the faucet reads or writes, by layout and address. -/
structure Chain where
  faucets : Store Pubkey FaucetState
  wallets : Store Pubkey FaucetWalletState
  receipts : Store Pubkey FaucetRequestReceipt
  mints : Store Pubkey Mint
  tokens : Store Pubkey TokenAccount

inductive FaucetError where
  | amountBelowMinimum | amountAboveMaximum | invalidRequestId | invalidNonce
  | invalidWalletState | cooldownActive | faucetPaused | invalidFaucet | invalidMint
  | invalidMintAuthority | invalidTokenProgram | invalidMintDecimals | invalidAdmin
  | arithmeticOverflow
  deriving DecidableEq

/-- An error of the faucet, of the account framework around it, or of the token program. -/
inductive Failure where
  | faucet (error : FaucetError)
  | accountNotInitialized
  | accountNotSigner
  | accountInUse
  | constraintSeeds
  | constraintTokenMint
  | constraintTokenOwner
  | token
  deriving DecidableEq

abbrev Result := Except Failure

def check (condition : Prop) [Decidable condition] (error : FaucetError) : Result Unit :=
  require condition (.faucet error)

@[simp] theorem check_eq_ok {condition : Prop} [Decidable condition] {error : FaucetError}
    {result : Unit} :
    check condition error = .ok result ↔ condition :=
  require_eq_ok

/-- `checked_add` on `u64`. -/
def addU64 (left right : Nat) : Result Nat :=
  okOr (checkedAdd 64 left right) (.faucet .arithmeticOverflow)

@[simp] theorem addU64_eq_ok {left right result : Nat} :
    addU64 left right = .ok result ↔ left + right < 2 ^ 64 ∧ left + right = result := by
  simp [addU64]

section Addresses

def faucetProgram : Pubkey :=
  .raw 0xc2e165bc9fe348f7adaf11036c8a5b6be500ea91b0460906a4f377bb8df76cba

def faucetAddress : Pubkey :=
  findProgramAddress faucetProgram "stable-tcap:faucet:v1" []

def mintAuthorityAddress : Pubkey :=
  findProgramAddress faucetProgram "stable-tcap:mint-authority:v1" []

def walletStateAddress (requester : Pubkey) : Pubkey :=
  findProgramAddress faucetProgram "stable-tcap:wallet:v1" [requester]

def receiptAddress (requester : Pubkey) (requestId : Bytes32) : Pubkey :=
  findProgramAddress faucetProgram "stable-tcap:request:v1" [requester, .raw requestId]

def associatedTokenAddress (wallet tokenProgram mint : Pubkey) : Pubkey :=
  findProgramAddress Escrow.State.associatedTokenProgram "" [wallet, tokenProgram, mint]

theorem walletStateAddress_inj {requester requester' : Pubkey} :
    walletStateAddress requester = walletStateAddress requester' ↔ requester = requester' := by
  simp [walletStateAddress, findProgramAddress]

end Addresses

/-- The canonical bumps of addresses. -/
structure Runtime where
  bump : Pubkey → Nat

/-- The signers of a transaction and the slot it runs at. -/
structure Call where
  signers : List Pubkey
  slot : Nat
  deriving DecidableEq

variable (runtime : Runtime) (call : Call)

/-- `TokenInterface`: one of the two token programs. -/
def isTokenProgram (program : Pubkey) : Prop :=
  program = splTokenProgram ∨ program = token2022Program

instance (program : Pubkey) : Decidable (isTokenProgram program) := by
  unfold isTokenProgram
  infer_instance

structure InitializeFaucet where
  (admin faucet mint mintAuthority tokenProgram : Pubkey)
  deriving DecidableEq

def initializeFaucet (accounts : InitializeFaucet) (chain : Chain) : Result Chain := do
  require (accounts.admin ∈ call.signers) .accountNotSigner
  require (accounts.faucet = faucetAddress) .constraintSeeds
  require (chain.faucets.lookup accounts.faucet = none) .accountInUse
  let mint ← okOr (chain.mints.lookup accounts.mint) .accountNotInitialized
  check (mint.program = accounts.tokenProgram) .invalidTokenProgram
  require (accounts.mintAuthority = mintAuthorityAddress) .constraintSeeds
  require (isTokenProgram accounts.tokenProgram) .accountNotInitialized
  check (accounts.tokenProgram = token2022Program) .invalidTokenProgram
  check (mint.decimals = stableTcapDecimals) .invalidMintDecimals
  check (mint.mintAuthority = some accounts.mintAuthority) .invalidMintAuthority
  return { chain with
    faucets := chain.faucets.insert accounts.faucet
      { version := faucetVersionV1
        admin := accounts.admin
        mint := accounts.mint
        tokenProgram := accounts.tokenProgram
        minimumRequestAmount := minRequestBaseUnits
        maximumRequestAmount := maxRequestBaseUnits
        cooldownSlots := defaultCooldownSlots
        totalMinted := 0
        requestCount := 0
        paused := false
        bump := runtime.bump accounts.faucet
        mintAuthorityBump := runtime.bump accounts.mintAuthority } }

structure RequestTokens where
  (requester faucet walletState receipt mint recipientTokenAccount mintAuthority tokenProgram
    : Pubkey)
  deriving DecidableEq

/-- `init_if_needed` of the associated token account of the requester. -/
def openAssociated (tokens : Store Pubkey TokenAccount) (accounts : RequestTokens) :
    Result (Store Pubkey TokenAccount) := do
  require (accounts.recipientTokenAccount =
    associatedTokenAddress accounts.requester accounts.tokenProgram accounts.mint)
    .constraintSeeds
  match tokens.lookup accounts.recipientTokenAccount with
  | none =>
      return tokens.insert accounts.recipientTokenAccount
        ⟨accounts.tokenProgram, accounts.mint, accounts.requester, 0⟩
  | some token => do
      require (token.mint = accounts.mint) .constraintTokenMint
      require (token.owner = accounts.requester) .constraintTokenOwner
      return tokens

/-- The faucet and the wallet state of a request, and the token accounts once that of the
requester is open. -/
def loadRequest (accounts : RequestTokens) (requestId : Bytes32) (chain : Chain) :
    Result (FaucetState × FaucetWalletState × Store Pubkey TokenAccount) := do
  require (accounts.requester ∈ call.signers) .accountNotSigner
  let faucet ← okOr (chain.faucets.lookup accounts.faucet) .accountNotInitialized
  require (accounts.faucet = faucetAddress ∧ faucet.bump = runtime.bump faucetAddress)
    .constraintSeeds
  check (faucet.version = faucetVersionV1) .invalidFaucet
  check (faucet.tokenProgram = accounts.tokenProgram) .invalidTokenProgram
  require (accounts.walletState = walletStateAddress accounts.requester) .constraintSeeds
  require (accounts.receipt = receiptAddress accounts.requester requestId) .constraintSeeds
  require (chain.receipts.lookup accounts.receipt = none) .accountInUse
  let _ ← okOr (chain.mints.lookup accounts.mint) .accountNotInitialized
  check (accounts.mint = faucet.mint) .invalidMint
  let tokens ← openAssociated chain.tokens accounts
  require (accounts.mintAuthority = mintAuthorityAddress ∧
    faucet.mintAuthorityBump = runtime.bump mintAuthorityAddress) .constraintSeeds
  require (isTokenProgram accounts.tokenProgram) .accountNotInitialized
  return (faucet, (chain.wallets.lookup accounts.walletState).getD .zeroed, tokens)

def validateRequestAmount (amount : Nat) : Result Unit := do
  check (minRequestBaseUnits ≤ amount) .amountBelowMinimum
  check (amount ≤ maxRequestBaseUnits) .amountAboveMaximum

/-- The nonce of a request, and the time since the one before. -/
def checkWalletState (accounts : RequestTokens) (nonce : Nat) (faucet : FaucetState)
    (wallet : FaucetWalletState) : Result Unit :=
  if wallet.version ≠ 0 then do
    check (wallet.version = faucetVersionV1 ∧ wallet.wallet = accounts.requester ∧
      wallet.faucet = accounts.faucet) .invalidWalletState
    check (nonce = wallet.nextNonce) .invalidNonce
    let earliest ← addU64 wallet.lastRequestSlot faucet.cooldownSlots
    check (earliest ≤ call.slot) .cooldownActive
  else
    check (nonce = 0) .invalidNonce

def checkRequest (accounts : RequestTokens) (requestId : Bytes32) (amount nonce : Nat)
    (faucet : FaucetState) (wallet : FaucetWalletState) : Result Unit := do
  check (requestId ≠ 0) .invalidRequestId
  validateRequestAmount amount
  check (faucet.paused = false) .faucetPaused
  check (faucet.minimumRequestAmount ≤ amount) .amountBelowMinimum
  check (amount ≤ faucet.maximumRequestAmount) .amountAboveMaximum
  check (accounts.tokenProgram = token2022Program) .invalidTokenProgram
  check (accounts.mint = faucet.mint) .invalidMint
  checkWalletState call accounts nonce faucet wallet

/-- `mint_to` of the token program, signed for by the mint authority of the faucet. -/
def mintTo (accounts : RequestTokens) (amount : Nat) (mints : Store Pubkey Mint)
    (tokens : Store Pubkey TokenAccount) :
    Result (Store Pubkey Mint × Store Pubkey TokenAccount) := do
  let mint ← okOr (mints.lookup accounts.mint) .token
  let token ← okOr (tokens.lookup accounts.recipientTokenAccount) .token
  require (mint.program = accounts.tokenProgram ∧ token.program = accounts.tokenProgram) .token
  require (token.mint = accounts.mint) .token
  require (mint.mintAuthority = some accounts.mintAuthority) .token
  require (mint.supply + amount < 2 ^ 64) .token
  return (mints.insert accounts.mint { mint with supply := mint.supply + amount },
    tokens.insert accounts.recipientTokenAccount { token with amount := token.amount + amount })

/-- The receipt of a request. -/
def receiptOf (accounts : RequestTokens) (requestId : Bytes32) (amount nonce : Nat) :
    FaucetRequestReceipt where
  version := faucetVersionV1
  faucet := accounts.faucet
  wallet := accounts.requester
  requestId := requestId
  amount := amount
  nonce := nonce
  executedSlot := call.slot
  status := .minted
  bump := runtime.bump accounts.receipt

def requestTokens (accounts : RequestTokens) (requestId : Bytes32) (amount nonce : Nat)
    (chain : Chain) : Result Chain := do
  let (faucet, wallet, tokens) ← loadRequest runtime call accounts requestId chain
  checkRequest call accounts requestId amount nonce faucet wallet
  let nextNonce ← addU64 nonce 1
  let nextTotalMinted ← addU64 faucet.totalMinted amount
  let nextRequestCount ← addU64 faucet.requestCount 1
  let (mints, tokens) ← mintTo accounts amount chain.mints tokens
  let walletTotal ← addU64 wallet.totalMinted amount
  return {
    faucets := chain.faucets.insert accounts.faucet
      { faucet with totalMinted := nextTotalMinted, requestCount := nextRequestCount }
    wallets := chain.wallets.insert accounts.walletState
      { version := faucetVersionV1
        faucet := accounts.faucet
        wallet := accounts.requester
        nextNonce := nextNonce
        lastRequestSlot := call.slot
        totalMinted := walletTotal
        bump := runtime.bump accounts.walletState }
    receipts := chain.receipts.insert accounts.receipt
      (receiptOf runtime call accounts requestId amount nonce)
    mints := mints
    tokens := tokens }

structure SetFaucetPaused where
  (admin faucet : Pubkey)
  deriving DecidableEq

def setFaucetPaused (accounts : SetFaucetPaused) (paused : Bool) (chain : Chain) :
    Result Chain := do
  require (accounts.admin ∈ call.signers) .accountNotSigner
  let faucet ← okOr (chain.faucets.lookup accounts.faucet) .accountNotInitialized
  check (accounts.admin = faucet.admin) .invalidAdmin
  require (accounts.faucet = faucetAddress ∧ faucet.bump = runtime.bump faucetAddress)
    .constraintSeeds
  return { chain with
    faucets := chain.faucets.insert accounts.faucet { faucet with paused := paused } }

inductive Instruction where
  | initializeFaucet (accounts : InitializeFaucet)
  | requestTokens (accounts : RequestTokens) (requestId : Bytes32) (amount nonce : Nat)
  | setFaucetPaused (accounts : SetFaucetPaused) (paused : Bool)

/-- One step of the chain, as far as the faucet is concerned. What other programs do to mints
and token accounts is left open. -/
inductive Step where
  | faucet (call : Call) (instruction : Instruction)
  | external (mints : Store Pubkey Mint) (tokens : Store Pubkey TokenAccount)

def execute : Instruction → Chain → Result Chain
  | .initializeFaucet accounts => initializeFaucet runtime call accounts
  | .requestTokens accounts requestId amount nonce =>
      requestTokens runtime call accounts requestId amount nonce
  | .setFaucetPaused accounts paused => setFaucetPaused runtime call accounts paused

def step (chain : Chain) : Step → Result Chain
  | .faucet call instruction => execute runtime call instruction chain
  | .external mints tokens => .ok { chain with mints := mints, tokens := tokens }

/-- The chain before the faucet is set up. -/
structure Launch (chain : Chain) : Prop where
  faucets : chain.faucets = ∅
  wallets : chain.wallets = ∅
  receipts : chain.receipts = ∅

end TsnProtocol.Faucet.Program
