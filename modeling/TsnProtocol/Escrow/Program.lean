import TsnProtocol.Lib.Transition
import TsnProtocol.Escrow.EpochSettlement

/-!
The settlement layer as a whole: its instructions, and what other programs do to token
accounts in between.
-/

namespace TsnProtocol.Escrow.Program

open Lib.Checked
open Solana.Address
open Escrow.State
open Escrow.Tokens
open Escrow.CrankerFunding
open Escrow.EpochSettlement

inductive Instruction where
  | registerCranker (accounts : RegisterCranker)
  | setCrankerFundingPolicy (accounts : SetCrankerFundingPolicy) (allowed : Bool)
  | initializeCrankerVault (accounts : InitializeCrankerVault)
  | fundCranker (accounts : FundCranker) (amount : Nat)
  | withdrawCrankerFunds (accounts : WithdrawCrankerFunds) (amount : Nat)
  | configurePrivateSettlement (accounts : ConfigurePrivateSettlement)
      (permitSigner : Pubkey) (enabled : Bool)
  | createSettlementDna (accounts : CreateSettlementDna) (args : CreateSettlementDnaArgs)
  | fundEpochTreasury (accounts : FundEpochTreasury) (epochId amount : Nat)
  | executePrivatePayout (accounts : ExecutePrivatePayout) (args : ExecutePrivatePayoutArgs)
  | refundEpochClaim (accounts : RefundEpochClaim) (args : RefundEpochClaimArgs)
  | closeEpochTreasury (accounts : CloseEpochTreasury)

def execute (runtime : Runtime) (call : Call) : Instruction → World → Result World
  | .registerCranker accounts => registerCranker runtime call accounts
  | .setCrankerFundingPolicy accounts allowed =>
      setCrankerFundingPolicy call accounts allowed
  | .initializeCrankerVault accounts => initializeCrankerVault runtime call accounts
  | .fundCranker accounts amount => fundCranker runtime call accounts amount
  | .withdrawCrankerFunds accounts amount =>
      withdrawCrankerFunds runtime call accounts amount
  | .configurePrivateSettlement accounts permitSigner enabled =>
      configurePrivateSettlement runtime call accounts permitSigner enabled
  | .createSettlementDna accounts args => createSettlementDna runtime call accounts args
  | .fundEpochTreasury accounts epochId amount =>
      fundEpochTreasury runtime call accounts epochId amount
  | .executePrivatePayout accounts args => executePrivatePayout runtime call accounts args
  | .refundEpochClaim accounts args => refundEpochClaim runtime call accounts args
  | .closeEpochTreasury accounts => closeEpochTreasury call accounts

/-- What other programs do. The mother escrow is written by instructions that settlement
does not look into: any record may appear at its one address. -/
inductive ExternalAction where
  | writeMotherEscrow (data : MotherEscrow)
  | createMint (key : Pubkey)
  | mintTo (destination : Pubkey) (amount : Nat)
  | transfer (source destination authority : Pubkey) (amount : Nat)
  | openToken (key mint owner : Pubkey)
  | openAssociated (wallet mint : Pubkey)
  | setOwner (key owner : Pubkey)
  | closeToken (key : Pubkey)

def executeExternal (call : Call) (action : ExternalAction) (world : World) : Result World :=
  match action with
  | .writeMotherEscrow data =>
      return { world with
        motherEscrows := world.motherEscrows.insert motherEscrowAddress data }
  | .createMint key => return { world with mints := key :: world.mints }
  | .mintTo destination amount => do
      let token ← load world.tokens destination
      require (token.amount + amount < 2 ^ 64) .token
      return { world with
        tokens := world.tokens.insert destination
          { token with amount := token.amount + amount } }
  | .transfer source destination authority amount => do
      let tokens ←
        Tokens.transfer world.tokens call.signers source destination authority amount
      return { world with tokens := tokens }
  | .openToken key mint owner => do
      require (key.program? = none ∧ key ∈ call.signers) .accountNotSigner
      require (world.tokens.lookup key = none) .accountInUse
      return { world with tokens := world.tokens.insert key ⟨mint, owner, 0⟩ }
  | .openAssociated wallet mint => do
      let tokens ← Tokens.openAssociated world.tokens (getAssociatedTokenAddress wallet mint)
        wallet mint
      return { world with tokens := tokens }
  | .setOwner key owner => do
      let token ← load world.tokens key
      require (token.owner ∈ call.signers) .token
      return { world with tokens := world.tokens.insert key { token with owner := owner } }
  | .closeToken key => do
      let token ← load world.tokens key
      require (token.owner ∈ call.signers ∧ token.amount = 0) .token
      return { world with tokens := world.tokens.erase key }

/-- One step of the chain, as far as settlement is concerned. -/
inductive Step where
  | tsn (call : Call) (instruction : Instruction)
  | external (call : Call) (action : ExternalAction)

/-- Derived addresses of the program sign for nobody else, and nobody signs for the address
of the system program. -/
def NoProgramSigner (call : Call) : Prop :=
  ∀ key ∈ call.signers, key.program? ≠ some tsnProgram ∧ key ≠ Pubkey.default

instance (call : Call) : Decidable (NoProgramSigner call) := by
  unfold NoProgramSigner
  infer_instance

def step (runtime : Runtime) (world : World) : Step → Result World
  | .tsn call instruction => do
      require (NoProgramSigner call) .accountNotSigner
      execute runtime call instruction world
  | .external call action => do
      require (NoProgramSigner call) .accountNotSigner
      executeExternal call action world

variable {runtime : Runtime} {call : Call} {world next : World}

theorem step_tsn_eq_ok {instruction : Instruction} :
    step runtime world (.tsn call instruction) = .ok next ↔
      NoProgramSigner call ∧ execute runtime call instruction world = .ok next := by
  simp [step]

theorem step_external_eq_ok {action : ExternalAction} :
    step runtime world (.external call action) = .ok next ↔
      NoProgramSigner call ∧ executeExternal call action world = .ok next := by
  simp [step]

/-- The chain before settlement is set up: nothing but token accounts and mints. -/
structure Launch (world : World) : Prop where
  motherEscrows : world.motherEscrows = ∅
  configs : world.configs = ∅
  crankers : world.crankers = ∅
  vaults : world.vaults = ∅
  positions : world.positions = ∅
  treasuries : world.treasuries = ∅
  ledgers : world.ledgers = ∅
  dnas : world.dnas = ∅
  claimSlots : world.claimSlots = ∅

end TsnProtocol.Escrow.Program
