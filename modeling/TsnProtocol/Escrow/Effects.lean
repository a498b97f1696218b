import TsnProtocol.Escrow.Program

/-!
What the settlement instructions find when they succeed, and what they leave.
-/

namespace TsnProtocol.Escrow.Effects

open Lib.Checked
open Solana.Address
open Escrow.State
open Escrow.Tokens
open Escrow.CrankerFunding
open Escrow.EpochSettlement
open Escrow.Program

variable {runtime : Runtime} {call : Call} {world next : World}

/-- What `loadSettlement` has found. -/
structure Loads (accounts : SettlementAccounts) (slot : Bytes32) (world : World)
    (loaded : Settlement) : Prop where
  motherAt : ∃ mother, world.motherEscrows.lookup accounts.motherEscrow = some mother
  treasuryAt : world.treasuries.lookup accounts.epochTreasury = some loaded.treasury
  treasuryMother : loaded.treasury.motherEscrow = accounts.motherEscrow
  tokenAccount : loaded.treasury.tokenAccount = accounts.treasuryTokenAccount
  tokenMint : loaded.treasury.tokenMint = accounts.tokenMint
  ledgerAt : world.ledgers.lookup (epochLedgerAddress accounts.epochTreasury) =
    some loaded.ledger
  ledgerAddress : accounts.epochLedger = epochLedgerAddress accounts.epochTreasury
  dnaAt : world.dnas.lookup (settlementDnaAddress accounts.motherEscrow slot) =
    some loaded.dna
  dnaAddress : accounts.settlementDna = settlementDnaAddress accounts.motherEscrow slot
  dnaMother : loaded.dna.motherEscrow = accounts.motherEscrow
  claimSlotAt : (world.claimSlots.lookup accounts.claimSlot).getD EpochClaimSlot.zeroed =
    loaded.claimSlot
  authority : accounts.treasuryAuthority = treasuryAuthorityAddress accounts.epochTreasury
  tokenAt : world.tokens.lookup accounts.treasuryTokenAccount = some loaded.treasuryToken

theorem loadSettlement_eq_ok {accounts : SettlementAccounts} {slot : Bytes32}
    {loaded : Settlement}
    (hload : loadSettlement runtime call accounts slot world = .ok loaded) :
    Loads accounts slot world loaded := by
  simp only [loadSettlement, bind_eq_ok, load_eq_ok, require_eq_ok, seeds_eq_ok,
    derivedAt_eq_ok, loadOrInit_eq_ok, pure_eq_ok] at hload
  obtain ⟨_, -, mother, hmother, config, -, _, -, _, -, treasury, htreasury, _, hmothers, _,
    haccount, _, hmint, hload⟩ := hload
  obtain ⟨ledger, hledger, _, ⟨hledgerKey, -⟩, _, -, _, -, dna, hdna, _, ⟨hdnaKey, -⟩, _,
    hdnaMother, hload⟩ := hload
  obtain ⟨claimSlot, ⟨-, hclaimSlot⟩, _, hauthority, token, htoken, _, -, rfl⟩ := hload
  exact ⟨⟨mother, hmother⟩, htreasury, hmothers, haccount, hmint, hledgerKey ▸ hledger,
    hledgerKey, hdnaKey ▸ hdna, hdnaKey, hdnaMother, hclaimSlot, hauthority, htoken⟩

/-- What payouts and refunds have in common: an active DNA is consumed, its amount leaves the
pending liability of a treasury, and a new claim slot records it. -/
structure Settles (accounts : SettlementAccounts) (slot : Bytes32)
    (amount settled refunded : Nat) (world next : World) (loaded : Settlement) : Prop where
  loads : Loads accounts slot world loaded
  active : loaded.dna.status = .active
  owed : loaded.dna.amount = amount
  slotOf : loaded.dna.slot = slot
  pending : amount ≤ loaded.treasury.pendingLiability ∧ amount ≤ loaded.ledger.pendingTotal
  unclaimed : loaded.claimSlot.epochTreasury = Pubkey.default
  motherEscrows_eq : next.motherEscrows = world.motherEscrows
  positions_eq : next.positions = world.positions
  treasuries_eq : next.treasuries = world.treasuries.insert accounts.epochTreasury
    { loaded.treasury with
      pendingLiability := loaded.treasury.pendingLiability - amount
      settledTotal := loaded.treasury.settledTotal + settled
      refundedTotal := loaded.treasury.refundedTotal + refunded
      reimbursedTotal := loaded.treasury.reimbursedTotal + settled }
  ledgers_eq : next.ledgers = world.ledgers.insert (epochLedgerAddress accounts.epochTreasury)
    { loaded.ledger with
      pendingTotal := loaded.ledger.pendingTotal - amount
      settledTotal := loaded.ledger.settledTotal + settled
      refundedTotal := loaded.ledger.refundedTotal + refunded
      slotCount := loaded.ledger.slotCount + 1 }
  claimSlots_eq : ∃ claimSlot, claimSlot.epochTreasury = accounts.epochTreasury ∧
    next.claimSlots = world.claimSlots.insert accounts.claimSlot claimSlot
  dnas_eq : next.dnas = world.dnas.insert (settlementDnaAddress accounts.motherEscrow slot)
    { loaded.dna with status := .consumed }

/-- What only a payout finds and does. -/
structure Pays (runtime : Runtime) (call : Call) (accounts : ExecutePrivatePayout)
    (args : ExecutePrivatePayoutArgs) (world next : World) (loaded : Settlement)
    (cranker : Cranker) (vault : CrankerVault) : Prop where
  crankerAt : world.crankers.lookup accounts.cranker = some cranker
  vaultAt : world.vaults.lookup accounts.crankerVault = some vault
  vaultToken : vault.vaultTokenAccount = accounts.vaultTokenAccount
  authority : accounts.vaultAuthority = vaultAuthorityAddress accounts.crankerVault
  destination : accounts.recipientTokenAccount =
    getAssociatedTokenAddress accounts.recipientWallet accounts.tokenMint
  matched : MatchesPayout loaded.dna accounts args
  committed : settlementCommitment runtime accounts.epochTreasury
    (epochLedgerAddress accounts.epochTreasury) accounts.crankerVault
    accounts.recipientWallet accounts.tokenMint args = loaded.dna.settlementCommitment
  transfers : payoutTransfers call accounts args.payoutAmount world.tokens = .ok next.tokens
  vaults_eq : ∃ rewards, next.vaults = world.vaults.insert accounts.crankerVault
    { vault with totalRewardsAccrued := rewards }
  crankers_eq : ∃ cranker', cranker'.motherEscrow = cranker.motherEscrow ∧
    next.crankers = world.crankers.insert accounts.cranker cranker'

theorem executePrivatePayout_eq_ok {accounts : ExecutePrivatePayout}
    {args : ExecutePrivatePayoutArgs}
    (hstep : executePrivatePayout runtime call accounts args world = .ok next) :
    ∃ loaded cranker vault,
      Settles accounts.toSettlementAccounts args.slot args.payoutAmount args.payoutAmount 0
        world next loaded ∧
      Pays runtime call accounts args world next loaded cranker vault := by
  simp only [executePrivatePayout, loadPayout, checkPayout, bind_eq_ok, load_eq_ok,
    require_eq_ok, seeds_eq_ok, check_eq_ok, addU64_eq_ok, subU64_eq_ok, pure_eq_ok] at hstep
  obtain ⟨loaded, hload, ⟨cranker, vault, vaultToken⟩, hpayout, hcheck, hchecked, tokens,
    htokens, hstep⟩ := hstep
  obtain ⟨crankerData, hcranker, _, -, _, -, vaultData, hvault, _, -, _, -, _, hvaultToken, _,
    -, hpayout⟩ := hpayout
  obtain ⟨_, ⟨hauthority, -⟩, token, htoken, _, -, _, -, hpair⟩ := hpayout
  cases hpair
  obtain ⟨_, -, _, -, _, -, _, -, _, hpending, _, -, _, -, _, hdestination, hchecked⟩ :=
    hchecked
  obtain ⟨_, ⟨hunclaimed, -⟩, _, hmatched, _, hcommitted, -⟩ := hchecked
  obtain ⟨_, ⟨-, rfl⟩, _, ⟨-, rfl⟩, _, ⟨-, rfl⟩, _, ⟨-, rfl⟩, _, ⟨-, rfl⟩, hstep⟩ := hstep
  obtain ⟨_, ⟨hliquid, rfl⟩, _, ⟨-, rfl⟩, _, ⟨-, rfl⟩, _, ⟨-, rfl⟩, rfl⟩ := hstep
  have hloads := loadSettlement_eq_ok hload
  have hliquidity : vault.totalLiquidity - args.payoutAmount + args.payoutAmount =
      vault.totalLiquidity := Nat.sub_add_cancel hliquid
  have hterms := hmatched
  obtain ⟨hactive, hslot, hcommitment, -, -, -, -, -, -, -, howed, -⟩ := hterms
  refine ⟨loaded, cranker, vault, ⟨hloads, hactive, howed, hslot, hpending, hunclaimed, rfl,
    rfl, rfl, ?ledgers, ⟨_, ?claim, rfl⟩, ?dnas⟩, ⟨hcranker, hvault, hvaultToken, hauthority,
    hdestination, hmatched, ?committed, htokens,
    ⟨vault.totalRewardsAccrued + args.claimFeeAmount, ?vaults⟩, ⟨_, ?cranker, rfl⟩⟩⟩
  case ledgers =>
    rw [hloads.ledgerAddress]
    rfl
  case claim => rfl
  case dnas => rw [hloads.dnaAddress]
  case committed => rw [hcommitment, ← hloads.ledgerAddress, hcommitted]
  case vaults => rw [hliquidity]
  case cranker => rfl

/-- What only a refund finds and does. -/
structure Refunds (call : Call) (accounts : RefundEpochClaim) (args : RefundEpochClaimArgs)
    (world next : World) (loaded : Settlement) : Prop where
  matched : MatchesRefund loaded.dna args
  destination : accounts.senderTokenAccount =
    getAssociatedTokenAddress accounts.senderWallet accounts.tokenMint
  transfers : transfer (createIfMissing world.tokens accounts.senderTokenAccount
    accounts.senderWallet accounts.tokenMint) (accounts.treasuryAuthority :: call.signers)
    accounts.treasuryTokenAccount accounts.senderTokenAccount accounts.treasuryAuthority
    args.refundAmount = .ok next.tokens
  vaults_eq : next.vaults = world.vaults
  crankers_eq : next.crankers = world.crankers

theorem refundEpochClaim_eq_ok {accounts : RefundEpochClaim} {args : RefundEpochClaimArgs}
    (hstep : refundEpochClaim runtime call accounts args world = .ok next) :
    ∃ loaded,
      Settles accounts.toSettlementAccounts args.slot args.refundAmount 0 args.refundAmount
        world next loaded ∧
      Refunds call accounts args world next loaded := by
  simp only [refundEpochClaim, checkRefund, bind_eq_ok, check_eq_ok, addU64_eq_ok,
    pure_eq_ok] at hstep
  obtain ⟨loaded, hload, hcheck, hchecked, tokens, htokens, hstep⟩ := hstep
  obtain ⟨_, -, _, -, _, ⟨hunclaimed, -⟩, _, hmatched, _, hpending, _, -, hdestination⟩ :=
    hchecked
  obtain ⟨_, ⟨-, rfl⟩, _, ⟨-, rfl⟩, _, ⟨-, rfl⟩, rfl⟩ := hstep
  have hloads := loadSettlement_eq_ok hload
  have hterms := hmatched
  obtain ⟨hactive, hslot, -, -, howed, -⟩ := hterms
  refine ⟨loaded, ⟨hloads, hactive, howed, hslot, hpending, hunclaimed, rfl, rfl, rfl,
    ?ledgers, ⟨_, ?claim, rfl⟩, ?dnas⟩, ⟨hmatched, hdestination, htokens, rfl, rfl⟩⟩
  case ledgers =>
    rw [hloads.ledgerAddress]
    rfl
  case claim => rfl
  case dnas => rw [hloads.dnaAddress]

section Frames

/-- The accounts of settlements stay as they are. -/
structure KeepsSettlements (world next : World) : Prop where
  motherEscrows_eq : next.motherEscrows = world.motherEscrows
  dnas_eq : next.dnas = world.dnas
  claimSlots_eq : next.claimSlots = world.claimSlots

/-- The accounts of epochs stay as they are. -/
structure KeepsEpochs (world next : World) : Prop where
  treasuries_eq : next.treasuries = world.treasuries
  ledgers_eq : next.ledgers = world.ledgers

/-- The accounts of crankers stay as they are. -/
structure KeepsCrankers (world next : World) : Prop where
  crankers_eq : next.crankers = world.crankers
  vaults_eq : next.vaults = world.vaults
  positions_eq : next.positions = world.positions

/-- The instructions that write neither DNA nor claim slots. -/
def Unsettling : Instruction → Prop
  | .createSettlementDna _ _ | .executePrivatePayout _ _ | .refundEpochClaim _ _ => False
  | _ => True

/-- The instructions that write neither treasuries nor ledgers. -/
def OutsideEpochs : Instruction → Prop
  | .fundEpochTreasury _ _ _ | .executePrivatePayout _ _ | .refundEpochClaim _ _
  | .closeEpochTreasury _ => False
  | _ => True

/-- The instructions that write nothing of crankers. -/
def OutsideCrankers : Instruction → Prop
  | .registerCranker _ | .setCrankerFundingPolicy _ _ | .initializeCrankerVault _
  | .fundCranker _ _ | .withdrawCrankerFunds _ _ | .executePrivatePayout _ _ => False
  | _ => True

theorem keepsSettlements_of_execute {instruction : Instruction}
    (hexecute : execute runtime call instruction world = .ok next)
    (hinstruction : Unsettling instruction) : KeepsSettlements world next := by
  revert hexecute
  suffices Ensures (KeepsSettlements world) (execute runtime call instruction world) from this next
  cases instruction
  case createSettlementDna | executePrivatePayout | refundEpochClaim =>
    exact absurd hinstruction id
  all_goals
    clear hinstruction
    simp only [execute, registerCranker, setCrankerFundingPolicy, initializeCrankerVault,
      fundCranker, withdrawCrankerFunds, configurePrivateSettlement, fundEpochTreasury,
      closeEpochTreasury]
    repeat' first
      | exact ensures_pure ⟨rfl, rfl, rfl⟩
      | refine ensures_bind fun _ _ => ?_

theorem keepsEpochs_of_execute {instruction : Instruction}
    (hexecute : execute runtime call instruction world = .ok next)
    (hinstruction : OutsideEpochs instruction) : KeepsEpochs world next := by
  revert hexecute
  suffices Ensures (KeepsEpochs world) (execute runtime call instruction world) from this next
  cases instruction
  case fundEpochTreasury | executePrivatePayout | refundEpochClaim | closeEpochTreasury =>
    exact absurd hinstruction id
  all_goals
    clear hinstruction
    simp only [execute, registerCranker, setCrankerFundingPolicy, initializeCrankerVault,
      fundCranker, withdrawCrankerFunds, configurePrivateSettlement, createSettlementDna]
    repeat' first
      | exact ensures_pure ⟨rfl, rfl⟩
      | refine ensures_bind fun _ _ => ?_

theorem keepsCrankers_of_execute {instruction : Instruction}
    (hexecute : execute runtime call instruction world = .ok next)
    (hinstruction : OutsideCrankers instruction) : KeepsCrankers world next := by
  revert hexecute
  suffices Ensures (KeepsCrankers world) (execute runtime call instruction world) from this next
  cases instruction
  case registerCranker | setCrankerFundingPolicy | initializeCrankerVault | fundCranker
    | withdrawCrankerFunds | executePrivatePayout =>
    exact absurd hinstruction id
  all_goals
    clear hinstruction
    simp only [execute, configurePrivateSettlement, createSettlementDna, fundEpochTreasury,
      refundEpochClaim, closeEpochTreasury]
    repeat' first
      | exact ensures_pure ⟨rfl, rfl, rfl⟩
      | refine ensures_bind fun _ _ => ?_

/-- Other programs write token accounts, mints and the mother escrow. -/
structure KeepsProgram (world next : World) : Prop where
  dnas_eq : next.dnas = world.dnas
  claimSlots_eq : next.claimSlots = world.claimSlots
  epochs : KeepsEpochs world next
  crankers : KeepsCrankers world next
  motherEscrows_eq : next.motherEscrows = world.motherEscrows ∨
    ∃ data, next.motherEscrows = world.motherEscrows.insert motherEscrowAddress data

theorem keepsProgram_of_executeExternal {action : ExternalAction}
    (hexecute : executeExternal call action world = .ok next) : KeepsProgram world next := by
  revert hexecute
  suffices Ensures (KeepsProgram world) (executeExternal call action world) from this next
  cases action
  all_goals
    simp only [executeExternal]
    repeat' first
      | exact ensures_pure ⟨rfl, rfl, ⟨rfl, rfl⟩, ⟨rfl, rfl, rfl⟩, .inl rfl⟩
      | exact ensures_pure ⟨rfl, rfl, ⟨rfl, rfl⟩, ⟨rfl, rfl, rfl⟩, .inr ⟨_, rfl⟩⟩
      | refine ensures_bind fun _ _ => ?_

end Frames

end TsnProtocol.Escrow.Effects
