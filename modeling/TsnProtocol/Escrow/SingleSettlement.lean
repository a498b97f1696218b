import TsnProtocol.Tcap.Program
import TsnProtocol.Escrow.Effects

/-!
A settlement is made once. Payouts and refunds both consume the DNA of their slot, and a
consumed DNA is never made active again, whoever the treasury and the epoch belong to.
-/

namespace TsnProtocol.Escrow.SingleSettlement

open Lib.Checked
open Lib.FiniteStore
open Lib.Transition
open Solana.Address
open Escrow.State
open Escrow.CrankerFunding
open Escrow.EpochSettlement
open Escrow.Program
open Escrow.Effects

variable {runtime : Runtime} {world next start : World} {slot : Pubkey × Bytes32}

/-- The mother escrow and the slot of the DNA a step pays out or refunds. -/
def settledSlot : Step → Option (Pubkey × Bytes32)
  | .tsn _ (.executePrivatePayout accounts args) => some (accounts.motherEscrow, args.slot)
  | .tsn _ (.refundEpochClaim accounts args) => some (accounts.motherEscrow, args.slot)
  | _ => none

/-- The slots a run paid out or refunded, latest first. -/
def settledSlots (history : List (World × Step)) : List (Pubkey × Bytes32) :=
  history.filterMap fun entry => settledSlot entry.2

/-- The DNA of a slot has been paid out or refunded. -/
def Consumed (world : World) (slot : Pubkey × Bytes32) : Prop :=
  ∃ dna, world.dnas.lookup (settlementDnaAddress slot.1 slot.2) = some dna ∧
    dna.status = .consumed ∧ dna.motherEscrow ≠ Pubkey.default

/-- The mother escrow is stored at its own address only. -/
def MotherPlaced (world : World) : Prop :=
  ∀ key mother, world.motherEscrows.lookup key = some mother → key = motherEscrowAddress

theorem motherPlaced_of_launch (hlaunch : Launch start) : MotherPlaced start := by
  intro key mother hmother
  rw [hlaunch.motherEscrows, Finmap.lookup_empty] at hmother
  cases hmother

theorem ne_default_of_motherPlaced (hplaced : MotherPlaced world) {key : Pubkey}
    {mother : MotherEscrow} (hmother : world.motherEscrows.lookup key = some mother) :
    key ≠ Pubkey.default := by
  rw [hplaced key mother hmother]
  exact ne_default_of_derived (program?_findProgramAddress _ _ _)

theorem createSettlementDna_eq_ok {call : Call} {accounts : CreateSettlementDna}
    {args : CreateSettlementDnaArgs}
    (hstep : createSettlementDna runtime call accounts args world = .ok next) :
    next.motherEscrows = world.motherEscrows ∧
      ∃ dna created, (world.dnas.lookup accounts.settlementDna).getD SettlementDna.zeroed =
          dna ∧
        (dna.motherEscrow = Pubkey.default ∨ dna.status = .active) ∧
        next.dnas = world.dnas.insert accounts.settlementDna created := by
  simp only [createSettlementDna, bind_eq_ok, load_eq_ok, loadOrInit_eq_ok, check_eq_ok,
    pure_eq_ok] at hstep
  obtain ⟨_, -, mother, -, _, -, dna, ⟨-, hdna⟩, _, -, _, -, _, hfree, rfl⟩ := hstep
  exact ⟨rfl, dna, _, hdna, hfree.imp_right And.left, rfl⟩

theorem createSettlementDna_claimSlots {call : Call} {accounts : CreateSettlementDna}
    {args : CreateSettlementDnaArgs}
    (hstep : createSettlementDna runtime call accounts args world = .ok next) :
    next.claimSlots = world.claimSlots := by
  simp only [createSettlementDna, bind_eq_ok, pure_eq_ok] at hstep
  obtain ⟨_, -, mother, -, _, -, dna, -, _, -, _, -, _, -, rfl⟩ := hstep
  rfl

theorem settles_of_settledSlot {input : Step} (hsettled : settledSlot input = some slot)
    (hstep : step runtime world input = .ok next) :
    ∃ accounts amount settled refunded loaded, accounts.motherEscrow = slot.1 ∧
      Settles accounts slot.2 amount settled refunded world next loaded := by
  cases input with
  | external call action => cases hsettled
  | tsn call instruction =>
      have hexecute := (step_tsn_eq_ok.mp hstep).2
      cases instruction with
      | executePrivatePayout accounts args =>
          cases hsettled
          obtain ⟨loaded, _, _, hsettles, -⟩ := executePrivatePayout_eq_ok hexecute
          exact ⟨_, _, _, _, loaded, rfl, hsettles⟩
      | refundEpochClaim accounts args =>
          cases hsettled
          obtain ⟨loaded, hsettles, -⟩ := refundEpochClaim_eq_ok hexecute
          exact ⟨_, _, _, _, loaded, rfl, hsettles⟩
      | _ => cases hsettled

/-- The DNA of a slot that is settled was not consumed, and is consumed afterwards. -/
theorem consumed_of_settledSlot {input : Step} (hplaced : MotherPlaced world)
    (hsettled : settledSlot input = some slot)
    (hstep : step runtime world input = .ok next) :
    ¬ Consumed world slot ∧ Consumed next slot := by
  obtain ⟨accounts, amount, settled, refunded, loaded, hmother, hsettles⟩ :=
    settles_of_settledSlot hsettled hstep
  rw [← Prod.eta slot, ← hmother]
  have hdna := hsettles.loads.dnaAt
  constructor
  · rintro ⟨dna, hconsumed, hstatus, -⟩
    rw [hdna] at hconsumed
    cases hconsumed
    rw [hsettles.active] at hstatus
    cases hstatus
  · obtain ⟨mother, hstored⟩ := hsettles.loads.motherAt
    refine ⟨{ loaded.dna with status := .consumed }, ?_, rfl, ?_⟩
    · rw [hsettles.dnas_eq, Finmap.lookup_insert]
    · rw [hsettles.loads.dnaMother]
      exact ne_default_of_motherPlaced hplaced hstored

/-- What a step may write: only DNA that is not consumed. -/
theorem dnas_of_step {input : Step} (hstep : step runtime world input = .ok next) :
    next.dnas = world.dnas ∨ ∃ key dna written,
      (world.dnas.lookup key).getD SettlementDna.zeroed = dna ∧
      (dna.motherEscrow = Pubkey.default ∨ dna.status = .active) ∧
      next.dnas = world.dnas.insert key written := by
  cases hsettled : settledSlot input with
  | some slot =>
      obtain ⟨accounts, amount, settled, refunded, loaded, -, hsettles⟩ :=
        settles_of_settledSlot hsettled hstep
      refine .inr ⟨_, loaded.dna, _, ?_, .inr hsettles.active, hsettles.dnas_eq⟩
      rw [hsettles.loads.dnaAt]
      rfl
  | none =>
      cases input with
      | external call action =>
          exact .inl (keepsProgram_of_executeExternal (step_external_eq_ok.mp hstep).2).dnas_eq
      | tsn call instruction =>
          have hexecute := (step_tsn_eq_ok.mp hstep).2
          cases instruction with
          | createSettlementDna accounts args =>
              obtain ⟨-, dna, created, hdna, hfree, hnext⟩ :=
                createSettlementDna_eq_ok hexecute
              exact .inr ⟨_, dna, created, hdna, hfree, hnext⟩
          | executePrivatePayout accounts args => cases hsettled
          | refundEpochClaim accounts args => cases hsettled
          | _ =>
              exact .inl (keepsSettlements_of_execute hexecute trivial).dnas_eq

/-- A consumed DNA stays consumed. -/
theorem consumed_of_step {input : Step} (hconsumed : Consumed world slot)
    (hstep : step runtime world input = .ok next) : Consumed next slot := by
  obtain ⟨dna, hdna, hstatus, hmother⟩ := hconsumed
  rcases dnas_of_step hstep with hsame | ⟨key, old, written, hold, hfree, hnext⟩
  · exact ⟨dna, hsame ▸ hdna, hstatus, hmother⟩
  · have hkey : settlementDnaAddress slot.1 slot.2 ≠ key := by
      rintro rfl
      rw [hdna, Option.getD_some] at hold
      subst hold
      rcases hfree with hdefault | hactive
      · exact hmother hdefault
      · rw [hstatus] at hactive
        cases hactive
    refine ⟨dna, ?_, hstatus, hmother⟩
    rw [hnext, Finmap.lookup_insert_of_ne _ hkey]
    exact hdna

/-- The mother escrow is written by other instructions only, at its own address. -/
theorem motherEscrows_of_step {input : Step} (hstep : step runtime world input = .ok next) :
    next.motherEscrows = world.motherEscrows ∨
      ∃ data, next.motherEscrows = world.motherEscrows.insert motherEscrowAddress data := by
  cases input with
  | external call action =>
      exact (keepsProgram_of_executeExternal (step_external_eq_ok.mp hstep).2).motherEscrows_eq
  | tsn call instruction =>
      have hexecute := (step_tsn_eq_ok.mp hstep).2
      cases instruction with
      | createSettlementDna accounts args => exact .inl (createSettlementDna_eq_ok hexecute).1
      | executePrivatePayout accounts args =>
          obtain ⟨_, _, _, hsettles, -⟩ := executePrivatePayout_eq_ok hexecute
          exact .inl hsettles.motherEscrows_eq
      | refundEpochClaim accounts args =>
          obtain ⟨_, hsettles, -⟩ := refundEpochClaim_eq_ok hexecute
          exact .inl hsettles.motherEscrows_eq
      | _ => exact .inl (keepsSettlements_of_execute hexecute trivial).motherEscrows_eq

theorem motherPlaced_of_step {input : Step} (hplaced : MotherPlaced world)
    (hstep : step runtime world input = .ok next) : MotherPlaced next := by
  rcases motherEscrows_of_step hstep with hsame | ⟨data, hnext⟩
  · rwa [MotherPlaced, hsame]
  · intro key mother hmother
    rw [hnext, lookup_insert_eq] at hmother
    split_ifs at hmother with hkey
    · exact hkey
    · exact hplaced key mother hmother

section Sample

/-- A chain on which runs can be evaluated. -/
def localRuntime : Runtime := ⟨fun _ => 255, Tcap.Program.localRuntime.hashv⟩

def authority : Pubkey := .raw 101
def operator : Pubkey := .raw 102
def sender : Pubkey := .raw 103
def recipient : Pubkey := .raw 104
def permitSigner : Pubkey := .raw 105
def usdMint : Pubkey := .raw 201
def eurMint : Pubkey := .raw 202
def operatorWallet : Pubkey := .raw 301
def usdWallet : Pubkey := .raw 302
def eurWallet : Pubkey := .raw 303

/-- An operator with 500 of one mint, and a sender with 1000 of each of two. -/
def walletWorld : World :=
  ⟨∅, ∅, ∅, ∅, ∅, ∅, ∅, ∅, ∅,
    ((Finmap.insert operatorWallet ⟨usdMint, operator, 500⟩ ∅).insert
      usdWallet ⟨usdMint, sender, 1000⟩).insert eurWallet ⟨eurMint, sender, 1000⟩,
    [usdMint, eurMint]⟩

theorem launch_walletWorld : Launch walletWorld :=
  ⟨rfl, rfl, rfl, rfl, rfl, rfl, rfl, rfl, rfl⟩

def sampleCranker : Pubkey := crankerAddress motherEscrowAddress operator

def sampleVault : Pubkey := crankerVaultAddress sampleCranker usdMint

/-- The escrow, its permits, and a cranker with a vault for one mint, latest step first. -/
def setupSteps : List Step :=
  [.tsn ⟨[operator], 0, none⟩ (.initializeCrankerVault
      ⟨operator, motherEscrowAddress, sampleCranker, usdMint, sampleVault,
        vaultAuthorityAddress sampleVault, vaultTokenAddress sampleVault⟩),
    .tsn ⟨[operator], 0, none⟩ (.registerCranker
      ⟨operator, motherEscrowAddress, sampleCranker⟩),
    .tsn ⟨[authority], 0, none⟩ (.configurePrivateSettlement
      ⟨authority, motherEscrowAddress, privateSettlementConfigAddress motherEscrowAddress⟩
      permitSigner true),
    .external ⟨[authority], 0, none⟩ (.writeMotherEscrow ⟨authority, 7, 0⟩)]

/-- A funder puts tokens into the vault. -/
def fundVaultStep (funder wallet : Pubkey) (amount : Nat) : Step :=
  .tsn ⟨[funder], 1, none⟩ (.fundCranker
    ⟨funder, motherEscrowAddress, sampleCranker, sampleVault, wallet,
      vaultTokenAddress sampleVault, liquidityPositionAddress sampleVault funder⟩ amount)

def treasuryOf (mint : Pubkey) : Pubkey :=
  epochTreasuryAddress motherEscrowAddress 0 mint

def treasuryTokens (mint : Pubkey) : Pubkey :=
  getAssociatedTokenAddress (treasuryAuthorityAddress (treasuryOf mint)) mint

/-- The sender funds the treasury of a mint. -/
def fundTreasuryStep (mint wallet : Pubkey) (amount : Nat) : Step :=
  .tsn ⟨[sender], 2, none⟩ (.fundEpochTreasury
    ⟨sender, motherEscrowAddress, wallet, mint, treasuryOf mint,
      epochLedgerAddress (treasuryOf mint), treasuryAuthorityAddress (treasuryOf mint),
      treasuryTokens mint⟩ 0 amount)

/-- The accounts of a settlement out of the treasury of a mint. -/
def sampleAccounts (mint : Pubkey) (slot : Bytes32) : SettlementAccounts :=
  ⟨operator, motherEscrowAddress, privateSettlementConfigAddress motherEscrowAddress,
    treasuryOf mint, epochLedgerAddress (treasuryOf mint),
    settlementDnaAddress motherEscrowAddress slot, claimSlotAddress (treasuryOf mint) slot,
    treasuryAuthorityAddress (treasuryOf mint), treasuryTokens mint, mint⟩

/-- The terms a payout from the sample vault is made under. -/
def payoutTerms (slot : Bytes32) (amount : Nat) : ExecutePrivatePayoutArgs :=
  let terms : ExecutePrivatePayoutArgs := ⟨slot, 0, 11, 12, 13, amount, 1, 14, 1, 100, 90, 15⟩
  let commitment := settlementCommitment localRuntime (treasuryOf usdMint)
    (epochLedgerAddress (treasuryOf usdMint)) sampleVault recipient usdMint terms
  { terms with settlementCommitment := commitment }

/-- The authority records the DNA of these terms. -/
def dnaStep (slot : Bytes32) (amount : Nat) : Step :=
  let terms := payoutTerms slot amount
  .tsn ⟨[authority], 3, none⟩ (.createSettlementDna
    ⟨authority, motherEscrowAddress, settlementDnaAddress motherEscrowAddress slot⟩
    ⟨slot, terms.leaseVersion, terms.commitmentDigest, terms.settlementCommitment,
      terms.payoutNullifier, terms.randomNonce, sampleCranker, sampleVault, recipient, usdMint,
      amount, terms.leaseIdHash, terms.leaseExpiryTs, terms.expiresAtTs⟩)

def payoutStep (slot : Bytes32) (amount : Nat) : Step :=
  let accounts : ExecutePrivatePayout :=
    ⟨sampleAccounts usdMint slot, sampleCranker, sampleVault, vaultAuthorityAddress sampleVault,
      vaultTokenAddress sampleVault, recipient, getAssociatedTokenAddress recipient usdMint⟩
  let terms := payoutTerms slot amount
  .tsn ⟨[operator], 4, some ⟨permitSigner, 15, slotSettlementMessage accounts terms⟩⟩
    (.executePrivatePayout accounts terms)

/-- A refund out of the treasury of a mint, for a DNA of `dnaStep`. -/
def refundStep (mint : Pubkey) (slot : Bytes32) (amount : Nat) : Step :=
  let accounts : RefundEpochClaim :=
    ⟨sampleAccounts mint slot, sender, getAssociatedTokenAddress sender mint⟩
  let args : RefundEpochClaimArgs := ⟨slot, 1, 11, 13, amount, 80, 15⟩
  .tsn ⟨[operator], 5, some ⟨permitSigner, 15, slotRefundMessage accounts args⟩⟩
    (.refundEpochClaim accounts args)

end Sample

end TsnProtocol.Escrow.SingleSettlement
