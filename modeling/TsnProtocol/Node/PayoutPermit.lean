import TsnProtocol.Tcap.FundingPreimages
import TsnProtocol.Tip.OwnerIntent
import TsnProtocol.Tsn.PermitMessages

/-!
The Node's message for a private payout, and what the byte strings that are signed or hashed
for payouts, refunds, PRU payments, TIN creations and funded deposits bind.
-/

namespace TsnProtocol.Node.PayoutPermit

open Gpru.Verifier (asciiBytes)
open Lib.ByteReader
open Lib.MessageFields
open Tcap.FundingPreimages (Funding preimage_inj)
open Tip.OwnerIntent
open Tip.Registrar (CreateTinV1Params ownerIntentPreimage)
open Tsn.PermitMessages

/-- The arguments of the Node's function: its byte strings have any length and its integers
any size. -/
structure PayoutPermitArgs where
  (operator epochTreasury epochLedger claimSlot : Bytes32)
  (slot payoutNullifier commitmentDigest randomNonce settlementCommitment : List Byte)
  (crankerVault recipientWallet tokenMint : Bytes32)
  (payoutAmount claimFeeAmount : Int)
  leaseIdHashValue : List Byte
  (leaseVersion leaseExpiryTs expiresAtTs : Int)

/-- `struct.pack("<Q", value)`. -/
def packUnsigned (value : Int) : Option (List Byte) :=
  if 0 ≤ value ∧ value < 2 ^ 64 then some (leBytes 8 value.toNat) else none

/-- `struct.pack("<q", value)`. -/
def packSigned (value : Int) : Option (List Byte) :=
  if -2 ^ 63 ≤ value ∧ value < 2 ^ 63 then some (leBytes 8 (value % 2 ^ 64).toNat) else none

def privatePayoutDomain : List Byte := asciiBytes "TSN_PRIVATE_SLOT_SETTLEMENT_V1"

def privatePayoutPermitMessage (programPubkey motherEscrowPda : Bytes32)
    (args : PayoutPermitArgs) : Option (List Byte) := do
  let payoutAmount ← packUnsigned args.payoutAmount
  let claimFeeAmount ← packUnsigned args.claimFeeAmount
  let leaseVersion ← packUnsigned args.leaseVersion
  let leaseExpiryTs ← packSigned args.leaseExpiryTs
  let expiresAtTs ← packSigned args.expiresAtTs
  return [privatePayoutDomain, wordBytes programPubkey, wordBytes motherEscrowPda,
    wordBytes args.operator, wordBytes args.epochTreasury, wordBytes args.epochLedger,
    wordBytes args.claimSlot, args.slot, args.settlementCommitment, args.commitmentDigest,
    args.randomNonce, args.payoutNullifier, wordBytes args.crankerVault,
    wordBytes args.recipientWallet, wordBytes args.tokenMint, payoutAmount, claimFeeAmount,
    args.leaseIdHashValue, leaseVersion, leaseExpiryTs, expiresAtTs].flatten

/-- The arguments of a settlement as the Node passes them. -/
def payoutArgs (args : SlotSettlement) : PayoutPermitArgs where
  operator := args.operator
  epochTreasury := args.epochTreasury
  epochLedger := args.epochLedger
  claimSlot := args.claimSlot
  slot := wordBytes args.slot
  payoutNullifier := wordBytes args.nullifier
  commitmentDigest := wordBytes args.commitmentDigest
  randomNonce := wordBytes args.randomNonce
  settlementCommitment := wordBytes args.settlementCommitment
  crankerVault := args.vault
  recipientWallet := args.recipient
  tokenMint := args.mint
  payoutAmount := args.amount.toNat
  claimFeeAmount := args.fee.toNat
  leaseIdHashValue := wordBytes args.leaseId
  leaseVersion := args.leaseVersion.toNat
  leaseExpiryTs := args.leaseExpiry.toInt
  expiresAtTs := args.expires.toInt

theorem packUnsigned_toNat (value : BitVec 64) :
    packUnsigned value.toNat = some (numberBytes value) := by
  have hlt := value.isLt
  rw [packUnsigned, if_pos ⟨by omega, by omega⟩, Int.toNat_natCast]
  rfl

theorem packSigned_toInt (value : BitVec 64) :
    packSigned value.toInt = some (numberBytes value) := by
  have hlow := BitVec.le_toInt value
  have hhigh := BitVec.toInt_lt (x := value)
  have hlt := value.isLt
  have hvalue : (value.toInt % 2 ^ 64).toNat = value.toNat := by
    have hmod : value.toInt % ((2 ^ 64 : Nat) : Int) = value.toNat := by
      rw [BitVec.toInt_eq_toNat_bmod, Int.bmod_emod]
      exact Int.emod_eq_of_lt (by omega) (by omega)
    omega
  rw [packSigned, if_pos ⟨hlow, hhigh⟩, hvalue]
  rfl

theorem privatePayoutPermitMessage_eq (args : SlotSettlement) :
    privatePayoutPermitMessage args.programId args.mother (payoutArgs args) =
      some (slotSettlementMessage args) := by
  simp only [privatePayoutPermitMessage, payoutArgs, packUnsigned_toNat, packSigned_toInt]
  rfl

/-- The signed messages and the hashed preimages tell their fields apart. -/
theorem messages_bind :
    (∀ left right : Permit, left.message = right.message ↔ left = right) ∧
    (∀ args : SlotSettlement,
      privatePayoutPermitMessage args.programId args.mother (payoutArgs args) =
        some (slotSettlementMessage args)) ∧
    (∀ (data : List Byte) (params : CreateTinV1Params),
      tryFromSlice data = .ok params → Sized params) ∧
    (∀ left right : CreateTinV1Params, Sized left → Sized right →
      ownerIntentPreimage left = ownerIntentPreimage right →
      left = { right with intentHash := left.intentHash }) ∧
    ∀ (programId : Tcap.FundingPreimages.Bytes32) (left right : Funding),
      left.preimage programId = right.preimage programId ↔ left = right :=
  ⟨fun _ _ => message_inj, privatePayoutPermitMessage_eq, fun _ _ => sized_of_tryFromSlice,
    fun _ _ => ownerIntentPreimage_inj, fun _ _ _ => preimage_inj⟩

/-- A creation with three short blobs. -/
def sampleParams : CreateTinV1Params where
  ownerPubkey := 11
  lookupCommitment := 12
  encryptedTinRecovery := List.replicate 28 7
  encryptedIdentityEnvelope := [1, 2]
  encryptedMasterSeed := [3]
  encryptedMetadataHash := 0
  routeVersion := 1
  routeNonce := 13
  route := ⟨1, 1, 14, 15, 1, 16, 17, 18⟩
  intentHash := 19
  expiryTs := 1800000000

theorem messages_bind_sample :
    tryFromSlice (creationBytes sampleParams) = .ok sampleParams ∧ Sized sampleParams ∧
      sampleParams = { { sampleParams with intentHash := 20 } with intentHash := 19 } := by
  have hread : tryFromSlice (creationBytes sampleParams) = .ok sampleParams := by
    decide +kernel
  have hsized := messages_bind.2.2.1 _ _ hread
  exact ⟨hread, hsized, messages_bind.2.2.2.1 sampleParams { sampleParams with intentHash := 20 }
    hsized ⟨hsized.recovery, hsized.identity, hsized.masterSeed⟩ rfl⟩

end TsnProtocol.Node.PayoutPermit
