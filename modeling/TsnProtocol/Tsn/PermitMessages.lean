import TsnProtocol.Gpru.Verifier
import TsnProtocol.Lib.MessageFields

/-!
The messages of the TSN program's permits: what is signed to settle or refund a claim slot
and to authorize payments from a PRU.
-/

namespace TsnProtocol.Tsn.PermitMessages

open Gpru.Verifier (asciiBytes)
open Lib.ByteReader
open Lib.MessageFields

abbrev Bytes32 := BitVec 256

structure SlotSettlement where
  (programId mother operator epochTreasury epochLedger claimSlot slot settlementCommitment
    commitmentDigest randomNonce nullifier vault recipient mint : Bytes32)
  (amount fee : BitVec 64)
  leaseId : Bytes32
  (leaseVersion leaseExpiry expires : BitVec 64)
  deriving DecidableEq

structure SlotRefund where
  (programId mother operator epochTreasury epochLedger claimSlot slot : Bytes32)
  leaseVersion : BitVec 64
  (commitmentDigest sender mint : Bytes32)
  amount : BitVec 64
  nullifier : Bytes32
  expires : BitVec 64
  deriving DecidableEq

/-- The arguments of a PRU authorization; the key is the main wallet or the PRU authority. -/
structure PruAuthorization where
  (programId key : Bytes32)
  tin : BitVec 64
  pruIndex : BitVec 16
  nonce : BitVec 8
  commitmentHash : Bytes32
  (amount senderFeeAmount : BitVec 64)
  deriving DecidableEq

def pruRootAuthDomain : List Byte := asciiBytes "TSN_PRU_ROOT_AUTH_V1"

def pruChildAuthDomain : List Byte := asciiBytes "TSN_PRU_CHILD_AUTH_V1"

def privateSlotSettlementDomain : List Byte := asciiBytes "TSN_PRIVATE_SLOT_SETTLEMENT_V1"

def privateSlotRefundDomain : List Byte := asciiBytes "TSN_PRIVATE_SLOT_REFUND_V1"

def slotSettlementMessage (args : SlotSettlement) : List Byte :=
  [privateSlotSettlementDomain, wordBytes args.programId, wordBytes args.mother,
    wordBytes args.operator, wordBytes args.epochTreasury, wordBytes args.epochLedger,
    wordBytes args.claimSlot, wordBytes args.slot, wordBytes args.settlementCommitment,
    wordBytes args.commitmentDigest, wordBytes args.randomNonce, wordBytes args.nullifier,
    wordBytes args.vault, wordBytes args.recipient, wordBytes args.mint,
    numberBytes args.amount, numberBytes args.fee, wordBytes args.leaseId,
    numberBytes args.leaseVersion, numberBytes args.leaseExpiry,
    numberBytes args.expires].flatten

def slotRefundMessage (args : SlotRefund) : List Byte :=
  [privateSlotRefundDomain, wordBytes args.programId, wordBytes args.mother,
    wordBytes args.operator, wordBytes args.epochTreasury, wordBytes args.epochLedger,
    wordBytes args.claimSlot, wordBytes args.slot, numberBytes args.leaseVersion,
    wordBytes args.commitmentDigest, wordBytes args.sender, wordBytes args.mint,
    numberBytes args.amount, wordBytes args.nullifier, numberBytes args.expires].flatten

/-- The fields that both kinds of PRU message have after their domain. -/
def pruAuthorizationMessage (domain : List Byte) (args : PruAuthorization) : List Byte :=
  [domain, wordBytes args.programId, wordBytes args.key, numberBytes args.tin,
    numberBytes args.pruIndex, [args.nonce], wordBytes args.commitmentHash,
    numberBytes args.amount, numberBytes args.senderFeeAmount].flatten

def pruRootAuthorizationMessage (args : PruAuthorization) : List Byte :=
  pruAuthorizationMessage pruRootAuthDomain args

def pruChildAuthorizationMessage (args : PruAuthorization) : List Byte :=
  pruAuthorizationMessage pruChildAuthDomain args

/-- What one signature can be asked for. -/
inductive Permit where
  | settlement (args : SlotSettlement)
  | refund (args : SlotRefund)
  | pruRoot (args : PruAuthorization)
  | pruChild (args : PruAuthorization)

def Permit.message : Permit → List Byte
  | settlement args => slotSettlementMessage args
  | refund args => slotRefundMessage args
  | pruRoot args => pruRootAuthorizationMessage args
  | pruChild args => pruChildAuthorizationMessage args

inductive PermitKind where
  | settlement | refund | pruRoot | pruChild
  deriving DecidableEq

def Permit.kind : Permit → PermitKind
  | settlement _ => .settlement
  | refund _ => .refund
  | pruRoot _ => .pruRoot
  | pruChild _ => .pruChild

def PermitKind.domain : PermitKind → List Byte
  | settlement => privateSlotSettlementDomain
  | refund => privateSlotRefundDomain
  | pruRoot => pruRootAuthDomain
  | pruChild => pruChildAuthDomain

theorem slotSettlementMessage_inj {left right : SlotSettlement} :
    slotSettlementMessage left = slotSettlementMessage right ↔ left = right := by
  refine ⟨fun heq => ?_, congrArg _⟩
  rw [slotSettlementMessage, slotSettlementMessage, flatten_inj (by simp)] at heq
  simp only [List.cons.injEq, wordBytes_inj, numberBytes_inj_u64, true_and, and_true] at heq
  rcases left
  rcases right
  simpa only [SlotSettlement.mk.injEq] using heq

theorem slotRefundMessage_inj {left right : SlotRefund} :
    slotRefundMessage left = slotRefundMessage right ↔ left = right := by
  refine ⟨fun heq => ?_, congrArg _⟩
  rw [slotRefundMessage, slotRefundMessage, flatten_inj (by simp)] at heq
  simp only [List.cons.injEq, wordBytes_inj, numberBytes_inj_u64, true_and, and_true] at heq
  rcases left
  rcases right
  simpa only [SlotRefund.mk.injEq] using heq

theorem pruAuthorizationMessage_inj {domain : List Byte} {left right : PruAuthorization} :
    pruAuthorizationMessage domain left = pruAuthorizationMessage domain right ↔
      left = right := by
  refine ⟨fun heq => ?_, congrArg _⟩
  rw [pruAuthorizationMessage, pruAuthorizationMessage, flatten_inj (by simp)] at heq
  simp only [List.cons.injEq, wordBytes_inj, numberBytes_inj_u64, numberBytes_inj_u16, true_and,
    and_true] at heq
  rcases left
  rcases right
  simpa only [PruAuthorization.mk.injEq] using heq

theorem message_eq (permit : Permit) :
    ∃ rest, permit.message = permit.kind.domain ++ rest := by
  rcases permit with args | args | args | args <;> exact ⟨_, rfl⟩

/-- The domains of two kinds differ at a byte that both have. -/
theorem domain_ne {left right : PermitKind} (hne : left ≠ right) :
    ∃ position < 20, position < left.domain.length ∧ position < right.domain.length ∧
      left.domain[position]? ≠ right.domain[position]? := by
  rcases left with _ | _ | _ | _ <;> rcases right with _ | _ | _ | _ <;>
    first | exact absurd rfl hne | decide

theorem kind_eq_of_message_eq {left right : Permit} (heq : left.message = right.message) :
    left.kind = right.kind := by
  by_contra hne
  obtain ⟨position, -, hleft, hright, hbyte⟩ := domain_ne hne
  obtain ⟨rest, hrest⟩ := message_eq left
  obtain ⟨rest', hrest'⟩ := message_eq right
  exact append_ne hleft hright hbyte (hrest ▸ hrest' ▸ heq)

/-- No message can be taken for another permit's, of its own kind or of another one. -/
theorem message_inj {left right : Permit} : left.message = right.message ↔ left = right := by
  refine ⟨fun heq => ?_, congrArg _⟩
  have hkind := kind_eq_of_message_eq heq
  rcases left with left | left | left | left <;> rcases right with right | right | right | right
  case settlement.settlement => exact congrArg _ (slotSettlementMessage_inj.mp heq)
  case refund.refund => exact congrArg _ (slotRefundMessage_inj.mp heq)
  case pruRoot.pruRoot => exact congrArg _ (pruAuthorizationMessage_inj.mp heq)
  case pruChild.pruChild => exact congrArg _ (pruAuthorizationMessage_inj.mp heq)
  all_goals cases hkind

end TsnProtocol.Tsn.PermitMessages
