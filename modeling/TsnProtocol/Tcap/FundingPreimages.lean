import TsnProtocol.Gpru.Verifier
import TsnProtocol.Lib.MessageFields

/-!
The bytes that the funding commitments of a deposit hash, in the three versions that the
program has of them.
-/

namespace TsnProtocol.Tcap.FundingPreimages

open Gpru.Verifier (asciiBytes)
open Lib.ByteReader
open Lib.MessageFields

abbrev Bytes32 := BitVec 256

structure TcapAssetIdV1 where
  (tokenProgram mint : Bytes32)
  registryVersion : BitVec 32
  assetCommitment : Bytes32
  deriving DecidableEq

/-- The arguments that a commitment binds; `randomness` is the salt of the first version and
the randomness commitment of the later ones. -/
structure FundingArgs where
  amount : BitVec 64
  settlementMode : BitVec 8
  (destinationCommitment fundingIdentifier : Bytes32)
  (authorizationNonce expiresAtSlot : BitVec 64)
  (feeAuthorizationCommitment randomness domainSeparator : Bytes32)
  deriving DecidableEq

structure FundingV1 where
  programId : Bytes32
  protocolVersion : BitVec 16
  (registry reserveState : Bytes32)
  asset : TcapAssetIdV1
  depositorAuthorization : Bytes32
  args : FundingArgs
  deriving DecidableEq

structure FundingV2 where
  protocolVersion : BitVec 16
  (registry reserveState : Bytes32)
  asset : TcapAssetIdV1
  (governancePolicy extensionPolicy : Bytes32)
  policyVersion : BitVec 16
  (extensionConfigHash depositorAuthorization : Bytes32)
  args : FundingArgs
  deriving DecidableEq

structure FundingV3 where
  protocolVersion : BitVec 16
  (reserveState tokenProgram mint assetCommitment depositorAuthorization : Bytes32)
  args : FundingArgs
  deriving DecidableEq

def fundingCommitmentForProgram (funding : FundingV1) : List Byte :=
  [asciiBytes "TCAP_FUNDING_CLAIM_V1", wordBytes funding.programId,
    numberBytes funding.protocolVersion, wordBytes funding.registry,
    wordBytes funding.reserveState, wordBytes funding.asset.tokenProgram,
    wordBytes funding.asset.mint, numberBytes funding.asset.registryVersion,
    wordBytes funding.asset.assetCommitment, numberBytes funding.args.amount,
    [funding.args.settlementMode], wordBytes funding.args.destinationCommitment,
    wordBytes funding.depositorAuthorization, wordBytes funding.args.fundingIdentifier,
    numberBytes funding.args.authorizationNonce, numberBytes funding.args.expiresAtSlot,
    wordBytes funding.args.feeAuthorizationCommitment, wordBytes funding.args.randomness,
    wordBytes funding.args.domainSeparator].flatten

variable (programId : Bytes32)

def fundingCommitmentV2 (funding : FundingV2) : List Byte :=
  [asciiBytes "TCAP_FUNDING_CLAIM_V2", wordBytes programId,
    numberBytes funding.protocolVersion, wordBytes funding.registry,
    wordBytes funding.reserveState, wordBytes funding.asset.tokenProgram,
    wordBytes funding.asset.mint, numberBytes funding.asset.registryVersion,
    wordBytes funding.asset.assetCommitment, wordBytes funding.governancePolicy,
    wordBytes funding.extensionPolicy, numberBytes funding.policyVersion,
    wordBytes funding.extensionConfigHash, numberBytes funding.args.amount,
    [funding.args.settlementMode], wordBytes funding.args.destinationCommitment,
    wordBytes funding.depositorAuthorization, wordBytes funding.args.fundingIdentifier,
    numberBytes funding.args.authorizationNonce, numberBytes funding.args.expiresAtSlot,
    wordBytes funding.args.feeAuthorizationCommitment, wordBytes funding.args.randomness,
    wordBytes funding.args.domainSeparator].flatten

def fundingCommitmentV3 (funding : FundingV3) : List Byte :=
  [asciiBytes "TCAP_FUNDING_CLAIM_V3", wordBytes programId,
    numberBytes funding.protocolVersion, wordBytes funding.reserveState,
    wordBytes funding.tokenProgram, wordBytes funding.mint, wordBytes funding.assetCommitment,
    numberBytes funding.args.amount, [funding.args.settlementMode],
    wordBytes funding.args.destinationCommitment, wordBytes funding.depositorAuthorization,
    wordBytes funding.args.fundingIdentifier, numberBytes funding.args.authorizationNonce,
    numberBytes funding.args.expiresAtSlot, wordBytes funding.args.feeAuthorizationCommitment,
    wordBytes funding.args.randomness, wordBytes funding.args.domainSeparator].flatten

/-- What a commitment of any version binds. -/
inductive Funding where
  | v1 (funding : FundingV1)
  | v2 (funding : FundingV2)
  | v3 (funding : FundingV3)

def Funding.preimage : Funding → List Byte
  | v1 funding => fundingCommitmentForProgram funding
  | v2 funding => fundingCommitmentV2 programId funding
  | v3 funding => fundingCommitmentV3 programId funding

variable {programId}

theorem fundingCommitmentForProgram_inj {left right : FundingV1} :
    fundingCommitmentForProgram left = fundingCommitmentForProgram right ↔ left = right := by
  refine ⟨fun heq => ?_, congrArg _⟩
  rw [fundingCommitmentForProgram, fundingCommitmentForProgram, flatten_inj (by simp)] at heq
  simp only [List.cons.injEq, wordBytes_inj, numberBytes_inj_u64, numberBytes_inj_u16,
    numberBytes_inj_u32, true_and, and_true] at heq
  rcases left with ⟨_, _, _, _, ⟨⟩, _, ⟨⟩⟩
  rcases right with ⟨_, _, _, _, ⟨⟩, _, ⟨⟩⟩
  simp only [FundingV1.mk.injEq, TcapAssetIdV1.mk.injEq, FundingArgs.mk.injEq]
  tauto

theorem fundingCommitmentV2_inj {left right : FundingV2} :
    fundingCommitmentV2 programId left = fundingCommitmentV2 programId right ↔ left = right := by
  refine ⟨fun heq => ?_, congrArg _⟩
  rw [fundingCommitmentV2, fundingCommitmentV2, flatten_inj (by simp)] at heq
  simp only [List.cons.injEq, wordBytes_inj, numberBytes_inj_u64, numberBytes_inj_u16,
    numberBytes_inj_u32, true_and, and_true] at heq
  rcases left with ⟨_, _, _, ⟨⟩, _, _, _, _, _, ⟨⟩⟩
  rcases right with ⟨_, _, _, ⟨⟩, _, _, _, _, _, ⟨⟩⟩
  simp only [FundingV2.mk.injEq, TcapAssetIdV1.mk.injEq, FundingArgs.mk.injEq]
  tauto

theorem fundingCommitmentV3_inj {left right : FundingV3} :
    fundingCommitmentV3 programId left = fundingCommitmentV3 programId right ↔ left = right := by
  refine ⟨fun heq => ?_, congrArg _⟩
  rw [fundingCommitmentV3, fundingCommitmentV3, flatten_inj (by simp)] at heq
  simp only [List.cons.injEq, wordBytes_inj, numberBytes_inj_u64, numberBytes_inj_u16,
    true_and, and_true] at heq
  rcases left with ⟨_, _, _, _, _, _, ⟨⟩⟩
  rcases right with ⟨_, _, _, _, _, _, ⟨⟩⟩
  simp only [FundingV3.mk.injEq, FundingArgs.mk.injEq]
  tauto

/-- The last letter of the label keeps the versions apart. -/
def Funding.version : Funding → Byte
  | v1 _ => 0x31
  | v2 _ => 0x32
  | v3 _ => 0x33

theorem preimage_version (funding : Funding) :
    (funding.preimage programId)[20]? = some funding.version := by
  rcases funding with funding | funding | funding
  · exact List.getElem?_append_left (by decide)
  · exact List.getElem?_append_left (by decide)
  · exact List.getElem?_append_left (by decide)

theorem preimage_inj {left right : Funding} :
    left.preimage programId = right.preimage programId ↔ left = right := by
  refine ⟨fun heq => ?_, congrArg _⟩
  have hversion := congrArg (fun bytes : List Byte => bytes[20]?) heq
  simp only [preimage_version] at hversion
  rcases left with left | left | left <;> rcases right with right | right | right
  case v1.v1 => exact congrArg _ (fundingCommitmentForProgram_inj.mp heq)
  case v2.v2 => exact congrArg _ (fundingCommitmentV2_inj.mp heq)
  case v3.v3 => exact congrArg _ (fundingCommitmentV3_inj.mp heq)
  all_goals simp [Funding.version] at hversion

end TsnProtocol.Tcap.FundingPreimages
