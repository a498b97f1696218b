import TsnProtocol.Lib.MessageFields
import TsnProtocol.Tcap.State

/-!
What the program stores for an asset entry and for the commitment root: the fields of the
structure one after another, behind the discriminator of the account.
-/

namespace TsnProtocol.Tcap.AccountImages

open Lib.ByteReader
open Lib.MessageFields
open Solana.Address
open Tcap.State

/-- `sha256("account:TcapAssetEntryV1")`, its first eight bytes. -/
def assetEntryDiscriminator : List Byte :=
  [235, 253, 26, 238, 78, 190, 137, 74]

/-- `sha256("account:TcapCommitmentRootStateV1")`, its first eight bytes. -/
def commitmentRootDiscriminator : List Byte :=
  [114, 108, 164, 25, 122, 193, 125, 232]

def statusByte : TcapAssetStatusV1 → Byte
  | .proposed => 0
  | .active => 1
  | .depositsPaused => 2
  | .withdrawalsOnly => 3
  | .deprecated => 4

def riskByte : TcapRiskStateV1 → Byte
  | .pendingReview => 0
  | .approved => 1
  | .restricted => 2
  | .blocked => 3

@[simp] theorem statusByte_eq_one {status : TcapAssetStatusV1} :
    statusByte status = 1 ↔ status = .active := by
  cases status <;> decide

@[simp] theorem riskByte_eq_one {risk : TcapRiskStateV1} :
    riskByte risk = 1 ↔ risk = .approved := by
  cases risk <;> decide

@[simp] theorem boolByte_eq_one {flag : Bool} : boolByte flag = 1 ↔ flag = true := by
  cases flag <;> decide

@[simp] theorem boolByte_eq_zero {flag : Bool} : boolByte flag = 0 ↔ flag = false := by
  cases flag <;> decide

/-- A `TcapAssetEntryV1` with the integers of its Rust type. -/
structure StoredAssetEntry where
  (version protocolVersion : BitVec 16)
  registry : Pubkey
  tokenId : BitVec 32
  (tokenProgram mint : Pubkey)
  registryVersion : BitVec 32
  assetCommitment : Bytes32
  (reserveState futureVault reserveAuthority : Pubkey)
  decimals : BitVec 8
  (depositsEnabled withdrawalsEnabled paused : Bool)
  (transferFeePolicy freezeAuthorityPolicy issuerControlPolicy : BitVec 8)
  governanceApproval : Bytes32
  status : TcapAssetStatusV1
  riskState : TcapRiskStateV1
  deprecated : Bool
  bump : BitVec 8

/-- The value the program computes with. -/
def StoredAssetEntry.entry (stored : StoredAssetEntry) : TcapAssetEntryV1 where
  version := stored.version.toNat
  protocolVersion := stored.protocolVersion.toNat
  registry := stored.registry
  tokenId := stored.tokenId.toNat
  asset := ⟨stored.tokenProgram, stored.mint, stored.registryVersion.toNat,
    stored.assetCommitment⟩
  reserveState := stored.reserveState
  futureVault := stored.futureVault
  reserveAuthority := stored.reserveAuthority
  decimals := stored.decimals.toNat
  depositsEnabled := stored.depositsEnabled
  withdrawalsEnabled := stored.withdrawalsEnabled
  paused := stored.paused
  transferFeePolicy := stored.transferFeePolicy.toNat
  freezeAuthorityPolicy := stored.freezeAuthorityPolicy.toNat
  issuerControlPolicy := stored.issuerControlPolicy.toNat
  governanceApproval := stored.governanceApproval
  status := stored.status
  riskState := stored.riskState
  deprecated := stored.deprecated
  bump := stored.bump.toNat

/-- A `TcapCommitmentRootStateV1` with the integers of its Rust type. -/
structure StoredCommitmentRoot where
  (version protocolVersion : BitVec 16)
  (currentRoot previousRoot : Bytes32)
  rootVersion : BitVec 32
  sequence : BitVec 64
  historyPolicy : BitVec 8
  verifierConfig : Pubkey
  (verifierEnabled paused : Bool)
  bump : BitVec 8

section Images

variable (address : Pubkey → Bytes32)

/-- A key in its 32 bytes. -/
def keyBytes (key : Pubkey) : List Byte :=
  wordBytes (address key)

@[simp] theorem length_keyBytes (key : Pubkey) : (keyBytes address key).length = 32 :=
  length_wordBytes _

@[simp] theorem keyBytes_inj {left right : Pubkey} :
    keyBytes address left = keyBytes address right ↔ address left = address right :=
  wordBytes_inj

def StoredAssetEntry.parts (stored : StoredAssetEntry) : List (List Byte) :=
  [assetEntryDiscriminator, numberBytes stored.version, numberBytes stored.protocolVersion,
    keyBytes address stored.registry, numberBytes stored.tokenId,
    keyBytes address stored.tokenProgram, keyBytes address stored.mint,
    numberBytes stored.registryVersion, wordBytes stored.assetCommitment,
    keyBytes address stored.reserveState, keyBytes address stored.futureVault,
    keyBytes address stored.reserveAuthority, [stored.decimals],
    [boolByte stored.depositsEnabled], [boolByte stored.withdrawalsEnabled],
    [boolByte stored.paused], [stored.transferFeePolicy], [stored.freezeAuthorityPolicy],
    [stored.issuerControlPolicy], wordBytes stored.governanceApproval,
    [statusByte stored.status], [riskByte stored.riskState], [boolByte stored.deprecated],
    [stored.bump]]

/-- Data of an asset entry account. -/
def StoredAssetEntry.image (stored : StoredAssetEntry) : List Byte :=
  (stored.parts address).flatten

def StoredCommitmentRoot.parts (stored : StoredCommitmentRoot) : List (List Byte) :=
  [commitmentRootDiscriminator, numberBytes stored.version,
    numberBytes stored.protocolVersion, wordBytes stored.currentRoot,
    wordBytes stored.previousRoot, numberBytes stored.rootVersion,
    numberBytes stored.sequence, [stored.historyPolicy],
    keyBytes address stored.verifierConfig, [boolByte stored.verifierEnabled],
    [boolByte stored.paused], [stored.bump]]

/-- Data of the commitment root account. -/
def StoredCommitmentRoot.image (stored : StoredCommitmentRoot) : List Byte :=
  (stored.parts address).flatten

end Images

def assetEntrySizes : List Nat :=
  [8, 2, 2, 32, 4, 32, 32, 4, 32, 32, 32, 32, 1, 1, 1, 1, 1, 1, 1, 32, 1, 1, 1, 1]

def commitmentRootSizes : List Nat :=
  [8, 2, 2, 32, 32, 4, 8, 1, 32, 1, 1, 1]

section Offsets

variable {address : Pubkey → Bytes32}

section Entry

variable (stored : StoredAssetEntry)

theorem sizes_assetEntry :
    (stored.parts address).map List.length = assetEntrySizes := by
  simp [StoredAssetEntry.parts, assetEntrySizes, assetEntryDiscriminator]

theorem length_assetEntry : (stored.image address).length = 287 := by
  rw [StoredAssetEntry.image, List.length_flatten, sizes_assetEntry]
  rfl

/-- The bytes of the image that a field takes. -/
theorem assetEntry_field {part : List Byte} (index : Nat)
    (hpart : (stored.parts address)[index]? = some part) :
    between (stored.image address) (assetEntrySizes.take index).sum
      (assetEntrySizes.take (index + 1)).sum = part :=
  between_flatten assetEntrySizes index (sizes_assetEntry stored) hpart

theorem assetEntry_discriminator :
    (stored.image address).take 8 = assetEntryDiscriminator :=
  assetEntry_field stored 0 rfl

theorem assetEntry_registry :
    between (stored.image address) 12 44 = keyBytes address stored.registry :=
  assetEntry_field stored 3 rfl

theorem assetEntry_tokenId :
    between (stored.image address) 44 48 = numberBytes stored.tokenId :=
  assetEntry_field stored 4 rfl

theorem assetEntry_tokenProgram :
    between (stored.image address) 48 80 = keyBytes address stored.tokenProgram :=
  assetEntry_field stored 5 rfl

theorem assetEntry_mint :
    between (stored.image address) 80 112 = keyBytes address stored.mint :=
  assetEntry_field stored 6 rfl

theorem assetEntry_reserveState :
    between (stored.image address) 148 180 = keyBytes address stored.reserveState :=
  assetEntry_field stored 9 rfl

theorem assetEntry_futureVault :
    between (stored.image address) 180 212 = keyBytes address stored.futureVault :=
  assetEntry_field stored 10 rfl

theorem assetEntry_reserveAuthority :
    between (stored.image address) 212 244 = keyBytes address stored.reserveAuthority :=
  assetEntry_field stored 11 rfl

theorem assetEntry_decimals : (stored.image address).getD 244 0 = stored.decimals :=
  getD_of_between (assetEntry_field stored 12 rfl)

theorem assetEntry_depositsEnabled :
    (stored.image address).getD 245 0 = boolByte stored.depositsEnabled :=
  getD_of_between (assetEntry_field stored 13 rfl)

theorem assetEntry_paused : (stored.image address).getD 247 0 = boolByte stored.paused :=
  getD_of_between (assetEntry_field stored 15 rfl)

theorem assetEntry_status : (stored.image address).getD 283 0 = statusByte stored.status :=
  getD_of_between (assetEntry_field stored 20 rfl)

theorem assetEntry_riskState :
    (stored.image address).getD 284 0 = riskByte stored.riskState :=
  getD_of_between (assetEntry_field stored 21 rfl)

theorem assetEntry_deprecated :
    (stored.image address).getD 285 0 = boolByte stored.deprecated :=
  getD_of_between (assetEntry_field stored 22 rfl)

end Entry

section Root

variable (stored : StoredCommitmentRoot)

theorem sizes_commitmentRoot :
    (stored.parts address).map List.length = commitmentRootSizes := by
  simp [StoredCommitmentRoot.parts, commitmentRootSizes, commitmentRootDiscriminator]

theorem length_commitmentRoot : (stored.image address).length = 124 := by
  rw [StoredCommitmentRoot.image, List.length_flatten, sizes_commitmentRoot]
  rfl

/-- The bytes of the image that a field takes. -/
theorem commitmentRoot_field {part : List Byte} (index : Nat)
    (hpart : (stored.parts address)[index]? = some part) :
    between (stored.image address) (commitmentRootSizes.take index).sum
      (commitmentRootSizes.take (index + 1)).sum = part :=
  between_flatten commitmentRootSizes index (sizes_commitmentRoot stored) hpart

theorem commitmentRoot_discriminator :
    (stored.image address).take 8 = commitmentRootDiscriminator :=
  commitmentRoot_field stored 0 rfl

theorem commitmentRoot_version :
    between (stored.image address) 8 10 = numberBytes stored.version :=
  commitmentRoot_field stored 1 rfl

theorem commitmentRoot_currentRoot :
    between (stored.image address) 12 44 = wordBytes stored.currentRoot :=
  commitmentRoot_field stored 3 rfl

theorem commitmentRoot_previousRoot :
    between (stored.image address) 44 76 = wordBytes stored.previousRoot :=
  commitmentRoot_field stored 4 rfl

theorem commitmentRoot_sequence :
    between (stored.image address) 80 88 = numberBytes stored.sequence :=
  commitmentRoot_field stored 6 rfl

theorem commitmentRoot_paused :
    (stored.image address).getD 122 0 = boolByte stored.paused :=
  getD_of_between (commitmentRoot_field stored 10 rfl)

end Root

end Offsets

end TsnProtocol.Tcap.AccountImages
