import TsnProtocol.Gpru.Verifier
import TsnProtocol.Lib.ByteReader

/-!
Accounts of the TIP program. The registry of a TIN is kept as the bytes its serialisation
writes, since other programs and clients read them with decoders of their own.
-/

namespace TsnProtocol.Tip.State

open Gpru.Verifier (asciiBytes isCanonicalBn254Scalar tipProgram
  tipRouteRootAddress)
open Lib.ByteReader
open Solana.Address

def tipRouteVersionV1 : Byte := 1

def gpruElgamalKeyVersionV1 : Byte := 1

def gpruBalanceScanKeyVersionV1 : Byte := 1

/-- The fields a TIN commits to as its route. -/
structure TipRoute where
  (tipRouteVersion gpruElgamalKeyVersion : Byte)
  (gpruElgamalPublicKey gpruElgamalKeyCommitment : Bytes32)
  gpruBalanceScanKeyVersion : Byte
  (gpruBalanceScanPublicKeyX gpruBalanceScanPublicKeyY policyCommitment : Bytes32)
  deriving DecidableEq

/-- What the chain provides: canonical bumps and the two hash functions. -/
structure Runtime where
  bump : Pubkey → Byte
  sha256 : List Byte → Bytes32
  poseidon : List Bytes32 → Option Bytes32

/-- The bytes the commitment to an ElGamal key hashes. -/
def elgamalKeyPreimage (version : Byte) (publicKey : Bytes32) : List Byte :=
  asciiBytes "TSN_GPRU_ELGAMAL_KEY_COMMITMENT_V1" ++ [0, version] ++ wordBytes publicKey

def validGpruElgamalKeyCommitment (runtime : Runtime) (version : Byte)
    (publicKey commitment : Bytes32) : Bool :=
  runtime.sha256 (elgamalKeyPreimage version publicKey) = commitment

/-- TIN creation binds the ElGamal key to its commitment and takes the other keys as given. -/
def validateTipRoute (runtime : Runtime) (route : TipRoute) : Bool :=
  route.tipRouteVersion = tipRouteVersionV1 ∧
    route.gpruElgamalKeyVersion = gpruElgamalKeyVersionV1 ∧
    route.gpruElgamalPublicKey ≠ 0 ∧ route.gpruElgamalKeyCommitment ≠ 0 ∧
    route.gpruBalanceScanKeyVersion = gpruBalanceScanKeyVersionV1 ∧
    route.gpruBalanceScanPublicKeyX ≠ 0 ∧ route.gpruBalanceScanPublicKeyY ≠ 0 ∧
    isCanonicalBn254Scalar route.gpruBalanceScanPublicKeyX = true ∧
    isCanonicalBn254Scalar route.gpruBalanceScanPublicKeyY = true ∧
    route.policyCommitment ≠ 0 ∧
    validGpruElgamalKeyCommitment runtime route.gpruElgamalKeyVersion
      route.gpruElgamalPublicKey route.gpruElgamalKeyCommitment = true

structure GlobalState where
  (version bump : Byte)
  nextSequence : Nat
  deriving DecidableEq

/-- Append-only tree of the routes of all TINs; the frontier is the state of the append. -/
structure TipRouteMerkleRootV1 where
  (version bump : Byte)
  root : Bytes32
  leafCount : Nat
  frontier : Fin 32 → Bytes32
  deriving DecidableEq

/-- Roots of empty route trees by depth: the first is the empty leaf, each further one the
hash of two of the one before. -/
def routeZeroHashesV1 : List Bytes32 :=
  [0,
    0x2098f5fb9e239eab3ceac3f27b81e481dc3124d55ffed523a839ee8446b64864,
    0x1069673dcdb12263df301a6ff584a7ec261a44cb9dc68df067a4774460b1f1e1,
    0x18f43331537ee2af2e3d758d50f72106467c6eea50371dd528d57eb2b856d238,
    0x07f9d837cb17b0d36320ffe93ba52345f1b728571a568265caac97559dbc952a,
    0x2b94cf5e8746b3f5c9631f4c5df32907a699c58c94b2ad4d7b5cec1639183f55,
    0x2dee93c5a666459646ea7d22cca9e1bcfed71e6951b953611d11dda32ea09d78,
    0x078295e5a22b84e982cf601eb639597b8b0515a88cb5ac7fa8a4aabe3c87349d,
    0x2fa5e5f18f6027a6501bec864564472a616b2e274a41211a444cbe3a99f3cc61,
    0x0e884376d0d8fd21ecb780389e941f66e45e7acce3e228ab3e2156a614fcd747,
    0x1b7201da72494f1e28717ad1a52eb469f95892f957713533de6175e5da190af2,
    0x1f8d8822725e36385200c0b201249819a6e6e1e4650808b5bebc6bface7d7636,
    0x2c5d82f66c914bafb9701589ba8cfcfb6162b0a12acf88a8d0879a0471b5f85a,
    0x14c54148a0940bb820957f5adf3fa1134ef5c4aaa113f4646458f270e0bfbfd0,
    0x190d33b12f986f961e10c0ee44d8b9af11be25588cad89d416118e4bf4ebe80c,
    0x22f98aa9ce704152ac17354914ad73ed1167ae6596af510aa5b3649325e06c92,
    0x2a7c7c9b6ce5880b9f6f228d72bf6a575a526f29c66ecceef8b753d38bba7323,
    0x2e8186e558698ec1c67af9c14d463ffc470043c9c2988b954d75dd643f36b992,
    0x0f57c5571e9a4eab49e2c8cf050dae948aef6ead647392273546249d1c1ff10f,
    0x1830ee67b5fb554ad5f63d4388800e1cfe78e310697d46e43c9ce36134f72cca,
    0x2134e76ac5d21aab186c2be1dd8f84ee880a1e46eaf712f9d371b6df22191f3e,
    0x19df90ec844ebc4ffeebd866f33859b0c051d8c958ee3aa88f8f8df3db91a5b1,
    0x18cca2a66b5c0787981e69aefd84852d74af0e93ef4912b4648c05f722efe52b,
    0x2388909415230d1b4d1304d2d54f473a628338f2efad83fadf05644549d2538d,
    0x27171fb4a97b6cc0e9e8f543b5294de866a2af2c9c8d0b1d96e673e4529ed540,
    0x2ff6650540f629fd5711a0bc74fc0d28dcb230b9392583e5f8d59696dde6ae21,
    0x120c58f143d491e95902f7f5277778a2e0ad5168f6add75669932630ce611518,
    0x1f21feb70d3f21b07bf853d5e5db03071ec495a0a565a21da2d665d279483795,
    0x24be905fa71335e14c638cc0f66a8623a826e768068a9e968bb1a1dde18a72d2,
    0x0f8666b62ed17491c50ceadead57d4cd597ef3821d65c328744c74e553dac26d,
    0x0918d46bf52d98b034413f4a1a1c41594e7a7a3f6ae08cb43d1a2a230e1959ef,
    0x1bbeb01b4c479ecde76917645e404dfa2e26f90d0afc5a65128513ad375c5ff2,
    0x2f68a1c58e257e42a17a6c61dff5551ed560b9922ab119d5ac8e184c9734ead9]

def routeZeroHash (level : Nat) : Bytes32 :=
  routeZeroHashesV1.getD level 0

def routeRootVersion : Byte := 1

def routeRootDepth : Nat := 32

structure TinV1Account where
  (version bump status : Byte)
  reserved : Vector Byte 5
  (lookupCommitment ownerCommitment : Bytes32)
  (encryptedIdentityEnvelope encryptedMasterSeed : List Byte)
  createdAt : BitVec 64
  encryptedMetadataHash : Bytes32
  routeVersion : BitVec 64
  routeNonce : Bytes32
  route : TipRoute
  deriving DecidableEq

def tinVersion : Byte := 1

def tinStatusActive : Byte := 1

/-- A byte string behind its length. -/
def vecBytes (bytes : List Byte) : List Byte :=
  leBytes 4 bytes.length ++ bytes

def TipRoute.fields (route : TipRoute) : List (List Byte) :=
  [[route.tipRouteVersion], [route.gpruElgamalKeyVersion],
    wordBytes route.gpruElgamalPublicKey, wordBytes route.gpruElgamalKeyCommitment,
    [route.gpruBalanceScanKeyVersion], wordBytes route.gpruBalanceScanPublicKeyX,
    wordBytes route.gpruBalanceScanPublicKeyY, wordBytes route.policyCommitment]

/-- The parts of a registry account in the order they are written. -/
def TinV1Account.fields (account : TinV1Account) : List (List Byte) :=
  [[account.version], [account.bump], [account.status], account.reserved.toList,
    wordBytes account.lookupCommitment, wordBytes account.ownerCommitment,
    vecBytes account.encryptedIdentityEnvelope, vecBytes account.encryptedMasterSeed,
    leBytes 8 account.createdAt.toNat, wordBytes account.encryptedMetadataHash,
    leBytes 8 account.routeVersion.toNat, wordBytes account.routeNonce] ++
  account.route.fields

def TinV1Account.serialize (account : TinV1Account) : List Byte :=
  account.fields.flatten

/-- Bytes allocated for a registry account. -/
def TinV1Account.space (identityLen seedLen : Nat) : Nat :=
  1 + 1 + 1 + 5 + 32 + 32 + 4 + identityLen + 4 + seedLen + 8 + 32 +
    8 + 32 + 1 + 1 + 32 + 32 + 1 + 32 + 32 + 32

theorem length_serialize (account : TinV1Account) :
    account.serialize.length = TinV1Account.space account.encryptedIdentityEnvelope.length
      account.encryptedMasterSeed.length := by
  simp [TinV1Account.serialize, TinV1Account.fields, TipRoute.fields, TinV1Account.space,
    vecBytes]
  omega

structure TinV1OwnerRecoveryAccount where
  (version bump : Byte)
  ownerPubkey : Bytes32
  encryptedTin : List Byte
  deriving DecidableEq

def ownerRecoveryVersion : Byte := 1

def TinV1OwnerRecoveryAccount.space (encryptedTinLen : Nat) : Nat :=
  1 + 1 + 32 + 4 + encryptedTinLen

/-- A creation request that is uploaded in pieces. -/
structure TinV1CreationStaging where
  (version bump : Byte)
  (ownerPubkey lookupCommitment intentHash : Bytes32)
  encryptedIdentityEnvelope : List Byte
  identityWritten : Nat
  encryptedTinRecovery : List Byte
  recoveryWritten : Nat
  encryptedMasterSeed : List Byte
  masterSeedWritten : Nat
  encryptedMetadataHash : Bytes32
  routeVersion : BitVec 64
  routeNonce : Bytes32
  route : TipRoute
  expiryTs : BitVec 64
  deriving DecidableEq

def stagingVersion : Byte := 4

def maxBlobLen : Nat := 16 * 1024

def TinV1CreationStaging.space (identityLen recoveryLen seedLen : Nat) : Nat :=
  1 + 1 + 32 + 32 + 32 + 4 + identityLen + 4 + 4 + recoveryLen + 4 + 4 + seedLen + 4 +
    32 + 8 + 32 + 1 + 1 + 32 + 32 + 1 + 32 + 32 + 32 + 8

/-- An account as the program finds it. Accounts of other programs are told apart from its
own only. -/
inductive Account where
  | global (state : GlobalState)
  | routeRoot (state : TipRouteMerkleRootV1)
  | registry (data : List Byte)
  | recovery (state : TinV1OwnerRecoveryAccount)
  | staging (state : TinV1CreationStaging)
  | foreign
  deriving DecidableEq

/-- Accounts that hold data, by address. -/
abbrev World := Pubkey → Option Account

def globalStatePda : Pubkey :=
  findProgramAddress tipProgram "global-state" []

def tinV1Pda (lookupCommitment : Bytes32) : Pubkey :=
  findProgramAddress tipProgram "tin-v1" [.raw lookupCommitment]

def tinV1OwnerRecoveryPda (owner : Bytes32) : Pubkey :=
  findProgramAddress tipProgram "tin-v1-owner-recovery" [.raw owner]

def tinV1CreationStagingPda (owner intentHash : Bytes32) : Pubkey :=
  findProgramAddress tipProgram "tin-v1-create-stage" [.raw owner, .raw intentHash]

end TsnProtocol.Tip.State
