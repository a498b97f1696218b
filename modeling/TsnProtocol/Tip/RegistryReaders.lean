import TsnProtocol.Tip.Creation

/-!
The three readers of a TIN registry account outside the TIP program: the GPRU program, the
Node and the SDK. Each decodes the serialised account by hand.
-/

namespace TsnProtocol.Tip.RegistryReaders

open Gpru.Verifier (tipProgram tipRouteRootAddress)
open Lib.ByteReader
open Lib.Checked
open Solana.Address
open Tip.State
open Tip.Registrar
open Tip.Creation

section Gpru

inductive GpruProgramError where
  | invalidTipRegistry | invalidTipGpruKey
  deriving DecidableEq

/-- What the GPRU program keeps of the fields it reads. -/
structure TipRegistryFields where
  (accountVersion bump status : Byte)
  reserved : List Byte
  lookupCommitment : Bytes32
  routeVersion : Nat
  (tipRouteVersion keyVersion : Byte)
  (scanPublicKey keyCommitment policyCommitment : Bytes32)
  deriving DecidableEq

/-- The fields in the order the program's cursor takes them. -/
def readTipRegistry : Reader GpruProgramError TipRegistryFields := do
  let accountVersion ← takeByte .invalidTipRegistry
  let bump ← takeByte .invalidTipRegistry
  let status ← takeByte .invalidTipRegistry
  let reserved ← take 5 .invalidTipRegistry
  let lookupCommitment ← takeWord .invalidTipRegistry
  let _ ← take 32 .invalidTipRegistry
  let _ ← takeVec .invalidTipRegistry .invalidTipRegistry
  let _ ← takeVec .invalidTipRegistry .invalidTipRegistry
  let _ ← take 8 .invalidTipRegistry
  let _ ← take 32 .invalidTipRegistry
  let routeVersion ← takeNat 8 .invalidTipRegistry
  let _ ← take 32 .invalidTipRegistry
  let tipRouteVersion ← takeByte .invalidTipRegistry
  let keyVersion ← takeByte .invalidTipRegistry
  let scanPublicKey ← takeWord .invalidTipRegistry
  let keyCommitment ← takeWord .invalidTipRegistry
  let policyCommitment ← takeWord .invalidTipRegistry
  return ⟨accountVersion, bump, status, reserved, lookupCommitment, routeVersion,
    tipRouteVersion, keyVersion, scanPublicKey, keyCommitment, policyCommitment⟩

/-- An account handed to the GPRU program. -/
structure RegistryAccount where
  (address owner : Pubkey)
  data : List Byte
  deriving DecidableEq

def validateTipRegistry (runtime : Runtime) (account : RegistryAccount) :
    Except GpruProgramError Bytes32 := do
  require (account.owner = tipProgram) .invalidTipRegistry
  let (fields, rest) ← readTipRegistry account.data
  let expectedRegistry := tinV1Pda fields.lookupCommitment
  require (fields.accountVersion = 1 ∧ fields.status = 1 ∧
    fields.reserved = List.replicate 5 0 ∧ fields.lookupCommitment ≠ 0 ∧
    fields.routeVersion ≠ 0 ∧ fields.tipRouteVersion = 1 ∧ rest = [] ∧
    runtime.bump expectedRegistry = fields.bump ∧ expectedRegistry = account.address)
    .invalidTipRegistry
  require (fields.keyVersion = 1 ∧ fields.scanPublicKey ≠ 0 ∧ fields.keyCommitment ≠ 0 ∧
    validGpruElgamalKeyCommitment runtime fields.keyVersion fields.scanPublicKey
      fields.keyCommitment = true ∧ fields.policyCommitment ≠ 0) .invalidTipGpruKey
  return fields.scanPublicKey

end Gpru

section Node

inductive NodeError where
  | truncated (label : String)
  | unsupportedSchema
  | incompleteCommitments
  deriving DecidableEq

/-- What the Node keeps of a registry account. -/
structure RouteMaterial where
  (lookupCommitment ownerPubkeyHash : Bytes32)
  identityEnvelope : List Byte
  routeVersion : Nat
  routeNonce : Bytes32
  route : TipRoute
  deriving DecidableEq

/-- The version, the status and the fields, in the order the Node takes them. -/
def readRouteMaterial : Reader NodeError (Byte × Byte × RouteMaterial) := do
  let version ← takeByte (.truncated "version")
  let _ ← takeByte (.truncated "bump")
  let status ← takeByte (.truncated "status")
  let _ ← take 5 (.truncated "reserved")
  let lookupCommitment ← takeWord (.truncated "lookup commitment")
  let ownerCommitment ← takeWord (.truncated "owner commitment")
  let identityEnvelope ← takeVec (.truncated "identity envelope length")
    (.truncated "identity envelope")
  let _ ← takeVec (.truncated "seed envelope length") (.truncated "seed envelope")
  let _ ← take 8 (.truncated "created at")
  let _ ← take 32 (.truncated "metadata hash")
  let routeVersion ← takeNat 8 (.truncated "route version")
  let routeNonce ← takeWord (.truncated "route nonce")
  let tipRouteVersion ← takeByte (.truncated "TIP route version")
  let gpruElgamalKeyVersion ← takeByte (.truncated "GPRU ElGamal key version")
  let gpruElgamalPublicKey ← takeWord (.truncated "GPRU ElGamal public key")
  let gpruElgamalKeyCommitment ← takeWord (.truncated "GPRU ElGamal key commitment")
  let gpruBalanceScanKeyVersion ← takeByte (.truncated "GPRU balance scan key version")
  let gpruBalanceScanPublicKeyX ← takeWord (.truncated "GPRU balance scan public key x")
  let gpruBalanceScanPublicKeyY ← takeWord (.truncated "GPRU balance scan public key y")
  let policyCommitment ← takeWord (.truncated "policy commitment")
  return (version, status, ⟨lookupCommitment, ownerCommitment, identityEnvelope, routeVersion,
    routeNonce, ⟨tipRouteVersion, gpruElgamalKeyVersion, gpruElgamalPublicKey,
      gpruElgamalKeyCommitment, gpruBalanceScanKeyVersion, gpruBalanceScanPublicKeyX,
      gpruBalanceScanPublicKeyY, policyCommitment⟩⟩)

def decodePrivateTinRouteMaterial (data : List Byte) : Except NodeError RouteMaterial := do
  let ((version, status, material), rest) ← readRouteMaterial data
  require (version = 1 ∧ status = 1 ∧ rest.all (· == 0) = true) .unsupportedSchema
  require (material.lookupCommitment ≠ 0 ∧ 1 ≤ material.routeVersion) .incompleteCommitments
  return material

end Node

section Sdk

inductive SdkError where
  | malformedAt (label : String)
  | nonzeroTrailingData
  deriving DecidableEq

structure DecodedRegistry where
  (version bump status : Byte)
  reserved : List Byte
  (lookupCommitment ownerCommitment : Bytes32)
  (encryptedIdentityEnvelope encryptedMasterSeed createdAt : List Byte)
  encryptedMetadataHash : Bytes32
  routeVersion : Nat
  routeNonce : Bytes32
  route : TipRoute
  deriving DecidableEq

def readRegistryAccount : Reader SdkError DecodedRegistry := do
  let version ← takeByte (.malformedAt "version")
  let bump ← takeByte (.malformedAt "bump")
  let status ← takeByte (.malformedAt "status")
  let reserved ← take 5 (.malformedAt "reserved")
  let lookupCommitment ← takeWord (.malformedAt "lookup_commitment")
  let ownerCommitment ← takeWord (.malformedAt "owner_commitment")
  let encryptedIdentityEnvelope ← takeVec (.malformedAt "identity_envelope_length")
    (.malformedAt "identity_envelope")
  let encryptedMasterSeed ← takeVec (.malformedAt "master_seed_envelope_length")
    (.malformedAt "master_seed_envelope")
  let createdAt ← take 8 (.malformedAt "created_at")
  let encryptedMetadataHash ← takeWord (.malformedAt "metadata_hash")
  let routeVersion ← takeNat 8 (.malformedAt "route_version")
  let routeNonce ← takeWord (.malformedAt "route_nonce")
  let tipRouteVersion ← takeByte (.malformedAt "tip_route_version")
  let gpruElgamalKeyVersion ← takeByte (.malformedAt "gpru_elgamal_key_version")
  let gpruElgamalPublicKey ← takeWord (.malformedAt "gpru_elgamal_public_key")
  let gpruElgamalKeyCommitment ← takeWord (.malformedAt "gpru_elgamal_key_commitment")
  let gpruBalanceScanKeyVersion ← takeByte (.malformedAt "gpru_balance_scan_key_version")
  let gpruBalanceScanPublicKeyX ← takeWord (.malformedAt "gpru_balance_scan_public_key_x")
  let gpruBalanceScanPublicKeyY ← takeWord (.malformedAt "gpru_balance_scan_public_key_y")
  let policyCommitment ← takeWord (.malformedAt "policy_commitment")
  return ⟨version, bump, status, reserved, lookupCommitment, ownerCommitment,
    encryptedIdentityEnvelope, encryptedMasterSeed, createdAt, encryptedMetadataHash,
    routeVersion, routeNonce, ⟨tipRouteVersion, gpruElgamalKeyVersion, gpruElgamalPublicKey,
      gpruElgamalKeyCommitment, gpruBalanceScanKeyVersion, gpruBalanceScanPublicKeyX,
      gpruBalanceScanPublicKeyY, policyCommitment⟩⟩

def decodeTinV1RegistryAccount (data : List Byte) : Except SdkError DecodedRegistry := do
  let (account, rest) ← readRegistryAccount data
  require (rest.all (· == 0) = true) .nonzeroTrailingData
  return account

end Sdk

/-- The stored values the Node extracts. -/
def routeMaterial (account : TinV1Account) : RouteMaterial where
  lookupCommitment := account.lookupCommitment
  ownerPubkeyHash := account.ownerCommitment
  identityEnvelope := account.encryptedIdentityEnvelope
  routeVersion := account.routeVersion.toNat
  routeNonce := account.routeNonce
  route := account.route

/-- The stored values the SDK extracts. -/
def decodedRegistry (account : TinV1Account) : DecodedRegistry where
  version := account.version
  bump := account.bump
  status := account.status
  reserved := account.reserved.toList
  lookupCommitment := account.lookupCommitment
  ownerCommitment := account.ownerCommitment
  encryptedIdentityEnvelope := account.encryptedIdentityEnvelope
  encryptedMasterSeed := account.encryptedMasterSeed
  createdAt := leBytes 8 account.createdAt.toNat
  encryptedMetadataHash := account.encryptedMetadataHash
  routeVersion := account.routeVersion.toNat
  routeNonce := account.routeNonce
  route := account.route

/-- All three readers accept the account at its address and return what is stored. -/
structure ReadersAgree (runtime : Runtime) (account : TinV1Account) (data : List Byte) :
    Prop where
  gpru : validateTipRegistry runtime
    ⟨tinV1Pda account.lookupCommitment, tipProgram, data⟩ = .ok account.route.gpruElgamalPublicKey
  node : decodePrivateTinRouteMaterial data = .ok (routeMaterial account)
  sdk : decodeTinV1RegistryAccount data = .ok (decodedRegistry account)

/-- An account up to the commitment to its ElGamal key, and what comes after. -/
def upToKeyCommitment (account : TinV1Account) (rest : List Byte) : List Byte :=
  [account.version] ++ ([account.bump] ++ ([account.status] ++
    (account.reserved.toList ++ (wordBytes account.lookupCommitment ++
    (wordBytes account.ownerCommitment ++ (vecBytes account.encryptedIdentityEnvelope ++
    (vecBytes account.encryptedMasterSeed ++ (leBytes 8 account.createdAt.toNat ++
    (wordBytes account.encryptedMetadataHash ++ (leBytes 8 account.routeVersion.toNat ++
    (wordBytes account.routeNonce ++ ([account.route.tipRouteVersion] ++
    ([account.route.gpruElgamalKeyVersion] ++ (wordBytes account.route.gpruElgamalPublicKey ++
    (wordBytes account.route.gpruElgamalKeyCommitment ++ rest)))))))))))))))

/-- The scan key and the policy at the end of an account. -/
def scanKeyAndPolicy (route : TipRoute) : List Byte :=
  [route.gpruBalanceScanKeyVersion] ++ (wordBytes route.gpruBalanceScanPublicKeyX ++
    (wordBytes route.gpruBalanceScanPublicKeyY ++ wordBytes route.policyCommitment))

theorem serialize_eq (account : TinV1Account) :
    account.serialize = upToKeyCommitment account (scanKeyAndPolicy account.route) := by
  simp only [TinV1Account.serialize, TinV1Account.fields, TipRoute.fields, upToKeyCommitment,
    scanKeyAndPolicy, List.flatten_append, List.flatten_cons, List.flatten_nil,
    List.append_nil, List.append_assoc]

theorem upToKeyCommitment_append (account : TinV1Account) (rest more : List Byte) :
    upToKeyCommitment account rest ++ more = upToKeyCommitment account (rest ++ more) := by
  simp only [upToKeyCommitment, List.append_assoc]

section Agreement

variable {account : TinV1Account}
  (hidentity : account.encryptedIdentityEnvelope.length < 2 ^ 32)
  (hseed : account.encryptedMasterSeed.length < 2 ^ 32)

include hidentity hseed

theorem reads_registryAccount :
    Reads readRegistryAccount account.serialize (decodedRegistry account) := by
  have hroute : account.routeVersion.toNat < 256 ^ 8 := account.routeVersion.isLt
  rw [serialize_eq]
  refine reads_bind reads_takeByte (reads_bind reads_takeByte (reads_bind reads_takeByte ?_))
  refine reads_bind (reads_take (by simp)) (reads_bind reads_takeWord ?_)
  refine reads_bind reads_takeWord (reads_bind (reads_takeVec hidentity) ?_)
  refine reads_bind (reads_takeVec hseed) (reads_bind (reads_take (length_leBytes _ _)) ?_)
  refine reads_bind reads_takeWord (reads_bind (reads_takeNat hroute) ?_)
  refine reads_bind reads_takeWord (reads_bind reads_takeByte (reads_bind reads_takeByte ?_))
  refine reads_bind reads_takeWord (reads_bind reads_takeWord (reads_bind reads_takeByte ?_))
  refine reads_bind reads_takeWord (reads_bind reads_takeWord ?_)
  rw [← List.append_nil (wordBytes account.route.policyCommitment)]
  exact reads_bind reads_takeWord reads_pure

theorem reads_routeMaterial :
    Reads readRouteMaterial account.serialize
      (account.version, account.status, routeMaterial account) := by
  have hroute : account.routeVersion.toNat < 256 ^ 8 := account.routeVersion.isLt
  rw [serialize_eq]
  refine reads_bind reads_takeByte (reads_bind reads_takeByte (reads_bind reads_takeByte ?_))
  refine reads_bind (reads_take (by simp)) (reads_bind reads_takeWord ?_)
  refine reads_bind reads_takeWord (reads_bind (reads_takeVec hidentity) ?_)
  refine reads_bind (reads_takeVec hseed) (reads_bind (reads_take (length_leBytes _ _)) ?_)
  refine reads_bind (reads_take (length_wordBytes _)) (reads_bind (reads_takeNat hroute) ?_)
  refine reads_bind reads_takeWord (reads_bind reads_takeByte (reads_bind reads_takeByte ?_))
  refine reads_bind reads_takeWord (reads_bind reads_takeWord (reads_bind reads_takeByte ?_))
  refine reads_bind reads_takeWord (reads_bind reads_takeWord ?_)
  rw [← List.append_nil (wordBytes account.route.policyCommitment)]
  exact reads_bind reads_takeWord reads_pure

/-- The GPRU program takes the word after the key commitment as the policy commitment. -/
theorem reads_tipRegistry (policy : Bytes32) :
    Reads readTipRegistry (upToKeyCommitment account (wordBytes policy))
      ⟨account.version, account.bump, account.status, account.reserved.toList,
        account.lookupCommitment, account.routeVersion.toNat, account.route.tipRouteVersion,
        account.route.gpruElgamalKeyVersion, account.route.gpruElgamalPublicKey,
        account.route.gpruElgamalKeyCommitment, policy⟩ := by
  have hroute : account.routeVersion.toNat < 256 ^ 8 := account.routeVersion.isLt
  refine reads_bind reads_takeByte (reads_bind reads_takeByte (reads_bind reads_takeByte ?_))
  refine reads_bind (reads_take (by simp)) (reads_bind reads_takeWord ?_)
  refine reads_bind (reads_take (length_wordBytes _)) (reads_bind (reads_takeVec hidentity) ?_)
  refine reads_bind (reads_takeVec hseed) (reads_bind (reads_take (length_leBytes _ _)) ?_)
  refine reads_bind (reads_take (length_wordBytes _)) (reads_bind (reads_takeNat hroute) ?_)
  refine reads_bind (reads_take (length_wordBytes _)) (reads_bind reads_takeByte ?_)
  refine reads_bind reads_takeByte (reads_bind reads_takeWord (reads_bind reads_takeWord ?_))
  rw [← List.append_nil (wordBytes policy)]
  exact reads_bind reads_takeWord reads_pure

/-- It stops with the end of the account unread. -/
theorem exists_readTipRegistry :
    ∃ fields rest, readTipRegistry account.serialize = .ok (fields, rest) ∧ rest ≠ [] := by
  have hlength : (scanKeyAndPolicy account.route).length = 97 := by simp [scanKeyAndPolicy]
  have hpolicy : wordBytes (wordOfBytes ((scanKeyAndPolicy account.route).take 32)) =
      (scanKeyAndPolicy account.route).take 32 :=
    wordBytes_wordOfBytes (by rw [List.length_take, hlength]; rfl)
  have hread := reads_tipRegistry hidentity hseed
    (wordOfBytes ((scanKeyAndPolicy account.route).take 32))
    ((scanKeyAndPolicy account.route).drop 32)
  rw [upToKeyCommitment_append, hpolicy, List.take_append_drop, ← serialize_eq] at hread
  refine ⟨_, _, hread, List.ne_nil_of_length_pos ?_⟩
  rw [List.length_drop, hlength]
  decide

theorem decodeTinV1RegistryAccount_serialize :
    decodeTinV1RegistryAccount account.serialize = .ok (decodedRegistry account) := by
  have hread := reads_registryAccount hidentity hseed []
  rw [List.append_nil] at hread
  exact bind_eq_ok.mpr ⟨_, hread, bind_eq_ok.mpr ⟨(), rfl, rfl⟩⟩

theorem decodePrivateTinRouteMaterial_serialize (hversion : account.version = 1)
    (hstatus : account.status = 1) (hlookup : account.lookupCommitment ≠ 0)
    (hroute : account.routeVersion ≠ 0) :
    decodePrivateTinRouteMaterial account.serialize = .ok (routeMaterial account) := by
  have hread := reads_routeMaterial hidentity hseed []
  rw [List.append_nil] at hread
  have hpositive : 1 ≤ account.routeVersion.toNat := by
    by_contra hsmall
    exact hroute (BitVec.eq_of_toNat_eq (by simpa using hsmall))
  refine bind_eq_ok.mpr ⟨_, hread, bind_eq_ok.mpr ⟨(), ?_, bind_eq_ok.mpr ⟨(), ?_, rfl⟩⟩⟩
  · exact require_eq_ok.mpr ⟨hversion, hstatus, rfl⟩
  · exact require_eq_ok.mpr ⟨hlookup, hpositive⟩

/-- The GPRU program rejects every serialised account. -/
theorem validateTipRegistry_serialize (runtime : Runtime) (address owner : Pubkey) :
    validateTipRegistry runtime ⟨address, owner, account.serialize⟩ =
      .error .invalidTipRegistry := by
  obtain ⟨fields, rest, hread, hrest⟩ := exists_readTipRegistry hidentity hseed
  by_cases howner : owner = tipProgram
  · simp [validateTipRegistry, require, howner, hread, hrest, bind, Except.bind]
  · simp [validateTipRegistry, require, howner, bind, Except.bind]

end Agreement

theorem validateTipRegistry_of_created {runtime : Runtime} {call : Call}
    {accounts : CreateTinV1Accounts} {params : CreateTinV1Params} {world next : World}
    (hcreated : Created runtime call accounts params world next) :
    validateTipRegistry runtime ⟨tinV1Pda params.lookupCommitment, tipProgram,
      (registryAccount runtime call params).serialize⟩ = .error .invalidTipRegistry :=
  validateTipRegistry_serialize hcreated.identity_lt hcreated.seed_lt runtime
    (tinV1Pda params.lookupCommitment) tipProgram

theorem not_readersAgree_of_created {runtime : Runtime} {call : Call}
    {accounts : CreateTinV1Accounts} {params : CreateTinV1Params} {world next : World}
    (hcreated : Created runtime call accounts params world next) :
    ¬ ReadersAgree runtime (registryAccount runtime call params)
      (registryAccount runtime call params).serialize := by
  intro hagree
  have haccepted := (validateTipRegistry_of_created hcreated).symm.trans hagree.gpru
  cases haccepted

/-- Whatever a creation stores, the Node and the SDK read back every field, and the GPRU
program rejects the account: the three readers never agree. -/
theorem not_readersAgree_of_apply {runtime : Runtime} {call : Call}
    {accounts : CreateTinV1Accounts} {params : CreateTinV1Params} {world next : World}
    (hok : apply runtime call accounts params world = .ok next) :
    ∃ data, next (tinV1Pda params.lookupCommitment) = some (.registry data) ∧
      decodePrivateTinRouteMaterial data =
        .ok (routeMaterial (registryAccount runtime call params)) ∧
      decodeTinV1RegistryAccount data =
        .ok (decodedRegistry (registryAccount runtime call params)) ∧
      validateTipRegistry runtime ⟨tinV1Pda params.lookupCommitment, tipProgram, data⟩ =
        .error .invalidTipRegistry ∧
      ¬ ReadersAgree runtime (registryAccount runtime call params) data := by
  have hcreated := created_of_apply hok
  refine ⟨_, hcreated.registry, ?_, ?_, validateTipRegistry_of_created hcreated,
    not_readersAgree_of_created hcreated⟩
  · exact decodePrivateTinRouteMaterial_serialize hcreated.identity_lt hcreated.seed_lt rfl rfl
      hcreated.lookup_ne hcreated.routeVersion_ne
  · exact decodeTinV1RegistryAccount_serialize hcreated.identity_lt hcreated.seed_lt

section Sample

/-- Hash functions that are easy to evaluate. -/
def sampleRuntime : Runtime where
  bump := fun _ => 255
  sha256 := fun data => BitVec.ofNat 256 (data.length + 1)
  poseidon := fun inputs => some (BitVec.ofNat 256 (inputs.length + 1))

def sampleRoute : TipRoute :=
  ⟨1, 1, 13, sampleRuntime.sha256 (elgamalKeyPreimage 1 13), 1, 14, 15, 9⟩

def sampleWorld : World :=
  Function.update (fun _ => none) globalStatePda (some (.global ⟨currentVersion, 255, 0⟩))

theorem exists_create_sample :
    ∃ next, create sampleRuntime 11 12 sampleRoute sampleWorld = .ok next := by
  have hroute : validateTipRoute sampleRuntime sampleRoute = true := by decide +kernel
  have hglobal : sampleWorld globalStatePda = some (.global ⟨currentVersion, 255, 0⟩) := by
    decide +kernel
  apply exists_ok_of_isOk
  rw [create_eq (by decide) hroute hglobal (by decide) (by decide)]
  decide +kernel

theorem not_readersAgree_sample :
    ∃ next data, create sampleRuntime 11 12 sampleRoute sampleWorld = .ok next ∧
      next (tinV1Pda 12) = some (.registry data) ∧
        ¬ ReadersAgree sampleRuntime (registryAccount sampleRuntime
          (approvedCall 11 (request sampleRuntime 11 12 sampleRoute).intentHash)
          (request sampleRuntime 11 12 sampleRoute)) data := by
  obtain ⟨next, hnext⟩ := exists_create_sample
  obtain ⟨data, hdata, _, _, _, hagree⟩ := not_readersAgree_of_apply hnext
  exact ⟨next, data, hnext, hdata, hagree⟩

theorem not_forall_readersAgree :
    ¬ ∀ runtime call accounts params world next,
      apply runtime call accounts params world = .ok next →
        ∃ data, next (tinV1Pda params.lookupCommitment) = some (.registry data) ∧
          ReadersAgree runtime (registryAccount runtime call params) data := by
  intro hclaim
  obtain ⟨next, hnext⟩ := exists_create_sample
  obtain ⟨data, hdata, hagree⟩ := hclaim _ _ _ _ _ _ hnext
  have hcreated := created_of_apply hnext
  obtain rfl : _ = data := Account.registry.inj (Option.some.inj
    (hcreated.registry.symm.trans hdata))
  exact not_readersAgree_of_created hcreated hagree

end Sample

end TsnProtocol.Tip.RegistryReaders
