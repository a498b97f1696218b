import TsnProtocol.Lib.MessageFields
import TsnProtocol.Tip.Registrar

/-!
The parameters of a TIN creation as they stand in the instruction data, and the bytes of
them that the owner approves.
-/

namespace TsnProtocol.Tip.OwnerIntent

open Lib.ByteReader
open Lib.Checked
open Lib.MessageFields
open Tip.Registrar
open Tip.State

/-- Every error of Borsh is mapped to one error of the program. -/
abbrev problem : TipError := .invalidInstructionData

def takeI64 : Reader TipError (BitVec 64) :=
  BitVec.ofNat 64 <$> takeNat 8 problem

def takeTipRoute : Reader TipError TipRoute := do
  let tipRouteVersion ← takeByte problem
  let gpruElgamalKeyVersion ← takeByte problem
  let gpruElgamalPublicKey ← takeWord problem
  let gpruElgamalKeyCommitment ← takeWord problem
  let gpruBalanceScanKeyVersion ← takeByte problem
  let gpruBalanceScanPublicKeyX ← takeWord problem
  let gpruBalanceScanPublicKeyY ← takeWord problem
  let policyCommitment ← takeWord problem
  return ⟨tipRouteVersion, gpruElgamalKeyVersion, gpruElgamalPublicKey,
    gpruElgamalKeyCommitment, gpruBalanceScanKeyVersion, gpruBalanceScanPublicKeyX,
    gpruBalanceScanPublicKeyY, policyCommitment⟩

def takeCreateTinV1Params : Reader TipError CreateTinV1Params := do
  let ownerPubkey ← takeWord problem
  let lookupCommitment ← takeWord problem
  let encryptedTinRecovery ← takeVec problem problem
  let encryptedIdentityEnvelope ← takeVec problem problem
  let encryptedMasterSeed ← takeVec problem problem
  let encryptedMetadataHash ← takeWord problem
  let routeVersion ← takeI64
  let routeNonce ← takeWord problem
  let route ← takeTipRoute
  let intentHash ← takeWord problem
  let expiryTs ← takeI64
  return ⟨ownerPubkey, lookupCommitment, encryptedTinRecovery, encryptedIdentityEnvelope,
    encryptedMasterSeed, encryptedMetadataHash, routeVersion, routeNonce, route, intentHash,
    expiryTs⟩

/-- `CreateTinV1Params::try_from_slice`: nothing may be left over. -/
def tryFromSlice (data : List Byte) : Result CreateTinV1Params := do
  let (params, rest) ← takeCreateTinV1Params data
  require (rest = []) problem
  return params

/-- The fields in the order of the instruction data. -/
def creationBytes (params : CreateTinV1Params) : List Byte :=
  wordBytes params.ownerPubkey ++ (wordBytes params.lookupCommitment ++
    (vecBytes params.encryptedTinRecovery ++ (vecBytes params.encryptedIdentityEnvelope ++
    (vecBytes params.encryptedMasterSeed ++ (wordBytes params.encryptedMetadataHash ++
    (numberBytes params.routeVersion ++ (wordBytes params.routeNonce ++
    (params.route.fields.flatten ++ (wordBytes params.intentHash ++
    numberBytes params.expiryTs)))))))))

/-- The blobs are as long as a length in four bytes can say. -/
structure Sized (params : CreateTinV1Params) : Prop where
  recovery : params.encryptedTinRecovery.length < 2 ^ 32
  identity : params.encryptedIdentityEnvelope.length < 2 ^ 32
  masterSeed : params.encryptedMasterSeed.length < 2 ^ 32

section Reading

theorem reads_takeI64 {value : BitVec 64} : Reads takeI64 (numberBytes value) value := by
  have hread : Reads takeI64 (numberBytes value) (BitVec.ofNat 64 value.toNat) :=
    reads_map (reads_takeNat (lt_of_lt_of_eq value.isLt (by norm_num)))
  rwa [BitVec.ofNat_toNat, BitVec.setWidth_eq] at hread

theorem reads_takeTipRoute {route : TipRoute} :
    Reads takeTipRoute route.fields.flatten route := by
  simp only [TipRoute.fields, List.flatten_cons, List.flatten_nil, List.append_nil]
  exact reads_bind reads_takeByte (reads_bind reads_takeByte (reads_bind reads_takeWord
    (reads_bind reads_takeWord (reads_bind reads_takeByte (reads_bind reads_takeWord
    (reads_bind reads_takeWord (reads_bind_pure reads_takeWord)))))))

theorem reads_takeCreateTinV1Params {params : CreateTinV1Params} (hsized : Sized params) :
    Reads takeCreateTinV1Params (creationBytes params) params :=
  reads_bind reads_takeWord (reads_bind reads_takeWord (reads_bind (reads_takeVec hsized.recovery)
    (reads_bind (reads_takeVec hsized.identity) (reads_bind (reads_takeVec hsized.masterSeed)
    (reads_bind reads_takeWord (reads_bind reads_takeI64 (reads_bind reads_takeWord
    (reads_bind reads_takeTipRoute (reads_bind reads_takeWord
    (reads_bind_pure reads_takeI64))))))))))

theorem tryFromSlice_creationBytes {params : CreateTinV1Params} (hsized : Sized params) :
    tryFromSlice (creationBytes params) = .ok params := by
  have hread := reads_takeCreateTinV1Params hsized []
  rw [List.append_nil] at hread
  rw [tryFromSlice, hread]
  rfl

theorem length_lt_of_takeVec {bytes input rest : List Byte}
    (hread : takeVec problem problem input = .ok (bytes, rest)) : bytes.length < 2 ^ 32 := by
  obtain ⟨length, middle, hlength, hbytes⟩ := reader_bind_eq_ok.mp hread
  obtain ⟨-, hsize⟩ := take_eq_ok.mp hbytes
  simp only [takeNat, Functor.map, StateT.map] at hlength
  obtain ⟨⟨field, after⟩, hfield, hvalue⟩ := bind_eq_ok.mp hlength
  obtain ⟨rfl, -⟩ := Prod.mk.inj (Except.ok.inj hvalue)
  have hlt := leValue_lt field
  rw [(take_eq_ok.mp hfield).2] at hlt
  rw [hsize]
  exact lt_of_lt_of_eq hlt (by norm_num)

/-- What the program reads has lengths that it can read. -/
theorem sized_of_tryFromSlice {data : List Byte} {params : CreateTinV1Params}
    (hread : tryFromSlice data = .ok params) : Sized params := by
  obtain ⟨⟨found, rest⟩, hfound, hrest⟩ := bind_eq_ok.mp hread
  simp only [bind_eq_ok, require_eq_ok, pure_eq_ok] at hrest
  obtain ⟨_, -, rfl⟩ := hrest
  simp only [takeCreateTinV1Params, reader_bind_eq_ok] at hfound
  obtain ⟨_, _, -, _, _, -, recovery, _, hrecovery, identity, _, hidentity, seed, _, hseed,
    _, _, -, _, _, -, _, _, -, _, _, -, _, _, -, _, _, -, hparams⟩ := hfound
  obtain ⟨rfl, -⟩ := Prod.mk.inj (Except.ok.inj hparams)
  exact ⟨length_lt_of_takeVec hrecovery, length_lt_of_takeVec hidentity,
    length_lt_of_takeVec hseed⟩

end Reading

section Preimage

theorem vecBytes_append_inj {left right rest rest' : List Byte} (hleft : left.length < 2 ^ 32)
    (hright : right.length < 2 ^ 32) (heq : vecBytes left ++ rest = vecBytes right ++ rest') :
    left = right ∧ rest = rest' := by
  simp only [vecBytes, List.append_assoc] at heq
  obtain ⟨hlengths, hrest⟩ := List.append_inj heq (by simp)
  have hvalues := congrArg leValue hlengths
  have hpow : (256 : Nat) ^ 4 = 2 ^ 32 := by norm_num
  rw [leValue_leBytes, leValue_leBytes, hpow, Nat.mod_eq_of_lt hleft,
    Nat.mod_eq_of_lt hright] at hvalues
  exact List.append_inj hrest hvalues

theorem route_eq_of_fields_eq {left right : TipRoute}
    (heq : left.fields.flatten = right.fields.flatten) : left = right := by
  rw [flatten_inj (by simp [TipRoute.fields])] at heq
  simp only [TipRoute.fields, List.cons.injEq, wordBytes_inj, and_true] at heq
  rcases left
  rcases right
  simpa only [TipRoute.mk.injEq] using heq

/-- The preimage binds every field but the hash itself. -/
theorem ownerIntentPreimage_inj {left right : CreateTinV1Params} (hleft : Sized left)
    (hright : Sized right) (heq : ownerIntentPreimage left = ownerIntentPreimage right) :
    left = { right with intentHash := left.intentHash } := by
  simp only [ownerIntentPreimage, List.append_assoc] at heq
  obtain ⟨-, heq⟩ := List.append_inj heq rfl
  obtain ⟨howner, heq⟩ := List.append_inj heq (by simp)
  obtain ⟨hlookup, heq⟩ := List.append_inj heq (by simp)
  obtain ⟨hrecovery, heq⟩ := vecBytes_append_inj hleft.recovery hright.recovery heq
  obtain ⟨hidentity, heq⟩ := vecBytes_append_inj hleft.identity hright.identity heq
  obtain ⟨hseed, heq⟩ := vecBytes_append_inj hleft.masterSeed hright.masterSeed heq
  obtain ⟨hmetadata, heq⟩ := List.append_inj heq (by simp)
  obtain ⟨hversion, heq⟩ := List.append_inj heq (by simp)
  obtain ⟨hnonce, heq⟩ := List.append_inj heq (by simp)
  obtain ⟨hroute, hexpiry⟩ := List.append_inj heq (by simp [TipRoute.fields])
  have hroutes := route_eq_of_fields_eq hroute
  have hversions := (@numberBytes_inj_u64 left.routeVersion right.routeVersion).mp hversion
  have hexpiries := (@numberBytes_inj_u64 left.expiryTs right.expiryTs).mp hexpiry
  rw [wordBytes_inj] at howner hlookup hmetadata hnonce
  rcases left
  rcases right
  simp only at *
  subst howner hlookup hrecovery hidentity hseed hmetadata hversions hnonce hroutes hexpiries
  rfl

end Preimage

end TsnProtocol.Tip.OwnerIntent
