import TsnProtocol.Gpru.StealthKeys

/-!
The Node, the owner's program and the owner's SDK derive one key for a transaction DNA.
-/

namespace TsnProtocol.Gpru.DnaKeyAgreement

open Gpru.ScalarField
open Gpru.ScalarReduction
open Gpru.StealthKeys
open Gpru.Verifier (asciiBytes)
open Lib.BorrowSubtraction (leValue_append)
open Lib.ByteReader
open Lib.Checked

attribute [local irreducible] groupOrder

section Sdk

/-- Why the SDK stops: with a message of its own, or inside a package. -/
inductive SdkError where
  | message (text : String)
  | package
  deriving DecidableEq

structure GpruDnaOwnerKeyV1 where
  version : Nat
  (dna ephemeralPublicKey oneTimePublicKey : List Byte)
  keyCommitment : BitVec 256
  oneTimeSecretKey : List Byte

def assert32 (value : List Byte) (label : String) : Except SdkError (Bytes 32) :=
  if hlength : value.length = 32 then
    .ok ⟨value, hlength⟩
  else
    .error (.message (label ++ " must be exactly 32 bytes"))

/-- The loop of `littleEndianInteger`, from the last byte to the first. -/
def littleEndianInteger (bytes : List Byte) : Int :=
  bytes.foldr (fun byte value => 256 * value + byte.toNat) 0

def mod (value : Int) : Int :=
  let reduced := value.tmod groupOrder
  if reduced < 0 then reduced + groupOrder else reduced

/-- The loop of `inverse`, with the remainders and the coefficients that it keeps. -/
def inverseLoop (oldR r : Nat) (oldS s : Int) : Nat × Int :=
  if r = 0 then
    (oldR, oldS)
  else
    inverseLoop r (oldR - oldR / r * r) s (oldS - (oldR / r : Nat) * s)
termination_by r
decreasing_by
  rw [← Nat.mod_eq_sub_div_mul]
  exact Nat.mod_lt _ (by omega)

def inverse (value : Int) : Except SdkError Int := do
  let scalar := mod value
  require (scalar ≠ 0) (.message "GPRU ElGamal scalar cannot be zero")
  let (oldR, oldS) := inverseLoop groupOrder scalar.toNat 0 1
  require (oldR = 1) (.message "GPRU ElGamal scalar is not invertible")
  return mod oldS

variable {Point : Type} [AddCommGroup Point] [Module Scalar Point]
  (group : RistrettoGroup Point) (sha3 : List Byte → Bytes 64)
  (sha256 : List Byte → BitVec 256)
  (elgamalPubkeyFromSecret : List Byte → Except SdkError (Bytes 32))

def deriveTweak (dna sharedPoint : List Byte) : Except SdkError Int := do
  let digest := sha3 (dnaKeyTweakDomain ++ dna ++ sharedPoint)
  let tweak := mod (littleEndianInteger digest.1)
  require (tweak ≠ 0)
    (.message "GPRU derived a zero ElGamal tweak; retry with a fresh DNA")
  return tweak

def deriveCommitment (dna ephemeral publicKey : List Byte) : BitVec 256 :=
  sha256 (asciiBytes "TSN_GPRU_DNA_ELGAMAL_KEY_COMMITMENT_V1" ++ [0] ++ [1] ++ dna ++
    ephemeral ++ publicKey)

def deriveOwnerGpruDnaKeyV1 (dna ephemeralPublicKey oneTimePublicKey scanSecretKey : List Byte) :
    Except SdkError GpruDnaOwnerKeyV1 := do
  let dna ← assert32 dna "GPRU DNA"
  let ephemeralPublicKey ← assert32 ephemeralPublicKey "GPRU ephemeral public key"
  let oneTimePublicKey ← assert32 oneTimePublicKey "GPRU one-time public key"
  let scanSecretKey ← assert32 scanSecretKey "GPRU scan secret key"
  let scanSecret := littleEndianInteger scanSecretKey.1
  require (¬ (scanSecret = 0 ∨ (groupOrder : Int) ≤ scanSecret))
    (.message "GPRU scan secret key is not a canonical nonzero Solana ElGamal scalar")
  let ephemeral ← okOr (group.decompress ephemeralPublicKey) .package
  let scanInverse ← inverse scanSecret
  let shared := group.compress ((scanInverse : Scalar) • ephemeral)
  let tweak ← deriveTweak sha3 dna.1 shared.1
  let tweakInverse ← inverse tweak
  let oneTimeSecret := mod (scanSecret * tweakInverse)
  let secretBytes := leBytes 32 oneTimeSecret.toNat
  let derivedPublicKey ← elgamalPubkeyFromSecret secretBytes
  require (derivedPublicKey = oneTimePublicKey)
    (.message "GPRU DNA key does not match the Node-derived one-time public key")
  pure
    { version := 1
      dna := dna.1
      ephemeralPublicKey := ephemeralPublicKey.1
      oneTimePublicKey := oneTimePublicKey.1
      keyCommitment := deriveCommitment sha256 dna.1 ephemeralPublicKey.1 oneTimePublicKey.1
      oneTimeSecretKey := secretBytes }

end Sdk

section Arithmetic

theorem littleEndianInteger_eq (bytes : List Byte) : littleEndianInteger bytes = leValue bytes := by
  induction bytes with
  | nil => rfl
  | cons byte rest ih =>
      rw [littleEndianInteger, List.foldr_cons, ← littleEndianInteger, ih, leValue]
      push_cast
      ring

theorem groupOrder_pos : 0 < groupOrder :=
  prime_groupOrder.pos

theorem mod_eq_emod (value : Int) : mod value = value % groupOrder := by
  have hpos : (0 : Int) < groupOrder := by exact_mod_cast groupOrder_pos
  have hlow := Int.emod_nonneg value hpos.ne'
  have hhigh := Int.emod_lt_of_pos value hpos
  rw [mod, Int.tmod_eq_emod]
  split
  · next hsame =>
      rw [Nat.cast_zero, sub_zero, if_neg (by omega)]
  · rw [Int.natAbs_natCast, if_pos (by omega), sub_add_cancel]

theorem mod_nonneg (value : Int) : 0 ≤ mod value := by
  rw [mod_eq_emod]
  exact Int.emod_nonneg _ (by exact_mod_cast groupOrder_pos.ne')

theorem mod_lt (value : Int) : mod value < groupOrder := by
  rw [mod_eq_emod]
  exact Int.emod_lt_of_pos _ (by exact_mod_cast groupOrder_pos)

theorem cast_mod (value : Int) : ((mod value : Int) : Scalar) = value := by
  rw [mod_eq_emod, ZMod.intCast_mod]

theorem toNat_mod (value : Int) : (mod value).toNat = (value : Scalar).val := by
  have hcast : (((mod value).toNat : Nat) : Scalar) = value := by
    rw [← Int.cast_natCast, Int.toNat_of_nonneg (mod_nonneg value), cast_mod]
  have hlt : (mod value).toNat < groupOrder := by
    have hbound := mod_lt value
    have hpos := groupOrder_pos
    omega
  rw [← hcast, ZMod.val_natCast, Nat.mod_eq_of_lt hlt]

theorem mod_eq_zero {value : Int} : mod value = 0 ↔ (value : Scalar) = 0 := by
  have hvalue := toNat_mod value
  have hnonneg := mod_nonneg value
  rw [← ZMod.val_eq_zero]
  omega

/-- The coefficients of `element` stay those of the remainders, of which the greatest common
divisor stays the same. -/
theorem inverseLoop_spec (element : Scalar) (oldR r : Nat) (oldS s : Int)
    (hold : (oldR : Scalar) = oldS * element) (hnew : (r : Scalar) = s * element) :
    (inverseLoop oldR r oldS s).1 = Nat.gcd oldR r ∧
      ((inverseLoop oldR r oldS s).1 : Scalar) = (inverseLoop oldR r oldS s).2 * element := by
  induction oldR, r, oldS, s using inverseLoop.induct with
  | case1 oldR oldS s =>
      rw [inverseLoop, if_pos rfl, Nat.gcd_zero_right]
      exact ⟨rfl, hold⟩
  | case2 oldR r oldS s hne ih =>
      have hrest : oldR - oldR / r * r = oldR % r := by
        rw [Nat.mod_eq_sub_div_mul]
      have hnext : ((oldR - oldR / r * r : Nat) : Scalar) =
          ((oldS - (oldR / r : Nat) * s : Int) : Scalar) * element := by
        have hle : oldR / r * r ≤ oldR := Nat.div_mul_le_self _ _
        generalize oldR / r = quotient at *
        rw [Nat.cast_sub hle]
        push_cast
        rw [hold, hnew]
        ring
      rw [inverseLoop, if_neg hne]
      obtain ⟨hgcd, hvalue⟩ := ih hnew hnext
      refine ⟨?_, hvalue⟩
      rw [hgcd, hrest, Nat.gcd_comm r, ← Nat.gcd_rec, Nat.gcd_comm]

theorem inverse_eq_ok {value : Int} (hne : (value : Scalar) ≠ 0) :
    ∃ result, inverse value = .ok result ∧ (result : Scalar) = (value : Scalar)⁻¹ := by
  have hscalar : mod value ≠ 0 := mt mod_eq_zero.mp hne
  have hpos : 0 < (mod value).toNat := by
    have hnonneg := mod_nonneg value
    omega
  have hlt : (mod value).toNat < groupOrder := by
    have hbound := mod_lt value
    have hpos := groupOrder_pos
    omega
  have hcast : (((mod value).toNat : Nat) : Scalar) = value := by
    rw [toNat_mod, ZMod.natCast_zmod_val]
  obtain ⟨hgcd, hresult⟩ := inverseLoop_spec value groupOrder (mod value).toNat 0 1
    (by rw [ZMod.natCast_self, Int.cast_zero, zero_mul])
    (by rw [hcast, Int.cast_one, one_mul])
  rw [(prime_groupOrder.coprime_iff_not_dvd.mpr (Nat.not_dvd_of_pos_of_lt hpos hlt)).gcd_eq_one]
    at hgcd
  rw [hgcd, Nat.cast_one] at hresult
  refine ⟨mod (inverseLoop groupOrder (mod value).toNat 0 1).2, ?_, ?_⟩
  · simp only [inverse, bind_eq_ok, require_eq_ok, pure_eq_ok]
    exact ⟨(), hscalar, (), hgcd, trivial⟩
  · rw [cast_mod]
    exact eq_inv_of_mul_eq_one_left hresult.symm

end Arithmetic

section Derivations

variable {Point : Type} [AddCommGroup Point] [Module Scalar Point]
  (group : RistrettoGroup Point) (sha3 : List Byte → Bytes 64)

/-- What the Node publishes for a scan point, with its two scalars. -/
def nodeKey (scan : Point) (dna : Bytes 32) (ephemeral nonce : Scalar) : NodeDerivedDnaKeyV1 :=
  let shared := group.compress (ephemeral • scan)
  let ephemeralPublicKey := group.compress (ephemeral • group.elgamalGenerator)
  let oneTimePublicKey := group.compress (tweakOf sha3 dna shared • scan)
  let proof : DnaKeyDerivationProofV1 :=
    { sharedPoint := shared
      generatorCommitment := group.compress (nonce • group.elgamalGenerator)
      scanCommitment := group.compress (nonce • scan)
      response := zeroBytes }
  let challenge := proofChallenge sha3 (group.compress scan) dna ephemeralPublicKey
    oneTimePublicKey proof
  { ephemeralPublicKey := ephemeralPublicKey
    oneTimePublicKey := oneTimePublicKey
    proof := { proof with response := scalarBytes (nonce + challenge * ephemeral) } }

variable {group} {sha3} {scan : Point} {dna : Bytes 32}

theorem deriveNode_eq_ok [DecidableEq Point] (hscan : scan ≠ 0) {randomness : Bytes 128}
    {key : NodeDerivedDnaKeyV1} :
    deriveNodeDnaKeyV1 group sha3 (group.compress scan) dna randomness = .ok key ↔
      fromBytesModOrderWide (ephemeralSample randomness) ≠ 0 ∧
      tweakOf sha3 dna (group.compress
        (fromBytesModOrderWide (ephemeralSample randomness) • scan)) ≠ 0 ∧
      fromBytesModOrderWide (nonceSample randomness) ≠ 0 ∧
      nodeKey group sha3 scan dna (fromBytesModOrderWide (ephemeralSample randomness))
        (fromBytesModOrderWide (nonceSample randomness)) = key := by
  simp only [deriveNodeDnaKeyV1, tweakScalar, bind_eq_ok, pure_eq_ok, require_eq_ok,
    decodePoint_eq_ok, compress_inj]
  constructor
  · rintro ⟨_, rfl, _, -, _, hephemeral, tweak, ⟨_, htweak, rfl⟩, _, -, _, hnonce, hkey⟩
    exact ⟨hephemeral, htweak, hnonce, hkey⟩
  · rintro ⟨hephemeral, htweak, hnonce, hkey⟩
    exact ⟨scan, rfl, (), hscan, (), hephemeral, _, ⟨(), htweak, rfl⟩, (),
      smul_ne_zero htweak hscan, (), hnonce, hkey⟩

/-- The nonce, answered for both bases, makes the published proof hold. -/
theorem accepted_nodeKey (hscan : scan ≠ 0) {ephemeral nonce : Scalar} (hephemeral : ephemeral ≠ 0)
    (htweak : tweakOf sha3 dna (group.compress (ephemeral • scan)) ≠ 0) (hnonce : nonce ≠ 0) :
    Accepted group sha3 (group.compress scan) dna
      (nodeKey group sha3 scan dna ephemeral nonce).ephemeralPublicKey
      (nodeKey group sha3 scan dna ephemeral nonce).oneTimePublicKey
      (nodeKey group sha3 scan dna ephemeral nonce).proof := by
  have hgenerator : group.elgamalGenerator ≠ 0 := elgamalGenerator_ne_zero
  refine ⟨scan, ephemeral • group.elgamalGenerator, _, ephemeral • scan,
    nonce • group.elgamalGenerator, nonce • scan, _, rfl, rfl, rfl, rfl, rfl, rfl, rfl,
    hscan, smul_ne_zero hephemeral hgenerator, smul_ne_zero htweak hscan,
    smul_ne_zero hephemeral hscan, smul_ne_zero hnonce hgenerator, smul_ne_zero hnonce hscan,
    ?_, ?_, htweak, rfl⟩
  · rw [add_smul, mul_smul]
    rfl
  · rw [add_smul, mul_smul]
    rfl

/-- The point that the owner shares with the Node. -/
theorem shared_eq {secret ephemeral : Scalar} :
    secret⁻¹ • ephemeral • group.elgamalGenerator =
      ephemeral • secret⁻¹ • group.elgamalGenerator :=
  smul_comm _ _ _

theorem deriveOwner_eq_ok [DecidableEq Point] {secret ephemeral : Scalar} (hsecret : secret ≠ 0)
    (hephemeral : ephemeral ≠ 0)
    (hscan : scan = secret⁻¹ • group.elgamalGenerator)
    (htweak : tweakOf sha3 dna (group.compress (ephemeral • scan)) ≠ 0) :
    deriveOwnerDnaKeyV1 group sha3 (scalarBytes secret)
        (group.compress (ephemeral • group.elgamalGenerator)) dna =
      .ok
        { oneTimeSecretKey := scalarBytes
            (secret * (tweakOf sha3 dna (group.compress (ephemeral • scan)))⁻¹)
          oneTimePublicKey := group.compress
            (tweakOf sha3 dna (group.compress (ephemeral • scan)) • scan) } := by
  have hgenerator : group.elgamalGenerator ≠ 0 := elgamalGenerator_ne_zero
  subst hscan
  simp only [deriveOwnerDnaKeyV1, tweakScalar, bind_eq_ok, pure_eq_ok, require_eq_ok,
    decodePoint_eq_ok, compress_inj]
  refine ⟨secret, fromCanonicalBytes_scalarBytes secret, (), hsecret, _, rfl, (),
    smul_ne_zero hephemeral hgenerator, _, ⟨(), ?_, rfl⟩, (), ?_, ?_⟩
  · rw [shared_eq]
    exact htweak
  · rw [shared_eq]
    exact mul_ne_zero hsecret (inv_ne_zero htweak)
  · rw [shared_eq, mul_inv_rev, inv_inv, mul_smul]

theorem assert32_coe (value : Bytes 32) (label : String) :
    assert32 value.1 label = .ok value :=
  dif_pos value.2

theorem deriveTweak_eq_ok {sharedPoint : Bytes 32} (htweak : tweakOf sha3 dna sharedPoint ≠ 0) :
    ∃ tweak, deriveTweak sha3 dna.1 sharedPoint.1 = .ok tweak ∧
      (tweak : Scalar) = tweakOf sha3 dna sharedPoint := by
  have hcast : ((mod (littleEndianInteger
      (sha3 (dnaKeyTweakDomain ++ dna.1 ++ sharedPoint.1)).1) : Int) : Scalar) =
        tweakOf sha3 dna sharedPoint := by
    rw [cast_mod, littleEndianInteger_eq, Int.cast_natCast]
    rfl
  refine ⟨_, ?_, hcast⟩
  simp only [deriveTweak, bind_eq_ok, pure_eq_ok, require_eq_ok]
  refine ⟨(), ?_, trivial⟩
  intro hzero
  rw [hzero, Int.cast_zero] at hcast
  exact htweak hcast.symm

variable {sha256 : List Byte → BitVec 256}
  {elgamalPubkeyFromSecret : List Byte → Except SdkError (Bytes 32)}

theorem deriveOwnerSdk_eq_ok
    (hpubkey : ∀ secret : Scalar, secret ≠ 0 →
      elgamalPubkeyFromSecret (scalarBytes secret).1 =
        .ok (group.compress (secret⁻¹ • group.elgamalGenerator)))
    {secret ephemeral : Scalar} (hsecret : secret ≠ 0)
    (hscan : scan = secret⁻¹ • group.elgamalGenerator)
    (htweak : tweakOf sha3 dna (group.compress (ephemeral • scan)) ≠ 0) :
    ∃ owner, deriveOwnerGpruDnaKeyV1 group sha3 sha256 elgamalPubkeyFromSecret dna.1
        (group.compress (ephemeral • group.elgamalGenerator)).1
        (group.compress (tweakOf sha3 dna (group.compress (ephemeral • scan)) • scan)).1
        (scalarBytes secret).1 = .ok owner ∧
      owner.oneTimeSecretKey = (scalarBytes
        (secret * (tweakOf sha3 dna (group.compress (ephemeral • scan)))⁻¹)).1 := by
  have hinteger : littleEndianInteger (scalarBytes secret).1 = secret.val := by
    rw [littleEndianInteger_eq, leValue_scalarBytes]
  have hcast : ((littleEndianInteger (scalarBytes secret).1 : Int) : Scalar) = secret := by
    rw [hinteger, Int.cast_natCast, ZMod.natCast_zmod_val]
  have hcanonical : ¬ (littleEndianInteger (scalarBytes secret).1 = 0 ∨
      (groupOrder : Int) ≤ littleEndianInteger (scalarBytes secret).1) := by
    have hlt := val_lt secret
    have hne := mt (ZMod.val_eq_zero secret).mp hsecret
    rw [hinteger]
    omega
  have hsecretCast : ((littleEndianInteger (scalarBytes secret).1 : Int) : Scalar) ≠ 0 := by
    rw [hcast]
    exact hsecret
  obtain ⟨scanInverse, hscanInverse, hscanCast⟩ := inverse_eq_ok hsecretCast
  have hshared : (scanInverse : Scalar) • ephemeral • group.elgamalGenerator =
      ephemeral • scan := by
    rw [hscanCast, hcast, hscan, shared_eq]
  obtain ⟨tweak, htweakOk, htweakCast⟩ := deriveTweak_eq_ok htweak
  obtain ⟨tweakInverse, htweakInverse, hinverseCast⟩ :=
    inverse_eq_ok (show (tweak : Scalar) ≠ 0 by rw [htweakCast]; exact htweak)
  have hsecretBytes :
      leBytes 32 (mod (littleEndianInteger (scalarBytes secret).1 * tweakInverse)).toNat =
        (scalarBytes (secret *
          (tweakOf sha3 dna (group.compress (ephemeral • scan)))⁻¹)).1 := by
    rw [toNat_mod, Int.cast_mul, hcast, hinverseCast, htweakCast, coe_scalarBytes]
  have hderived := hpubkey _ (mul_ne_zero hsecret (inv_ne_zero htweak))
  rw [mul_inv_rev, inv_inv, mul_smul, ← hscan] at hderived
  simp only [deriveOwnerGpruDnaKeyV1, bind_eq_ok, pure_eq_ok, require_eq_ok, okOr_eq_ok,
    assert32_coe, Except.ok.injEq]
  exact ⟨_, ⟨_, rfl, _, rfl, _, rfl, _, rfl, (), hcanonical, _,
    (group.decompress_eq_some _ _).mpr rfl, scanInverse, hscanInverse, tweak,
    by rw [hshared]; exact htweakOk, tweakInverse, htweakInverse, _,
    by rw [hsecretBytes]; exact hderived, (), rfl, rfl⟩, hsecretBytes⟩

end Derivations

/-- Both derivations give the key whose ElGamal secret the owner gets, and the verifiers
differ at most in the challenge 0. -/
theorem keys_agree {Point : Type} [AddCommGroup Point] [Module Scalar Point]
    [DecidableEq Point] (group : RistrettoGroup Point) (sha3 : List Byte → Bytes 64)
    (sha256 : List Byte → BitVec 256)
    {elgamalPubkeyFromSecret : List Byte → Except SdkError (Bytes 32)}
    (hpubkey : ∀ secret : Scalar, secret ≠ 0 →
      elgamalPubkeyFromSecret (scalarBytes secret).1 =
        .ok (group.compress (secret⁻¹ • group.elgamalGenerator))) :
    (∀ secret : Scalar, secret ≠ 0 → ∀ (dna : Bytes 32) (randomness : Bytes 128),
      let scanPublicKey := group.compress (secret⁻¹ • group.elgamalGenerator)
      let ephemeral := fromBytesModOrderWide (ephemeralSample randomness)
      ((∃ key, deriveNodeDnaKeyV1 group sha3 scanPublicKey dna randomness = .ok key) ↔
        ephemeral ≠ 0 ∧
        tweakOf sha3 dna
          (group.compress (ephemeral • secret⁻¹ • group.elgamalGenerator)) ≠ 0 ∧
        fromBytesModOrderWide (nonceSample randomness) ≠ 0) ∧
      ∀ key, deriveNodeDnaKeyV1 group sha3 scanPublicKey dna randomness = .ok key →
        ∃ oneTimeSecret : Scalar, oneTimeSecret ≠ 0 ∧
          key.oneTimePublicKey = group.compress (oneTimeSecret⁻¹ • group.elgamalGenerator) ∧
          deriveOwnerDnaKeyV1 group sha3 (scalarBytes secret) key.ephemeralPublicKey dna =
            .ok ⟨scalarBytes oneTimeSecret, key.oneTimePublicKey⟩ ∧
          (∃ owner, deriveOwnerGpruDnaKeyV1 group sha3 sha256 elgamalPubkeyFromSecret dna.1
              key.ephemeralPublicKey.1 key.oneTimePublicKey.1 (scalarBytes secret).1 = .ok owner ∧
            owner.oneTimeSecretKey = (scalarBytes oneTimeSecret).1) ∧
          verifyNodeDnaKeyProofV1Host group sha3 scanPublicKey dna key.ephemeralPublicKey
            key.oneTimePublicKey key.proof = .ok ()) ∧
    ∀ (scanPublicKey dna ephemeralPublicKey oneTimePublicKey : Bytes 32)
      (proof : DnaKeyDerivationProofV1),
      proofChallenge sha3 scanPublicKey dna ephemeralPublicKey oneTimePublicKey proof ≠ 0 →
      (verifyNodeDnaKeyProofV1Host group sha3 scanPublicKey dna ephemeralPublicKey
          oneTimePublicKey proof = .ok () ↔
        verifyNodeDnaKeyProofV1Sbf group sha3 scanPublicKey dna ephemeralPublicKey
          oneTimePublicKey proof = .ok ()) := by
  refine ⟨?_, ?_⟩
  · intro secret hsecret dna randomness scanPublicKey ephemeral
    have hscan : secret⁻¹ • group.elgamalGenerator ≠ 0 :=
      smul_ne_zero (inv_ne_zero hsecret) elgamalGenerator_ne_zero
    simp only [scanPublicKey, deriveNode_eq_ok hscan]
    refine ⟨⟨?_, ?_⟩, ?_⟩
    · rintro ⟨_, hephemeral, htweak, hnonce, -⟩
      exact ⟨hephemeral, htweak, hnonce⟩
    · rintro ⟨hephemeral, htweak, hnonce⟩
      exact ⟨_, hephemeral, htweak, hnonce, rfl⟩
    · rintro _ ⟨hephemeral, htweak, hnonce, rfl⟩
      refine ⟨_, mul_ne_zero hsecret (inv_ne_zero htweak), ?_,
        deriveOwner_eq_ok hsecret hephemeral rfl htweak,
        deriveOwnerSdk_eq_ok hpubkey hsecret rfl htweak,
        verifyHost_iff.mpr (accepted_nodeKey hscan hephemeral htweak hnonce)⟩
      rw [mul_inv_rev, inv_inv, mul_smul]
      rfl
  · intro scanPublicKey dna ephemeralPublicKey oneTimePublicKey proof hchallenge
    rw [verifyHost_iff, verifySbf_iff, and_iff_left hchallenge]

section Sample

def bytesOfNumber (size value : Nat) : Bytes size := ⟨leBytes size value, length_leBytes _ _⟩

def sampleOffset : Nat := leValue generatorH.1 - 1

/-- The scalars as a group, with codes that start at that of the generator. -/
def sampleCompress (point : Scalar) : Bytes 32 :=
  bytesOfNumber 32 (if point = 0 then 0 else point.val + sampleOffset)

def sampleDecompress (bytes : Bytes 32) : Option Scalar :=
  if leValue bytes.1 = 0 then
    some 0
  else if sampleOffset < leValue bytes.1 ∧ leValue bytes.1 < sampleOffset + groupOrder then
    some ((leValue bytes.1 - sampleOffset : Nat) : Scalar)
  else
    none

theorem leValue_bytesOfNumber {size value : Nat} (hvalue : value < 256 ^ size) :
    leValue (bytesOfNumber size value).1 = value :=
  (leValue_leBytes _ _).trans (Nat.mod_eq_of_lt hvalue)

theorem bytesOfNumber_leValue {size : Nat} (bytes : Bytes size) :
    bytesOfNumber size (leValue bytes.1) = bytes := by
  have hvalue := leBytes_leValue bytes.1
  rw [bytes.2] at hvalue
  exact Subtype.ext hvalue

theorem leValue_sampleCompress (point : Scalar) :
    leValue (sampleCompress point).1 = if point = 0 then 0 else point.val + sampleOffset := by
  have hroom : groupOrder + sampleOffset ≤ 256 ^ 32 := by decide +kernel
  have hlt := val_lt point
  apply leValue_bytesOfNumber
  split <;> omega

theorem sampleDecompress_eq_some (bytes : Bytes 32) (point : Scalar) :
    sampleDecompress bytes = some point ↔ sampleCompress point = bytes := by
  rw [sampleDecompress]
  constructor
  · intro hpoint
    split at hpoint
    · next hzero =>
        obtain rfl := Option.some.inj hpoint
        rw [sampleCompress, if_pos rfl, ← hzero, bytesOfNumber_leValue]
    · split at hpoint
      · next hrange =>
          obtain rfl := Option.some.inj hpoint
          have hvalue : ((leValue bytes.1 - sampleOffset : Nat) : Scalar).val =
              leValue bytes.1 - sampleOffset := by
            rw [ZMod.val_natCast, Nat.mod_eq_of_lt (by omega)]
          have hne : ((leValue bytes.1 - sampleOffset : Nat) : Scalar) ≠ 0 := by
            rw [Ne, ← ZMod.val_eq_zero, hvalue]
            omega
          rw [sampleCompress, if_neg hne, hvalue, Nat.sub_add_cancel (by omega),
            bytesOfNumber_leValue]
      · cases hpoint
  · rintro rfl
    have hlt := val_lt point
    rw [leValue_sampleCompress]
    by_cases hzero : point = 0
    · rw [if_pos hzero, if_pos rfl, hzero]
    · have hval := mt (ZMod.val_eq_zero point).mp hzero
      rw [if_neg hzero, if_neg (by omega), if_pos (by omega), Nat.add_sub_cancel,
        ZMod.natCast_zmod_val]

def sampleGroup : RistrettoGroup Scalar where
  compress := sampleCompress
  decompress := sampleDecompress
  decompress_eq_some := sampleDecompress_eq_some
  compress_zero := by
    rw [sampleCompress, if_pos rfl]
    rfl
  elgamalGenerator := 1
  compress_elgamalGenerator := by
    have hpos : 1 ≤ leValue generatorH.1 := by decide +kernel
    rw [sampleCompress, if_neg one_ne_zero, ZMod.val_one, sampleOffset, Nat.add_sub_cancel' hpos,
      bytesOfNumber_leValue]

def sampleDna : Bytes 32 :=
  ⟨(List.range 32).map fun index => BitVec.ofNat 8 (index + 1), by decide⟩

def sampleRandomness : Bytes 128 :=
  ⟨leBytes 64 10 ++ leBytes 64 14, by decide +kernel⟩

def sampleSecret : Scalar := (2 : Nat)

def sampleTweakDigest : Nat :=
  0x23a0b63cd2a877e45e71a69e2ca1781d5a2c02de272f93af3eb0eb98f87d6f18622cb0eb14b587df3e2c38b0ab12cab96fb06724c8c52e1feb779f200bd8520f

def sampleChallengeDigest : Nat :=
  0xf146a54f736c944f796a5aa78189ced726a6dd0bda0cde253e4c707b4d4580ebf2f185514b7b4bbf9d703ba16e329db663890e902e39d3eda3681d7fbbbc26bf

/-- The digests of the two preimages that the sample hashes. -/
def sampleSha3 (preimage : List Byte) : Bytes 64 :=
  if preimage = dnaKeyTweakDomain ++ sampleDna.1 ++
      (sampleGroup.compress (((10 : Nat) : Scalar) • sampleSecret⁻¹ • 1)).1 then
    bytesOfNumber 64 sampleTweakDigest
  else
    bytesOfNumber 64 sampleChallengeDigest

def samplePubkeyFromSecret (secretKey : List Byte) : Except SdkError (Bytes 32) :=
  .ok (sampleGroup.compress ((leValue secretKey : Scalar)⁻¹ • sampleGroup.elgamalGenerator))

theorem samplePubkeyFromSecret_eq (secret : Scalar) :
    samplePubkeyFromSecret (scalarBytes secret).1 =
      .ok (sampleGroup.compress (secret⁻¹ • sampleGroup.elgamalGenerator)) := by
  rw [samplePubkeyFromSecret, leValue_scalarBytes, ZMod.natCast_zmod_val]

theorem natCast_ne_zero {number : Nat} (hnumber : number % groupOrder ≠ 0) :
    (number : Scalar) ≠ 0 := by
  rw [Ne, ZMod.natCast_eq_zero_iff, Nat.dvd_iff_mod_eq_zero]
  exact hnumber

theorem sampleSecret_ne : sampleSecret ≠ 0 :=
  show ((2 : Nat) : Scalar) ≠ 0 from natCast_ne_zero (by decide +kernel)

theorem sampleEphemeral_eq :
    fromBytesModOrderWide (ephemeralSample sampleRandomness) = ((10 : Nat) : Scalar) :=
  congrArg _ (by decide +kernel : leValue (ephemeralSample sampleRandomness).1 = 10)

theorem sampleNonce_eq :
    fromBytesModOrderWide (nonceSample sampleRandomness) = ((14 : Nat) : Scalar) :=
  congrArg _ (by decide +kernel : leValue (nonceSample sampleRandomness).1 = 14)

theorem sampleTweak_eq :
    tweakOf sampleSha3 sampleDna (sampleGroup.compress
        (((10 : Nat) : Scalar) • sampleSecret⁻¹ • sampleGroup.elgamalGenerator)) =
      (sampleTweakDigest : Scalar) := by
  have hdigest : sampleSha3 (dnaKeyTweakDomain ++ sampleDna.1 ++ (sampleGroup.compress
      (((10 : Nat) : Scalar) • sampleSecret⁻¹ • sampleGroup.elgamalGenerator)).1) =
        bytesOfNumber 64 sampleTweakDigest := if_pos rfl
  rw [tweakOf, hdigest, fromBytesModOrderWide, leValue_bytesOfNumber (by decide +kernel)]

theorem sampleNode_eq_ok :
    deriveNodeDnaKeyV1 sampleGroup sampleSha3
        (sampleGroup.compress (sampleSecret⁻¹ • sampleGroup.elgamalGenerator)) sampleDna
        sampleRandomness =
      .ok (nodeKey sampleGroup sampleSha3 (sampleSecret⁻¹ • sampleGroup.elgamalGenerator)
        sampleDna ((10 : Nat) : Scalar) ((14 : Nat) : Scalar)) := by
  rw [deriveNode_eq_ok (smul_ne_zero (inv_ne_zero sampleSecret_ne) elgamalGenerator_ne_zero),
    sampleEphemeral_eq, sampleNonce_eq, sampleTweak_eq]
  exact ⟨natCast_ne_zero (by decide +kernel), natCast_ne_zero (by decide +kernel),
    natCast_ne_zero (by decide +kernel), rfl⟩

theorem sampleChallenge_ne (scanPublicKey dna ephemeralPublicKey oneTimePublicKey : Bytes 32)
    (proof : DnaKeyDerivationProofV1) :
    proofChallenge sampleSha3 scanPublicKey dna ephemeralPublicKey oneTimePublicKey proof ≠ 0 := by
  have hdigest : sampleSha3
      (challengePreimage scanPublicKey dna ephemeralPublicKey oneTimePublicKey proof) =
        bytesOfNumber 64 sampleChallengeDigest := by
    refine if_neg fun heq => ?_
    have hlength := congrArg List.length heq
    have hdomain : dleqProofDomain.length = 35 := by decide +kernel
    have htweak : dnaKeyTweakDomain.length = 30 := by decide +kernel
    simp only [challengePreimage, List.length_append, List.Vector.length_val, hdomain, htweak]
      at hlength
    omega
  rw [proofChallenge, hdigest, fromBytesModOrderWide, leValue_bytesOfNumber (by decide +kernel)]
  exact natCast_ne_zero (by decide +kernel)

theorem keys_agree_sample :
    ∃ key oneTimeSecret,
      deriveNodeDnaKeyV1 sampleGroup sampleSha3
          (sampleGroup.compress (sampleSecret⁻¹ • sampleGroup.elgamalGenerator)) sampleDna
          sampleRandomness = .ok key ∧
      key.oneTimePublicKey =
        sampleGroup.compress (oneTimeSecret⁻¹ • sampleGroup.elgamalGenerator) ∧
      deriveOwnerDnaKeyV1 sampleGroup sampleSha3 (scalarBytes sampleSecret)
          key.ephemeralPublicKey sampleDna =
        .ok ⟨scalarBytes oneTimeSecret, key.oneTimePublicKey⟩ ∧
      verifyNodeDnaKeyProofV1Sbf sampleGroup sampleSha3
          (sampleGroup.compress (sampleSecret⁻¹ • sampleGroup.elgamalGenerator)) sampleDna
          key.ephemeralPublicKey key.oneTimePublicKey key.proof = .ok () := by
  have hpubkey : ∀ secret : Scalar, secret ≠ 0 → samplePubkeyFromSecret (scalarBytes secret).1 =
      .ok (sampleGroup.compress (secret⁻¹ • sampleGroup.elgamalGenerator)) :=
    fun secret _ => samplePubkeyFromSecret_eq secret
  obtain ⟨hderive, hverify⟩ := keys_agree sampleGroup sampleSha3 (fun _ => 0) hpubkey
  obtain ⟨oneTimeSecret, -, hpublic, howner, -, hhost⟩ :=
    (hderive sampleSecret sampleSecret_ne sampleDna sampleRandomness).2 _ sampleNode_eq_ok
  exact ⟨_, oneTimeSecret, sampleNode_eq_ok, hpublic, howner,
    (hverify _ _ _ _ _ (sampleChallenge_ne _ _ _ _ _)).mp hhost⟩

/-- The secret that the owner gets is not the logarithm of the one-time key. -/
theorem oneTimeSecret_not_log :
    ∃ key oneTimeSecret,
      deriveNodeDnaKeyV1 sampleGroup sampleSha3
          (sampleGroup.compress (sampleSecret⁻¹ • sampleGroup.elgamalGenerator)) sampleDna
          sampleRandomness = .ok key ∧
      deriveOwnerDnaKeyV1 sampleGroup sampleSha3 (scalarBytes sampleSecret)
          key.ephemeralPublicKey sampleDna =
        .ok ⟨scalarBytes oneTimeSecret, key.oneTimePublicKey⟩ ∧
      key.oneTimePublicKey ≠
        sampleGroup.compress (oneTimeSecret • sampleGroup.elgamalGenerator) := by
  have htweak : (sampleTweakDigest : Scalar) ≠ 0 := natCast_ne_zero (by decide +kernel)
  have hephemeral : ((10 : Nat) : Scalar) ≠ 0 := natCast_ne_zero (by decide +kernel)
  have htweakOf : tweakOf sampleSha3 sampleDna (sampleGroup.compress
      (((10 : Nat) : Scalar) • sampleSecret⁻¹ • sampleGroup.elgamalGenerator)) ≠ 0 := by
    rw [sampleTweak_eq]
    exact htweak
  have howner := deriveOwner_eq_ok sampleSecret_ne hephemeral rfl htweakOf
  refine ⟨_, _, sampleNode_eq_ok, howner, ?_⟩
  rw [nodeKey]
  dsimp only
  rw [Ne, compress_inj, sampleTweak_eq]
  intro heq
  have hsquares : (sampleTweakDigest : Scalar) * sampleTweakDigest = sampleSecret * sampleSecret := by
    have hone : sampleGroup.elgamalGenerator = (1 : Scalar) := rfl
    rw [hone, smul_eq_mul, smul_eq_mul, smul_eq_mul, mul_one, mul_one,
      ← div_eq_mul_inv, ← div_eq_mul_inv, div_eq_div_iff sampleSecret_ne htweak] at heq
    exact heq
  have hcasts : ((sampleTweakDigest * sampleTweakDigest : Nat) : Scalar) = ((4 : Nat) : Scalar) := by
    rw [Nat.cast_mul, hsquares, sampleSecret]
    norm_num
  rw [ZMod.natCast_eq_natCast_iff] at hcasts
  exact absurd hcasts (by decide +kernel)

end Sample

end TsnProtocol.Gpru.DnaKeyAgreement
