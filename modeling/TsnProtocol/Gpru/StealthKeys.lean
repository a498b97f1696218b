import TsnProtocol.Gpru.ScalarField
import TsnProtocol.Gpru.Verifier

/-!
One-time ElGamal keys of a transaction DNA: the Node derives the public key and proves the
derivation, the owner derives the secret key, and the proof is checked by a host verifier
and by the verifier that runs on chain.
-/

namespace TsnProtocol.Gpru.StealthKeys

open Gpru.ScalarReduction
open Gpru.Verifier (asciiBytes)
open Lib.ByteReader
open Lib.Checked

attribute [local irreducible] groupOrder

abbrev Scalar := ZMod groupOrder

def zeroBytes : Bytes 32 := List.Vector.replicate 32 0

def scalarBytes (scalar : Scalar) : Bytes 32 := ⟨leBytes 32 scalar.val, length_leBytes _ _⟩

theorem coe_scalarBytes (scalar : Scalar) : (scalarBytes scalar).1 = leBytes 32 scalar.val := rfl

def fromCanonicalBytes (bytes : Bytes 32) : Except Unit Scalar :=
  if leValue bytes.1 < groupOrder then .ok (leValue bytes.1 : Scalar) else .error ()

def fromBytesModOrderWide (wide : Bytes 64) : Scalar := (leValue wide.1 : Scalar)

def generatorH : Bytes 32 :=
  ⟨[0x8c, 0x92, 0x40, 0xb4, 0x56, 0xa9, 0xe6, 0xdc,
    0x65, 0xc3, 0x77, 0xa1, 0x04, 0x8d, 0x74, 0x5f,
    0x94, 0xa0, 0x8c, 0xdb, 0x7f, 0x44, 0xcb, 0xcd,
    0x7b, 0x46, 0xf3, 0x40, 0x48, 0x87, 0x11, 0x34], rfl⟩

/-- The Ristretto group: every point has one encoding, the identity that of zero bytes. -/
structure RistrettoGroup (Point : Type) [AddCommGroup Point] [Module Scalar Point] where
  compress : Point → Bytes 32
  decompress : Bytes 32 → Option Point
  decompress_eq_some : ∀ bytes point, decompress bytes = some point ↔ compress point = bytes
  compress_zero : compress 0 = zeroBytes
  elgamalGenerator : Point
  compress_elgamalGenerator : compress elgamalGenerator = generatorH

structure DnaKeyDerivationProofV1 where
  (sharedPoint generatorCommitment scanCommitment response : Bytes 32)

structure NodeDerivedDnaKeyV1 where
  (ephemeralPublicKey oneTimePublicKey : Bytes 32)
  proof : DnaKeyDerivationProofV1

structure OwnerDerivedDnaKeyV1 where
  (oneTimeSecretKey oneTimePublicKey : Bytes 32)

def dnaKeyTweakDomain : List Byte := asciiBytes "TSN_GPRU_DNA_ELGAMAL_TWEAK_V1" ++ [0]

def dleqProofDomain : List Byte := asciiBytes "TSN_GPRU_DNA_ELGAMAL_DLEQ_PROOF_V1" ++ [0]

def challengePreimage (scanPublicKey dna ephemeralPublicKey oneTimePublicKey : Bytes 32)
    (proof : DnaKeyDerivationProofV1) : List Byte :=
  dleqProofDomain ++ dna.1 ++ scanPublicKey.1 ++ ephemeralPublicKey.1 ++ oneTimePublicKey.1 ++
    proof.sharedPoint.1 ++ proof.generatorCommitment.1 ++ proof.scanCommitment.1

variable {Point : Type} [AddCommGroup Point] [Module Scalar Point]
  (group : RistrettoGroup Point) (sha3 : List Byte → Bytes 64)

section Host

variable [DecidableEq Point]

def decodePoint (bytes : Bytes 32) : Except Unit Point :=
  okOr (group.decompress bytes) ()

def tweakOf (dna sharedPoint : Bytes 32) : Scalar :=
  fromBytesModOrderWide (sha3 (dnaKeyTweakDomain ++ dna.1 ++ sharedPoint.1))

def tweakScalar (dna : Bytes 32) (sharedPoint : Point) : Except Unit Scalar := do
  let tweak := tweakOf sha3 dna (group.compress sharedPoint)
  require (tweak ≠ 0) ()
  return tweak

def proofChallenge (scanPublicKey dna ephemeralPublicKey oneTimePublicKey : Bytes 32)
    (proof : DnaKeyDerivationProofV1) : Scalar :=
  fromBytesModOrderWide
    (sha3 (challengePreimage scanPublicKey dna ephemeralPublicKey oneTimePublicKey proof))

/-- The samples of the ephemeral scalar and of the proof's nonce. -/
def ephemeralSample (randomness : Bytes 128) : Bytes 64 :=
  ⟨randomness.1.take 64, by rw [List.length_take, randomness.2]; rfl⟩

def nonceSample (randomness : Bytes 128) : Bytes 64 :=
  ⟨randomness.1.drop 64, by rw [List.length_drop, randomness.2]⟩

def deriveNodeDnaKeyV1 (scanPublicKey dna : Bytes 32) (randomness : Bytes 128) :
    Except Unit NodeDerivedDnaKeyV1 := do
  let scanPoint ← decodePoint group scanPublicKey
  require (scanPoint ≠ 0) ()
  let ephemeralScalar := fromBytesModOrderWide (ephemeralSample randomness)
  require (ephemeralScalar ≠ 0) ()
  let generator := group.elgamalGenerator
  let ephemeralPoint := ephemeralScalar • generator
  let sharedPoint := ephemeralScalar • scanPoint
  let tweak ← tweakScalar group sha3 dna sharedPoint
  let oneTimePoint := tweak • scanPoint
  require (oneTimePoint ≠ 0) ()
  let ephemeralPublicKey := group.compress ephemeralPoint
  let oneTimePublicKey := group.compress oneTimePoint
  let proofNonce := fromBytesModOrderWide (nonceSample randomness)
  require (proofNonce ≠ 0) ()
  let proof : DnaKeyDerivationProofV1 :=
    { sharedPoint := group.compress sharedPoint
      generatorCommitment := group.compress (proofNonce • generator)
      scanCommitment := group.compress (proofNonce • scanPoint)
      response := zeroBytes }
  let challenge :=
    proofChallenge sha3 scanPublicKey dna ephemeralPublicKey oneTimePublicKey proof
  pure
    { ephemeralPublicKey := ephemeralPublicKey
      oneTimePublicKey := oneTimePublicKey
      proof :=
        { proof with
          response := scalarBytes (proofNonce + challenge * ephemeralScalar) } }

def verifyNodeDnaKeyProofV1Host
    (scanPublicKey dna ephemeralPublicKey oneTimePublicKey : Bytes 32)
    (proof : DnaKeyDerivationProofV1) : Except Unit Unit := do
  let generator := group.elgamalGenerator
  let scanPoint ← decodePoint group scanPublicKey
  let ephemeralPoint ← decodePoint group ephemeralPublicKey
  let oneTimePoint ← decodePoint group oneTimePublicKey
  let sharedPoint ← decodePoint group proof.sharedPoint
  let generatorCommitment ← decodePoint group proof.generatorCommitment
  let scanCommitment ← decodePoint group proof.scanCommitment
  let response ← fromCanonicalBytes proof.response
  require (¬ (scanPoint = 0 ∨ ephemeralPoint = 0 ∨ oneTimePoint = 0 ∨ sharedPoint = 0 ∨
    generatorCommitment = 0 ∨ scanCommitment = 0)) ()
  let challenge :=
    proofChallenge sha3 scanPublicKey dna ephemeralPublicKey oneTimePublicKey proof
  require (¬ (response • generator ≠ generatorCommitment + challenge • ephemeralPoint ∨
    response • scanPoint ≠ scanCommitment + challenge • sharedPoint)) ()
  let tweak ← tweakScalar group sha3 dna sharedPoint
  require (tweak • scanPoint = oneTimePoint) ()

def deriveOwnerDnaKeyV1 (scanSecretKey ephemeralPublicKey dna : Bytes 32) :
    Except Unit OwnerDerivedDnaKeyV1 := do
  let scanSecret ← fromCanonicalBytes scanSecretKey
  require (scanSecret ≠ 0) ()
  let ephemeralPoint ← decodePoint group ephemeralPublicKey
  require (ephemeralPoint ≠ 0) ()
  let sharedPoint := scanSecret⁻¹ • ephemeralPoint
  let tweak ← tweakScalar group sha3 dna sharedPoint
  let oneTimeSecret := scanSecret * tweak⁻¹
  require (oneTimeSecret ≠ 0) ()
  let oneTimePublic := oneTimeSecret⁻¹ • group.elgamalGenerator
  pure
    { oneTimeSecretKey := scalarBytes oneTimeSecret
      oneTimePublicKey := group.compress oneTimePublic }

end Host

section OnChain

/-- The system call: whether the bytes encode a point. -/
def curveValidatePoint (point : Bytes 32) : Bool :=
  (group.decompress point).isSome

/-- The system calls of the group operations, on encoded points. -/
def curveGroupMul (scalar point : Bytes 32) : Option (Bytes 32) := do
  let decoded ← group.decompress point
  return group.compress ((leValue scalar.1 : Scalar) • decoded)

def curveGroupAdd (left right : Bytes 32) : Option (Bytes 32) := do
  let leftPoint ← group.decompress left
  let rightPoint ← group.decompress right
  return group.compress (leftPoint + rightPoint)

def validPoint (point : Bytes 32) : Bool :=
  if point = zeroBytes then false else curveValidatePoint group point

def multiply (scalar point : Bytes 32) : Except Unit (Bytes 32) := do
  require (¬ (scalarIsCanonical scalar = false ∨ validPoint group point = false)) ()
  okOr (curveGroupMul group scalar point) ()

def add (left right : Bytes 32) : Except Unit (Bytes 32) := do
  require (¬ (validPoint group left = false ∨ validPoint group right = false)) ()
  okOr (curveGroupAdd group left right) ()

def hashToScalar (preimage : List Byte) : Bytes 32 :=
  reduceWideScalar (sha3 preimage)

def verifyNodeDnaKeyProofV1Sbf
    (scanPublicKey dna ephemeralPublicKey oneTimePublicKey : Bytes 32)
    (proof : DnaKeyDerivationProofV1) : Except Unit Unit := do
  require (¬ ([scanPublicKey, ephemeralPublicKey, oneTimePublicKey, proof.sharedPoint,
    proof.generatorCommitment, proof.scanCommitment].all (validPoint group) = false ∨
    scalarIsCanonical proof.response = false)) ()
  let challenge := hashToScalar sha3
    (challengePreimage scanPublicKey dna ephemeralPublicKey oneTimePublicKey proof)
  let responseGenerator ← multiply group proof.response generatorH
  let challengeEphemeral ← multiply group challenge ephemeralPublicKey
  let generatorSum ← add group proof.generatorCommitment challengeEphemeral
  require (responseGenerator = generatorSum) ()
  let responseScan ← multiply group proof.response scanPublicKey
  let challengeShared ← multiply group challenge proof.sharedPoint
  let scanSum ← add group proof.scanCommitment challengeShared
  require (responseScan = scanSum) ()
  let tweak := hashToScalar sha3 (dnaKeyTweakDomain ++ dna.1 ++ proof.sharedPoint.1)
  require (tweak ≠ zeroBytes) ()
  let oneTimePoint ← multiply group tweak scanPublicKey
  require (oneTimePoint = oneTimePublicKey) ()

end OnChain

section Encodings

variable {group} {sha3}

theorem compress_inj {left right : Point} :
    group.compress left = group.compress right ↔ left = right := by
  constructor
  · intro heq
    have hleft := (group.decompress_eq_some _ left).mpr rfl
    rw [heq, (group.decompress_eq_some _ right).mpr rfl] at hleft
    exact (Option.some.inj hleft).symm
  · exact congrArg _

theorem compress_eq_zeroBytes {point : Point} : group.compress point = zeroBytes ↔ point = 0 := by
  rw [← group.compress_zero, compress_inj]

theorem elgamalGenerator_ne_zero : group.elgamalGenerator ≠ 0 := by
  rw [Ne, ← compress_eq_zeroBytes, group.compress_elgamalGenerator]
  decide

theorem decodePoint_eq_ok {bytes : Bytes 32} {point : Point} :
    decodePoint group bytes = .ok point ↔ group.compress point = bytes := by
  rw [decodePoint, okOr_eq_ok, group.decompress_eq_some]

theorem val_lt (scalar : Scalar) : scalar.val < groupOrder :=
  ZMod.val_lt scalar

theorem leValue_scalarBytes (scalar : Scalar) : leValue (scalarBytes scalar).1 = scalar.val := by
  have horder : groupOrder ≤ 256 ^ 32 := by decide +kernel
  rw [coe_scalarBytes, leValue_leBytes, Nat.mod_eq_of_lt ((val_lt scalar).trans_le horder)]

theorem fromCanonicalBytes_eq_ok {bytes : Bytes 32} {scalar : Scalar} :
    fromCanonicalBytes bytes = .ok scalar ↔ bytes = scalarBytes scalar := by
  rw [fromCanonicalBytes]
  constructor
  · intro hbytes
    split at hbytes
    · next hlt =>
        obtain rfl := Except.ok.inj hbytes
        apply Subtype.ext
        have hvalue := leBytes_leValue bytes.1
        rw [bytes.2] at hvalue
        rw [coe_scalarBytes, ZMod.val_natCast, Nat.mod_eq_of_lt hlt, hvalue]
    · cases hbytes
  · rintro rfl
    rw [leValue_scalarBytes, if_pos (val_lt scalar), ZMod.natCast_zmod_val]

theorem fromCanonicalBytes_scalarBytes (scalar : Scalar) :
    fromCanonicalBytes (scalarBytes scalar) = .ok scalar :=
  fromCanonicalBytes_eq_ok.mpr rfl

theorem scalarIsCanonical_eq {bytes : Bytes 32} :
    scalarIsCanonical bytes = true ↔ ∃ scalar, bytes = scalarBytes scalar := by
  rw [scalarIsCanonical_iff]
  constructor
  · intro hlt
    exact ⟨_, fromCanonicalBytes_eq_ok.mp (if_pos hlt)⟩
  · rintro ⟨scalar, rfl⟩
    rw [leValue_scalarBytes]
    exact val_lt scalar

theorem reduceWideScalar_eq (wide : Bytes 64) :
    reduceWideScalar wide = scalarBytes (fromBytesModOrderWide wide) := by
  apply Subtype.ext
  rw [scalars_reduced.1, coe_scalarBytes, fromBytesModOrderWide, ZMod.val_natCast]

theorem scalarBytes_eq_zeroBytes {scalar : Scalar} : scalarBytes scalar = zeroBytes ↔ scalar = 0 := by
  constructor
  · intro heq
    have hvalue := leValue_scalarBytes scalar
    rw [heq] at hvalue
    exact (ZMod.val_eq_zero scalar).mp hvalue.symm
  · rintro rfl
    apply Subtype.ext
    rw [coe_scalarBytes, ZMod.val_zero]
    rfl

end Encodings

section Verifiers

/-- The relation that a proof shows between points that are not the identity: one nonce
answers the challenge for the generator and for the scan key, and the tweak gives the
one-time key. -/
structure ProofHolds (generator scan ephemeral oneTime shared generatorCommitment
    scanCommitment : Point) (response challenge tweak : Scalar) : Prop where
  scan_ne : scan ≠ 0
  ephemeral_ne : ephemeral ≠ 0
  oneTime_ne : oneTime ≠ 0
  shared_ne : shared ≠ 0
  generatorCommitment_ne : generatorCommitment ≠ 0
  scanCommitment_ne : scanCommitment ≠ 0
  generator_eq : response • generator = generatorCommitment + challenge • ephemeral
  scan_eq : response • scan = scanCommitment + challenge • shared
  tweak_ne : tweak ≠ 0
  oneTime_eq : tweak • scan = oneTime

/-- The encoded keys and proof stand for points and a response of which the relation holds. -/
def Accepted (scanPublicKey dna ephemeralPublicKey oneTimePublicKey : Bytes 32)
    (proof : DnaKeyDerivationProofV1) : Prop :=
  ∃ scan ephemeral oneTime shared generatorCommitment scanCommitment response,
    group.compress scan = scanPublicKey ∧ group.compress ephemeral = ephemeralPublicKey ∧
    group.compress oneTime = oneTimePublicKey ∧ group.compress shared = proof.sharedPoint ∧
    group.compress generatorCommitment = proof.generatorCommitment ∧
    group.compress scanCommitment = proof.scanCommitment ∧
    scalarBytes response = proof.response ∧
    ProofHolds group.elgamalGenerator scan ephemeral oneTime shared generatorCommitment
      scanCommitment response
      (proofChallenge sha3 scanPublicKey dna ephemeralPublicKey oneTimePublicKey proof)
      (tweakOf sha3 dna proof.sharedPoint)

variable {group} {sha3} {scanPublicKey dna ephemeralPublicKey oneTimePublicKey : Bytes 32}
  {proof : DnaKeyDerivationProofV1}

theorem verifyHost_iff [DecidableEq Point] :
    verifyNodeDnaKeyProofV1Host group sha3 scanPublicKey dna ephemeralPublicKey oneTimePublicKey
        proof = .ok () ↔
      Accepted group sha3 scanPublicKey dna ephemeralPublicKey oneTimePublicKey proof := by
  simp only [verifyNodeDnaKeyProofV1Host, tweakScalar, bind_eq_ok, pure_eq_ok, require_eq_ok,
    decodePoint_eq_ok, fromCanonicalBytes_eq_ok, not_or, not_not, ne_eq]
  constructor
  · rintro ⟨scan, hscan, ephemeral, hephemeral, oneTime, honeTime, shared, hshared,
      generatorCommitment, hgenerator, scanCommitment, hcommitment, response, hresponse, _,
      ⟨hscanNe, hephemeralNe, honeTimeNe, hsharedNe, hgeneratorNe, hcommitmentNe⟩, _,
      ⟨hfirst, hsecond⟩, tweak, ⟨_, htweak, rfl⟩, hkey⟩
    rw [hshared] at htweak hkey
    exact ⟨scan, ephemeral, oneTime, shared, generatorCommitment, scanCommitment, response,
      hscan, hephemeral, honeTime, hshared, hgenerator, hcommitment, hresponse.symm,
      hscanNe, hephemeralNe, honeTimeNe, hsharedNe, hgeneratorNe, hcommitmentNe, hfirst, hsecond,
      htweak, hkey⟩
  · rintro ⟨scan, ephemeral, oneTime, shared, generatorCommitment, scanCommitment, response,
      hscan, hephemeral, honeTime, hshared, hgenerator, hcommitment, hresponse,
      hscanNe, hephemeralNe, honeTimeNe, hsharedNe, hgeneratorNe, hcommitmentNe, hfirst, hsecond,
      htweak, hkey⟩
    refine ⟨scan, hscan, ephemeral, hephemeral, oneTime, honeTime, shared, hshared,
      generatorCommitment, hgenerator, scanCommitment, hcommitment, response, hresponse.symm, (),
      ⟨hscanNe, hephemeralNe, honeTimeNe, hsharedNe, hgeneratorNe, hcommitmentNe⟩, (),
      ⟨hfirst, hsecond⟩, _, ⟨(), ?_, rfl⟩, ?_⟩
    · rw [hshared]
      exact htweak
    · rw [hshared]
      exact hkey

theorem validPoint_iff {bytes : Bytes 32} :
    validPoint group bytes = true ↔ ∃ point, point ≠ 0 ∧ group.compress point = bytes := by
  rw [validPoint, curveValidatePoint]
  constructor
  · intro hvalid
    split at hvalid
    · cases hvalid
    · next hne =>
        obtain ⟨point, hpoint⟩ := Option.isSome_iff_exists.mp hvalid
        have hbytes := (group.decompress_eq_some _ _).mp hpoint
        refine ⟨point, ?_, hbytes⟩
        rintro rfl
        exact hne (hbytes.symm.trans group.compress_zero)
  · rintro ⟨point, hne, rfl⟩
    rw [if_neg (mt compress_eq_zeroBytes.mp hne), (group.decompress_eq_some _ point).mpr rfl]
    rfl

theorem validPoint_compress {point : Point} :
    validPoint group (group.compress point) = true ↔ point ≠ 0 := by
  rw [validPoint_iff]
  constructor
  · rintro ⟨other, hne, heq⟩
    rwa [← compress_inj.mp heq]
  · intro hne
    exact ⟨point, hne, rfl⟩

theorem multiply_scalarBytes {scalar : Scalar} {point : Point} (hpoint : point ≠ 0) :
    multiply group (scalarBytes scalar) (group.compress point) =
      .ok (group.compress (scalar • point)) := by
  have hcanonical : scalarIsCanonical (scalarBytes scalar) = true :=
    scalarIsCanonical_eq.mpr ⟨scalar, rfl⟩
  have hvalue : (leValue (scalarBytes scalar).1 : Scalar) = scalar := by
    rw [leValue_scalarBytes, ZMod.natCast_zmod_val]
  simp only [multiply, bind_eq_ok, require_eq_ok, okOr_eq_ok, curveGroupMul,
    (group.decompress_eq_some _ point).mpr rfl, hcanonical, validPoint_compress.mpr hpoint]
  exact ⟨(), by simp, congrArg some (by rw [hvalue])⟩

theorem add_eq_ok {left right : Point} {sum : Bytes 32} :
    add group (group.compress left) (group.compress right) = .ok sum ↔
      left ≠ 0 ∧ right ≠ 0 ∧ group.compress (left + right) = sum := by
  simp only [add, bind_eq_ok, require_eq_ok, okOr_eq_ok, curveGroupAdd,
    (group.decompress_eq_some _ left).mpr rfl, (group.decompress_eq_some _ right).mpr rfl, not_or,
    Bool.not_eq_false, validPoint_compress]
  constructor
  · rintro ⟨_, ⟨hleft, hright⟩, hsum⟩
    exact ⟨hleft, hright, Option.some.inj hsum⟩
  · rintro ⟨hleft, hright, hsum⟩
    exact ⟨(), ⟨hleft, hright⟩, congrArg some hsum⟩

theorem hashToScalar_challenge :
    hashToScalar sha3
        (challengePreimage scanPublicKey dna ephemeralPublicKey oneTimePublicKey proof) =
      scalarBytes
        (proofChallenge sha3 scanPublicKey dna ephemeralPublicKey oneTimePublicKey proof) :=
  reduceWideScalar_eq _

theorem hashToScalar_tweak {sharedPoint : Bytes 32} :
    hashToScalar sha3 (dnaKeyTweakDomain ++ dna.1 ++ sharedPoint.1) =
      scalarBytes (tweakOf sha3 dna sharedPoint) :=
  reduceWideScalar_eq _

/-- The verifier on chain also refuses the challenge 0, of which the sum has an identity. -/
theorem verifySbf_iff :
    verifyNodeDnaKeyProofV1Sbf group sha3 scanPublicKey dna ephemeralPublicKey oneTimePublicKey
        proof = .ok () ↔
      Accepted group sha3 scanPublicKey dna ephemeralPublicKey oneTimePublicKey proof ∧
        proofChallenge sha3 scanPublicKey dna ephemeralPublicKey oneTimePublicKey proof ≠ 0 := by
  have hgenerator : group.elgamalGenerator ≠ 0 := elgamalGenerator_ne_zero
  simp only [verifyNodeDnaKeyProofV1Sbf, bind_eq_ok, require_eq_ok, hashToScalar_challenge,
    hashToScalar_tweak, ← group.compress_elgamalGenerator, Accepted]
  simp only [List.all_cons, List.all_nil, Bool.and_true, not_or, Bool.not_eq_false,
    Bool.and_eq_true, validPoint_iff, scalarIsCanonical_eq]
  generalize proofChallenge sha3 scanPublicKey dna ephemeralPublicKey oneTimePublicKey proof =
    challenge
  generalize tweakOf sha3 dna proof.sharedPoint = tweak
  rcases proof with ⟨sharedPoint, generatorBytes, scanBytes, responseBytes⟩
  constructor
  · rintro ⟨_, ⟨⟨⟨scan, hscanNe, rfl⟩, ⟨ephemeral, hephemeralNe, rfl⟩,
      ⟨oneTime, honeTimeNe, rfl⟩, ⟨shared, hsharedNe, rfl⟩,
      ⟨generatorCommitment, hgeneratorNe, rfl⟩, ⟨scanCommitment, hcommitmentNe, rfl⟩⟩,
      response, rfl⟩, first, hfirst, second, hsecond, firstSum, hfirstSum, _, hfirstEq,
      third, hthird, fourth, hfourth, secondSum, hsecondSum, _, hsecondEq, _, htweak,
      key, hkey, hkeyEq⟩
    rw [multiply_scalarBytes hgenerator, Except.ok.injEq] at hfirst
    rw [multiply_scalarBytes hephemeralNe, Except.ok.injEq] at hsecond
    rw [multiply_scalarBytes hscanNe, Except.ok.injEq] at hthird hkey
    rw [multiply_scalarBytes hsharedNe, Except.ok.injEq] at hfourth
    rw [← hsecond, add_eq_ok] at hfirstSum
    rw [← hfourth, add_eq_ok] at hsecondSum
    obtain ⟨-, hchallengeNe, hfirstSum⟩ := hfirstSum
    obtain ⟨-, -, hsecondSum⟩ := hsecondSum
    rw [hfirstEq, ← hfirstSum, compress_inj] at hfirst
    rw [hsecondEq, ← hsecondSum, compress_inj] at hthird
    rw [hkeyEq, compress_inj] at hkey
    refine ⟨⟨scan, ephemeral, oneTime, shared, generatorCommitment, scanCommitment, response,
      rfl, rfl, rfl, rfl, rfl, rfl, rfl, hscanNe, hephemeralNe, honeTimeNe, hsharedNe,
      hgeneratorNe, hcommitmentNe, hfirst, hthird, mt scalarBytes_eq_zeroBytes.mpr htweak,
      hkey⟩, ?_⟩
    rintro rfl
    exact hchallengeNe (zero_smul _ _)
  · rintro ⟨⟨scan, ephemeral, oneTime, shared, generatorCommitment, scanCommitment, response,
      rfl, rfl, rfl, rfl, rfl, rfl, rfl, hholds⟩, hchallenge⟩
    refine ⟨(), ⟨⟨⟨scan, hholds.scan_ne, rfl⟩, ⟨ephemeral, hholds.ephemeral_ne, rfl⟩,
      ⟨oneTime, hholds.oneTime_ne, rfl⟩, ⟨shared, hholds.shared_ne, rfl⟩,
      ⟨generatorCommitment, hholds.generatorCommitment_ne, rfl⟩,
      ⟨scanCommitment, hholds.scanCommitment_ne, rfl⟩⟩, response, rfl⟩,
      _, multiply_scalarBytes hgenerator, _, multiply_scalarBytes hholds.ephemeral_ne,
      _, add_eq_ok.mpr ⟨hholds.generatorCommitment_ne,
        smul_ne_zero hchallenge hholds.ephemeral_ne, rfl⟩, (),
      congrArg group.compress hholds.generator_eq,
      _, multiply_scalarBytes hholds.scan_ne, _, multiply_scalarBytes hholds.shared_ne,
      _, add_eq_ok.mpr ⟨hholds.scanCommitment_ne, smul_ne_zero hchallenge hholds.shared_ne, rfl⟩,
      (), congrArg group.compress hholds.scan_eq, (),
      mt scalarBytes_eq_zeroBytes.mp hholds.tweak_ne,
      _, multiply_scalarBytes hholds.scan_ne, congrArg group.compress hholds.oneTime_eq⟩

end Verifiers

end TsnProtocol.Gpru.StealthKeys
