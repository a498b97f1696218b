import TsnProtocol.Node.SolanaPubkey

/-!
The curve test is exact: it finds the first coordinate of a point whenever there is one. A
program address is therefore off the curve, and its bump the largest that leads off it.
-/

namespace TsnProtocol.Node.CurvePoints

open Gpru.Verifier (asciiBytes)
open Lib.ByteReader
open Lib.Checked
open Lib.SquareRoots
open Node.SolanaPubkey
open Solana.Address (Bytes32)
open Solana.Curve25519

/-- 32 bytes that decompress to a point: the low 255 bits are a canonical second coordinate
with some first coordinate on the curve, which is not zero where the top bit is set. -/
structure IsCurvePoint (data : List Byte) : Prop where
  length : data.length = 32
  canonical : coordinateOf data < ed25519P
  point : ∃ x : Fp, OnCurve x (coordinateOf data) ∧ ¬ (x = 0 ∧ signOf data = 1)

section Residues

theorem natCast_toNat_emod (value : Int) :
    ((value % ed25519P).toNat : Fp) = (value : Fp) := by
  have hnonneg : 0 ≤ value % ed25519P := Int.emod_nonneg _ (by decide)
  rw [← Int.cast_natCast, Int.toNat_of_nonneg hnonneg, ZMod.intCast_mod]

theorem natCast_eq_zero {value : Nat} (hvalue : value < ed25519P) :
    (value : Fp) = 0 ↔ value = 0 := by
  rw [ZMod.natCast_eq_zero_iff]
  constructor
  · exact fun hdvd => Nat.eq_zero_of_dvd_of_lt hdvd hvalue
  · rintro rfl
    exact dvd_zero _

theorem isRatioRoot_iff (u v x : Nat) :
    isRatioRoot u v x = true ↔ (v : Fp) * (x : Fp) ^ 2 = u := by
  have hcast : (((((x * x % ed25519P * v : Nat) : Int) - u : Int)) : Fp) =
      (v : Fp) * (x : Fp) ^ 2 - u := by
    push_cast
    ring
  rw [isRatioRoot, decide_eq_true_eq, ← Int.dvd_iff_emod_eq_zero,
    ← ZMod.intCast_zmod_eq_zero_iff_dvd, hcast, sub_eq_zero]

theorem natCast_candidate (u v : Nat) :
    ((u * powMod ed25519P v 3 * powMod ed25519P (u * powMod ed25519P v 7 % ed25519P)
      ((ed25519P - 5) / 8) % ed25519P : Nat) : Fp) = rootCandidate (u : Fp) (v : Fp) := by
  rw [ZMod.natCast_mod]
  push_cast
  rw [natCast_powMod, natCast_powMod, ZMod.natCast_mod]
  push_cast
  rw [natCast_powMod, rootCandidate, ZMod.card]

end Residues

section Test

variable {u v candidate : Nat} {y : Fp}

/-- What is left of the test after the ratio and the candidate have been computed. -/
theorem corrected_iff (hu : (u : Fp) = y ^ 2 - 1)
    (hv : (v : Fp) = (ed25519D : Fp) * y ^ 2 + 1)
    (hcandidate : (candidate : Fp) = rootCandidate (u : Fp) (v : Fp)) :
    (isRatioRoot u v (if isRatioRoot u v candidate then candidate
      else candidate * ed25519SqrtM1 % ed25519P) = true) ↔ ∃ x : Fp, OnCurve x y := by
  have hne : (v : Fp) ≠ 0 := by
    rw [hv]
    exact denominator_ne_zero y
  have hmultiple : ((candidate * ed25519SqrtM1 % ed25519P : Nat) : Fp) =
      rootCandidate (u : Fp) (v : Fp) * (ed25519SqrtM1 : Fp) := by
    rw [ZMod.natCast_mod, Nat.cast_mul, hcandidate]
  simp only [onCurve_iff, ← hv, ← hu]
  rw [exists_root_iff card_fp ed25519SqrtM1_sq hne]
  split_ifs with hroot
  · rw [isRatioRoot_iff, hcandidate] at hroot
    rw [isRatioRoot_iff, hcandidate]
    exact ⟨Or.inl, fun _ => hroot⟩
  · rw [isRatioRoot_iff, hcandidate] at hroot
    rw [isRatioRoot_iff, hmultiple]
    exact ⟨Or.inr, fun hroots => hroots.resolve_left hroot⟩

/-- Every first coordinate over one second coordinate is zero, or none is. -/
theorem forall_zero_iff (hu : (u : Fp) = y ^ 2 - 1)
    (hv : (v : Fp) = (ed25519D : Fp) * y ^ 2 + 1) {x : Nat} (hx : x < ed25519P)
    (hroot : isRatioRoot u v x = true) {x' : Fp} (hcurve : OnCurve x' y) : x' = 0 ↔ x = 0 := by
  have hne : (v : Fp) ≠ 0 := by
    rw [hv]
    exact denominator_ne_zero y
  rw [onCurve_iff, ← hv, ← hu] at hcurve
  rw [isRatioRoot_iff] at hroot
  rw [root_eq_zero_iff hne hcurve, ← natCast_eq_zero hx, root_eq_zero_iff hne hroot]

theorem isEd25519CurvePoint_iff (data : List Byte) :
    isEd25519CurvePoint data = true ↔ IsCurvePoint data := by
  by_cases hlength : data.length = 32
  swap
  · rw [isEd25519CurvePoint, if_pos hlength]
    exact ⟨nofun, fun hpoint => absurd hpoint.length hlength⟩
  by_cases hcanonical : coordinateOf data < ed25519P
  swap
  · rw [isEd25519CurvePoint, if_neg (not_not.mpr hlength), if_pos (Nat.le_of_not_lt hcanonical)]
    exact ⟨nofun, fun hpoint => absurd hpoint.canonical hcanonical⟩
  rw [isEd25519CurvePoint, if_neg (not_not.mpr hlength), if_neg (Nat.not_le.mpr hcanonical)]
  have hu : (((((coordinateOf data * coordinateOf data % ed25519P : Nat) : Int) - 1) %
      ed25519P).toNat : Fp) = (coordinateOf data : Fp) ^ 2 - 1 := by
    rw [natCast_toNat_emod]
    push_cast
    ring
  have hv : (((ed25519D * (coordinateOf data * coordinateOf data % ed25519P) + 1) % ed25519P :
      Nat) : Fp) = (ed25519D : Fp) * (coordinateOf data : Fp) ^ 2 + 1 := by
    rw [ZMod.natCast_mod]
    push_cast
    rw [ZMod.natCast_mod]
    push_cast
    ring
  have hcandidate := natCast_candidate
    ((((coordinateOf data * coordinateOf data % ed25519P : Nat) : Int) - 1) % ed25519P).toNat
    ((ed25519D * (coordinateOf data * coordinateOf data % ed25519P) + 1) % ed25519P)
  dsimp only
  generalize ((((coordinateOf data * coordinateOf data % ed25519P : Nat) : Int) - 1) %
    ed25519P).toNat = u at hu hcandidate ⊢
  generalize (ed25519D * (coordinateOf data * coordinateOf data % ed25519P) + 1) % ed25519P = v
    at hv hcandidate ⊢
  have hlt : u * powMod ed25519P v 3 * powMod ed25519P (u * powMod ed25519P v 7 % ed25519P)
      ((ed25519P - 5) / 8) % ed25519P < ed25519P := Nat.mod_lt _ (by decide)
  generalize u * powMod ed25519P v 3 * powMod ed25519P (u * powMod ed25519P v 7 % ed25519P)
    ((ed25519P - 5) / 8) % ed25519P = candidate at hlt hcandidate ⊢
  have hcorrected := corrected_iff hu hv hcandidate
  have hltCorrected : (if isRatioRoot u v candidate then candidate
      else candidate * ed25519SqrtM1 % ed25519P) < ed25519P := by
    split_ifs
    · exact hlt
    · exact Nat.mod_lt _ (by decide)
  generalize (if isRatioRoot u v candidate then candidate
    else candidate * ed25519SqrtM1 % ed25519P) = x at hcorrected hltCorrected ⊢
  by_cases hroot : isRatioRoot u v x = true
  · obtain ⟨x', hcurve⟩ := hcorrected.mp hroot
    have hzero := fun {x' : Fp} => @forall_zero_iff u v _ hu hv x hltCorrected hroot x'
    rw [if_pos hroot, Bool.not_eq_true', Bool.and_eq_false_iff, decide_eq_false_iff_not,
      decide_eq_false_iff_not, ← not_and_or]
    constructor
    · intro hsign
      exact ⟨hlength, hcanonical, x', hcurve, fun hboth => hsign ⟨(hzero hcurve).mp hboth.1,
        hboth.2⟩⟩
    · rintro ⟨-, -, x'', hcurve', hsign⟩ hboth
      exact hsign ⟨(hzero hcurve').mpr hboth.1, hboth.2⟩
  · rw [if_neg hroot]
    constructor
    · exact nofun
    · rintro ⟨-, -, x', hcurve, -⟩
      exact absurd (hcorrected.mpr ⟨x', hcurve⟩) hroot

end Test

section Addresses

variable {sha256 : List Byte → Bytes32} {seeds : List (List Byte)} {programId : List Byte}
  {address : PublicKey} {bump : Nat}

theorem createProgramAddress_eq_ok
    (hcreate : createProgramAddress sha256 seeds programId = .ok address) :
    address.bytes = addressDigest sha256 seeds programId ∧
      ¬ IsCurvePoint (addressDigest sha256 seeds programId) := by
  simp only [createProgramAddress, bind_eq_ok, require_eq_ok, exists_const] at hcreate
  obtain ⟨-, -, -, hoff, hnew⟩ := hcreate
  rw [PublicKey.new] at hnew
  split_ifs at hnew with hsize
  refine ⟨(congrArg PublicKey.bytes (Except.ok.inj hnew)).symm, ?_⟩
  rw [← isEd25519CurvePoint_iff, hoff]
  decide

theorem onCurve_of_createProgramAddress
    (hcreate : createProgramAddress sha256 seeds programId = .error onCurveProblem) :
    IsCurvePoint (addressDigest sha256 seeds programId) := by
  rw [← isEd25519CurvePoint_iff]
  by_contra hoff
  rw [Bool.not_eq_true] at hoff
  have hdigest : (addressDigest sha256 seeds programId).length = 32 := length_wordBytes _
  simp only [createProgramAddress, require, bind, Except.bind, hoff, PublicKey.new,
    dif_pos hdigest] at hcreate
  split_ifs at hcreate <;> revert hcreate <;> simp [onCurveProblem]

/-- The first bump that leads off the curve, counted down. -/
theorem findFrom_eq_ok {start : Nat}
    (hfind : findFrom sha256 seeds programId start = .ok (address, bump)) :
    bump ≤ start ∧
      createProgramAddress sha256 (withBump seeds bump) programId = .ok address ∧
      ∀ larger, bump < larger → larger ≤ start →
        IsCurvePoint (addressDigest sha256 (withBump seeds larger) programId) := by
  induction start with
  | zero =>
      rw [findFrom, tryBump] at hfind
      split at hfind
      · rename_i first hcreate
        obtain ⟨rfl, rfl⟩ := Prod.mk.inj (Except.ok.inj hfind)
        exact ⟨le_rfl, hcreate, fun larger hlarger hle => by omega⟩
      · split_ifs at hfind
  | succ start ih =>
      rw [findFrom, tryBump] at hfind
      split at hfind
      · rename_i first hcreate
        obtain ⟨rfl, rfl⟩ := Prod.mk.inj (Except.ok.inj hfind)
        exact ⟨le_rfl, hcreate, fun larger hlarger hle => by omega⟩
      · rename_i problem hcreate
        split_ifs at hfind with hproblem
        rw [hproblem] at hcreate
        obtain ⟨hbump, haddress, hcurve⟩ := ih hfind
        refine ⟨by omega, haddress, fun larger hlarger hle => ?_⟩
        rcases Nat.lt_or_eq_of_le hle with hlt | rfl
        · exact hcurve larger hlarger (by omega)
        · exact onCurve_of_createProgramAddress hcreate

end Addresses

/-- The test is exact, and an address is found under the largest bump that leads off the
curve. -/
theorem curve_test_exact (sha256 : List Byte → Bytes32) :
    (∀ data, isEd25519CurvePoint data = true ↔ IsCurvePoint data) ∧
      ∀ seeds programId address bump,
        findProgramAddress sha256 seeds programId = .ok (address, bump) →
          bump ≤ 255 ∧ address.bytes = addressDigest sha256 (withBump seeds bump) programId ∧
            ¬ IsCurvePoint address.bytes ∧
            ∀ larger, bump < larger → larger ≤ 255 →
              IsCurvePoint (addressDigest sha256 (withBump seeds larger) programId) := by
  refine ⟨isEd25519CurvePoint_iff, fun seeds programId address bump hfind => ?_⟩
  obtain ⟨hbump, hcreate, hcurve⟩ := findFrom_eq_ok hfind
  obtain ⟨hbytes, hoff⟩ := createProgramAddress_eq_ok hcreate
  exact ⟨hbump, hbytes, hbytes ▸ hoff, hcurve⟩

section Sample

def sampleSeed : List Byte := asciiBytes "tcap:asset-registry:v1"

def sampleProgram : List Byte :=
  wordBytes 0x0d1db5b270ec29533703581e1b0d917164c0e8260765cf3e39c92fd9a1f54582

def sampleInput (bump : Nat) : List Byte :=
  (withBump [sampleSeed] bump).flatten ++ (sampleProgram ++ pdaMarker)

/-- The digests of the three inputs that the sample hashes. -/
def sampleSha256 (input : List Byte) : Bytes32 :=
  if input = sampleInput 255 then
    0x29699c5ad4d2d19fa032bb7c6938cceced3d4624ffc96a47a3530dcb1418a05a
  else if input = sampleInput 254 then
    0x5eee0e9d31c79ba9b60001686bbfed1a2452c2f14ce615ffff71b127fbb9b45f
  else
    0xa55eaa034a6fd842f1da4b4706cfee74484ed5205711d838b7bf733f946c11ce

def sampleAddress : PublicKey :=
  ⟨wordBytes 0xa55eaa034a6fd842f1da4b4706cfee74484ed5205711d838b7bf733f946c11ce,
    length_wordBytes _⟩

theorem findProgramAddress_sample :
    findProgramAddress sampleSha256 [sampleSeed] sampleProgram = .ok (sampleAddress, 253) := by
  decide +kernel

theorem curve_test_exact_sample :
    ¬ IsCurvePoint sampleAddress.bytes ∧
      IsCurvePoint (addressDigest sampleSha256 (withBump [sampleSeed] 254) sampleProgram) ∧
      IsCurvePoint (addressDigest sampleSha256 (withBump [sampleSeed] 255) sampleProgram) := by
  obtain ⟨-, -, hoff, hcurve⟩ := (curve_test_exact sampleSha256).2 [sampleSeed] sampleProgram
    sampleAddress 253 findProgramAddress_sample
  exact ⟨hoff, hcurve 254 (by decide) (by decide), hcurve 255 (by decide) (by decide)⟩

end Sample

end TsnProtocol.Node.CurvePoints
