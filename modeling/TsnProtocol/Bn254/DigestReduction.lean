import TsnProtocol.Bn254.Scalar
import TsnProtocol.Lib.BorrowSubtraction

/-!
The byte-wise reductions of a digest in the programs GPRU, TCAP and TSN. Each holds its
own copy of the modulus and runs the same loop over it; `Bn254.Scalar` keeps the reduction
as the other models use it, on numbers.
-/

namespace TsnProtocol.Bn254.DigestReduction

open Lib.ByteReader
open Lib.BorrowSubtraction
open Bn254.Scalar

/-- An array `[u8; 32]`. -/
abbrev Bytes := List.Vector Byte 32

def bn254ScalarModulusBe : Bytes :=
  ⟨[0x30, 0x64, 0x4e, 0x72, 0xe1, 0x31, 0xa0, 0x29,
    0xb8, 0x50, 0x45, 0xb6, 0x81, 0x81, 0x58, 0x5d,
    0x28, 0x33, 0xe8, 0x48, 0x79, 0xb9, 0x70, 0x91,
    0x43, 0xe1, 0xf5, 0x93, 0xf0, 0x00, 0x00, 0x01], rfl⟩

def tcapModulus : Bytes :=
  ⟨[0x30, 0x64, 0x4e, 0x72, 0xe1, 0x31, 0xa0, 0x29,
    0xb8, 0x50, 0x45, 0xb6, 0x81, 0x81, 0x58, 0x5d,
    0x28, 0x33, 0xe8, 0x48, 0x79, 0xb9, 0x70, 0x91,
    0x43, 0xe1, 0xf5, 0x93, 0xf0, 0x00, 0x00, 0x01], rfl⟩

def tsnModulus : Bytes :=
  ⟨[0x30, 0x64, 0x4e, 0x72, 0xe1, 0x31, 0xa0, 0x29,
    0xb8, 0x50, 0x45, 0xb6, 0x81, 0x81, 0x58, 0x5d,
    0x28, 0x33, 0xe8, 0x48, 0x79, 0xb9, 0x70, 0x91,
    0x43, 0xe1, 0xf5, 0x93, 0xf0, 0x00, 0x00, 0x01], rfl⟩

/-- `sha256_to_bn254_scalar` of GPRU, where the loop may run `fuel` times. -/
def gpruSha256ToBn254Scalar (fuel : Nat) (value : Bytes) : Option Bytes :=
  reduce bn254ScalarModulusBe fuel value

/-- `sha256_to_bn254_scalar` of TCAP. -/
def tcapSha256ToBn254Scalar (fuel : Nat) (value : Bytes) : Option Bytes :=
  reduce tcapModulus fuel value

/-- `sha256_to_bn254_scalar` of TSN. -/
def tsnSha256ToBn254Scalar (fuel : Nat) (value : Bytes) : Option Bytes :=
  reduce tsnModulus fuel value

theorem beValue_bn254ScalarModulusBe : beValue bn254ScalarModulusBe.1 = bn254ScalarOrder := by
  decide +kernel

theorem tcapModulus_eq : tcapModulus = bn254ScalarModulusBe := rfl

theorem tsnModulus_eq : tsnModulus = bn254ScalarModulusBe := rfl

/-- Five moduli fit below `2 ^ 256`, so the test of the loop is reached at most six times. -/
theorem reduce_bn254ScalarModulusBe (digest : Bytes) {fuel : Nat} (hfuel : 6 ≤ fuel) :
    ∃ scalar, reduce bn254ScalarModulusBe fuel digest = some scalar ∧
      beValue scalar.1 = beValue digest.1 % bn254ScalarOrder := by
  rw [← beValue_bn254ScalarModulusBe]
  apply reduce_eq_some
  have hdigest := beValue_lt digest.1
  rw [List.Vector.length_val] at hdigest
  calc
    beValue digest.1 < 256 ^ 32 := hdigest
    _ ≤ 6 * beValue bn254ScalarModulusBe.1 := by
      rw [beValue_bn254ScalarModulusBe]
      decide
    _ ≤ _ := Nat.mul_le_mul_right _ hfuel

theorem bytes_eq_of_beValue {left right : Bytes} (hvalue : beValue left.1 = beValue right.1) :
    left = right := by
  apply Subtype.ext
  rw [← beBytes_beValue left.2, ← beBytes_beValue right.2, hvalue]

/-- From six rounds of the loop on, each of the three programs returns, and they return one
scalar: the digest modulo the order of the field. -/
theorem sha256ToBn254Scalar_eq_mod (digest : Bytes) :
    ∃ scalar : Bytes,
      (∀ fuel, 6 ≤ fuel →
        gpruSha256ToBn254Scalar fuel digest = some scalar ∧
        tcapSha256ToBn254Scalar fuel digest = some scalar ∧
        tsnSha256ToBn254Scalar fuel digest = some scalar) ∧
      beValue scalar.1 = beValue digest.1 % bn254ScalarOrder ∧
      beValue scalar.1 < bn254ScalarOrder := by
  obtain ⟨scalar, -, hvalue⟩ := reduce_bn254ScalarModulusBe digest (le_refl 6)
  refine ⟨scalar, ?_, hvalue, ?_⟩
  · intro fuel hfuel
    obtain ⟨other, hreduce, hother⟩ := reduce_bn254ScalarModulusBe digest hfuel
    obtain rfl : other = scalar := bytes_eq_of_beValue (hother.trans hvalue.symm)
    rw [gpruSha256ToBn254Scalar, tcapSha256ToBn254Scalar, tsnSha256ToBn254Scalar,
      tcapModulus_eq, tsnModulus_eq]
    exact ⟨hreduce, hreduce, hreduce⟩
  · rw [hvalue]
    exact Nat.mod_lt _ (by decide)

end TsnProtocol.Bn254.DigestReduction
