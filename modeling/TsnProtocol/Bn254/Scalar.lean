import TsnProtocol.Solana.Address

/-!
Reduction of 32-byte digests into the BN254 scalar field, as the programs do it
before a digest becomes a public input.
-/

namespace TsnProtocol.Bn254.Scalar

open Solana.Address

/-- Order of the BN254 scalar field. -/
def bn254ScalarOrder : Nat :=
  21888242871839275222246405745257275088548364400416034343698204186575808495617

/-- A digest reduced into the scalar field by repeated subtraction. -/
def sha256ToBn254Scalar (value : Bytes32) : Bytes32 :=
  if bn254ScalarOrder ≤ value.toNat then
    sha256ToBn254Scalar (BitVec.ofNat 256 (value.toNat - bn254ScalarOrder))
  else
    value
termination_by value.toNat
decreasing_by
  rw [BitVec.toNat_ofNat, Nat.mod_eq_of_lt (by omega)]
  simp only [bn254ScalarOrder] at *
  omega

theorem toNat_sha256ToBn254Scalar (value : Bytes32) :
    (sha256ToBn254Scalar value).toNat = value.toNat % bn254ScalarOrder := by
  induction value using sha256ToBn254Scalar.induct with
  | case1 value hlarge ih =>
      have hbound : value.toNat - bn254ScalarOrder < 2 ^ 256 := by omega
      rw [sha256ToBn254Scalar, if_pos hlarge, ih, BitVec.toNat_ofNat,
        Nat.mod_eq_of_lt hbound, ← Nat.mod_eq_sub_mod hlarge]
  | case2 value hsmall =>
      rw [sha256ToBn254Scalar, if_neg hsmall, Nat.mod_eq_of_lt (by omega)]

end TsnProtocol.Bn254.Scalar
