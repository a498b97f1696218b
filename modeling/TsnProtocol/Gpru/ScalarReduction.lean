import TsnProtocol.Lib.Limbs

/-!
Scalars of the DNA key proof on chain: the test that a scalar is canonical, and the
reduction of a hash of 64 bytes modulo the group order, one bit at a time.
-/

namespace TsnProtocol.Gpru.ScalarReduction

open Lib.ByteReader
open Lib.Limbs

abbrev Bytes (size : Nat) := List.Vector Byte size

def scalarOrder : List (BitVec 64) :=
  [0x5812631a5cf5d3ed, 0x14def9dea2f79cd6, 0, 0x1000000000000000]

/-- The order of the Ed25519 group. -/
def groupOrder : Nat :=
  2 ^ 252 + 27742317777372353535851937790883648493

theorem value_scalarOrder : value scalarOrder = groupOrder := by
  decide +kernel

def scalarIsCanonical (bytes : Bytes 32) : Bool :=
  compareTop (limbsOfBytes 4 bytes.1) scalarOrder = .lt

def inputBit (wide : Bytes 64) (bitIndex : Nat) : Bool :=
  ((wide.1[bitIndex / 8]?).getD 0 >>> (bitIndex % 8)) &&& 1 = 1

def reducedLimbs (wide : Bytes 64) : List (BitVec 64) :=
  ((List.range 512).reverse.map (inputBit wide)).foldl (shiftIn scalarOrder) [0, 0, 0, 0]

theorem inputBit_eq (wide : Bytes 64) : inputBit wide = (leValue wide.1).testBit := by
  funext position
  rw [testBit_leValue, inputBit]
  generalize (wide.1[position / 8]?).getD 0 = byte
  rw [BitVec.getLsbD, Nat.testBit_eq_decide_div_mod_eq, decide_eq_decide, ← BitVec.toNat_inj,
    BitVec.toNat_and, BitVec.toNat_ushiftRight, Nat.shiftRight_eq_div_pow]
  exact iff_of_eq (congrArg (· = 1) (Nat.and_one_is_mod _))

theorem reducedLimbs_spec (wide : Bytes 64) :
    value (reducedLimbs wide) = leValue wide.1 % groupOrder ∧ (reducedLimbs wide).length = 4 := by
  have hlt := leValue_lt wide.1
  rw [wide.2] at hlt
  obtain ⟨hvalue, hlength⟩ := @value_foldl_shiftIn 64 scalarOrder [0, 0, 0, 0] (by omega) rfl
    (by decide +kernel) (by decide +kernel) ((List.range 512).reverse.map (inputBit wide))
  refine ⟨?_, hlength⟩
  have hzero : value ([0, 0, 0, 0] : List (BitVec 64)) = 0 := rfl
  rw [reducedLimbs, hvalue, inputBit_eq, foldl_testBit, value_scalarOrder, hzero, Nat.mul_zero,
    Nat.zero_add, Nat.mod_eq_of_lt (lt_of_lt_of_le hlt (by decide +kernel))]

def reduceWideScalar (wide : Bytes 64) : Bytes 32 :=
  ⟨bytesOfLimbs (reducedLimbs wide), by
    rw [length_bytesOfLimbs, (reducedLimbs_spec wide).2]⟩

theorem leValue_reduceWideScalar (wide : Bytes 64) :
    leValue (reduceWideScalar wide).1 = leValue wide.1 % groupOrder := by
  rw [reduceWideScalar, leValue_bytesOfLimbs, (reducedLimbs_spec wide).1]

theorem scalarIsCanonical_iff (bytes : Bytes 32) :
    scalarIsCanonical bytes = true ↔ leValue bytes.1 < groupOrder := by
  rw [scalarIsCanonical, decide_eq_true_iff, compareTop_eq_lt (length_limbsOfBytes 4 bytes.1),
    value_limbsOfBytes bytes.2, value_scalarOrder]

theorem scalars_reduced :
    (∀ wide : Bytes 64, (reduceWideScalar wide).1 = leBytes 32 (leValue wide.1 % groupOrder)) ∧
      ∀ bytes : Bytes 32, scalarIsCanonical bytes = true ↔ leValue bytes.1 < groupOrder := by
  refine ⟨fun wide => ?_, scalarIsCanonical_iff⟩
  have hbytes := leBytes_leValue (reduceWideScalar wide).1
  rw [(reduceWideScalar wide).2, leValue_reduceWideScalar] at hbytes
  exact hbytes.symm

end TsnProtocol.Gpru.ScalarReduction
