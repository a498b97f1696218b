import Mathlib
import TsnProtocol.Bn254.Scalar
import TsnProtocol.Lib.Lucas

/-!
The BN254 scalar field, over which the circuit computes.
-/

namespace TsnProtocol.Bn254.Field

open Bn254.Scalar
open Lib.Lucas

/-- Signals of a circuit. -/
abbrev Fr := ZMod bn254ScalarOrder

section Prime

theorem prime_405928799 : Nat.Prime 405928799 := by
  refine prime_of_lucas 22 [2, 11, 3691, 4999] 1 ?_ ?_ ?_ ?_
  · norm_num
  · norm_num
  · reduce_mod_char
  · norm_num
    reduce_mod_char
    decide

theorem prime_639533339 : Nat.Prime 639533339 := by
  refine prime_of_lucas 2 [2, 229, 853, 1637] 1 ?_ ?_ ?_ ?_
  · norm_num
  · norm_num
  · reduce_mod_char
  · norm_num
    reduce_mod_char
    decide

theorem prime_12048837557 : Nat.Prime 12048837557 := by
  refine prime_of_lucas 2 [2, 7, 661, 93001] 2 ?_ ?_ ?_ ?_
  · norm_num
  · norm_num
  · reduce_mod_char
  · norm_num
    reduce_mod_char
    decide

theorem prime_5156902474397 : Nat.Prime 5156902474397 := by
  refine prime_of_lucas 2 [2, 107, 12048837557] 2 ?_ ?_ ?_ ?_
  · refine ⟨?_, ?_, prime_12048837557⟩ <;> norm_num
  · norm_num
  · reduce_mod_char
  · norm_num
    reduce_mod_char
    decide

theorem prime_1670836401704629 : Nat.Prime 1670836401704629 := by
  refine prime_of_lucas 2 [2, 3, 5156902474397] 4 ?_ ?_ ?_ ?_
  · refine ⟨?_, ?_, prime_5156902474397⟩ <;> norm_num
  · norm_num
  · reduce_mod_char
  · norm_num
    reduce_mod_char
    decide

theorem prime_65865678001877903 : Nat.Prime 65865678001877903 := by
  refine prime_of_lucas 5 [2, 83, 379, 1637, 639533339] 1 ?_ ?_ ?_ ?_
  · refine ⟨?_, ?_, ?_, ?_, prime_639533339⟩ <;> norm_num
  · norm_num
  · reduce_mod_char
  · norm_num
    reduce_mod_char
    decide

theorem prime_13818364434197438864469338081 :
    Nat.Prime 13818364434197438864469338081 := by
  refine prime_of_lucas 3 [2, 5, 823, 1593227, 65865678001877903] 5 ?_ ?_ ?_ ?_
  · refine ⟨?_, ?_, ?_, ?_, prime_65865678001877903⟩ <;> norm_num
  · norm_num
  · reduce_mod_char
  · norm_num
    reduce_mod_char
    decide

theorem prime_bn254ScalarOrder : Nat.Prime bn254ScalarOrder := by
  unfold bn254ScalarOrder
  refine prime_of_lucas 5
    [2, 3, 13, 29, 983, 11003, 237073, 405928799, 1670836401704629,
      13818364434197438864469338081] 28 ?_ ?_ ?_ ?_
  · refine ⟨?_, ?_, ?_, ?_, ?_, ?_, ?_, prime_405928799, prime_1670836401704629,
      prime_13818364434197438864469338081⟩ <;> norm_num
  · norm_num
  · reduce_mod_char
  · norm_num
    reduce_mod_char
    decide

end Prime

instance : Fact (Nat.Prime bn254ScalarOrder) := ⟨prime_bn254ScalarOrder⟩

end TsnProtocol.Bn254.Field
