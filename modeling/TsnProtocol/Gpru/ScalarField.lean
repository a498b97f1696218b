import Mathlib
import TsnProtocol.Gpru.ScalarReduction
import TsnProtocol.Lib.Lucas

/-!
The scalars of the Ristretto group form a field: its order is a prime.
-/

namespace TsnProtocol.Gpru.ScalarField

open Gpru.ScalarReduction
open Lib.Lucas

section Prime

theorem prime_292386187 : Nat.Prime 292386187 := by
  refine prime_of_lucas 2 [2, 3, 307, 5879] 4 ?_ ?_ ?_ ?_
  · norm_num
  · norm_num
  · reduce_mod_char
  · norm_num
    reduce_mod_char
    decide

theorem prime_213441916511 : Nat.Prime 213441916511 := by
  refine prime_of_lucas 13 [2, 5, 73, 292386187] 1 ?_ ?_ ?_ ?_
  · refine ⟨?_, ?_, ?_, prime_292386187⟩ <;> norm_num
  · norm_num
  · reduce_mod_char
  · norm_num
    reduce_mod_char
    decide

theorem prime_1257559732178653 : Nat.Prime 1257559732178653 := by
  refine prime_of_lucas 2 [2, 3, 7, 23, 531581, 1224481] 2 ?_ ?_ ?_ ?_
  · norm_num
  · norm_num
  · reduce_mod_char
  · norm_num
    reduce_mod_char
    decide

theorem prime_4434155615661930479 : Nat.Prime 4434155615661930479 := by
  refine prime_of_lucas 17 [2, 41, 43, 1257559732178653] 1 ?_ ?_ ?_ ?_
  · refine ⟨?_, ?_, ?_, prime_1257559732178653⟩ <;> norm_num
  · norm_num
  · reduce_mod_char
  · norm_num
    reduce_mod_char
    decide

theorem prime_172054593956031949258510691 : Nat.Prime 172054593956031949258510691 := by
  refine prime_of_lucas 2 [2, 5, 1361, 2851, 4434155615661930479] 1 ?_ ?_ ?_ ?_
  · refine ⟨?_, ?_, ?_, ?_, prime_4434155615661930479⟩ <;> norm_num
  · norm_num
  · reduce_mod_char
  · norm_num
    reduce_mod_char
    decide

theorem prime_3044861653679985063343 : Nat.Prime 3044861653679985063343 := by
  refine prime_of_lucas 5 [2, 3, 11, 30703, 82163, 132667, 137849] 1 ?_ ?_ ?_ ?_
  · norm_num
  · norm_num
  · reduce_mod_char
  · norm_num
    reduce_mod_char
    decide

theorem prime_198211423230930754013084525763697 :
    Nat.Prime 198211423230930754013084525763697 := by
  refine prime_of_lucas 5 [2, 3, 23, 58964693, 3044861653679985063343] 4 ?_ ?_ ?_ ?_
  · refine ⟨?_, ?_, ?_, ?_, prime_3044861653679985063343⟩ <;> norm_num
  · norm_num
  · reduce_mod_char
  · norm_num
    reduce_mod_char
    decide

theorem prime_19757330305831588566944191468367130476339 :
    Nat.Prime 19757330305831588566944191468367130476339 := by
  refine prime_of_lucas 2 [2, 269, 213441916511, 172054593956031949258510691] 1 ?_ ?_ ?_ ?_
  · refine ⟨?_, ?_, prime_213441916511, prime_172054593956031949258510691⟩ <;> norm_num
  · norm_num
  · reduce_mod_char
  · norm_num
    reduce_mod_char
    decide

theorem prime_276602624281642239937218680557139826668747 :
    Nat.Prime 276602624281642239937218680557139826668747 := by
  refine prime_of_lucas 2 [2, 7, 19757330305831588566944191468367130476339] 1 ?_ ?_ ?_ ?_
  · refine ⟨?_, ?_, prime_19757330305831588566944191468367130476339⟩ <;> norm_num
  · norm_num
  · reduce_mod_char
  · norm_num
    reduce_mod_char
    decide

theorem prime_groupOrder : Nat.Prime groupOrder := by
  have horder : groupOrder =
      7237005577332262213973186563042994240857116359379907606001950938285454250989 := by
    norm_num [groupOrder]
  rw [horder]
  refine prime_of_lucas 2
    [2, 3, 11, 198211423230930754013084525763697, 276602624281642239937218680557139826668747] 2
    ?_ ?_ ?_ ?_
  · refine ⟨?_, ?_, ?_, prime_198211423230930754013084525763697,
      prime_276602624281642239937218680557139826668747⟩ <;> norm_num
  · norm_num
  · reduce_mod_char
  · norm_num
    reduce_mod_char
    decide

end Prime

instance : Fact (Nat.Prime groupOrder) := ⟨prime_groupOrder⟩

example : 2 ^ 252 < groupOrder := by
  decide +kernel

end TsnProtocol.Gpru.ScalarField
