import TsnProtocol.Circomlib.BabyJub

/-!
The order of the base of the BabyJubjub subgroup: the suborder is prime.
-/

namespace TsnProtocol.Circomlib.BabyJubOrder

open Circomlib.BabyJub
open Lib.Lucas

section Prime

theorem prime_25485742523 : Nat.Prime 25485742523 := by
  refine prime_of_lucas 2 [2, 43189, 295049] 1 ?_ ?_ ?_ ?_
  · norm_num
  · norm_num
  · reduce_mod_char
  · norm_num
    reduce_mod_char
    decide

theorem prime_202795150404015601 : Nat.Prime 202795150404015601 := by
  refine prime_of_lucas 7 [2, 3, 5, 19, 349, 25485742523] 4 ?_ ?_ ?_ ?_
  · refine ⟨?_, ?_, ?_, ?_, ?_, prime_25485742523⟩ <;> norm_num
  · norm_num
  · reduce_mod_char
  · norm_num
    reduce_mod_char
    decide

theorem prime_431548080059745198929 : Nat.Prime 431548080059745198929 := by
  refine prime_of_lucas 3 [2, 7, 19, 202795150404015601] 4 ?_ ?_ ?_ ?_
  · refine ⟨?_, ?_, ?_, prime_202795150404015601⟩ <;> norm_num
  · norm_num
  · reduce_mod_char
  · norm_num
    reduce_mod_char
    decide

theorem prime_32151195060611136810608359 : Nat.Prime 32151195060611136810608359 := by
  refine prime_of_lucas 3 [2, 3, 4139, 431548080059745198929] 2 ?_ ?_ ?_ ?_
  · refine ⟨?_, ?_, ?_, prime_431548080059745198929⟩ <;> norm_num
  · norm_num
  · reduce_mod_char
  · norm_num
    reduce_mod_char
    decide

theorem prime_27892051421815855583579 : Nat.Prime 27892051421815855583579 := by
  refine prime_of_lucas 2 [2, 23, 521, 27743, 513749, 81654569] 1 ?_ ?_ ?_ ?_
  · norm_num
  · norm_num
  · reduce_mod_char
  · norm_num
    reduce_mod_char
    decide

theorem prime_1863691091902891838383581623 : Nat.Prime 1863691091902891838383581623 := by
  refine prime_of_lucas 5 [2, 33409, 27892051421815855583579] 1 ?_ ?_ ?_ ?_
  · refine ⟨?_, ?_, prime_27892051421815855583579⟩ <;> norm_num
  · norm_num
  · reduce_mod_char
  · norm_num
    reduce_mod_char
    decide

theorem prime_178259130663561045147472537592047227885001 :
    Nat.Prime 178259130663561045147472537592047227885001 := by
  refine prime_of_lucas 14 [2, 3, 5, 6323, 336157, 1863691091902891838383581623] 4 ?_ ?_ ?_ ?_
  · refine ⟨?_, ?_, ?_, ?_, ?_, prime_1863691091902891838383581623⟩ <;> norm_num
  · norm_num
  · reduce_mod_char
  · norm_num
    reduce_mod_char
    decide

theorem prime_babyJubSuborder : Nat.Prime babyJubSuborder := by
  unfold babyJubSuborder
  refine prime_of_lucas 31 [2, 3, 5, 11, 17, 967, 32151195060611136810608359,
    178259130663561045147472537592047227885001] 4 ?_ ?_ ?_ ?_
  · refine ⟨?_, ?_, ?_, ?_, ?_, ?_, prime_32151195060611136810608359,
      prime_178259130663561045147472537592047227885001⟩ <;> norm_num
  · norm_num
  · reduce_mod_char
  · norm_num
    reduce_mod_char
    decide

end Prime

theorem balanceG_ne_zero : balanceG ≠ 0 := by
  intro hzero
  have hx := congrArg (fun point : BabyPoint => point.x) hzero
  revert hx
  decide +kernel

/-- No multiple of the base below the suborder is neutral. -/
theorem nsmul_balanceG_ne_zero {scalar : Nat} (hpositive : 0 < scalar)
    (hsmall : scalar < babyJubSuborder) : scalar • balanceG ≠ 0 := by
  have : Fact (Nat.Prime babyJubSuborder) := ⟨prime_babyJubSuborder⟩
  have horder : addOrderOf balanceG = babyJubSuborder :=
    addOrderOf_eq_prime suborder_nsmul_balanceG balanceG_ne_zero
  exact fun hzero => absurd (Nat.le_of_dvd hpositive (addOrderOf_dvd_of_nsmul_eq_zero hzero))
    (by omega)

end TsnProtocol.Circomlib.BabyJubOrder
