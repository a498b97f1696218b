import Mathlib
import TsnProtocol.Lib.Lucas
import TsnProtocol.Lib.SquareRoots

/-!
The field of the curve that Solana keys lie on, and the parameter of the curve.
-/

namespace TsnProtocol.Solana.Curve25519

open Lib.Lucas
open Lib.SquareRoots

def ed25519P : Nat := 2 ^ 255 - 19

/-- `(-121665 * pow(121666, -1, p)) % p`. -/
def ed25519D : Nat :=
  37095705934669439343138083508754565189542113879843219016388785533085940283555

/-- `pow(2, (p - 1) // 4, p)`. -/
def ed25519SqrtM1 : Nat :=
  powMod ed25519P 2 ((ed25519P - 1) / 4)

section Prime

theorem prime_31757755568855353 : Nat.Prime 31757755568855353 := by
  refine prime_of_lucas 10 [2, 3, 31, 107, 223, 4153, 430751] 3 ?_ ?_ ?_ ?_
  · norm_num
  · norm_num
  · reduce_mod_char
  · norm_num
    reduce_mod_char
    decide

theorem prime_2773320623 : Nat.Prime 2773320623 := by
  refine prime_of_lucas 5 [2, 2437, 569003] 1 ?_ ?_ ?_ ?_
  · norm_num
  · norm_num
  · reduce_mod_char
  · norm_num
    reduce_mod_char
    decide

theorem prime_72106336199 : Nat.Prime 72106336199 := by
  refine prime_of_lucas 7 [2, 13, 2773320623] 1 ?_ ?_ ?_ ?_
  · refine ⟨?_, ?_, prime_2773320623⟩ <;> norm_num
  · norm_num
  · reduce_mod_char
  · norm_num
    reduce_mod_char
    decide

theorem prime_1919519569386763 : Nat.Prime 1919519569386763 := by
  refine prime_of_lucas 2 [2, 3, 7, 19, 47, 127, 8574133] 2 ?_ ?_ ?_ ?_
  · norm_num
  · norm_num
  · reduce_mod_char
  · norm_num
    reduce_mod_char
    decide

theorem prime_75445702479781427272750846543864801 :
    Nat.Prime 75445702479781427272750846543864801 := by
  refine prime_of_lucas 7 [2, 3, 5, 75707, 72106336199, 1919519569386763] 5 ?_ ?_ ?_ ?_
  · refine ⟨?_, ?_, ?_, ?_, prime_72106336199, prime_1919519569386763⟩ <;> norm_num
  · norm_num
  · reduce_mod_char
  · norm_num
    reduce_mod_char
    decide

theorem prime_74058212732561358302231226437062788676166966415465897661863160754340907 :
    Nat.Prime 74058212732561358302231226437062788676166966415465897661863160754340907 := by
  refine prime_of_lucas 2 [2, 3, 353, 57467, 132049, 1923133, 31757755568855353,
    75445702479781427272750846543864801] 1 ?_ ?_ ?_ ?_
  · refine ⟨?_, ?_, ?_, ?_, ?_, ?_, prime_31757755568855353,
      prime_75445702479781427272750846543864801⟩ <;> norm_num
  · norm_num
  · reduce_mod_char
  · norm_num
    reduce_mod_char
    decide

theorem prime_ed25519P : Nat.Prime ed25519P := by
  unfold ed25519P
  refine prime_of_lucas 2 [2, 3, 65147,
    74058212732561358302231226437062788676166966415465897661863160754340907] 2 ?_ ?_ ?_ ?_
  · refine ⟨?_, ?_, ?_,
      prime_74058212732561358302231226437062788676166966415465897661863160754340907⟩ <;> norm_num
  · norm_num
  · reduce_mod_char
  · norm_num
    reduce_mod_char
    decide

end Prime

instance : Fact (Nat.Prime ed25519P) := ⟨prime_ed25519P⟩

/-- Residues modulo the prime. -/
abbrev Fp := ZMod ed25519P

theorem card_fp : Fintype.card Fp % 8 = 5 := by
  rw [ZMod.card]
  decide

theorem not_isSquare_ed25519D : ¬ IsSquare (ed25519D : Fp) := by
  have hsymbol : jacobiSym ed25519D ed25519P = -1 := by
    unfold ed25519D ed25519P
    norm_num
  exact_mod_cast ZMod.nonsquare_of_jacobiSym_eq_neg_one hsymbol

theorem ed25519SqrtM1_sq : (ed25519SqrtM1 : Fp) ^ 2 = -1 := by
  decide +kernel

/-- The curve equation `-x² + y² = 1 + d x² y²`. -/
def OnCurve (x y : Fp) : Prop :=
  -x ^ 2 + y ^ 2 = 1 + (ed25519D : Fp) * x ^ 2 * y ^ 2

theorem onCurve_iff (x y : Fp) :
    OnCurve x y ↔ ((ed25519D : Fp) * y ^ 2 + 1) * x ^ 2 = y ^ 2 - 1 := by
  unfold OnCurve
  constructor
  · intro hcurve
    linear_combination -hcurve
  · intro hratio
    linear_combination -hratio

theorem denominator_ne_zero (y : Fp) : (ed25519D : Fp) * y ^ 2 + 1 ≠ 0 :=
  mul_sq_add_one_ne_zero not_isSquare_ed25519D ed25519SqrtM1_sq y

end TsnProtocol.Solana.Curve25519
