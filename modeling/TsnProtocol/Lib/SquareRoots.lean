import Mathlib

/-!
Square roots of a ratio in a field of `q` elements with `q` congruent to 5 modulo 8: one
power gives a candidate, and a fourth root of unity corrects it. Modular powers by repeated
squaring.
-/

namespace TsnProtocol.Lib.SquareRoots

section Powers

/-- `base ^ exponent` modulo `modulus`, by the bits of the exponent. -/
def powMod (modulus base exponent : Nat) : Nat :=
  if exponent = 0 then 1 % modulus
  else
    let squares := powMod modulus (base * base % modulus) (exponent / 2)
    if exponent % 2 = 1 then squares * base % modulus else squares
termination_by exponent
decreasing_by omega

theorem powMod_eq (modulus base exponent : Nat) :
    powMod modulus base exponent = base ^ exponent % modulus := by
  induction exponent using Nat.strong_induction_on generalizing base with
  | _ exponent ih =>
      rw [powMod]
      split_ifs with hzero hodd
      · rw [hzero, pow_zero]
      · have hpower : base ^ exponent = (base * base) ^ (exponent / 2) * base := by
          rw [← pow_two, ← pow_mul, ← pow_succ]
          congr 1
          omega
        rw [ih _ (by omega), ← Nat.pow_mod, Nat.mod_mul_mod, hpower]
      · have hpower : base ^ exponent = (base * base) ^ (exponent / 2) := by
          rw [← pow_two, ← pow_mul]
          congr 1
          omega
        rw [ih _ (by omega), ← Nat.pow_mod, hpower]

/-- The power in the field of the residues. -/
theorem natCast_powMod (modulus base exponent : Nat) :
    (powMod modulus base exponent : ZMod modulus) = (base : ZMod modulus) ^ exponent := by
  rw [powMod_eq, ZMod.natCast_mod, Nat.cast_pow]

end Powers

section Ratio

variable {K : Type} [Field K] [Fintype K] {u v i x y d : K}

/-- The candidate for a root of `u / v`. -/
def rootCandidate (u v : K) : K :=
  u * v ^ 3 * (u * v ^ 7) ^ ((Fintype.card K - 5) / 8)

theorem mul_rootCandidate_sq (hcard : Fintype.card K % 8 = 5) (u v : K) :
    v * rootCandidate u v ^ 2 = u * (u * v ^ 7) ^ ((Fintype.card K - 1) / 4) := by
  have hexponent : (Fintype.card K - 1) / 4 = (Fintype.card K - 5) / 8 * 2 + 1 := by
    omega
  rw [hexponent, pow_succ (u * v ^ 7), pow_mul, rootCandidate]
  ring

/-- A square to the quarter of the order of the units is a root of one. -/
theorem pow_quarter_sq (hcard : Fintype.card K % 8 = 5) (hx : x ≠ 0) :
    ((x ^ 2) ^ ((Fintype.card K - 1) / 4)) ^ 2 = 1 := by
  have hexponent : 2 * ((Fintype.card K - 1) / 4) * 2 = Fintype.card K - 1 := by
    omega
  rw [← pow_mul, ← pow_mul, ← mul_assoc, hexponent, FiniteField.pow_card_sub_one_eq_one x hx]

/-- The candidate or its multiple by a root of minus one is a root, if there is any. -/
theorem rootCandidate_of_root (hcard : Fintype.card K % 8 = 5) (hi : i ^ 2 = -1) (hv : v ≠ 0)
    (hroot : v * x ^ 2 = u) :
    v * rootCandidate u v ^ 2 = u ∨ v * (rootCandidate u v * i) ^ 2 = u := by
  by_cases hx : x = 0
  · left
    rw [← hroot, hx, rootCandidate]
    ring
  · have hsquare : u * v ^ 7 = (v ^ 4 * x) ^ 2 := by
      rw [← hroot]
      ring
    have hone := pow_quarter_sq hcard (mul_ne_zero (pow_ne_zero 4 hv) hx)
    rw [← hsquare] at hone
    rcases sq_eq_one_iff.mp hone with hpower | hpower
    · left
      rw [mul_rootCandidate_sq hcard, hpower, mul_one]
    · right
      have hcandidate := mul_rootCandidate_sq hcard u v
      rw [hpower] at hcandidate
      linear_combination i ^ 2 * hcandidate - u * hi

theorem exists_root_iff (hcard : Fintype.card K % 8 = 5) (hi : i ^ 2 = -1) (hv : v ≠ 0) :
    (∃ x, v * x ^ 2 = u) ↔
      v * rootCandidate u v ^ 2 = u ∨ v * (rootCandidate u v * i) ^ 2 = u := by
  constructor
  · rintro ⟨x, hroot⟩
    exact rootCandidate_of_root hcard hi hv hroot
  · rintro (hroot | hroot)
    · exact ⟨_, hroot⟩
    · exact ⟨_, hroot⟩

omit [Fintype K] in
theorem root_eq_zero_iff (hv : v ≠ 0) (hroot : v * x ^ 2 = u) : x = 0 ↔ u = 0 := by
  rw [← hroot, mul_eq_zero_iff_left hv, pow_eq_zero_iff two_ne_zero]

end Ratio

section Denominator

variable {K : Type} [Field K] {i y d : K}

/-- Where `d` is not a square and minus one is, no denominator vanishes. -/
theorem mul_sq_add_one_ne_zero (hd : ¬ IsSquare d) (hi : i ^ 2 = -1) (y : K) :
    d * y ^ 2 + 1 ≠ 0 := by
  intro hzero
  have hy : y ≠ 0 := by
    rintro rfl
    simp at hzero
  refine hd ⟨i * y⁻¹, ?_⟩
  have hsquare : d * y ^ 2 = i ^ 2 := by
    rw [hi]
    linear_combination hzero
  rw [mul_mul_mul_comm, ← pow_two, ← pow_two, ← hsquare, inv_pow,
    mul_inv_cancel_right₀ (pow_ne_zero 2 hy)]

end Denominator

end TsnProtocol.Lib.SquareRoots
