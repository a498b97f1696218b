import Mathlib

/-!
Twisted Edwards curves with a complete addition law, and the group of their points.
-/

namespace TsnProtocol.Lib.TwistedEdwards

/-- Coefficients of `a x² + y² = 1 + d x² y²` for which no denominator of the
addition law vanishes. -/
structure Curve (K : Type) [Field K] where
  (a d root : K)
  root_mul_root : root * root = a
  root_ne_zero : root ≠ 0
  not_isSquare : ¬ IsSquare d
  two_ne_zero : (2 : K) ≠ 0

variable {K : Type} [Field K] {curve : Curve K}

/-- The curve equation. -/
def Curve.Contains (curve : Curve K) (x y : K) : Prop :=
  curve.a * x ^ 2 + y ^ 2 = 1 + curve.d * x ^ 2 * y ^ 2

/-- A point of the curve. -/
@[ext] structure Point (curve : Curve K) where
  (x y : K)
  contains : curve.Contains x y

section Completeness

variable {x₁ y₁ x₂ y₂ : K}

/-- A product of coordinates that makes a denominator vanish exhibits `d` as a square. -/
theorem root_mul_add_eq_zero (sign : K) (hsign : sign * sign = 1)
    (hfirst : curve.Contains x₁ y₁) (hsecond : curve.Contains x₂ y₂)
    (hproduct : curve.d * x₁ * x₂ * y₁ * y₂ = sign) :
    curve.root * x₂ + y₂ = 0 := by
  have hnonzero : curve.d * x₁ * x₂ * y₁ * y₂ ≠ 0 := by
    rw [hproduct]
    rintro rfl
    simp at hsign
  have hx₁ : x₁ ≠ 0 := by
    rintro rfl
    simp at hnonzero
  have hy₁ : y₁ ≠ 0 := by
    rintro rfl
    simp at hnonzero
  by_contra hsum
  refine curve.not_isSquare
    ⟨(curve.root * x₁ + sign * y₁) / (x₁ * y₁ * (curve.root * x₂ + y₂)), ?_⟩
  have hfirst' := hfirst
  have hsecond' := hsecond
  unfold Curve.Contains at hfirst' hsecond'
  rw [← curve.root_mul_root] at hfirst' hsecond'
  field_simp
  subst hproduct
  linear_combination
    (-1 : K) * hfirst' + curve.d * x₁ ^ 2 * y₁ ^ 2 * hsecond' +
      (1 - y₁ ^ 2) * hsign

/-- No denominator of the addition law vanishes on the curve. -/
theorem product_ne_of_mul_self (sign : K) (hfirst : curve.Contains x₁ y₁)
    (hsecond : curve.Contains x₂ y₂) (hsign : sign * sign = 1) :
    curve.d * x₁ * x₂ * y₁ * y₂ ≠ sign := by
  intro hproduct
  have hsum := root_mul_add_eq_zero sign hsign hfirst hsecond hproduct
  have hreflected : curve.Contains x₂ (-y₂) := by
    unfold Curve.Contains at hsecond ⊢
    linear_combination hsecond
  have hdifference : curve.root * x₂ + -y₂ = 0 :=
    root_mul_add_eq_zero (-sign) (by linear_combination hsign) hfirst hreflected
      (by linear_combination -hproduct)
  have hx₂ : 2 * curve.root * x₂ = 0 := by
    linear_combination hsum + hdifference
  rcases mul_eq_zero.mp hx₂ with hroot | hzero
  · rcases mul_eq_zero.mp hroot with htwo | hroot
    · exact curve.two_ne_zero htwo
    · exact curve.root_ne_zero hroot
  · rw [hzero] at hproduct
    simp only [mul_zero, zero_mul] at hproduct
    rw [← hproduct] at hsign
    simp at hsign

theorem one_add_ne_zero (hfirst : curve.Contains x₁ y₁) (hsecond : curve.Contains x₂ y₂) :
    1 + curve.d * x₁ * x₂ * y₁ * y₂ ≠ 0 := by
  intro hzero
  exact product_ne_of_mul_self (-1) hfirst hsecond (by ring)
    (by linear_combination hzero)

theorem one_sub_ne_zero (hfirst : curve.Contains x₁ y₁) (hsecond : curve.Contains x₂ y₂) :
    1 - curve.d * x₁ * x₂ * y₁ * y₂ ≠ 0 := by
  intro hzero
  exact product_ne_of_mul_self 1 hfirst hsecond (by ring)
    (by linear_combination -hzero)

end Completeness

section Group

namespace Point

instance : Zero (Point curve) := ⟨⟨0, 1, by simp [Curve.Contains]⟩⟩

instance : Neg (Point curve) :=
  ⟨fun point => ⟨-point.x, point.y, by
    have hcontains := point.contains
    unfold Curve.Contains at hcontains ⊢
    linear_combination hcontains⟩⟩

/-- The addition law stays on the curve. -/
theorem contains_add (first second : Point curve) :
    curve.Contains
      ((first.x * second.y + first.y * second.x) /
        (1 + curve.d * first.x * second.x * first.y * second.y))
      ((first.y * second.y - curve.a * first.x * second.x) /
        (1 - curve.d * first.x * second.x * first.y * second.y)) := by
  obtain ⟨x₁, y₁, hfirst⟩ := first
  obtain ⟨x₂, y₂, hsecond⟩ := second
  have hplus := one_add_ne_zero hfirst hsecond
  have hminus := one_sub_ne_zero hfirst hsecond
  unfold Curve.Contains at hfirst hsecond ⊢
  dsimp only
  generalize hu : 1 + curve.d * x₁ * x₂ * y₁ * y₂ = u at hplus ⊢
  generalize hv : 1 - curve.d * x₁ * x₂ * y₁ * y₂ = v at hminus ⊢
  field_simp
  subst hu hv
  linear_combination
    (1 + y₁ ^ 2 - y₁ ^ 2 * y₂ ^ 2 - curve.a * y₁ ^ 2 * x₂ ^ 2 + curve.a * x₁ ^ 2 -
      curve.a * x₁ ^ 2 * y₂ ^ 2 - curve.a ^ 2 * x₁ ^ 2 * x₂ ^ 2 +
      curve.d ^ 2 * x₁ ^ 2 * y₁ ^ 2 * x₂ ^ 2 * y₂ ^ 2 *
        (curve.a * x₂ ^ 2 + y₂ ^ 2 - 1)) * hfirst +
    (y₁ ^ 4 - curve.d * x₁ ^ 2 * y₁ ^ 2 - curve.d * x₁ ^ 2 * y₁ ^ 2 * y₂ ^ 2 -
      curve.d * x₁ ^ 2 * y₁ ^ 4 + curve.d ^ 3 * x₁ ^ 4 * y₁ ^ 4 * x₂ ^ 2 * y₂ ^ 2 +
      2 * curve.a * x₁ ^ 2 * y₁ ^ 2 - curve.a * curve.d * x₁ ^ 2 * y₁ ^ 2 * x₂ ^ 2 -
      curve.a * curve.d * x₁ ^ 4 * y₁ ^ 2 + curve.a ^ 2 * x₁ ^ 4) * hsecond

instance : Add (Point curve) :=
  ⟨fun first second =>
    { x := (first.x * second.y + first.y * second.x) /
        (1 + curve.d * first.x * second.x * first.y * second.y)
      y := (first.y * second.y - curve.a * first.x * second.x) /
        (1 - curve.d * first.x * second.x * first.y * second.y)
      contains := contains_add first second }⟩

@[simp] theorem zero_x : (0 : Point curve).x = 0 := rfl

@[simp] theorem zero_y : (0 : Point curve).y = 1 := rfl

theorem add_x (first second : Point curve) :
    (first + second).x = (first.x * second.y + first.y * second.x) /
      (1 + curve.d * first.x * second.x * first.y * second.y) := rfl

theorem add_y (first second : Point curve) :
    (first + second).y = (first.y * second.y - curve.a * first.x * second.x) /
      (1 - curve.d * first.x * second.x * first.y * second.y) := rfl

/-- Multiplied out, a coordinate of a sum is what the denominators leave of it. -/
theorem add_x_mul (first second : Point curve) :
    (first + second).x * (1 + curve.d * first.x * second.x * first.y * second.y) =
      first.x * second.y + first.y * second.x :=
  div_mul_cancel₀ _ (one_add_ne_zero first.contains second.contains)

@[inherit_doc add_x_mul]
theorem add_y_mul (first second : Point curve) :
    (first + second).y * (1 - curve.d * first.x * second.x * first.y * second.y) =
      first.y * second.y - curve.a * first.x * second.x :=
  div_mul_cancel₀ _ (one_sub_ne_zero first.contains second.contains)

protected theorem add_comm (first second : Point curve) : first + second = second + first := by
  ext
  · simp only [add_x]
    ring
  · simp only [add_y]
    ring

protected theorem zero_add (point : Point curve) : 0 + point = point := by
  ext
  · simp [add_x]
  · simp [add_y]

protected theorem neg_add_cancel (point : Point curve) : -point + point = 0 := by
  have hcontains := point.contains
  unfold Curve.Contains at hcontains
  ext
  · change (-point.x * point.y + point.y * point.x) / _ = 0
    rw [show -point.x * point.y + point.y * point.x = 0 by ring, zero_div]
  · change (point.y * point.y - curve.a * -point.x * point.x) /
      (1 - curve.d * -point.x * point.x * point.y * point.y) = 1
    have hdenominator := one_sub_ne_zero (-point).contains point.contains
    change 1 - curve.d * -point.x * point.x * point.y * point.y ≠ 0 at hdenominator
    rw [div_eq_one_iff_eq hdenominator]
    linear_combination hcontains

-- The cofactors are those of dividing the cross-multiplied difference of the two
-- sides by the three curve equations.
theorem add_assoc_x (first second third : Point curve) :
    (first + second + third).x = (first + (second + third)).x := by
  have hleft := one_add_ne_zero (first + second).contains third.contains
  have hright := one_add_ne_zero first.contains (second + third).contains
  have hplus₁₂ := one_add_ne_zero first.contains second.contains
  have hminus₁₂ := one_sub_ne_zero first.contains second.contains
  have hplus₂₃ := one_add_ne_zero second.contains third.contains
  have hminus₂₃ := one_sub_ne_zero second.contains third.contains
  obtain ⟨x₁, y₁, hfirst⟩ := first
  obtain ⟨x₂, y₂, hsecond⟩ := second
  obtain ⟨x₃, y₃, hthird⟩ := third
  unfold Curve.Contains at hfirst hsecond hthird
  simp only [add_x, add_y] at hleft hright hplus₁₂ hminus₁₂ hplus₂₃ hminus₂₃ ⊢
  rw [div_eq_div_iff hleft hright]
  generalize hu₁₂ : 1 + curve.d * x₁ * x₂ * y₁ * y₂ = u₁₂ at hplus₁₂ ⊢
  generalize hv₁₂ : 1 - curve.d * x₁ * x₂ * y₁ * y₂ = v₁₂ at hminus₁₂ ⊢
  generalize hu₂₃ : 1 + curve.d * x₂ * x₃ * y₂ * y₃ = u₂₃ at hplus₂₃ ⊢
  generalize hv₂₃ : 1 - curve.d * x₂ * x₃ * y₂ * y₃ = v₂₃ at hminus₂₃ ⊢
  field_simp
  subst hu₁₂ hv₁₂ hu₂₃ hv₂₃
  linear_combination
    (-curve.d * y₁ * x₂ * y₂ ^ 4 * x₃ ^ 2 * y₃ - curve.d * y₁ * x₂ ^ 2 * y₂ ^ 3 * x₃
      - curve.d * y₁ * x₂ ^ 3 * y₂ ^ 2 * y₃ + curve.d * y₁ * x₂ ^ 3 * y₂ ^ 2 * y₃ ^ 3
      + curve.d * x₁ * x₂ * y₂ ^ 4 * x₃ * y₃ ^ 2 - curve.d * x₁ * x₂ ^ 2 * y₂ ^ 3 * y₃
      + curve.d * x₁ * x₂ ^ 2 * y₂ ^ 3 * y₃ ^ 3
      + curve.d ^ 2 * y₁ * x₂ ^ 3 * y₂ ^ 4 * x₃ ^ 2 * y₃
      + curve.d ^ 2 * y₁ * x₂ ^ 4 * y₂ ^ 3 * x₃ * y₃ ^ 2
      - curve.d ^ 2 * x₁ * x₂ ^ 3 * y₂ ^ 4 * x₃ * y₃ ^ 2
      + curve.a * curve.d * y₁ * x₂ ^ 2 * y₂ ^ 3 * x₃ ^ 3
      - curve.a * curve.d * y₁ * x₂ ^ 4 * y₂ * x₃ * y₃ ^ 2
      + curve.a * curve.d * x₁ * x₂ ^ 3 * y₂ ^ 2 * x₃
      + curve.a * curve.d ^ 2 * x₁ * x₂ ^ 4 * y₂ ^ 3 * x₃ ^ 2 * y₃
      - curve.a ^ 2 * curve.d * x₁ * x₂ ^ 3 * y₂ ^ 2 * x₃ ^ 3
      - curve.a ^ 2 * curve.d * x₁ * x₂ ^ 4 * y₂ * x₃ ^ 2 * y₃) * hfirst +
    (-curve.d * y₁ * x₂ * y₂ ^ 2 * x₃ ^ 2 * y₃ - curve.d * y₁ * x₂ ^ 2 * y₂ * x₃ * y₃ ^ 2
      + curve.d * y₁ ^ 3 * x₂ * y₂ ^ 2 * x₃ ^ 2 * y₃
      + curve.d * y₁ ^ 3 * x₂ ^ 2 * y₂ * x₃ * y₃ ^ 2
      + curve.d * x₁ * x₂ * y₂ ^ 2 * x₃ * y₃ ^ 2 - curve.d * x₁ * y₁ ^ 2 * x₂ * y₂ ^ 2 * x₃
      + curve.d * x₁ * y₁ ^ 2 * x₂ ^ 2 * y₂ * y₃
      - curve.d * x₁ * y₁ ^ 2 * x₂ ^ 2 * y₂ * y₃ ^ 3
      + curve.d * x₁ ^ 2 * y₁ * x₂ * y₂ ^ 2 * y₃
      - curve.d * x₁ ^ 2 * y₁ * x₂ * y₂ ^ 2 * y₃ ^ 3
      - curve.a * curve.d * x₁ * x₂ ^ 2 * y₂ * x₃ ^ 2 * y₃
      + curve.a * curve.d * x₁ * y₁ ^ 2 * x₂ * y₂ ^ 2 * x₃ ^ 3
      + curve.a * curve.d * x₁ ^ 2 * y₁ * x₂ ^ 2 * y₂ * x₃
      - curve.a * curve.d * x₁ ^ 3 * x₂ * y₂ ^ 2 * x₃ * y₃ ^ 2
      - curve.a ^ 2 * curve.d * x₁ ^ 2 * y₁ * x₂ ^ 2 * y₂ * x₃ ^ 3
      + curve.a ^ 2 * curve.d * x₁ ^ 3 * x₂ ^ 2 * y₂ * x₃ ^ 2 * y₃) * hsecond +
    (curve.d * y₁ * x₂ ^ 2 * y₂ ^ 3 * x₃ + curve.d * y₁ * x₂ ^ 3 * y₂ ^ 2 * y₃
      - curve.d * y₁ ^ 3 * x₂ ^ 2 * y₂ ^ 3 * x₃ - curve.d * y₁ ^ 3 * x₂ ^ 3 * y₂ ^ 2 * y₃
      + curve.d * x₁ * x₂ ^ 2 * y₂ ^ 3 * y₃ - curve.d * x₁ * y₁ ^ 2 * x₂ * y₂ ^ 4 * x₃
      + curve.d * x₁ ^ 2 * y₁ * x₂ * y₂ ^ 4 * y₃
      + curve.d ^ 2 * x₁ * y₁ ^ 2 * x₂ ^ 3 * y₂ ^ 4 * x₃
      - curve.d ^ 2 * x₁ * y₁ ^ 2 * x₂ ^ 4 * y₂ ^ 3 * y₃
      - curve.d ^ 2 * x₁ ^ 2 * y₁ * x₂ ^ 3 * y₂ ^ 4 * y₃
      - curve.a * curve.d * x₁ * x₂ ^ 3 * y₂ ^ 2 * x₃
      + curve.a * curve.d * x₁ * y₁ ^ 2 * x₂ ^ 4 * y₂ * y₃
      - curve.a * curve.d * x₁ ^ 3 * x₂ ^ 2 * y₂ ^ 3 * y₃
      - curve.a * curve.d ^ 2 * x₁ ^ 2 * y₁ * x₂ ^ 4 * y₂ ^ 3 * x₃
      + curve.a ^ 2 * curve.d * x₁ ^ 2 * y₁ * x₂ ^ 4 * y₂ * x₃
      + curve.a ^ 2 * curve.d * x₁ ^ 3 * x₂ ^ 3 * y₂ ^ 2 * x₃) * hthird

theorem add_assoc_y (first second third : Point curve) :
    (first + second + third).y = (first + (second + third)).y := by
  have hleft := one_sub_ne_zero (first + second).contains third.contains
  have hright := one_sub_ne_zero first.contains (second + third).contains
  have hplus₁₂ := one_add_ne_zero first.contains second.contains
  have hminus₁₂ := one_sub_ne_zero first.contains second.contains
  have hplus₂₃ := one_add_ne_zero second.contains third.contains
  have hminus₂₃ := one_sub_ne_zero second.contains third.contains
  obtain ⟨x₁, y₁, hfirst⟩ := first
  obtain ⟨x₂, y₂, hsecond⟩ := second
  obtain ⟨x₃, y₃, hthird⟩ := third
  unfold Curve.Contains at hfirst hsecond hthird
  simp only [add_x, add_y] at hleft hright hplus₁₂ hminus₁₂ hplus₂₃ hminus₂₃ ⊢
  rw [div_eq_div_iff hleft hright]
  generalize hu₁₂ : 1 + curve.d * x₁ * x₂ * y₁ * y₂ = u₁₂ at hplus₁₂ ⊢
  generalize hv₁₂ : 1 - curve.d * x₁ * x₂ * y₁ * y₂ = v₁₂ at hminus₁₂ ⊢
  generalize hu₂₃ : 1 + curve.d * x₂ * x₃ * y₂ * y₃ = u₂₃ at hplus₂₃ ⊢
  generalize hv₂₃ : 1 - curve.d * x₂ * x₃ * y₂ * y₃ = v₂₃ at hminus₂₃ ⊢
  field_simp
  subst hu₁₂ hv₁₂ hu₂₃ hv₂₃
  linear_combination
    (curve.d * y₁ * x₂ * y₂ ^ 4 * x₃ * y₃ ^ 2 - curve.d * y₁ * x₂ ^ 2 * y₂ ^ 3 * y₃
      + curve.d * y₁ * x₂ ^ 2 * y₂ ^ 3 * y₃ ^ 3
      - curve.d ^ 2 * y₁ * x₂ ^ 3 * y₂ ^ 4 * x₃ * y₃ ^ 2
      + curve.a * curve.d * y₁ * x₂ ^ 3 * y₂ ^ 2 * x₃
      + curve.a * curve.d * x₁ * x₂ * y₂ ^ 4 * x₃ ^ 2 * y₃
      + curve.a * curve.d * x₁ * x₂ ^ 2 * y₂ ^ 3 * x₃
      + curve.a * curve.d * x₁ * x₂ ^ 3 * y₂ ^ 2 * y₃
      - curve.a * curve.d * x₁ * x₂ ^ 3 * y₂ ^ 2 * y₃ ^ 3
      + curve.a * curve.d ^ 2 * y₁ * x₂ ^ 4 * y₂ ^ 3 * x₃ ^ 2 * y₃
      - curve.a * curve.d ^ 2 * x₁ * x₂ ^ 3 * y₂ ^ 4 * x₃ ^ 2 * y₃
      - curve.a * curve.d ^ 2 * x₁ * x₂ ^ 4 * y₂ ^ 3 * x₃ * y₃ ^ 2
      - curve.a ^ 2 * curve.d * y₁ * x₂ ^ 3 * y₂ ^ 2 * x₃ ^ 3
      - curve.a ^ 2 * curve.d * y₁ * x₂ ^ 4 * y₂ * x₃ ^ 2 * y₃
      - curve.a ^ 2 * curve.d * x₁ * x₂ ^ 2 * y₂ ^ 3 * x₃ ^ 3
      + curve.a ^ 2 * curve.d * x₁ * x₂ ^ 4 * y₂ * x₃ * y₃ ^ 2) * hfirst +
    (curve.d * y₁ * x₂ * y₂ ^ 2 * x₃ * y₃ ^ 2 - curve.d * y₁ ^ 3 * x₂ * y₂ ^ 2 * x₃ * y₃ ^ 2
      - curve.d * x₁ * y₁ ^ 2 * x₂ * y₂ ^ 2 * y₃
      + curve.d * x₁ * y₁ ^ 2 * x₂ * y₂ ^ 2 * y₃ ^ 3
      - curve.a * curve.d * y₁ * x₂ ^ 2 * y₂ * x₃ ^ 2 * y₃
      + curve.a * curve.d * y₁ ^ 3 * x₂ ^ 2 * y₂ * x₃ ^ 2 * y₃
      + curve.a * curve.d * x₁ * x₂ * y₂ ^ 2 * x₃ ^ 2 * y₃
      + curve.a * curve.d * x₁ * x₂ ^ 2 * y₂ * x₃ * y₃ ^ 2
      - curve.a * curve.d * x₁ * y₁ ^ 2 * x₂ ^ 2 * y₂ * x₃
      - curve.a * curve.d * x₁ ^ 2 * y₁ * x₂ * y₂ ^ 2 * x₃
      + curve.a * curve.d * x₁ ^ 2 * y₁ * x₂ ^ 2 * y₂ * y₃
      - curve.a * curve.d * x₁ ^ 2 * y₁ * x₂ ^ 2 * y₂ * y₃ ^ 3
      + curve.a ^ 2 * curve.d * x₁ * y₁ ^ 2 * x₂ ^ 2 * y₂ * x₃ ^ 3
      + curve.a ^ 2 * curve.d * x₁ ^ 2 * y₁ * x₂ * y₂ ^ 2 * x₃ ^ 3
      - curve.a ^ 2 * curve.d * x₁ ^ 3 * x₂ * y₂ ^ 2 * x₃ ^ 2 * y₃
      - curve.a ^ 2 * curve.d * x₁ ^ 3 * x₂ ^ 2 * y₂ * x₃ * y₃ ^ 2) * hsecond +
    (curve.d * y₁ * x₂ ^ 2 * y₂ ^ 3 * y₃ - curve.d * y₁ ^ 3 * x₂ ^ 2 * y₂ ^ 3 * y₃
      - curve.d * x₁ * y₁ ^ 2 * x₂ * y₂ ^ 4 * y₃
      + curve.d ^ 2 * x₁ * y₁ ^ 2 * x₂ ^ 3 * y₂ ^ 4 * y₃
      - curve.a * curve.d * y₁ * x₂ ^ 3 * y₂ ^ 2 * x₃
      + curve.a * curve.d * y₁ ^ 3 * x₂ ^ 3 * y₂ ^ 2 * x₃
      - curve.a * curve.d * x₁ * x₂ ^ 2 * y₂ ^ 3 * x₃
      - curve.a * curve.d * x₁ * x₂ ^ 3 * y₂ ^ 2 * y₃
      - curve.a * curve.d * x₁ ^ 2 * y₁ * x₂ * y₂ ^ 4 * x₃
      + curve.a * curve.d ^ 2 * x₁ * y₁ ^ 2 * x₂ ^ 4 * y₂ ^ 3 * x₃
      + curve.a * curve.d ^ 2 * x₁ ^ 2 * y₁ * x₂ ^ 3 * y₂ ^ 4 * x₃
      - curve.a * curve.d ^ 2 * x₁ ^ 2 * y₁ * x₂ ^ 4 * y₂ ^ 3 * y₃
      - curve.a ^ 2 * curve.d * x₁ * y₁ ^ 2 * x₂ ^ 4 * y₂ * x₃
      + curve.a ^ 2 * curve.d * x₁ ^ 2 * y₁ * x₂ ^ 4 * y₂ * y₃
      + curve.a ^ 2 * curve.d * x₁ ^ 3 * x₂ ^ 2 * y₂ ^ 3 * x₃
      + curve.a ^ 2 * curve.d * x₁ ^ 3 * x₂ ^ 3 * y₂ ^ 2 * y₃) * hthird

instance : AddCommGroup (Point curve) where
  add_assoc first second third :=
    Point.ext (add_assoc_x first second third) (add_assoc_y first second third)
  zero_add := Point.zero_add
  add_zero point := by rw [Point.add_comm, Point.zero_add]
  neg_add_cancel := Point.neg_add_cancel
  add_comm := Point.add_comm
  nsmul := nsmulRec
  zsmul := zsmulRec

end Point

end Group

section Projective

/-- Coordinates over a common denominator, with which sums are computed without
inverses. -/
structure Projective (K : Type) where
  (x y z : K)

namespace Projective

/-- The coordinates stand for a point. -/
def Represents (coordinates : Projective K) (point : Point curve) : Prop :=
  coordinates.z ≠ 0 ∧ coordinates.x = point.x * coordinates.z ∧
    coordinates.y = point.y * coordinates.z

def zero : Projective K :=
  ⟨0, 1, 1⟩

def add (curve : Curve K) (first second : Projective K) : Projective K :=
  let zz := first.z * second.z
  let xx := first.x * second.x
  let yy := first.y * second.y
  let product := curve.d * xx * yy
  let minus := zz * zz - product
  let plus := zz * zz + product
  { x := zz * minus * (first.x * second.y + first.y * second.x)
    y := zz * plus * (yy - curve.a * xx)
    z := minus * plus }

/-- Multiple of a point by the low bits of a number. -/
def multiple (curve : Curve K) : Nat → Nat → Projective K → Projective K
  | 0, _, _ => zero
  | bits + 1, scalar, base =>
      let rest := multiple curve bits (scalar / 2) (add curve base base)
      if scalar % 2 = 1 then add curve base rest else rest

theorem represents_zero : (zero : Projective K).Represents (0 : Point curve) := by
  simp [Represents, zero]

theorem represents_add {first second : Projective K} {left right : Point curve}
    (hfirst : first.Represents left) (hsecond : second.Represents right) :
    (add curve first second).Represents (left + right) := by
  obtain ⟨hz₁, hx₁, hy₁⟩ := hfirst
  obtain ⟨hz₂, hx₂, hy₂⟩ := hsecond
  have hplus := one_add_ne_zero left.contains right.contains
  have hminus := one_sub_ne_zero left.contains right.contains
  have hx := Point.add_x_mul left right
  have hy := Point.add_y_mul left right
  simp only [Represents, add, hx₁, hy₁, hx₂, hy₂]
  generalize (left + right).x = sumX at hx ⊢
  generalize (left + right).y = sumY at hy ⊢
  have hzz : first.z * second.z ≠ 0 := mul_ne_zero hz₁ hz₂
  refine ⟨?_, ?_, ?_⟩
  · have hfactors : (first.z * second.z) ^ 4 *
        ((1 - curve.d * left.x * right.x * left.y * right.y) *
          (1 + curve.d * left.x * right.x * left.y * right.y)) ≠ 0 :=
      mul_ne_zero (pow_ne_zero 4 hzz) (mul_ne_zero hminus hplus)
    convert hfactors using 1
    ring
  · linear_combination -(first.z * second.z) ^ 4 *
      (1 - curve.d * left.x * right.x * left.y * right.y) * hx
  · linear_combination -(first.z * second.z) ^ 4 *
      (1 + curve.d * left.x * right.x * left.y * right.y) * hy

theorem represents_multiple (bits scalar : Nat) {base : Projective K} {point : Point curve}
    (hscalar : scalar < 2 ^ bits) (hbase : base.Represents point) :
    (multiple curve bits scalar base).Represents (scalar • point) := by
  induction bits generalizing scalar base point with
  | zero =>
      have hzero : scalar = 0 := by simpa using hscalar
      subst hzero
      rw [zero_nsmul]
      exact represents_zero
  | succ bits ih =>
      have hhalf : scalar / 2 < 2 ^ bits := by
        rw [Nat.pow_succ] at hscalar
        omega
      have hrest := ih (scalar / 2) hhalf (represents_add hbase hbase)
      rw [← two_nsmul, ← mul_nsmul] at hrest
      unfold multiple
      split
      · rename_i hodd
        have hsum := represents_add hbase hrest
        rw [← succ_nsmul', show 2 * (scalar / 2) + 1 = scalar by omega] at hsum
        exact hsum
      · rename_i heven
        rwa [show 2 * (scalar / 2) = scalar by omega] at hrest

/-- A multiple is neutral when its coordinates are. -/
theorem nsmul_eq_zero (bits scalar : Nat) {point : Point curve} (hscalar : scalar < 2 ^ bits)
    (hx : (multiple curve bits scalar ⟨point.x, point.y, 1⟩).x = 0)
    (hy : (multiple curve bits scalar ⟨point.x, point.y, 1⟩).y =
      (multiple curve bits scalar ⟨point.x, point.y, 1⟩).z) :
    scalar • point = 0 := by
  have hbase : (⟨point.x, point.y, 1⟩ : Projective K).Represents point := by
    simp [Represents]
  obtain ⟨hz, hrx, hry⟩ := represents_multiple bits scalar hscalar hbase
  rw [hx] at hrx
  rw [hy] at hry
  refine Point.ext ?_ ?_
  · exact (mul_eq_zero.mp hrx.symm).resolve_right hz
  · exact (mul_eq_right₀ hz).mp hry.symm

end Projective

end Projective

end TsnProtocol.Lib.TwistedEdwards
