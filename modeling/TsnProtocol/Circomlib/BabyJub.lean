import Mathlib
import TsnProtocol.Circomlib.Gadgets
import TsnProtocol.Lib.TwistedEdwards

/-!
The BabyJubjub curve over the scalar field, with the circomlib templates that check and
add its points.
-/

namespace TsnProtocol.Circomlib.BabyJub

open Bn254.Field
open Bn254.Scalar
open Lib.TwistedEdwards

/-- Coordinates carried by a pair of signals. -/
abbrev Coordinates := Fr × Fr

def babyJubA : Fr := 168700

def babyJubD : Fr := 168696

theorem not_isSquare_babyJubD : ¬ IsSquare babyJubD := by
  have hsymbol : jacobiSym 168696 bn254ScalarOrder = -1 := by
    unfold bn254ScalarOrder
    norm_num
  exact_mod_cast ZMod.nonsquare_of_jacobiSym_eq_neg_one hsymbol

def babyJub : Curve Fr where
  a := babyJubA
  d := babyJubD
  root := 7214280148105020021932206872019688659210616427216992810330019057549499971851
  root_mul_root := by decide +kernel
  root_ne_zero := by decide +kernel
  not_isSquare := not_isSquare_babyJubD
  two_ne_zero := by decide +kernel

@[simp] theorem babyJub_a : babyJub.a = babyJubA := rfl

@[simp] theorem babyJub_d : babyJub.d = babyJubD := rfl

abbrev BabyPoint := Point babyJub

/-- The pair of signals that carries a point. -/
def coordinates (point : BabyPoint) : Coordinates :=
  (point.x, point.y)

/-- Order of the prime-order subgroup. -/
def babyJubSuborder : Nat :=
  2736030358979909402780800718157159386076813972158567259200215660948447373041

/-- `BabyCheck`. -/
def BabyCheck (x y : Fr) : Prop :=
  babyJubA * (x * x) + y * y = 1 + babyJubD * (x * x) * (y * y)

/-- `BabyAdd`, with the two quotients as the products it constrains. -/
structure BabyAdd (first second out : Coordinates) : Prop where
  x : (1 + babyJubD * ((first.1 * second.2) * (first.2 * second.1))) * out.1 =
    first.1 * second.2 + first.2 * second.1
  y : (1 - babyJubD * ((first.1 * second.2) * (first.2 * second.1))) * out.2 =
    (-babyJubA * first.1 + first.2) * (second.1 + second.2) +
      babyJubA * (first.1 * second.2) - first.2 * second.1

/-- The affine addition law on coordinates. -/
def addCoordinates (first second : Coordinates) : Coordinates :=
  ((first.1 * second.2 + first.2 * second.1) /
      (1 + babyJubD * first.1 * second.1 * first.2 * second.2),
    (first.2 * second.2 - babyJubA * first.1 * second.1) /
      (1 - babyJubD * first.1 * second.1 * first.2 * second.2))

theorem addCoordinates_coordinates (first second : BabyPoint) :
    addCoordinates (coordinates first) (coordinates second) =
      coordinates (first + second) := rfl

/-- `BabyAdd` determines its output also off the curve: where a denominator vanishes the
numerator does not, since `d` is not a square. -/
theorem babyAdd_eq {first second out : Coordinates} (hadd : BabyAdd first second out) :
    out = addCoordinates first second := by
  obtain ⟨x₁, y₁⟩ := first
  obtain ⟨x₂, y₂⟩ := second
  obtain ⟨hx, hy⟩ := hadd
  have hroot : babyJub.root * babyJub.root = babyJubA := babyJub.root_mul_root
  generalize babyJub.root = root at hroot
  simp only at hx hy
  have hplus : 1 + babyJubD * x₁ * x₂ * y₁ * y₂ ≠ 0 := by
    intro hzero
    have hsum : x₁ * y₂ + y₁ * x₂ = 0 := by
      linear_combination out.1 * hzero - hx
    have hsquare : babyJubD * (x₁ * y₂) ^ 2 = 1 := by
      linear_combination babyJubD * (x₁ * y₂) * hsum - hzero
    have hne : x₁ * y₂ ≠ 0 := by
      intro hfactor
      rw [hfactor] at hsquare
      simp at hsquare
    refine not_isSquare_babyJubD ⟨(x₁ * y₂)⁻¹, ?_⟩
    rw [← mul_inv, ← pow_two]
    exact eq_inv_of_mul_eq_one_left hsquare
  have hminus : 1 - babyJubD * x₁ * x₂ * y₁ * y₂ ≠ 0 := by
    intro hzero
    have hdifference : y₁ * y₂ - babyJubA * x₁ * x₂ = 0 := by
      linear_combination out.2 * hzero - hy
    have hsquare : babyJubD * (root * (x₁ * x₂)) ^ 2 = 1 := by
      linear_combination babyJubD * (x₁ * x₂) ^ 2 * hroot -
        babyJubD * (x₁ * x₂) * hdifference - hzero
    have hne : root * (x₁ * x₂) ≠ 0 := by
      intro hfactor
      rw [hfactor] at hsquare
      simp at hsquare
    refine not_isSquare_babyJubD ⟨(root * (x₁ * x₂))⁻¹, ?_⟩
    rw [← mul_inv, ← pow_two]
    exact eq_inv_of_mul_eq_one_left hsquare
  have hfst : out.1 = (addCoordinates (x₁, y₁) (x₂, y₂)).1 := by
    rw [addCoordinates, eq_div_iff hplus]
    linear_combination hx
  have hsnd : out.2 = (addCoordinates (x₁, y₁) (x₂, y₂)).2 := by
    rw [addCoordinates, eq_div_iff hminus]
    linear_combination hy
  exact Prod.ext hfst hsnd

/-- On the curve `BabyAdd` leaves no choice: its output is the sum. -/
theorem babyAdd_iff (first second : BabyPoint) (out : Coordinates) :
    BabyAdd (coordinates first) (coordinates second) out ↔
      out = coordinates (first + second) := by
  have hx := Point.add_x_mul first second
  have hy := Point.add_y_mul first second
  rw [babyJub_d] at hx hy
  rw [babyJub_a] at hy
  constructor
  · exact fun hadd => (babyAdd_eq hadd).trans (addCoordinates_coordinates first second)
  · rintro rfl
    simp only [coordinates]
    refine ⟨?_, ?_⟩
    · linear_combination hx
    · linear_combination hy

/-- The base `BASE8` of amounts. -/
def balanceG : BabyPoint where
  x := 5299619240641551281634865583518297030282874472190772894086521144482721001553
  y := 16950150798460657717958625567821834550301663161624707787222815936182638968203
  contains := by
    unfold Curve.Contains
    decide +kernel

/-- The base of blindings. -/
def balanceH : BabyPoint where
  x := 9398968040714586016327675940839568983565095581299035530848626576251201023018
  y := 15860466305030097496204584978173195991965382154782248789896917824218270823860
  contains := by
    unfold Curve.Contains
    decide +kernel

theorem suborder_nsmul_balanceG : babyJubSuborder • balanceG = 0 := by
  apply Projective.nsmul_eq_zero 252 babyJubSuborder
  · decide
  · decide +kernel
  · decide +kernel

/-- The only point of the subgroup with first coordinate zero is the neutral one. -/
theorem eq_zero_of_x_eq_zero {point : BabyPoint} (hx : point.x = 0)
    (horder : babyJubSuborder • point = 0) : point = 0 := by
  have hy : point.y ^ 2 = 1 := by
    have hcontains := point.contains
    unfold Curve.Contains at hcontains
    rw [hx] at hcontains
    linear_combination hcontains
  have hdouble : 2 • point = 0 := by
    rw [two_nsmul]
    apply Point.ext
    · rw [Point.add_x, hx]
      simp
    · rw [Point.add_y, hx, Point.zero_y]
      simp only [mul_zero, zero_mul, sub_zero, div_one]
      linear_combination hy
  have hodd : babyJubSuborder = 2 * (babyJubSuborder / 2) + 1 := by decide
  rw [hodd, add_nsmul, mul_nsmul, hdouble, nsmul_zero, zero_add, one_nsmul] at horder
  exact horder

end TsnProtocol.Circomlib.BabyJub
