import TsnProtocol.Node.AuthorizedMessages
import TsnProtocol.Sdk.TokenAmounts

/-!
The conversion of an amount to base units at the Node, beside the exact value of its text and
the conversion in the SDK.
-/

namespace TsnProtocol.Node.BaseUnits

open Lib.Checked
open Lib.JsonData (trim)
open Lib.PythonText
open Lib.TextFormat
open Node.AuthorizedMessages
open Node.PaymentAuthorization
open Sdk.CanonicalMessage (decimalValue_append)
open Sdk.TokenAmounts

variable {python : Python} {text : String} {decimals units : Nat} {allowZero : Bool}

/-- The number of base units that an amount may stand for. -/
def IsAmount (allowZero : Bool) (units : Nat) : Prop :=
  units < 2 ^ 64 ∧ (units ≠ 0 ∨ allowZero = true)

/-- The decimal context rounds what the text stands for to so many base units. -/
def RoundsTo (python : Python) (text : String) (decimals units : Nat) : Prop :=
  ∃ negative coefficient exponent,
    decimalOf python.unicode text = some (.finite negative coefficient exponent) ∧
      0 ≤ finiteValue negative coefficient exponent ∧
      roundInContext (finiteValue negative coefficient exponent * 10 ^ decimals) =
        some (units : Rat)

/-- The rounding is silent where it reaches base units that the text does not stand for. -/
def RoundsSilently (python : Python) (text : String) (decimals : Nat) : Prop :=
  ∃ units, units < 2 ^ 64 ∧ RoundsTo python text decimals units ∧
    ¬ Shows python text decimals units

theorem shows_unique {units' : Nat} (hshows : Shows python text decimals units)
    (hshows' : Shows python text decimals units') : units = units' := by
  obtain ⟨_, _, _, hread, hvalue⟩ := hshows
  obtain ⟨_, _, _, hread', hvalue'⟩ := hshows'
  rw [hread, Option.some.injEq, Decimal.finite.injEq] at hread'
  obtain ⟨rfl, rfl, rfl⟩ := hread'
  rw [hvalue] at hvalue'
  exact_mod_cast hvalue'

/-- What the Node returns is what the context rounds the amount to. -/
theorem roundsTo_of_ok
    (hunits : uiAmountToBaseUnits python (some text) decimals allowZero = .ok units) :
    RoundsTo python text decimals units ∧ units < 2 ^ 64 ∧
      (allowZero = true ∨ ¬ Shows python text decimals 0) := by
  rw [uiAmountToBaseUnits, Option.getD_some] at hunits
  split at hunits
  all_goals try cases hunits
  rename_i negative coefficient exponent hread
  simp only [bind_eq_ok, okOr_eq_ok, require_eq_ok, pure_eq_ok] at hunits
  obtain ⟨scaled, hround, _, ⟨hnonneg, hpositive⟩, _, hwhole, _, hsmall, hunits⟩ := hunits
  have hscale : (0 : Rat) < 10 ^ decimals := by positivity
  have hnum : 0 ≤ scaled.num :=
    Rat.num_nonneg.mpr (nonneg_of_roundInContext (mul_nonneg hnonneg hscale.le) hround)
  have hscaled : scaled = (units : Rat) := by
    rw [← hunits, ← Int.cast_natCast, Int.toNat_of_nonneg hnum]
    exact (Rat.den_eq_one_iff scaled).mp hwhole |>.symm
  rw [hscaled] at hround
  refine ⟨⟨negative, coefficient, exponent, hread, hnonneg, hround⟩, by omega, ?_⟩
  rcases hpositive with hnonzero | hzero
  · right
    rintro ⟨_, _, _, hread', hvalue⟩
    rw [hread, Option.some.injEq, Decimal.finite.injEq] at hread'
    obtain ⟨rfl, rfl, rfl⟩ := hread'
    rw [Nat.cast_zero, mul_eq_zero] at hvalue
    exact hvalue.elim hnonzero hscale.ne'
  · exact .inl hzero

/-- Where no amount is rounded silently, the Node returns what the text stands for. -/
theorem uiAmount_eq_ok (hexact : ¬ RoundsSilently python text decimals) :
    uiAmountToBaseUnits python (some text) decimals allowZero = .ok units ↔
      Shows python text decimals units ∧ IsAmount allowZero units := by
  constructor
  · intro hunits
    obtain ⟨hrounds, hsmall, hzero⟩ := roundsTo_of_ok hunits
    have hshows : Shows python text decimals units := by
      by_contra hother
      exact hexact ⟨units, hsmall, hrounds, hother⟩
    refine ⟨hshows, hsmall, ?_⟩
    rcases hzero with hzero | hpositive
    · exact .inr hzero
    · left
      rintro rfl
      exact hpositive hshows
  · rintro ⟨hshows, hsmall, hzero⟩
    exact uiAmount_of_shows hshows hsmall hzero

section Plain

variable {whole fraction : Text}

theorem point_plainText :
    (if fraction = [] then [] else '.' :: fraction) = [] ∧ fraction = [] ∨
      (if fraction = [] then [] else '.' :: fraction) = '.' :: fraction := by
  by_cases hempty : fraction = []
  · exact .inl ⟨if_pos hempty, hempty⟩
  · exact .inr (if_neg hempty)

theorem unitsOf_large (hlength : fraction.length ≤ decimals) (hdecimals : decimals ≤ 18)
    (hlarge : 10 ^ 40 ≤ decimalValue (whole ++ fraction)) :
    2 ^ 64 ≤ unitsOf whole fraction decimals := by
  have hmul := @unitsOf_mul whole fraction decimals hlength
  have hplaces : 10 ^ fraction.length ≤ 10 ^ 18 :=
    Nat.pow_le_pow_right (by decide) (by omega)
  have hscale : 0 < 10 ^ decimals := Nat.pow_pos (by decide)
  by_contra hsmall
  have hproduct : unitsOf whole fraction decimals * 10 ^ fraction.length ≤
      2 ^ 64 * 10 ^ 18 := Nat.mul_le_mul (by omega) hplaces
  have hbelow : decimalValue (whole ++ fraction) ≤
      decimalValue (whole ++ fraction) * 10 ^ decimals := Nat.le_mul_of_pos_right _ hscale
  omega

theorem shows_plain (hascii : AsciiDigits python.unicode) (hplain : IsPlain whole fraction)
    (hlength : fraction.length ≤ decimals)
    (hkept : keptExactly (decimalValue (whole ++ fraction)) (0 - fraction.length)) :
    Shows python (String.ofList (plainText whole fraction)) decimals
      (unitsOf whole fraction decimals) := by
  refine ⟨false, _, _, decimalOf_plain hascii hplain.whole hplain.fraction hplain.nonempty
    point_plainText hkept, ?_⟩
  have hfraction : decimalValue fraction * 10 ^ decimals =
      fractionUnits fraction decimals * 10 ^ fraction.length := by
    rw [fractionUnits_eq, Nat.mul_assoc, ← Nat.pow_add, Nat.sub_add_cancel hlength]
  rw [decimalValue_append, finiteValue_mul hfraction]
  rfl

/-- A plain amount of no more digits than the token has is never rounded to another one. -/
theorem not_roundsSilently_plain (hascii : AsciiDigits python.unicode)
    (hplain : IsPlain whole fraction) (hlength : fraction.length ≤ decimals) :
    ¬ RoundsSilently python (String.ofList (plainText whole fraction)) decimals := by
  rintro ⟨units, hunits, ⟨negative, coefficient, exponent, hread, hnonneg, hround⟩, hother⟩
  have hdecimal := decimalOf_digits hascii hplain.whole hplain.fraction hplain.nonempty
    point_plainText
  rw [← plainText, hread] at hdecimal
  split_ifs at hdecimal with hkept
  obtain ⟨negative', coefficient', exponent', hread', hvalue⟩ :=
    @shows_plain python decimals whole fraction hascii hplain hlength hkept
  rw [hread, Option.some.injEq, Decimal.finite.injEq] at hread'
  obtain ⟨rfl, rfl, rfl⟩ := hread'
  rw [hvalue] at hround
  rcases lt_or_ge (unitsOf whole fraction decimals) (10 ^ 28) with hsmall | hlarge
  · rw [roundInContext_natCast hsmall, Option.some.injEq, Nat.cast_inj] at hround
    exact hother ⟨negative, coefficient, exponent, hread, by rw [hvalue, hround]⟩
  · have hbound := le_of_roundInContext (by exact_mod_cast hlarge) hround
    have hbound : 10 ^ 27 ≤ units := by exact_mod_cast hbound
    omega

theorem trim_plain (hplain : IsPlain whole fraction) :
    trim (String.ofList (plainText whole fraction)) =
      String.ofList (plainText whole fraction) := by
  rw [trim, String.toList_ofList, trimmed_eq_self]
  intro character hcharacter
  rcases isDigit_or_point_of_plain hplain hcharacter with hdigit | rfl
  · obtain ⟨hlow, hhigh⟩ := isDigit_range hdigit
    rw [Lib.JsonData.isSpace]
    interval_cases character.toNat <;> rfl
  · decide

/-- What the SDK reads out of a plain amount. -/
theorem parseTokenAmountToBaseUnits_plain (hplain : IsPlain whole fraction)
    (hdecimals : decimals ≤ 18) :
    parseTokenAmountToBaseUnits (String.ofList (plainText whole fraction)) decimals allowZero =
        .ok units ↔
      fraction.length ≤ decimals ∧ unitsOf whole fraction decimals = units ∧
        IsAmount allowZero units := by
  simp only [parseTokenAmountToBaseUnits, trim_plain hplain, String.toList_ofList,
    decimalParts_plain hplain, bind_eq_ok, require_eq_ok, okOr_eq_ok, Option.filter_eq_some_iff,
    pure_eq_ok, decide_eq_true_eq, IsAmount]
  constructor
  · rintro ⟨_, -, _, ⟨⟨⟩, hlength⟩, _, hzero, _, hsmall, rfl⟩
    exact ⟨hlength, rfl, by omega, hzero⟩
  · rintro ⟨hlength, rfl, hsmall, hzero⟩
    exact ⟨⟨⟩, hdecimals, _, ⟨rfl, hlength⟩, ⟨⟩, hzero, ⟨⟩, Nat.le_of_lt_succ hsmall, rfl⟩

/-- Of a plain amount with no more digits than the token has, the Node reads what the SDK
reads. -/
theorem uiAmount_plain (hascii : AsciiDigits python.unicode) (hplain : IsPlain whole fraction)
    (hdecimals : decimals ≤ 18) (hlength : fraction.length ≤ decimals) :
    uiAmountToBaseUnits python (some (String.ofList (plainText whole fraction))) decimals
        allowZero = .ok units ↔
      parseTokenAmountToBaseUnits (String.ofList (plainText whole fraction)) decimals
        allowZero = .ok units := by
  rw [uiAmount_eq_ok (not_roundsSilently_plain hascii hplain hlength),
    parseTokenAmountToBaseUnits_plain hplain hdecimals]
  by_cases hkept : keptExactly (decimalValue (whole ++ fraction)) (0 - fraction.length)
  · have hshows := @shows_plain python decimals whole fraction hascii hplain hlength hkept
    constructor
    · rintro ⟨hother, hamount⟩
      exact ⟨hlength, shows_unique hshows hother, hamount⟩
    · rintro ⟨-, rfl, hamount⟩
      exact ⟨hshows, hamount⟩
  · have hlarge : 10 ^ 40 ≤ decimalValue (whole ++ fraction) := by
      by_contra hsmall
      exact hkept (keptExactly_small (by omega) (by omega))
    have hunits := unitsOf_large hlength hdecimals hlarge
    constructor
    · rintro ⟨⟨_, _, _, hread, -⟩, -⟩
      rw [plainText, decimalOf_digits hascii hplain.whole hplain.fraction hplain.nonempty
        point_plainText, if_neg hkept] at hread
      cases hread
    · rintro ⟨-, rfl, hsmall, -⟩
      omega

end Plain

section Samples

/-- Seven digits after the point, of a token with six. -/
theorem shows_trailing_zeros :
    Shows samplePaymentPython (String.ofList (plainText "1".toList "0000000".toList)) 6
      1000000 := by
  have hplain : IsPlain "1".toList "0000000".toList := ⟨by decide, rfl, rfl⟩
  refine ⟨false, _, _, decimalOf_plain ascii_samplePayment hplain.whole hplain.fraction
    hplain.nonempty point_plainText (keptExactly_small (by decide) (by decide)), ?_⟩
  have hcoefficient : decimalValue ("1".toList ++ "0000000".toList) = 1 * 10 ^ 7 + 0 := by
    decide
  rw [hcoefficient]
  exact @finiteValue_mul 1 0 7 0 6 rfl

end Samples

end TsnProtocol.Node.BaseUnits
