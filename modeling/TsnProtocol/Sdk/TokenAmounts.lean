import TsnProtocol.Sdk.CanonicalMessage

/-!
Token amounts as the SDK reads them: digits, with others after a point or none.
-/

namespace TsnProtocol.Sdk.TokenAmounts

open Lib.Checked
open Lib.JsonData
open Lib.TextFormat
open Sdk.CanonicalMessage

/-- `/^(\d+)(?:\.(\d+))?$/`, a missing fraction as an empty one. -/
def decimalParts (text : Text) : Option (Text × Text) :=
  let whole := text.takeWhile Char.isDigit
  if whole = [] then none
  else match text.dropWhile Char.isDigit with
    | [] => some (whole, [])
    | '.' :: fraction =>
        if fraction ≠ [] ∧ fraction.all Char.isDigit = true then some (whole, fraction)
        else none
    | _ => none

/-- `fraction.padEnd(decimals, "0") || "0"`, as a number. -/
def fractionUnits (fraction : Text) (decimals : Nat) : Nat :=
  decimalValue (fraction ++ List.replicate (decimals - fraction.length) '0')

def unitsOf (whole fraction : Text) (decimals : Nat) : Nat :=
  decimalValue whole * 10 ^ decimals + fractionUnits fraction decimals

def parseTokenAmountToBaseUnits (value : String) (decimals : Nat) (allowZero : Bool) :
    Result Nat := do
  require (decimals ≤ 18) "Token decimals must be an integer from 0 through 18"
  let amount := (trim value).toList
  let (whole, fraction) ←
    okOr ((decimalParts amount).filter fun parts => parts.2.length ≤ decimals)
      ("Amount must be a plain decimal with at most " ++ toString decimals ++
        " fractional digits")
  let baseUnits := unitsOf whole fraction decimals
  require (baseUnits ≠ 0 ∨ allowZero = true) "Amount must be positive"
  require (baseUnits ≤ 0xffffffffffffffff) "Amount is outside the u64 range"
  return baseUnits

/-- The text of a plain decimal. -/
def plainText (whole fraction : Text) : Text :=
  whole ++ if fraction = [] then [] else '.' :: fraction

/-- Digits before the point, and after it where there is one. -/
structure IsPlain (whole fraction : Text) : Prop where
  nonempty : whole ≠ []
  whole : whole.all Char.isDigit = true
  fraction : fraction.all Char.isDigit = true

section Plain

variable {whole fraction : Text} {decimals : Nat}

theorem decimalParts_plain (hplain : IsPlain whole fraction) :
    decimalParts (plainText whole fraction) = some (whole, fraction) := by
  obtain ⟨hnonempty, hwhole, hfraction⟩ := hplain
  have hdigit : ∀ digit ∈ whole, digit.isDigit = true := List.all_eq_true.mp hwhole
  rw [decimalParts, plainText, List.takeWhile_append_of_pos hdigit,
    List.dropWhile_append_of_pos hdigit]
  by_cases hempty : fraction = []
  · simp [hempty, hnonempty]
  · have hpoint : ('.' :: fraction).takeWhile Char.isDigit = [] := rfl
    have hrest : ('.' :: fraction).dropWhile Char.isDigit = '.' :: fraction := rfl
    rw [if_neg hempty, hpoint, hrest, List.append_nil]
    rw [if_neg hnonempty]
    exact if_pos ⟨hempty, hfraction⟩

theorem decimalParts_eq_some {text : Text} (hparts : decimalParts text = some (whole, fraction)) :
    IsPlain whole fraction ∧ text = plainText whole fraction := by
  have hsplit : text.takeWhile Char.isDigit ++ text.dropWhile Char.isDigit = text :=
    List.takeWhile_append_dropWhile
  have hdigits : (text.takeWhile Char.isDigit).all Char.isDigit = true :=
    List.all_takeWhile
  simp only [decimalParts] at hparts
  split at hparts
  · cases hparts
  · rename_i hnonempty
    split at hparts
    · rename_i hrest
      obtain ⟨rfl, rfl⟩ := Prod.mk.inj (Option.some.inj hparts)
      rw [hrest, List.append_nil] at hsplit
      exact ⟨⟨hnonempty, hdigits, rfl⟩, by rw [plainText, if_pos rfl, List.append_nil, hsplit]⟩
    · rename_i rest hrest
      split_ifs at hparts with hfraction
      obtain ⟨rfl, rfl⟩ := Prod.mk.inj (Option.some.inj hparts)
      rw [hrest] at hsplit
      exact ⟨⟨hnonempty, hdigits, hfraction.2⟩,
        by rw [plainText, if_neg hfraction.1, hsplit]⟩
    · cases hparts

theorem isDigit_or_point_of_plain (hplain : IsPlain whole fraction) {character : Char}
    (hcharacter : character ∈ plainText whole fraction) :
    character.isDigit = true ∨ character = '.' := by
  rcases List.mem_append.mp hcharacter with hmem | hmem
  · exact .inl (List.all_eq_true.mp hplain.whole character hmem)
  · split_ifs at hmem
    · cases hmem
    · rcases List.mem_cons.mp hmem with hpoint | hmem
      · exact .inr hpoint
      · exact .inl (List.all_eq_true.mp hplain.fraction character hmem)

theorem fractionUnits_eq :
    fractionUnits fraction decimals =
      decimalValue fraction * 10 ^ (decimals - fraction.length) := by
  rw [fractionUnits, decimalValue_append, decimalValue_replicate_zero, List.length_replicate,
    Nat.add_zero]

/-- The base units are the digits scaled by the places that the fraction leaves. -/
theorem unitsOf_mul (hlength : fraction.length ≤ decimals) :
    unitsOf whole fraction decimals * 10 ^ fraction.length =
      decimalValue (whole ++ fraction) * 10 ^ decimals := by
  have hpower : 10 ^ (decimals - fraction.length) * 10 ^ fraction.length = 10 ^ decimals := by
    rw [← Nat.pow_add, Nat.sub_add_cancel hlength]
  rw [unitsOf, fractionUnits_eq, decimalValue_append]
  calc (decimalValue whole * 10 ^ decimals +
        decimalValue fraction * 10 ^ (decimals - fraction.length)) * 10 ^ fraction.length =
        decimalValue whole * 10 ^ fraction.length * 10 ^ decimals + decimalValue fraction *
          (10 ^ (decimals - fraction.length) * 10 ^ fraction.length) := by ring
    _ = (decimalValue whole * 10 ^ fraction.length + decimalValue fraction) *
        10 ^ decimals := by rw [hpower]; ring

end Plain

end TsnProtocol.Sdk.TokenAmounts
