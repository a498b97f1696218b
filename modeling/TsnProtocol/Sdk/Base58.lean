import TsnProtocol.Lib.Base58

/-!
The SDK's base-58 encoder: the digits grow at their high end, byte by byte.
-/

namespace TsnProtocol.Sdk.Base58

open Lib.Base58
open Lib.BorrowSubtraction (beValue_cons)
open Lib.ByteReader
open Lib.TextFormat

/-- The loop over the digits, the lowest first, with what it carries out. -/
def timesPlus : List Nat → Nat → List Nat × Nat
  | [], carry => ([], carry)
  | digit :: digits, carry =>
      let next := digit * 256 + carry
      let (rest, last) := timesPlus digits (next / 58)
      (next % 58 :: rest, last)

/-- `while (carry > 0)`. -/
def carriedDigits (carry : Nat) : List Nat :=
  if carry = 0 then [] else carry % 58 :: carriedDigits (carry / 58)
termination_by carry
decreasing_by omega

def pushByte (digits : List Nat) (byte : Byte) : List Nat :=
  let (next, carry) := timesPlus digits byte.toNat
  next ++ carriedDigits carry

def encodeBase58 (value : List Byte) : Text :=
  if value.length = 0 then []
  else
    let digits := value.foldl pushByte [0]
    List.replicate (leadingZeros value) '1' ++ digits.reverse.map digitChar

section Invariant

theorem carriedDigits_eq (carry : Nat) : carriedDigits carry = Nat.digits 58 carry := by
  induction carry using Nat.strong_induction_on with
  | _ carry ih =>
      rw [carriedDigits]
      split_ifs with hzero
      · rw [hzero, Nat.digits_zero]
      · rw [Nat.digits_def' (by decide) (Nat.pos_of_ne_zero hzero), ih _ (by omega)]

theorem length_timesPlus (digits : List Nat) (carry : Nat) :
    (timesPlus digits carry).1.length = digits.length := by
  induction digits generalizing carry with
  | nil => rfl
  | cons digit digits ih => exact congrArg Nat.succ (ih _)

theorem lt_of_mem_timesPlus (digits : List Nat) (carry : Nat) :
    ∀ digit ∈ (timesPlus digits carry).1, digit < 58 := by
  induction digits generalizing carry with
  | nil => exact fun digit hdigit => absurd hdigit List.not_mem_nil
  | cons digit digits ih =>
      exact List.forall_mem_cons.mpr ⟨Nat.mod_lt _ (by decide), ih _⟩

/-- The digits and what is carried out spell the product. -/
theorem value_timesPlus (digits : List Nat) (carry : Nat) :
    Nat.ofDigits 58 (timesPlus digits carry).1 +
        58 ^ digits.length * (timesPlus digits carry).2 =
      256 * Nat.ofDigits 58 digits + carry := by
  induction digits generalizing carry with
  | nil => simp [timesPlus]
  | cons digit digits ih =>
      have hrest := ih ((digit * 256 + carry) / 58)
      simp only [timesPlus, Nat.ofDigits_cons, List.length_cons, pow_succ]
      calc (digit * 256 + carry) % 58 +
              58 * Nat.ofDigits 58 (timesPlus digits ((digit * 256 + carry) / 58)).1 +
            58 ^ digits.length * 58 * (timesPlus digits ((digit * 256 + carry) / 58)).2
          = (digit * 256 + carry) % 58 +
              58 * (Nat.ofDigits 58 (timesPlus digits ((digit * 256 + carry) / 58)).1 +
                58 ^ digits.length * (timesPlus digits ((digit * 256 + carry) / 58)).2) := by
            ring
        _ = (digit * 256 + carry) % 58 + 58 * ((digit * 256 + carry) / 58) +
              58 * (256 * Nat.ofDigits 58 digits) := by
            rw [hrest]
            ring
        _ = 256 * (digit + 58 * Nat.ofDigits 58 digits) + carry := by
            rw [Nat.mod_add_div]
            ring

theorem value_pushByte (digits : List Nat) (byte : Byte) :
    Nat.ofDigits 58 (pushByte digits byte) = 256 * Nat.ofDigits 58 digits + byte.toNat := by
  rw [pushByte, Nat.ofDigits_append, length_timesPlus, carriedDigits_eq, Nat.ofDigits_digits]
  exact value_timesPlus digits byte.toNat

theorem lt_of_mem_pushByte (digits : List Nat) (byte : Byte) :
    ∀ digit ∈ pushByte digits byte, digit < 58 := by
  intro digit hdigit
  rw [pushByte, List.mem_append, carriedDigits_eq] at hdigit
  rcases hdigit with hdigit | hdigit
  · exact lt_of_mem_timesPlus _ _ _ hdigit
  · exact Nat.digits_lt_base (by decide) hdigit

theorem length_pushByte (digits : List Nat) (byte : Byte) :
    (pushByte digits byte).length =
      digits.length + (Nat.digits 58 (timesPlus digits byte.toNat).2).length := by
  rw [pushByte, List.length_append, length_timesPlus, carriedDigits_eq]

/-- A byte leaves no zero at the high end of the digits of a number: the digits carried out end
in none, and without a carry the number is too large for fewer digits. -/
theorem getLast_pushByte_ne_zero {number : Nat} (hnumber : number ≠ 0) (byte : Byte)
    (hne : pushByte (Nat.digits 58 number) byte ≠ []) :
    (pushByte (Nat.digits 58 number) byte).getLast hne ≠ 0 := by
  intro hlast
  by_cases hcarry : (timesPlus (Nat.digits 58 number) byte.toNat).2 = 0
  · have hvalue := value_pushByte (Nat.digits 58 number) byte
    have hlength := length_pushByte (Nat.digits 58 number) byte
    rw [Nat.ofDigits_digits] at hvalue
    rw [hcarry, Nat.digits_zero, List.length_nil, Nat.add_zero] at hlength
    have hsplit := List.dropLast_append_getLast hne
    have hsmall : Nat.ofDigits 58 (pushByte (Nat.digits 58 number) byte) <
        58 ^ (pushByte (Nat.digits 58 number) byte).dropLast.length := by
      rw [← hsplit, Nat.ofDigits_append, Nat.ofDigits_singleton, hlast, Nat.mul_zero,
        Nat.add_zero, List.dropLast_concat]
      refine Nat.ofDigits_lt_base_pow_length (by decide) fun digit hdigit => ?_
      exact lt_of_mem_pushByte _ _ _ (List.mem_of_mem_dropLast hdigit)
    rw [List.length_dropLast, hlength, hvalue] at hsmall
    have hlarge := Nat.base_pow_length_digits_le 58 number (by decide) hnumber
    have hpositive : 0 < (Nat.digits 58 number).length :=
      List.length_pos_of_ne_nil (Nat.digits_ne_nil_iff_ne_zero.mpr hnumber)
    have hpow : 58 ^ (Nat.digits 58 number).length =
        58 * 58 ^ ((Nat.digits 58 number).length - 1) := by
      conv_lhs => rw [← Nat.sub_add_cancel hpositive]
      exact pow_succ' 58 _
    omega
  · have hdigits : Nat.digits 58 (timesPlus (Nat.digits 58 number) byte.toNat).2 ≠ [] :=
      Nat.digits_ne_nil_iff_ne_zero.mpr hcarry
    refine Nat.getLast_digit_ne_zero 58 hcarry (Eq.trans ?_ hlast)
    simp only [pushByte, carriedDigits_eq]
    exact (List.getLast_append_of_right_ne_nil _ _ hdigits).symm

theorem pushByte_digits {number : Nat} (hnumber : number ≠ 0) (byte : Byte) :
    pushByte (Nat.digits 58 number) byte = Nat.digits 58 (256 * number + byte.toNat) := by
  have hvalue := value_pushByte (Nat.digits 58 number) byte
  rw [Nat.ofDigits_digits] at hvalue
  rw [← hvalue]
  exact (Nat.digits_ofDigits 58 (by decide) _ (lt_of_mem_pushByte _ _)
    (getLast_pushByte_ne_zero hnumber byte)).symm

/-- The digits that the loop keeps for a number: one zero for zero. -/
def loopDigits (number : Nat) : List Nat :=
  if number = 0 then [0] else Nat.digits 58 number

theorem pushByte_loopDigits (number : Nat) (byte : Byte) :
    pushByte (loopDigits number) byte = loopDigits (256 * number + byte.toNat) := by
  by_cases hnumber : number = 0
  · subst hnumber
    have hall : ∀ byte : Byte, pushByte [0] byte = loopDigits byte.toNat := by
      intro byte
      by_cases hsmall : byte.toNat < 58
      · have hcarry : byte.toNat / 58 = 0 := Nat.div_eq_of_lt hsmall
        by_cases hzero : byte.toNat = 0
        · simp [pushByte, timesPlus, carriedDigits_eq, loopDigits, hzero]
        · simp [pushByte, timesPlus, carriedDigits_eq, loopDigits, hzero, hcarry,
            Nat.mod_eq_of_lt hsmall, Nat.digits_of_lt 58 _ hzero hsmall]
      · have hzero : byte.toNat ≠ 0 := by omega
        rw [loopDigits, if_neg hzero, Nat.digits_def' (by decide) (Nat.pos_of_ne_zero hzero)]
        simp [pushByte, timesPlus, carriedDigits_eq]
    rw [Nat.mul_zero, Nat.zero_add]
    exact hall byte
  · have hnext : 256 * number + byte.toNat ≠ 0 := by omega
    rw [loopDigits, if_neg hnumber, pushByte_digits hnumber, loopDigits, if_neg hnext]

theorem foldl_pushByte (value : List Byte) (number : Nat) :
    value.foldl pushByte (loopDigits number) =
      loopDigits (256 ^ value.length * number + beValue value) := by
  induction value generalizing number with
  | nil => simp [beValue, leValue]
  | cons byte value ih =>
      rw [List.foldl_cons, pushByte_loopDigits, ih, beValue_cons, List.length_cons, pow_succ]
      congr 1
      ring

/-- What the loop writes: the digits of the number, and one for no digit at all. -/
theorem encodeBase58_eq {value : List Byte} (hvalue : value ≠ []) :
    encodeBase58 value = List.replicate (leadingZeros value) '1' ++
      if beValue value = 0 then ['1'] else digitText (beValue value) := by
  have hfold := foldl_pushByte value 0
  rw [Nat.mul_zero, Nat.zero_add] at hfold
  have hlength : value.length ≠ 0 := by
    rwa [Ne, List.length_eq_zero_iff]
  rw [encodeBase58, if_neg hlength]
  show List.replicate _ '1' ++ ((value.foldl pushByte (loopDigits 0)).reverse.map digitChar) = _
  rw [hfold, loopDigits]
  split_ifs with hzero
  · rfl
  · rfl

end Invariant

/-- The encoder writes the standard text of the empty string and of every string with a byte
that is not zero, and of no other. -/
theorem encodeBase58_eq_standardText_iff (value : List Byte) :
    encodeBase58 value = standardText value ↔ value = [] ∨ beValue value ≠ 0 := by
  by_cases hvalue : value = []
  · subst hvalue
    simp [encodeBase58, standardText, leadingZeros, digitText, beValue, leValue]
  · rw [encodeBase58_eq hvalue, standardText]
    by_cases hzero : beValue value = 0
    · simp [hzero, hvalue, digitText]
    · simp [hzero]

end TsnProtocol.Sdk.Base58
