import Mathlib
import TsnProtocol.Lib.BorrowSubtraction
import TsnProtocol.Lib.TextFormat

/-!
The base-58 text of a byte string: a one for each zero byte in front, then the digits of the
number that the bytes spell. The number and the count of zeros give the bytes back.
-/

namespace TsnProtocol.Lib.Base58

open Lib.BorrowSubtraction (beValue_cons)
open Lib.ByteReader
open Lib.TextFormat

def alphabet : Text :=
  "123456789ABCDEFGHJKLMNPQRSTUVWXYZabcdefghijkmnopqrstuvwxyz".toList

def digitChar (digit : Nat) : Char :=
  alphabet.getD digit '1'

def leadingZeros (bytes : List Byte) : Nat :=
  (bytes.takeWhile (· = 0)).length

/-- The digits of a number, the highest first. -/
def digitText (number : Nat) : Text :=
  (Nat.digits 58 number).reverse.map digitChar

/-- The standard text. -/
def standardText (bytes : List Byte) : Text :=
  List.replicate (leadingZeros bytes) '1' ++ digitText (beValue bytes)

/-- A number in as many bytes as it takes. -/
def minimalBytes (number : Nat) : List Byte :=
  if number = 0 then [] else beBytes ((Nat.log2 number + 8) / 8) number

def digitsValue (digits : List Nat) : Nat :=
  digits.foldl (fun number digit => number * 58 + digit) 0

section Zeros

variable {bytes : List Byte}

theorem takeWhile_zero (bytes : List Byte) :
    bytes.takeWhile (· = 0) = List.replicate (leadingZeros bytes) 0 := by
  refine List.eq_replicate_iff.mpr ⟨rfl, fun byte hbyte => ?_⟩
  simpa using List.mem_takeWhile_imp hbyte

/-- A byte string is its zeros in front and the rest. -/
theorem replicate_append_dropWhile (bytes : List Byte) :
    List.replicate (leadingZeros bytes) 0 ++ bytes.dropWhile (· = 0) = bytes := by
  rw [← takeWhile_zero, List.takeWhile_append_dropWhile]

theorem length_sub_dropWhile (bytes : List Byte) :
    bytes.length - (bytes.dropWhile (· = 0)).length = leadingZeros bytes := by
  have hlength := congrArg List.length (replicate_append_dropWhile bytes)
  rw [List.length_append, List.length_replicate] at hlength
  omega

theorem beValue_replicate_append (count : Nat) (bytes : List Byte) :
    beValue (List.replicate count 0 ++ bytes) = beValue bytes := by
  induction count with
  | zero => rfl
  | succ count ih =>
      rw [List.replicate_succ, List.cons_append, beValue_cons, ih]
      simp

theorem beValue_dropWhile (bytes : List Byte) :
    beValue (bytes.dropWhile (· = 0)) = beValue bytes := by
  conv_rhs => rw [← replicate_append_dropWhile bytes]
  exact (beValue_replicate_append _ _).symm

theorem beValue_eq_zero_iff : beValue bytes = 0 ↔ ∀ byte ∈ bytes, byte = 0 := by
  induction bytes with
  | nil => simp [beValue, leValue]
  | cons byte bytes ih =>
      rw [beValue_cons, List.forall_mem_cons, ← ih, Nat.add_eq_zero_iff, Nat.mul_eq_zero]
      have hpow : (256 : Nat) ^ bytes.length ≠ 0 := by positivity
      have hbyte : byte.toNat = 0 ↔ byte = 0 := by
        rw [← BitVec.toNat_inj]
        rfl
      simp only [hpow, false_or, hbyte]
      exact and_comm

theorem minimalBytes_beValue (bytes : List Byte) :
    minimalBytes (beValue bytes) = bytes.dropWhile (· = 0) := by
  rw [← beValue_dropWhile]
  cases hdrop : bytes.dropWhile (· = 0) with
  | nil => rfl
  | cons first rest =>
      have hfirst : first ≠ 0 := by
        intro hzero
        have hhead := List.head_dropWhile_not (fun byte : Byte => decide (byte = 0))
          (by rw [hdrop]; exact List.cons_ne_nil first rest)
        simp only [hdrop, List.head_cons, hzero] at hhead
        revert hhead
        decide
      have hpos : 0 < first.toNat := by
        rcases Nat.eq_zero_or_pos first.toNat with hzero | hpos
        · exact absurd (BitVec.eq_of_toNat_eq hzero) hfirst
        · exact hpos
      have hlow : 256 ^ rest.length ≤ beValue (first :: rest) := by
        rw [beValue_cons]
        nlinarith [Nat.pos_of_ne_zero (show (256 : Nat) ^ rest.length ≠ 0 by positivity)]
      have hhigh := beValue_lt (first :: rest)
      have hne : beValue (first :: rest) ≠ 0 := by
        have hone : 0 < 256 ^ rest.length := by positivity
        omega
      rw [List.length_cons] at hhigh
      have hlogLow : 8 * rest.length ≤ Nat.log2 (beValue (first :: rest)) := by
        rw [Nat.le_log2 hne, pow_mul]
        exact hlow
      have hlogHigh : Nat.log2 (beValue (first :: rest)) < 8 * (rest.length + 1) := by
        rw [Nat.log2_lt hne, pow_mul]
        exact hhigh
      have hsize : (Nat.log2 (beValue (first :: rest)) + 8) / 8 = (first :: rest).length := by
        rw [List.length_cons]
        omega
      rw [minimalBytes, if_neg hne, hsize]
      exact beBytes_beValue rfl

end Zeros

section Digits

theorem nodup_alphabet : alphabet.Nodup := by
  -- the letters stand in the order of their codes
  have hsorted : (alphabet.map Char.toNat).IsChain (· < ·) := by decide +kernel
  exact List.Nodup.of_map Char.toNat (hsorted.pairwise.imp Nat.ne_of_lt)

theorem idxOf?_digitChar {digit : Nat} (hdigit : digit < 58) :
    alphabet.idxOf? (digitChar digit) = some digit := by
  have hlength : alphabet.length = 58 := String.length_toList
  have hbound : digit < alphabet.length := hlength ▸ hdigit
  rw [digitChar, List.getD, List.getElem?_eq_getElem hbound, Option.getD_some,
    List.idxOf?_eq_some_iff]
  refine ⟨hbound, rfl, fun other hother heq => Nat.ne_of_lt hother ?_⟩
  exact (nodup_alphabet.getElem_inj_iff).mp heq

theorem digitChar_eq_one_iff {digit : Nat} (hdigit : digit < 58) :
    digitChar digit = '1' ↔ digit = 0 := by
  have hall : ∀ digit < 58, digitChar digit = '1' ↔ digit = 0 := by decide
  exact hall digit hdigit

theorem mapM_digitChar {digits : List Nat} (hdigits : ∀ digit ∈ digits, digit < 58) :
    (digits.map digitChar).mapM alphabet.idxOf? = some digits := by
  induction digits with
  | nil => rfl
  | cons digit digits ih =>
      rw [List.forall_mem_cons] at hdigits
      rw [List.map_cons, List.mapM_cons, idxOf?_digitChar hdigits.1, ih hdigits.2]
      rfl

theorem lt_of_mem_digits {number digit : Nat} (hdigit : digit ∈ (Nat.digits 58 number).reverse) :
    digit < 58 :=
  Nat.digits_lt_base (by decide) (List.mem_reverse.mp hdigit)

theorem digitsValue_digits (number : Nat) :
    digitsValue (Nat.digits 58 number).reverse = number := by
  rw [digitsValue, List.foldl_reverse]
  conv_rhs => rw [← Nat.ofDigits_digits 58 number, Nat.ofDigits_eq_foldr]
  congr 1
  funext digit number
  simp only [Nat.cast_id]
  ring

theorem digitsValue_replicate (count : Nat) (digits : List Nat) :
    digitsValue (List.replicate count 0 ++ digits) = digitsValue digits := by
  induction count with
  | zero => rfl
  | succ count ih =>
      rw [← ih, List.replicate_succ]
      rfl

theorem digitText_eq_nil_iff {number : Nat} : digitText number = [] ↔ number = 0 := by
  rw [digitText, List.map_eq_nil_iff, List.reverse_eq_nil_iff, Nat.digits_eq_nil_iff_eq_zero]

/-- The digits of a number begin with no zero. -/
theorem takeWhile_digitText (number : Nat) : (digitText number).takeWhile (· = '1') = [] := by
  by_cases hzero : number = 0
  · rw [digitText_eq_nil_iff.mpr hzero, List.takeWhile_nil]
  · have hdigits : Nat.digits 58 number ≠ [] := Nat.digits_ne_nil_iff_ne_zero.mpr hzero
    have hlast := Nat.getLast_digit_ne_zero 58 hzero
    have hbound : (Nat.digits 58 number).getLast hdigits < 58 :=
      Nat.digits_lt_base (by decide) (List.getLast_mem hdigits)
    have hsplit := List.dropLast_append_getLast hdigits
    rw [digitText, ← hsplit, List.reverse_append, List.reverse_singleton, List.singleton_append,
      List.map_cons, List.takeWhile_cons_of_neg]
    simpa [digitChar_eq_one_iff hbound] using hlast

end Digits

section Standard

variable (bytes : List Byte)

theorem mapM_standardText :
    (standardText bytes).mapM alphabet.idxOf? =
      some (List.replicate (leadingZeros bytes) 0 ++
        (Nat.digits 58 (beValue bytes)).reverse) := by
  have htext : standardText bytes = (List.replicate (leadingZeros bytes) 0 ++
      (Nat.digits 58 (beValue bytes)).reverse).map digitChar := by
    rw [List.map_append, List.map_replicate]
    rfl
  rw [htext]
  refine mapM_digitChar fun digit hdigit => ?_
  rcases List.mem_append.mp hdigit with hzero | hdigit
  · rw [List.eq_of_mem_replicate hzero]
    decide
  · exact lt_of_mem_digits hdigit

theorem digitsValue_standard :
    digitsValue (List.replicate (leadingZeros bytes) 0 ++
      (Nat.digits 58 (beValue bytes)).reverse) = beValue bytes := by
  rw [digitsValue_replicate, digitsValue_digits]

/-- The ones in front of a text are the zeros in front of the bytes. -/
theorem length_takeWhile_standardText :
    ((standardText bytes).takeWhile (· = '1')).length = leadingZeros bytes := by
  rw [standardText, List.takeWhile_append_of_pos, takeWhile_digitText, List.append_nil,
    List.length_replicate]
  intro character hcharacter
  rw [List.eq_of_mem_replicate hcharacter]
  rfl

theorem replicate_append_minimalBytes :
    List.replicate (leadingZeros bytes) 0 ++ minimalBytes (beValue bytes) = bytes := by
  rw [minimalBytes_beValue, replicate_append_dropWhile]

end Standard

example : alphabet.length = 58 := by
  decide +kernel

end TsnProtocol.Lib.Base58
