import Mathlib
import TsnProtocol.Bn254.Field

/-!
The circomlib templates for bits and comparisons, as the constraints they impose on
their signals: an unconstrained assignment says nothing and is left out.
-/

namespace TsnProtocol.Circomlib.Gadgets

open Bn254.Field
open Bn254.Scalar

/-- The constraint of a boolean signal. -/
def IsBoolean (bit : Fr) : Prop :=
  bit * (bit - 1) = 0

/-- The linear combination that `Num2Bits` compares with its input. -/
def weightedSum : List Fr → Fr
  | [] => 0
  | bit :: bits => bit + 2 * weightedSum bits

/-- `Num2Bits(n)`, lowest bit first. -/
structure Num2Bits (n : Nat) (input : Fr) (out : List Fr) : Prop where
  length : out.length = n
  boolean : ∀ bit ∈ out, IsBoolean bit
  sum : weightedSum out = input

/-- The number that boolean signals stand for. -/
def bitValue : List Fr → Nat
  | [] => 0
  | bit :: bits => bit.val + 2 * bitValue bits

/-- `Num2Bits_strict`: `AliasCheck` compares the bits with the largest field element. -/
structure Num2BitsStrict (input : Fr) (out : List Fr) : Prop where
  bits : Num2Bits 254 input out
  aliasCheck : bitValue out ≤ bn254ScalarOrder - 1

/-- `IsZero`, whose second constraint holds for every choice of the inverse. -/
def IsZero (input out : Fr) : Prop :=
  ∃ inverse, out = -input * inverse + 1 ∧ input * out = 0

def IsEqual (first second out : Fr) : Prop :=
  IsZero (second - first) out

/-- `LessThan(n)`: the top bit of `first + 2 ^ n - second`, negated. -/
def LessThan (n : Nat) (first second out : Fr) : Prop :=
  ∃ bits, Num2Bits (n + 1) (first + 2 ^ n - second) bits ∧ out = 1 - bits.getD n 0

/-- Bits of a number, lowest first. -/
def natBits : Nat → Nat → List Fr
  | 0, _ => []
  | n + 1, value => ((value % 2 : Nat) : Fr) :: natBits n (value / 2)

section Bits

theorem isBoolean_iff {bit : Fr} : IsBoolean bit ↔ bit = 0 ∨ bit = 1 := by
  unfold IsBoolean
  rw [mul_eq_zero, sub_eq_zero]

theorem val_le_one {bit : Fr} (hbit : IsBoolean bit) : bit.val ≤ 1 := by
  rcases isBoolean_iff.mp hbit with rfl | rfl
  · decide
  · decide

theorem bitValue_lt (bits : List Fr) (hbits : ∀ bit ∈ bits, IsBoolean bit) :
    bitValue bits < 2 ^ bits.length := by
  induction bits with
  | nil => decide
  | cons bit bits ih =>
      have hhead := val_le_one (hbits bit List.mem_cons_self)
      have htail := ih fun other hother => hbits other (List.mem_cons_of_mem _ hother)
      rw [bitValue, List.length_cons, Nat.pow_succ]
      omega

theorem cast_bitValue (bits : List Fr) : (bitValue bits : Fr) = weightedSum bits := by
  induction bits with
  | nil => rfl
  | cons bit bits ih =>
      rw [bitValue, weightedSum, Nat.cast_add, Nat.cast_mul, ih, ZMod.natCast_val,
        ZMod.cast_id, Nat.cast_two]

theorem natBits_length (n value : Nat) : (natBits n value).length = n := by
  induction n generalizing value with
  | zero => rfl
  | succ n ih => rw [natBits, List.length_cons, ih]

theorem isBoolean_of_mem_natBits {n value : Nat} {bit : Fr} (hbit : bit ∈ natBits n value) :
    IsBoolean bit := by
  induction n generalizing value with
  | zero => cases hbit
  | succ n ih =>
      rcases List.mem_cons.mp hbit with rfl | htail
      · rcases Nat.mod_two_eq_zero_or_one value with hzero | hone
        · rw [hzero, isBoolean_iff]
          exact .inl Nat.cast_zero
        · rw [hone, isBoolean_iff]
          exact .inr Nat.cast_one
      · exact ih htail

theorem val_cast_mod_two (value : Nat) : ((value % 2 : Nat) : Fr).val = value % 2 :=
  ZMod.val_cast_of_lt (lt_of_lt_of_le (Nat.mod_lt value two_pos) (by decide))

theorem bitValue_natBits (n value : Nat) : bitValue (natBits n value) = value % 2 ^ n := by
  induction n generalizing value with
  | zero => rw [pow_zero, Nat.mod_one]; rfl
  | succ n ih =>
      rw [natBits, bitValue, val_cast_mod_two, ih, Nat.pow_succ, Nat.mul_comm (2 ^ n) 2,
        Nat.mod_mul]

theorem take_natBits (n extra value : Nat) :
    (natBits (n + extra) value).take n = natBits n value := by
  induction n generalizing value with
  | zero => rfl
  | succ n ih =>
      rw [Nat.add_right_comm, natBits, List.take_succ_cons, ih, natBits]

/-- Boolean signals are determined by the number they stand for. -/
theorem eq_natBits (bits : List Fr) (hbits : ∀ bit ∈ bits, IsBoolean bit) :
    bits = natBits bits.length (bitValue bits) := by
  induction bits with
  | nil => rfl
  | cons bit bits ih =>
      have htail := ih fun other hother => hbits other (List.mem_cons_of_mem _ hother)
      have hvalue : (bit.val + 2 * bitValue bits) / 2 = bitValue bits := by
        have hhead := val_le_one (hbits bit List.mem_cons_self)
        omega
      have hbit : ((bit.val + 2 * bitValue bits) % 2 : Nat) = bit.val := by
        have hhead := val_le_one (hbits bit List.mem_cons_self)
        omega
      rw [List.length_cons, natBits, bitValue, hvalue, ← htail, hbit, ZMod.natCast_val,
        ZMod.cast_id]

/-- Below the order of the field a decomposition is that of the input read as a
number. -/
theorem bitValue_of_num2Bits {n : Nat} {input : Fr} {out : List Fr}
    (hbits : Num2Bits n input out) (hlt : bitValue out < bn254ScalarOrder) :
    bitValue out = input.val := by
  rw [← hbits.sum, ← cast_bitValue, ZMod.val_cast_of_lt hlt]

theorem num2Bits_iff {n : Nat} (hn : 2 ^ n ≤ bn254ScalarOrder) (input : Fr)
    (out : List Fr) :
    Num2Bits n input out ↔ input.val < 2 ^ n ∧ out = natBits n input.val := by
  constructor
  · intro hbits
    have hlt : bitValue out < 2 ^ n := hbits.length ▸ bitValue_lt out hbits.boolean
    have hvalue := bitValue_of_num2Bits hbits (hlt.trans_le hn)
    refine ⟨hvalue ▸ hlt, ?_⟩
    rw [← hvalue, ← hbits.length]
    exact eq_natBits out hbits.boolean
  · rintro ⟨hlt, rfl⟩
    refine ⟨natBits_length n _, fun bit => isBoolean_of_mem_natBits, ?_⟩
    rw [← cast_bitValue, bitValue_natBits, Nat.mod_eq_of_lt hlt, ZMod.natCast_val,
      ZMod.cast_id]

theorem num2BitsStrict_iff (input : Fr) (out : List Fr) :
    Num2BitsStrict input out ↔ out = natBits 254 input.val := by
  have hinput : input.val < bn254ScalarOrder := ZMod.val_lt input
  have horder : bn254ScalarOrder < 2 ^ 254 := by decide
  constructor
  · rintro ⟨hbits, halias⟩
    have hvalue := bitValue_of_num2Bits hbits (by omega)
    rw [← hvalue, ← hbits.length]
    exact eq_natBits out hbits.boolean
  · rintro rfl
    have hvalue : bitValue (natBits 254 input.val) = input.val := by
      rw [bitValue_natBits, Nat.mod_eq_of_lt (hinput.trans horder)]
    refine ⟨⟨natBits_length 254 _, fun bit => isBoolean_of_mem_natBits, ?_⟩, ?_⟩
    · rw [← cast_bitValue, hvalue, ZMod.natCast_val, ZMod.cast_id]
    · omega

end Bits

section Comparison

theorem isZero_iff (input out : Fr) : IsZero input out ↔ out = if input = 0 then 1 else 0 := by
  unfold IsZero
  by_cases hinput : input = 0
  · subst hinput
    simp
  · rw [if_neg hinput]
    constructor
    · rintro ⟨inverse, -, hproduct⟩
      exact (mul_eq_zero.mp hproduct).resolve_left hinput
    · rintro rfl
      exact ⟨input⁻¹, by rw [neg_mul, mul_inv_cancel₀ hinput]; ring, mul_zero _⟩

theorem isEqual_iff (first second out : Fr) :
    IsEqual first second out ↔ out = if first = second then 1 else 0 := by
  unfold IsEqual
  simp only [isZero_iff, sub_eq_zero, eq_comm]

theorem natBits_getD (n value : Nat) :
    (natBits (n + 1) value).getD n 0 = ((value / 2 ^ n % 2 : Nat) : Fr) := by
  induction n generalizing value with
  | zero => simp [natBits]
  | succ n ih =>
      rw [natBits, List.getD_cons_succ, ih, Nat.div_div_eq_div_mul, Nat.pow_succ,
        Nat.mul_comm 2]

/-- What a comparison says of its first input, whatever that is. -/
theorem lessThan_iff {n : Nat} (hn : n ≤ 252) (first second out : Fr) :
    LessThan n first second out ↔
      (first + 2 ^ n - second).val < 2 ^ (n + 1) ∧
        out = if (first + 2 ^ n - second).val < 2 ^ n then 1 else 0 := by
  have horder : 2 ^ (n + 1) ≤ bn254ScalarOrder :=
    (Nat.pow_le_pow_right two_pos (Nat.succ_le_succ hn)).trans (by decide)
  unfold LessThan
  simp only [num2Bits_iff horder]
  generalize (first + 2 ^ n - second).val = value
  have htop : value < 2 ^ (n + 1) →
      (1 - (natBits (n + 1) value).getD n 0 : Fr) = if value < 2 ^ n then 1 else 0 := by
    intro hvalue
    rw [natBits_getD]
    split
    · rename_i hsmall
      rw [Nat.div_eq_of_lt hsmall, Nat.zero_mod, Nat.cast_zero, sub_zero]
    · rename_i hlarge
      have hquotient : value / 2 ^ n = 1 := by
        rw [Nat.pow_succ] at hvalue
        refine Nat.div_eq_of_lt_le (by omega) (by omega)
      rw [hquotient, Nat.one_mod, Nat.cast_one, sub_self]
  constructor
  · rintro ⟨bits, ⟨hvalue, rfl⟩, rfl⟩
    exact ⟨hvalue, htop hvalue⟩
  · rintro ⟨hvalue, rfl⟩
    exact ⟨_, ⟨hvalue, rfl⟩, (htop hvalue).symm⟩

end Comparison

end TsnProtocol.Circomlib.Gadgets
