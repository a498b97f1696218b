import Mathlib
import TsnProtocol.Lib.ByteReader

/-!
Numbers in byte arrays, highest byte first: the order that the first differing byte
decides, subtraction with a borrow from the last byte to the first, and the remainder by
repeated subtraction.
-/

namespace TsnProtocol.Lib.BorrowSubtraction

open Lib.ByteReader

theorem leValue_append (left right : List Byte) :
    leValue (left ++ right) = leValue left + 256 ^ left.length * leValue right := by
  induction left with
  | nil => simp [leValue]
  | cons byte rest ih =>
      simp only [List.cons_append, leValue, ih, List.length_cons, pow_succ]
      ring

theorem beValue_cons (byte : Byte) (rest : List Byte) :
    beValue (byte :: rest) = beValue rest + 256 ^ rest.length * byte.toNat := by
  rw [beValue, List.reverse_cons, leValue_append, List.length_reverse]
  simp only [leValue, beValue, Nat.mul_zero, Nat.add_zero]

def precedes : List Byte → List Byte → Bool
  | _, [] => false
  | [], _ :: _ => true
  | left :: lefts, right :: rights =>
      if left = right then precedes lefts rights else decide (left.toNat < right.toNat)

/-- The order of arrays of one size is the order of their numbers. -/
theorem precedes_iff {left right : List Byte} (hlength : left.length = right.length) :
    precedes left right = true ↔ beValue left < beValue right := by
  induction left generalizing right with
  | nil =>
      obtain rfl := List.eq_nil_of_length_eq_zero hlength.symm
      simp [precedes]
  | cons byte rest ih =>
      rcases right with _ | ⟨other, others⟩
      · simp at hlength
      · have hrest : rest.length = others.length := Nat.succ.inj hlength
        have hleft := beValue_lt rest
        have hright := beValue_lt others
        rw [beValue_cons, beValue_cons, precedes, hrest]
        rw [hrest] at hleft
        split
        · next heq =>
            rw [heq, ih hrest]
            omega
        · next hne =>
            have hvalues : byte.toNat ≠ other.toNat := fun h => hne (BitVec.eq_of_toNat_eq h)
            rw [decide_eq_true_iff]
            constructor
            · intro hlt
              have hstep : 256 ^ others.length * (byte.toNat + 1) ≤
                  256 ^ others.length * other.toNat := Nat.mul_le_mul_left _ hlt
              rw [Nat.mul_succ] at hstep
              omega
            · intro hlt
              by_contra hge
              have hstep : 256 ^ others.length * (other.toNat + 1) ≤
                  256 ^ others.length * byte.toNat := Nat.mul_le_mul_left _ (by omega)
              rw [Nat.mul_succ] at hstep
              omega

/-- One position of the subtraction: the byte left there and the borrow it takes. -/
def subtractByte (minuend subtrahend : Byte) (borrow : Nat) : Byte × Nat :=
  if subtrahend.toNat + borrow ≤ minuend.toNat then
    (BitVec.ofNat 8 (minuend.toNat - (subtrahend.toNat + borrow)), 0)
  else
    (BitVec.ofNat 8 (minuend.toNat + 256 - (subtrahend.toNat + borrow)), 1)

theorem borrow_subtractByte (minuend subtrahend : Byte) (borrow : Nat) :
    (subtractByte minuend subtrahend borrow).2 ≤ 1 := by
  rw [subtractByte]
  split <;> simp

theorem value_subtractByte (minuend subtrahend : Byte) {borrow : Nat} (hborrow : borrow ≤ 1) :
    (subtractByte minuend subtrahend borrow).1.toNat + (subtrahend.toNat + borrow) =
      minuend.toNat + 256 * (subtractByte minuend subtrahend borrow).2 := by
  have hminuend := minuend.isLt
  have hsubtrahend := subtrahend.isLt
  rw [subtractByte]
  split
  · rw [BitVec.toNat_ofNat]
    omega
  · rw [BitVec.toNat_ofNat]
    omega

/-- The bytes of a difference, from the last to the first, and the borrow left over. -/
def subtractBytes : List Byte → List Byte → List Byte × Nat
  | minuend :: minuends, subtrahend :: subtrahends =>
      let rest := subtractBytes minuends subtrahends
      let here := subtractByte minuend subtrahend rest.2
      (here.1 :: rest.1, here.2)
  | minuends, _ => (minuends, 0)

theorem borrow_subtractBytes (minuends subtrahends : List Byte) :
    (subtractBytes minuends subtrahends).2 ≤ 1 := by
  rcases minuends with _ | ⟨minuend, minuends⟩
  · simp [subtractBytes]
  · rcases subtrahends with _ | ⟨subtrahend, subtrahends⟩
    · simp [subtractBytes]
    · exact borrow_subtractByte _ _ _

theorem length_subtractBytes (minuends subtrahends : List Byte) :
    (subtractBytes minuends subtrahends).1.length = minuends.length := by
  induction minuends generalizing subtrahends with
  | nil => rfl
  | cons minuend minuends ih =>
      rcases subtrahends with _ | ⟨subtrahend, subtrahends⟩
      · rfl
      · exact congrArg (· + 1) (ih subtrahends)

theorem value_subtractBytes {minuends subtrahends : List Byte}
    (hlength : minuends.length = subtrahends.length) :
    beValue (subtractBytes minuends subtrahends).1 + beValue subtrahends =
      beValue minuends + 256 ^ minuends.length * (subtractBytes minuends subtrahends).2 := by
  induction minuends generalizing subtrahends with
  | nil =>
      obtain rfl := List.eq_nil_of_length_eq_zero hlength.symm
      rfl
  | cons minuend minuends ih =>
      rcases subtrahends with _ | ⟨subtrahend, subtrahends⟩
      · simp at hlength
      · have hrest : minuends.length = subtrahends.length := Nat.succ.inj hlength
        have hvalue := ih hrest
        have hhere := value_subtractByte minuend subtrahend
          (borrow_subtractBytes minuends subtrahends)
        simp only [subtractBytes, beValue_cons, length_subtractBytes, List.length_cons,
          pow_succ, ← hrest]
        generalize (subtractBytes minuends subtrahends).2 = borrow at *
        generalize subtractByte minuend subtrahend borrow = here at *
        calc
          _ = beValue (subtractBytes minuends subtrahends).1 + beValue subtrahends +
              256 ^ minuends.length * (here.1.toNat + subtrahend.toNat) := by ring
          _ = beValue minuends +
              256 ^ minuends.length * (here.1.toNat + (subtrahend.toNat + borrow)) := by
            rw [hvalue]
            ring
          _ = _ := by
            rw [hhere]
            ring

section Remainder

variable {size : Nat}

/-- The difference of two arrays of one size. -/
def subtract (minuend subtrahend : List.Vector Byte size) : List.Vector Byte size :=
  ⟨(subtractBytes minuend.1 subtrahend.1).1, by
    rw [length_subtractBytes, minuend.2]⟩

/-- With no smaller minuend, no borrow is left over. -/
theorem value_subtract {minuend subtrahend : List.Vector Byte size}
    (hle : beValue subtrahend.1 ≤ beValue minuend.1) :
    beValue (subtract minuend subtrahend).1 =
      beValue minuend.1 - beValue subtrahend.1 := by
  have hvalue := value_subtractBytes (minuend.2.trans subtrahend.2.symm)
  have hlt := beValue_lt (subtractBytes minuend.1 subtrahend.1).1
  rw [length_subtractBytes] at hlt
  have hborrow : (subtractBytes minuend.1 subtrahend.1).2 = 0 := by
    have hone := borrow_subtractBytes minuend.1 subtrahend.1
    by_contra hne
    have heq : (subtractBytes minuend.1 subtrahend.1).2 = 1 := by omega
    rw [heq, Nat.mul_one] at hvalue
    omega
  rw [hborrow, Nat.mul_zero, Nat.add_zero] at hvalue
  simp only [subtract]
  omega

/-- The modulus taken off while the value is not below it. -/
def reduce (modulus : List.Vector Byte size) :
    Nat → List.Vector Byte size → Option (List.Vector Byte size)
  | 0, _ => none
  | fuel + 1, value =>
      if precedes value.1 modulus.1 then
        some value
      else
        reduce modulus fuel (subtract value modulus)

/-- The loop ends, with the remainder, once it may run as often as the modulus fits. -/
theorem reduce_eq_some {modulus value : List.Vector Byte size} {fuel : Nat}
    (hfuel : beValue value.1 < fuel * beValue modulus.1) :
    ∃ remainder, reduce modulus fuel value = some remainder ∧
      beValue remainder.1 = beValue value.1 % beValue modulus.1 := by
  induction fuel generalizing value with
  | zero => simp at hfuel
  | succ fuel ih =>
      have hprecedes := precedes_iff (value.2.trans modulus.2.symm)
      rw [reduce]
      split
      · next hbelow =>
          refine ⟨value, rfl, ?_⟩
          rw [Nat.mod_eq_of_lt (hprecedes.mp hbelow)]
      · next habove =>
          have hle : beValue modulus.1 ≤ beValue value.1 := by
            by_contra hlt
            exact habove (hprecedes.mpr (by omega))
          have hless : beValue (subtract value modulus).1 < fuel * beValue modulus.1 := by
            rw [value_subtract hle]
            rw [Nat.succ_mul] at hfuel
            omega
          obtain ⟨remainder, hreduce, hvalue⟩ := ih hless
          refine ⟨remainder, hreduce, ?_⟩
          rw [hvalue, value_subtract hle, ← Nat.mod_eq_sub_mod hle]

end Remainder

end TsnProtocol.Lib.BorrowSubtraction
