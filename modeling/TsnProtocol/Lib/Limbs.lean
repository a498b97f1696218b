import TsnProtocol.Lib.BorrowSubtraction

/-!
Numbers in machine words, lowest word first: doubling with a carry, the order that the
highest differing word decides, subtraction with a borrow, and the remainder of a number
whose bits arrive from the highest one.
-/

namespace TsnProtocol.Lib.Limbs

open Lib.BorrowSubtraction (leValue_append)
open Lib.ByteReader

section Words

variable {width : Nat}

def value : List (BitVec width) → Nat
  | [] => 0
  | limb :: rest => limb.toNat + 2 ^ width * value rest

theorem value_lt (limbs : List (BitVec width)) : value limbs < 2 ^ (width * limbs.length) := by
  induction limbs with
  | nil => simp [value]
  | cons limb rest ih =>
      have hlimb := limb.isLt
      have hstep : 2 ^ width * (value rest + 1) ≤ 2 ^ width * 2 ^ (width * rest.length) :=
        Nat.mul_le_mul_left _ ih
      rw [Nat.mul_succ] at hstep
      rw [value, List.length_cons, Nat.mul_succ, Nat.pow_add, Nat.mul_comm _ (2 ^ width)]
      omega

/-- Every word shifted by one, the bit that leaves a word going into the next one. -/
def double : BitVec width → List (BitVec width) → List (BitVec width) × BitVec width
  | carry, [] => ([], carry)
  | carry, limb :: rest =>
      let doubled := double (limb >>> (width - 1)) rest
      ((limb <<< 1 ||| carry) :: doubled.1, doubled.2)

theorem length_double (carry : BitVec width) (limbs : List (BitVec width)) :
    (double carry limbs).1.length = limbs.length := by
  induction limbs generalizing carry with
  | nil => rfl
  | cons limb rest ih => exact congrArg (· + 1) (ih _)

theorem toNat_highBit (limb : BitVec width) :
    (limb >>> (width - 1)).toNat = limb.toNat / 2 ^ (width - 1) := by
  rw [BitVec.toNat_ushiftRight, Nat.shiftRight_eq_div_pow]

theorem highBit_le (hwidth : 0 < width) (limb : BitVec width) :
    (limb >>> (width - 1)).toNat ≤ 1 := by
  have hlimb := limb.isLt
  obtain ⟨low, rfl⟩ := Nat.exists_eq_succ_of_ne_zero hwidth.ne'
  rw [toNat_highBit]
  apply Nat.le_of_lt_succ
  rw [Nat.div_lt_iff_lt_mul (Nat.two_pow_pos _)]
  simpa [Nat.pow_succ, Nat.mul_comm] using hlimb

/-- A shifted word with a carry, and the bit that left it, are twice the word. -/
theorem toNat_shift (hwidth : 0 < width) (limb : BitVec width) {carry : BitVec width}
    (hcarry : carry.toNat ≤ 1) :
    (limb <<< 1 ||| carry).toNat + 2 ^ width * (limb >>> (width - 1)).toNat =
      2 * limb.toNat + carry.toNat := by
  obtain ⟨low, rfl⟩ := Nat.exists_eq_succ_of_ne_zero hwidth.ne'
  have hshifted : (limb <<< 1).toNat = 2 * (limb.toNat % 2 ^ low) := by
    rw [BitVec.toNat_shiftLeft, Nat.shiftLeft_eq, Nat.pow_one, Nat.pow_succ, Nat.mul_mod_mul_right,
      Nat.mul_comm]
  have hor : 2 * (limb.toNat % 2 ^ low) ||| carry.toNat =
      2 * (limb.toNat % 2 ^ low) + carry.toNat :=
    (Nat.two_pow_add_eq_or_of_lt (i := 1) (by omega) _).symm
  rw [toNat_highBit, BitVec.toNat_or, hshifted, hor, Nat.succ_sub_one, Nat.pow_succ]
  have hdiv := Nat.div_add_mod limb.toNat (2 ^ low)
  calc
    _ = 2 * (2 ^ low * (limb.toNat / 2 ^ low) + limb.toNat % 2 ^ low) + carry.toNat := by ring
    _ = _ := by rw [hdiv]

theorem carry_double (hwidth : 0 < width) {carry : BitVec width} (hcarry : carry.toNat ≤ 1)
    (limbs : List (BitVec width)) : (double carry limbs).2.toNat ≤ 1 := by
  induction limbs generalizing carry with
  | nil => exact hcarry
  | cons limb rest ih => exact ih (highBit_le hwidth limb)

theorem value_double (hwidth : 0 < width) {carry : BitVec width} (hcarry : carry.toNat ≤ 1)
    (limbs : List (BitVec width)) :
    value (double carry limbs).1 + 2 ^ (width * limbs.length) * (double carry limbs).2.toNat =
      2 * value limbs + carry.toNat := by
  induction limbs generalizing carry with
  | nil => simp [double, value]
  | cons limb rest ih =>
      have hrest := ih (highBit_le hwidth limb)
      have hhere := toNat_shift hwidth limb hcarry
      simp only [double, value, List.length_cons, Nat.mul_succ, Nat.pow_add]
      calc
        _ = (limb <<< 1 ||| carry).toNat +
            2 ^ width * (value (double (limb >>> (width - 1)) rest).1 +
              2 ^ (width * rest.length) * (double (limb >>> (width - 1)) rest).2.toNat) := by ring
        _ = (limb <<< 1 ||| carry).toNat + 2 ^ width * (limb >>> (width - 1)).toNat +
            2 ^ width * (2 * value rest) := by
          rw [hrest]
          ring
        _ = _ := by
          rw [hhere]
          ring

/-- A number below half of what the words hold loses no bit. -/
theorem value_double_of_lt (hwidth : 0 < width) {carry : BitVec width}
    (hcarry : carry.toNat ≤ 1) {limbs : List (BitVec width)}
    (hlimbs : 2 * value limbs + 1 < 2 ^ (width * limbs.length)) :
    value (double carry limbs).1 = 2 * value limbs + carry.toNat := by
  have hvalue := value_double hwidth hcarry limbs
  have hone := carry_double hwidth hcarry limbs
  have hnone : (double carry limbs).2.toNat = 0 := by
    by_contra hne
    have heq : (double carry limbs).2.toNat = 1 := by omega
    rw [heq, Nat.mul_one] at hvalue
    omega
  rw [hnone, Nat.mul_zero, Nat.add_zero] at hvalue
  exact hvalue

/-- The words compared from the highest one on. -/
def compareTop : List (BitVec width) → List (BitVec width) → Ordering
  | left :: lefts, right :: rights =>
      match compareTop lefts rights with
      | .eq => if left < right then .lt else if right < left then .gt else .eq
      | decided => decided
  | _, _ => .eq

theorem compareTop_eq {left right : List (BitVec width)} (hlength : left.length = right.length) :
    compareTop left right = compare (value left) (value right) := by
  induction left generalizing right with
  | nil =>
      obtain rfl := List.eq_nil_of_length_eq_zero hlength.symm
      simp [compareTop]
  | cons limb rest ih =>
      rcases right with _ | ⟨other, others⟩
      · simp at hlength
      · have hlimb := limb.isLt
        have hother := other.isLt
        rw [compareTop, ih (Nat.succ.inj hlength), value, value]
        rcases hcompare : compare (value rest) (value others) with _ | _ | _
        · have hlt := Nat.compare_eq_lt.mp hcompare
          have hstep : 2 ^ width * (value rest + 1) ≤ 2 ^ width * value others :=
            Nat.mul_le_mul_left _ hlt
          rw [Nat.mul_succ] at hstep
          exact (Nat.compare_eq_lt.mpr (by omega)).symm
        · have heq := Nat.compare_eq_eq.mp hcompare
          rw [heq]
          simp only [BitVec.lt_def]
          split
          · exact (Nat.compare_eq_lt.mpr (by omega)).symm
          · split
            · exact (Nat.compare_eq_gt.mpr (by omega)).symm
            · exact (Nat.compare_eq_eq.mpr (by omega)).symm
        · have hgt := Nat.compare_eq_gt.mp hcompare
          have hstep : 2 ^ width * (value others + 1) ≤ 2 ^ width * value rest :=
            Nat.mul_le_mul_left _ hgt
          rw [Nat.mul_succ] at hstep
          exact (Nat.compare_eq_gt.mpr (by omega)).symm

theorem compareTop_eq_lt {left right : List (BitVec width)}
    (hlength : left.length = right.length) :
    compareTop left right = .lt ↔ value left < value right := by
  rw [compareTop_eq hlength, Nat.compare_eq_lt]

/-- The wrapped difference of two words and whether it wrapped. -/
def overflowingSub (minuend subtrahend : BitVec width) : BitVec width × Bool :=
  (minuend - subtrahend, decide (minuend < subtrahend))

theorem toNat_overflowingSub (minuend subtrahend : BitVec width) :
    (overflowingSub minuend subtrahend).1.toNat + subtrahend.toNat =
      minuend.toNat + 2 ^ width * (overflowingSub minuend subtrahend).2.toNat := by
  have hminuend := minuend.isLt
  have hsubtrahend := subtrahend.isLt
  simp only [overflowingSub, BitVec.lt_def]
  by_cases hlt : minuend.toNat < subtrahend.toNat
  · rw [BitVec.toNat_sub_of_lt (BitVec.lt_def.mpr hlt), decide_eq_true hlt]
    simp only [Bool.toNat_true]
    omega
  · rw [BitVec.toNat_sub_of_le (BitVec.le_def.mpr (by omega)), decide_eq_false hlt]
    simp only [Bool.toNat_false]
    omega

/-- One position of a subtraction: the subtrahend and then the borrow are taken off. -/
def subtractLimb (borrow : Bool) (minuend subtrahend : BitVec width) : BitVec width × Bool :=
  let first := overflowingSub minuend subtrahend
  let second := overflowingSub first.1 (BitVec.ofNat width borrow.toNat)
  (second.1, first.2 || second.2)

/-- The words of a difference, from the lowest one on, and whether a borrow is left. -/
def subtract : Bool → List (BitVec width) → List (BitVec width) → List (BitVec width) × Bool
  | borrow, minuend :: minuends, subtrahend :: subtrahends =>
      let here := subtractLimb borrow minuend subtrahend
      let rest := subtract here.2 minuends subtrahends
      (here.1 :: rest.1, rest.2)
  | borrow, minuends, _ => (minuends, borrow)

theorem length_subtract (borrow : Bool) (minuends subtrahends : List (BitVec width)) :
    (subtract borrow minuends subtrahends).1.length = minuends.length := by
  induction minuends generalizing borrow subtrahends with
  | nil => rfl
  | cons minuend minuends ih =>
      rcases subtrahends with _ | ⟨subtrahend, subtrahends⟩
      · rfl
      · exact congrArg (· + 1) (ih _ subtrahends)

theorem toNat_borrow (hwidth : 0 < width) (borrow : Bool) :
    (BitVec.ofNat width borrow.toNat).toNat = borrow.toNat := by
  have htwo : 2 ^ 1 ≤ 2 ^ width := Nat.pow_le_pow_right (by omega) hwidth
  have hborrow := borrow.toNat_lt
  rw [BitVec.toNat_ofNat, Nat.mod_eq_of_lt (by omega)]

/-- At most one of the two differences wraps. -/
theorem toNat_subtractLimb (hwidth : 0 < width) (borrow : Bool)
    (minuend subtrahend : BitVec width) :
    (subtractLimb borrow minuend subtrahend).1.toNat + (subtrahend.toNat + borrow.toNat) =
      minuend.toNat + 2 ^ width * (subtractLimb borrow minuend subtrahend).2.toNat := by
  have hminuend := minuend.isLt
  have hsubtrahend := subtrahend.isLt
  have hborrow := borrow.toNat_lt
  have hfirst := toNat_overflowingSub minuend subtrahend
  simp only [subtractLimb]
  generalize overflowingSub minuend subtrahend = first at *
  have hdifference := first.1.isLt
  have hsecond := toNat_overflowingSub first.1 (BitVec.ofNat width borrow.toNat)
  rw [toNat_borrow hwidth] at hsecond
  generalize overflowingSub first.1 (BitVec.ofNat width borrow.toNat) = second at *
  have hleft := second.1.isLt
  rcases first with ⟨difference, _ | _⟩
  · simp only [Bool.toNat_false, Nat.mul_zero, Nat.add_zero, Bool.false_or] at *
    omega
  · rcases second with ⟨left, _ | _⟩
    · simp only [Bool.toNat_false, Bool.toNat_true, Bool.or_false, Nat.mul_zero, Nat.mul_one,
        Nat.add_zero] at *
      omega
    · simp only [Bool.toNat_true, Bool.or_true, Nat.mul_one] at *
      omega

theorem value_subtract (hwidth : 0 < width) {borrow : Bool}
    {minuends subtrahends : List (BitVec width)}
    (hlength : minuends.length = subtrahends.length) :
    value (subtract borrow minuends subtrahends).1 + (value subtrahends + borrow.toNat) =
      value minuends +
        2 ^ (width * minuends.length) * (subtract borrow minuends subtrahends).2.toNat := by
  induction minuends generalizing borrow subtrahends with
  | nil =>
      obtain rfl := List.eq_nil_of_length_eq_zero hlength.symm
      simp [subtract, value]
  | cons minuend minuends ih =>
      rcases subtrahends with _ | ⟨subtrahend, subtrahends⟩
      · simp at hlength
      · have hhere := toNat_subtractLimb hwidth borrow minuend subtrahend
        simp only [subtract, value, List.length_cons, Nat.mul_succ, Nat.pow_add]
        generalize subtractLimb borrow minuend subtrahend = here at *
        have hrest := @ih here.2 subtrahends (Nat.succ.inj hlength)
        generalize subtract here.2 minuends subtrahends = rest at *
        calc
          _ = here.1.toNat + (subtrahend.toNat + borrow.toNat) +
              2 ^ width * (value rest.1 + value subtrahends) := by ring
          _ = minuend.toNat + 2 ^ width *
              (value rest.1 + (value subtrahends + here.2.toNat)) := by
            rw [hhere]
            ring
          _ = _ := by
            rw [hrest]
            ring

/-- With no smaller minuend, no borrow is left. -/
theorem value_subtract_of_le (hwidth : 0 < width) {minuends subtrahends : List (BitVec width)}
    (hlength : minuends.length = subtrahends.length) (hle : value subtrahends ≤ value minuends) :
    value (subtract false minuends subtrahends).1 = value minuends - value subtrahends := by
  have hvalue := @value_subtract _ hwidth false _ _ hlength
  have hlt := value_lt (subtract false minuends subtrahends).1
  rw [length_subtract] at hlt
  rcases hborrow : (subtract false minuends subtrahends).2 with _ | _
  · rw [hborrow] at hvalue
    simp only [Bool.toNat_false, Nat.mul_zero, Nat.add_zero] at hvalue
    omega
  · rw [hborrow] at hvalue
    simp only [Bool.toNat_true, Bool.toNat_false, Nat.mul_one, Nat.add_zero] at hvalue
    omega

section Remainder

variable (modulus : List (BitVec width))

/-- The next bit shifted into the remainder, and the modulus taken off if it still fits. -/
def shiftIn (remainder : List (BitVec width)) (bit : Bool) : List (BitVec width) :=
  let doubled := (double (BitVec.ofNat width bit.toNat) remainder).1
  if compareTop doubled modulus = .lt then
    doubled
  else
    (subtract false doubled modulus).1

variable {modulus} {remainder : List (BitVec width)}

theorem length_shiftIn (bit : Bool) :
    (shiftIn modulus remainder bit).length = remainder.length := by
  rw [shiftIn]
  split
  · exact length_double _ _
  · rw [length_subtract, length_double]

/-- A modulus of which two fit into the words loses no bit of twice a remainder. -/
theorem value_shiftIn (hwidth : 0 < width) (hlength : remainder.length = modulus.length)
    (hroom : 2 * value modulus ≤ 2 ^ (width * modulus.length))
    (hremainder : value remainder < value modulus) (bit : Bool) :
    value (shiftIn modulus remainder bit) =
      (2 * value remainder + bit.toNat) % value modulus := by
  have hbit := bit.toNat_lt
  have hdoubled : value (double (BitVec.ofNat width bit.toNat) remainder).1 =
      2 * value remainder + bit.toNat := by
    rw [value_double_of_lt hwidth, toNat_borrow hwidth]
    · rw [toNat_borrow hwidth]
      omega
    · rw [hlength]
      omega
  have hlengths : (double (BitVec.ofNat width bit.toNat) remainder).1.length =
      modulus.length := (length_double _ _).trans hlength
  simp only [shiftIn, compareTop_eq_lt hlengths, ← hdoubled]
  split
  · next hlt => rw [Nat.mod_eq_of_lt hlt]
  · next hge =>
      rw [value_subtract_of_le hwidth hlengths (by omega), Nat.mod_eq_sub_mod (by omega),
        Nat.mod_eq_of_lt (by omega)]

/-- The remainder of a number given by its bits, the highest one first. -/
theorem value_foldl_shiftIn (hwidth : 0 < width) (hlength : remainder.length = modulus.length)
    (hroom : 2 * value modulus ≤ 2 ^ (width * modulus.length))
    (hremainder : value remainder < value modulus) (bits : List Bool) :
    value (bits.foldl (shiftIn modulus) remainder) =
      bits.foldl (fun number bit => 2 * number + bit.toNat) (value remainder) % value modulus ∧
    (bits.foldl (shiftIn modulus) remainder).length = modulus.length := by
  suffices hsteps : ∀ number, value remainder = number % value modulus →
      value (bits.foldl (shiftIn modulus) remainder) =
        bits.foldl (fun number bit => 2 * number + bit.toNat) number % value modulus ∧
      (bits.foldl (shiftIn modulus) remainder).length = modulus.length from
    hsteps _ (Nat.mod_eq_of_lt hremainder).symm
  induction bits generalizing remainder with
  | nil =>
      intro number hnumber
      exact ⟨hnumber, hlength⟩
  | cons bit bits ih =>
      intro number hnumber
      have hvalue := value_shiftIn hwidth hlength hroom hremainder bit
      apply ih
      · rw [length_shiftIn, hlength]
      · rw [hvalue]
        exact Nat.mod_lt _ (by omega)
      · rw [hvalue, hnumber, Nat.add_mod, Nat.mul_mod_mod, ← Nat.add_mod]

end Remainder

end Words

/-- The bits of a number below a position, read from the highest one on. -/
theorem foldl_testBit (number position start : Nat) :
    ((List.range position).reverse.map number.testBit).foldl
        (fun number bit => 2 * number + bit.toNat) start =
      2 ^ position * start + number % 2 ^ position := by
  induction position generalizing start with
  | zero => simp [Nat.mod_one]
  | succ position ih =>
      rw [List.range_succ, List.reverse_append, List.reverse_singleton, List.singleton_append,
        List.map_cons, List.foldl_cons, ih, Nat.toNat_testBit, Nat.pow_succ, Nat.mod_mul]
      ring

theorem testBit_leValue (bytes : List Byte) (position : Nat) :
    (leValue bytes).testBit position =
      ((bytes[position / 8]?).getD 0).getLsbD (position % 8) := by
  induction bytes generalizing position with
  | nil => simp [leValue]
  | cons byte rest ih =>
      have hvalue : leValue (byte :: rest) = 2 ^ 8 * leValue rest + byte.toNat := by
        rw [leValue, Nat.add_comm]
        rfl
      rw [hvalue, Nat.testBit_two_pow_mul_add _ byte.isLt]
      split
      · next hlow =>
          rw [Nat.div_eq_of_lt hlow, Nat.mod_eq_of_lt hlow]
          rfl
      · next hhigh =>
          obtain ⟨rest', rfl⟩ := Nat.exists_eq_add_of_le' (Nat.le_of_not_lt hhigh)
          rw [Nat.add_sub_cancel, ih, Nat.add_div_right _ (by omega), Nat.add_mod_right]
          rfl

/-- Words of eight bytes each, read from the front of a byte string. -/
def limbsOfBytes : Nat → List Byte → List (BitVec 64)
  | 0, _ => []
  | count + 1, bytes => BitVec.ofNat 64 (leValue (bytes.take 8)) :: limbsOfBytes count (bytes.drop 8)

@[simp] theorem length_limbsOfBytes (count : Nat) (bytes : List Byte) :
    (limbsOfBytes count bytes).length = count := by
  induction count generalizing bytes with
  | zero => rfl
  | succ count ih => exact congrArg (· + 1) (ih _)

theorem value_limbsOfBytes {count : Nat} {bytes : List Byte}
    (hlength : bytes.length = 8 * count) : value (limbsOfBytes count bytes) = leValue bytes := by
  induction count generalizing bytes with
  | zero =>
      obtain rfl := List.eq_nil_of_length_eq_zero hlength
      rfl
  | succ count ih =>
      have htake : (bytes.take 8).length = 8 := by
        rw [List.length_take]
        omega
      have hlt := leValue_lt (bytes.take 8)
      rw [htake] at hlt
      have hsplit := leValue_append (bytes.take 8) (bytes.drop 8)
      rw [List.take_append_drop, htake] at hsplit
      rw [limbsOfBytes, value, ih (by rw [List.length_drop]; omega), BitVec.toNat_ofNat,
        Nat.mod_eq_of_lt (lt_of_lt_of_le hlt (by norm_num)), hsplit]
      norm_num

def bytesOfLimbs (limbs : List (BitVec 64)) : List Byte :=
  limbs.flatMap fun limb => leBytes 8 limb.toNat

theorem length_bytesOfLimbs (limbs : List (BitVec 64)) :
    (bytesOfLimbs limbs).length = 8 * limbs.length := by
  induction limbs with
  | nil => rfl
  | cons limb rest ih =>
      rw [bytesOfLimbs, List.flatMap_cons, List.length_append, length_leBytes, ← bytesOfLimbs, ih,
        List.length_cons]
      ring

theorem leValue_bytesOfLimbs (limbs : List (BitVec 64)) :
    leValue (bytesOfLimbs limbs) = value limbs := by
  induction limbs with
  | nil => rfl
  | cons limb rest ih =>
      rw [bytesOfLimbs, List.flatMap_cons, leValue_append, ← bytesOfLimbs, ih, length_leBytes,
        leValue_leBytes, Nat.mod_eq_of_lt (lt_of_lt_of_le limb.isLt (by norm_num)), value]
      norm_num

end TsnProtocol.Lib.Limbs
