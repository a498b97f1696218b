import Mathlib
import TsnProtocol.HiddenHead.Prover

/-!
Encryption of the blinding delta under the scan key. The reduction of the shared
coordinate is bounded by comparisons whose inputs are not decomposed, so that a prover may
also use the residues just below the order of the field.
-/

namespace TsnProtocol.HiddenHead.DeltaEncryption

open Bn254.Field
open Bn254.Scalar
open Circomlib.BabyJub
open Circomlib.Gadgets
open HiddenHead.Circuit
open HiddenHead.Consequences
open HiddenHead.Prover
open Lib.TwistedEdwards

/-- The integer that the comparisons take an input for: negative when it does not fit in
252 bits. -/
def signedReading (input : Fr) : Int :=
  if input.val < 2 ^ 252 then input.val else input.val - bn254ScalarOrder

/-- The delta that somebody with the shared coordinate recovers. -/
def recoveredDelta (encrypted sharedX : Nat) : Int :=
  ((encrypted : Int) - (sharedX % babyJubSuborder : Nat)) % babyJubSuborder

/-- The public ciphertext is a scalar, and decrypts to the delta of the commitment. -/
def DeltaRecoverable (s : Signals) (o : Outputs) : Prop :=
  s.encryptedBlindingDelta.val < babyJubSuborder ∧
    recoveredDelta s.encryptedBlindingDelta.val o.sharedPoint.1.val =
      s.balanceBlindingDelta.val

/-- The ciphertext fits in 252 bits, and the reduction of the shared coordinate with its
carry neither is negative nor reaches the order of the field. -/
def CanonicalReduction (s : Signals) : Prop :=
  s.encryptedBlindingDelta.val < 2 ^ 252 ∧
    0 ≤ signedReading s.sharedXReduction + s.sharedXCarry.val * babyJubSuborder ∧
    signedReading s.sharedXReduction + s.sharedXCarry.val * babyJubSuborder <
      bn254ScalarOrder

theorem cast_signedReading (input : Fr) : ((signedReading input : Int) : Fr) = input := by
  unfold signedReading
  split
  · rw [Int.cast_natCast, ZMod.natCast_val, ZMod.cast_id]
  · rw [Int.cast_sub, Int.cast_natCast, Int.cast_natCast, ZMod.natCast_self, sub_zero,
      ZMod.natCast_val, ZMod.cast_id]

/-- Integers with the same residue are equal when they differ by less than the order. -/
theorem eq_of_cast_eq {first second : Int} (hcast : (first : Fr) = second)
    (hlower : -(bn254ScalarOrder : Int) < second - first)
    (hupper : second - first < bn254ScalarOrder) : first = second := by
  rw [ZMod.intCast_eq_intCast_iff_dvd_sub] at hcast
  have hzero := Int.eq_zero_of_abs_lt_dvd hcast (abs_lt.mpr ⟨hlower, hupper⟩)
  omega

/-- A comparison with the suborder admits the residues of these integers. -/
theorem signedReading_range {input : Fr} (hless : LessThan 252 input suborder 1) :
    (babyJubSuborder : Int) - 2 ^ 252 ≤ signedReading input ∧
      signedReading input < babyJubSuborder := by
  rw [lessThan_iff le_rfl] at hless
  obtain ⟨-, hout⟩ := hless
  have hbound : (input + 2 ^ 252 - suborder).val < 2 ^ 252 := by
    by_contra hlarge
    rw [if_neg hlarge] at hout
    exact one_ne_zero hout
  have hinput := ZMod.val_lt input
  have hsuborder : babyJubSuborder < 2 ^ 252 := by decide
  have horder : 2 ^ 253 < bn254ScalarOrder := by decide
  have heq : signedReading input =
      ((input + 2 ^ 252 - suborder).val : Int) - (2 ^ 252 - babyJubSuborder) := by
    apply eq_of_cast_eq
    · rw [cast_signedReading, Int.cast_sub, Int.cast_natCast, ZMod.natCast_val, ZMod.cast_id,
        Int.cast_sub, Int.cast_natCast, suborder, Int.cast_pow]
      push_cast
      ring
    · unfold signedReading
      split <;> omega
    · unfold signedReading
      split <;> omega
  rw [heq]
  omega

section Recovery

variable {lib : Circomlib} {s : Signals} {o : Outputs}

/-- The ciphertext over the integers. -/
theorem encrypted_eq (h : HiddenHeadTransitionV1 lib s o) :
    signedReading s.encryptedBlindingDelta = s.balanceBlindingDelta.val +
      signedReading s.sharedXReduction - s.encryptedDeltaCarry.val * babyJubSuborder := by
  have hencrypted := signedReading_range h.encryptedDeltaBound
  have hreduction := signedReading_range h.sharedXMaskBound
  have hdelta := delta_range h
  have hcarry := (exists_num2Bits_iff (by decide) _).mp h.encryptedDeltaCarryBits
  have hsuborder : babyJubSuborder < 2 ^ 252 := by decide
  have horder : 2 ^ 252 + 2 * babyJubSuborder < bn254ScalarOrder := by decide
  have hcarried : (0 : Int) ≤ s.encryptedDeltaCarry.val * babyJubSuborder ∧
      (s.encryptedDeltaCarry.val * babyJubSuborder : Int) ≤ babyJubSuborder := by
    rcases Nat.lt_succ_iff_lt_or_eq.mp hcarry with hzero | hone
    · rw [Nat.lt_one_iff.mp hzero]
      omega
    · rw [hone]
      omega
  apply eq_of_cast_eq
  · rw [cast_signedReading, h.encryptedDelta, Int.cast_sub, Int.cast_add, cast_signedReading,
      Int.cast_mul, Int.cast_natCast, Int.cast_natCast, Int.cast_natCast, suborder,
      ZMod.natCast_val, ZMod.cast_id, ZMod.natCast_val, ZMod.cast_id]
  · omega
  · omega

/-- The shared coordinate over the integers, up to a multiple of the order. -/
theorem sharedX_eq (h : HiddenHeadTransitionV1 lib s o) :
    ∃ wraps : Int, -1 ≤ wraps ∧ wraps ≤ 1 ∧
      signedReading s.sharedXReduction + s.sharedXCarry.val * babyJubSuborder =
        o.sharedPoint.1.val + wraps * bn254ScalarOrder := by
  have hreduction := signedReading_range h.sharedXMaskBound
  have hcarry := (exists_num2Bits_iff (by decide) _).mp h.sharedXCarryBits
  have hx := ZMod.val_lt o.sharedPoint.1
  have hcast : ((o.sharedPoint.1.val : Int) : Fr) =
      ((signedReading s.sharedXReduction + s.sharedXCarry.val * babyJubSuborder : Int) : Fr) := by
    rw [Int.cast_natCast, ZMod.natCast_val, ZMod.cast_id, h.sharedX, Int.cast_add,
      cast_signedReading, Int.cast_mul, Int.cast_natCast, Int.cast_natCast, suborder,
      ZMod.natCast_val, ZMod.cast_id]
  rw [ZMod.intCast_eq_intCast_iff_dvd_sub] at hcast
  obtain ⟨wraps, hwraps⟩ := hcast
  refine ⟨wraps, ?_, ?_, by linarith⟩
  · generalize signedReading s.sharedXReduction = reduction at *
    simp only [babyJubSuborder, bn254ScalarOrder] at *
    omega
  · generalize signedReading s.sharedXReduction = reduction at *
    simp only [babyJubSuborder, bn254ScalarOrder] at *
    omega

/-- The argument over the integers: the shared coordinate and its reduction agree modulo
the suborder exactly when no multiple of the order of the field was dropped. -/
theorem recovered_iff {encrypted sharedX delta : Nat} {reduction carry quotient wraps : Int}
    (hencrypted : (if encrypted < 2 ^ 252 then (encrypted : Int)
      else encrypted - bn254ScalarOrder) = delta + reduction - quotient * babyJubSuborder)
    (hrange : (if encrypted < 2 ^ 252 then (encrypted : Int)
      else encrypted - bn254ScalarOrder) < babyJubSuborder)
    (hshared : reduction + carry * babyJubSuborder = sharedX + wraps * bn254ScalarOrder)
    (hdelta : delta < babyJubSuborder) (hsharedX : sharedX < bn254ScalarOrder)
    (hlower : -1 ≤ wraps) (hupper : wraps ≤ 1) :
    encrypted < babyJubSuborder ∧ recoveredDelta encrypted sharedX = delta ↔
      encrypted < 2 ^ 252 ∧ 0 ≤ reduction + carry * babyJubSuborder ∧
        reduction + carry * babyJubSuborder < bn254ScalarOrder := by
  have hsuborder : babyJubSuborder < 2 ^ 252 := by decide
  have hwraps : wraps = -1 ∨ wraps = 0 ∨ wraps = 1 := by omega
  -- what the reader subtracts differs from the reduction by multiples of both orders
  have hdifference : encrypted < 2 ^ 252 →
      (encrypted : Int) - (sharedX % babyJubSuborder : Nat) = delta +
        wraps * bn254ScalarOrder +
        babyJubSuborder * ((sharedX / babyJubSuborder : Nat) - quotient - carry) := by
    intro hsmall
    rw [if_pos hsmall] at hencrypted
    have hdivision := Nat.mod_add_div sharedX babyJubSuborder
    have hdivision' : ((sharedX % babyJubSuborder : Nat) : Int) +
        babyJubSuborder * (sharedX / babyJubSuborder : Nat) = sharedX := by
      exact_mod_cast hdivision
    linear_combination hencrypted + hshared - hdivision'
  constructor
  · rintro ⟨hsmall, hrecovered⟩
    have hbits := hsmall.trans hsuborder
    rw [recoveredDelta, hdifference hbits, Int.add_mul_emod_self_left] at hrecovered
    have hdvd : (babyJubSuborder : Int) ∣ wraps * bn254ScalarOrder := by
      have hself := Int.mul_ediv_add_emod (delta + wraps * bn254ScalarOrder) babyJubSuborder
      rw [hrecovered] at hself
      exact Dvd.intro ((delta + wraps * bn254ScalarOrder) / babyJubSuborder)
        (by linear_combination hself)
    have hcoprime : ¬ babyJubSuborder ∣ bn254ScalarOrder := by decide
    rw [← Int.natCast_dvd_natCast] at hcoprime
    rcases hwraps with rfl | rfl | rfl
    · rw [neg_one_mul, dvd_neg] at hdvd
      exact absurd hdvd hcoprime
    · rw [hshared]
      exact ⟨hbits, by omega, by omega⟩
    · rw [one_mul] at hdvd
      exact absurd hdvd hcoprime
  · rintro ⟨hbits, hnonnegative, hbelow⟩
    have hdifference' := hdifference hbits
    rw [if_pos hbits] at hrange
    rw [hshared] at hnonnegative hbelow
    rcases hwraps with rfl | rfl | rfl
    · omega
    · refine ⟨by omega, ?_⟩
      rw [recoveredDelta, hdifference', zero_mul, add_zero, Int.add_mul_emod_self_left,
        Int.emod_eq_of_lt (by omega) (by omega)]
    · omega

/-- The delta is recovered exactly when the prover used the canonical reduction. -/
theorem deltaRecoverable_iff_canonical (h : HiddenHeadTransitionV1 lib s o) :
    DeltaRecoverable s o ↔ CanonicalReduction s := by
  obtain ⟨wraps, hlower, hupper, hshared⟩ := sharedX_eq h
  exact recovered_iff (encrypted_eq h) (signedReading_range h.encryptedDeltaBound).2 hshared
    (delta_range h).2 (ZMod.val_lt o.sharedPoint.1) hlower hupper

/-- Whoever knows the secret of the scan key computes the shared point from the public
ephemeral point. -/
theorem sharedPoint_of_secret (h : HiddenHeadTransitionV1 lib s o) {secret : Nat}
    {ephemeral : BabyPoint}
    (hsecret : coordinates (secret • balanceG) = (s.balanceScanPublicX, s.balanceScanPublicY))
    (hephemeral : coordinates ephemeral =
      (s.deltaEphemeralPublicX, s.deltaEphemeralPublicY)) :
    coordinates (secret • ephemeral) = o.sharedPoint := by
  obtain ⟨-, hpublic⟩ :=
    balanceScalarMul_eq (by decide) balanceG_x_ne_zero h.ephemeralPublicPoint
  rw [← hephemeral] at hpublic
  have hpoint : ephemeral = s.deltaEphemeralScalar.val • balanceG :=
    Point.ext (congrArg Prod.fst hpublic) (congrArg Prod.snd hpublic)
  obtain ⟨bits, hbits, hshared⟩ := h.sharedPoint
  rw [← hsecret] at hshared
  have heq := lib.escalarMulAny_eq bits _ _ hbits.boolean hshared
  obtain ⟨hscalar, rfl⟩ := (num2Bits_iff (by decide) _ _).mp hbits
  rw [bitValue_natBits, Nat.mod_eq_of_lt hscalar] at heq
  rw [heq, hpoint, nsmul_left_comm]
  split
  · rename_i hx
    have hneutral : secret • balanceG = 0 := by
      apply eq_zero_of_x_eq_zero hx
      rw [nsmul_left_comm, suborder_nsmul_balanceG, nsmul_zero]
    rw [hneutral, nsmul_zero]
    rfl
  · rfl

/-- In every assignment that satisfies the circuit the owner of the scan key recovers the
shared point, and with it the delta exactly when the prover used the canonical
reduction. -/
theorem deltaRecoverable_iff (h : HiddenHeadTransitionV1 lib s o) :
    (DeltaRecoverable s o ↔ CanonicalReduction s) ∧
      ∀ (secret : Nat) (ephemeral : BabyPoint),
        coordinates (secret • balanceG) = (s.balanceScanPublicX, s.balanceScanPublicY) →
        coordinates ephemeral = (s.deltaEphemeralPublicX, s.deltaEphemeralPublicY) →
          coordinates (secret • ephemeral) = o.sharedPoint :=
  ⟨deltaRecoverable_iff_canonical h, fun _ _ => sharedPoint_of_secret h⟩

end Recovery

section Aliasing

theorem canonicalReduction_sampleCredit :
    CanonicalReduction (sampleCredit.signals sponge) := by
  unfold CanonicalReduction
  decide +kernel

theorem deltaRecoverable_sampleCredit :
    DeltaRecoverable (sampleCredit.signals sponge) (sampleCredit.outputs sponge) :=
  (deltaRecoverable_iff (Credit.satisfied admissible_sampleCredit)).1.mpr
    canonicalReduction_sampleCredit

/-- The first credit of a route with the reduction of the shared coordinate taken one
multiple of the suborder too low. -/
def aliasedCredit : Credit :=
  { sampleCredit with
    sharedXReduction := balanceG.x - (2 : Nat) * suborder
    sharedXCarry := (2 : Nat) }

theorem lessThan_aliased :
    LessThan 252 (balanceG.x - 2 * suborder) suborder 1 ∧
      LessThan 252 (1 + (balanceG.x - 2 * suborder) - 0 * suborder) suborder 1 := by
  rw [lessThan_iff le_rfl, lessThan_iff le_rfl]
  decide +kernel

theorem admissible_aliasedCredit : aliasedCredit.Admissible sponge where
  __ := admissible_sampleCredit
  sharedX := by
    rw [sharedPoint_openingCredit rfl rfl]
    change balanceG.x = balanceG.x - 2 * suborder + 2 * suborder
    ring
  sharedXCarry := (by decide : (2 : Fr).val < 2 ^ 3)
  sharedXReduction := lessThan_aliased.1
  encryptedDelta := lessThan_aliased.2

/-- A credit that the circuit accepts and whose ciphertext is no scalar. -/
theorem not_deltaRecoverable_of_alias :
    HiddenHeadTransitionV1 (circomlibOf sponge) (aliasedCredit.signals sponge)
        (aliasedCredit.outputs sponge) ∧
      (aliasedCredit.signals sponge).actionKind = 1 ∧
      ¬ DeltaRecoverable (aliasedCredit.signals sponge) (aliasedCredit.outputs sponge) := by
  refine ⟨Credit.satisfied admissible_aliasedCredit, rfl, ?_⟩
  rintro ⟨hsmall, -⟩
  revert hsmall
  decide +kernel

end Aliasing

end TsnProtocol.HiddenHead.DeltaEncryption
