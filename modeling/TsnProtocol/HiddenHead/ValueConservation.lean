import Mathlib
import TsnProtocol.HiddenHead.Prover

/-!
Conservation of value in a transition, for every assignment that satisfies the circuit.
-/

namespace TsnProtocol.HiddenHead.ValueConservation

open Bn254.Field
open Bn254.Scalar
open Circomlib.BabyJub
open HiddenHead.Circuit
open HiddenHead.Consequences
open HiddenHead.Prover

/-- Commitment to an amount under a blinding. -/
def pedersen (amount blinding : Nat) : BabyPoint :=
  amount • balanceG + blinding • balanceH

section Opening

variable {lib : Circomlib} {s : Signals} {o : Outputs}

theorem eq_of_selected {selector left right : Fr} (hselector : selector = 1)
    (hconstraint : selector * (left - right) = 0) : left = right := by
  rw [hselector, one_mul, sub_eq_zero] at hconstraint
  exact hconstraint

/-- A debit or an exit opens a commitment: an amount of 64 bits and a blinding below the
suborder. -/
theorem opened_eq {value blinding : Fr} {valuePoint blindPoint opened : Coordinates}
    (hvalue : BalanceScalarMul lib 64 balanceG value valuePoint)
    (hblind : BalanceScalarMul lib 252 balanceH blinding blindPoint)
    (hopened : BabyAdd valuePoint blindPoint opened) :
    opened = coordinates (pedersen value.val blinding.val) := by
  obtain ⟨-, rfl⟩ := balanceScalarMul_eq (by decide) balanceG_x_ne_zero hvalue
  obtain ⟨-, rfl⟩ := balanceScalarMul_eq (by decide) balanceH_x_ne_zero hblind
  exact (babyAdd_iff _ _ _).mp hopened

theorem predecessor_opened (h : HiddenHeadTransitionV1 lib s o)
    (hkind : s.actionKind = 2 ∨ s.actionKind = 3) :
    (s.predecessorBalanceX, s.predecessorBalanceY) =
      coordinates (pedersen s.predecessorBalance.val s.predecessorBlinding.val) := by
  rw [← opened_eq h.oldValuePoint h.oldBlindPoint h.openedOld]
  exact Prod.ext (eq_of_selected (opening_eq_one h hkind) h.openedOldX)
    (eq_of_selected (opening_eq_one h hkind) h.openedOldY)

theorem successor_opened (h : HiddenHeadTransitionV1 lib s o)
    (hkind : s.actionKind = 2 ∨ s.actionKind = 3) :
    (s.successorBalanceX, s.successorBalanceY) =
      coordinates (pedersen s.successorBalance.val s.successorBlinding.val) := by
  rw [← opened_eq h.newValuePoint h.newBlindPoint h.openedNew]
  exact Prod.ext (eq_of_selected (opening_eq_one h hkind) h.openedNewX)
    (eq_of_selected (opening_eq_one h hkind) h.openedNewY)

theorem amount_lt (h : HiddenHeadTransitionV1 lib s o) : s.amount.val < 2 ^ 64 :=
  (exists_num2Bits_iff (by decide) _).mp h.amountBits

theorem predecessorBalance_lt (h : HiddenHeadTransitionV1 lib s o) :
    s.predecessorBalance.val < 2 ^ 64 :=
  (exists_num2Bits_iff (by decide) _).mp h.oldBalanceBits

theorem successorBalance_lt (h : HiddenHeadTransitionV1 lib s o) :
    s.successorBalance.val < 2 ^ 64 :=
  (exists_num2Bits_iff (by decide) _).mp h.newBalanceBits

/-- The balances of a debit or an exit differ by the amount, over the numbers. -/
theorem balance_eq (h : HiddenHeadTransitionV1 lib s o)
    (hkind : s.actionKind = 2 ∨ s.actionKind = 3) :
    s.predecessorBalance.val = s.successorBalance.val + s.amount.val := by
  have hlink : s.predecessorBalance = s.successorBalance + s.amount := by
    have hconstraint := h.balanceLink
    rw [opening_eq_one h hkind, one_mul] at hconstraint
    linear_combination hconstraint
  have hamount := amount_lt h
  have hsuccessor := successorBalance_lt h
  have horder : 2 ^ 65 < bn254ScalarOrder := by decide
  rw [hlink, ZMod.val_add_of_lt (by omega)]

/-- The blindings of a debit or an exit differ by the delta, modulo the suborder. -/
theorem blinding_modEq (h : HiddenHeadTransitionV1 lib s o)
    (hkind : s.actionKind = 2 ∨ s.actionKind = 3) :
    s.predecessorBlinding.val + s.balanceBlindingDelta.val ≡
      s.successorBlinding.val [MOD babyJubSuborder] := by
  have hdelta := (delta_range h).2
  have hprior := (balanceScalarMul_eq (by decide) balanceH_x_ne_zero h.oldBlindPoint).1
  have hnext := (balanceScalarMul_eq (by decide) balanceH_x_ne_zero h.newBlindPoint).1
  have hcarry := (exists_num2Bits_iff (by decide) _).mp h.carryBits
  have horder : 2 ^ 253 + babyJubSuborder < bn254ScalarOrder := by decide
  have hcarried : s.balanceBlindingCarry.val * babyJubSuborder ≤ babyJubSuborder := by
    refine Nat.mul_le_of_le_div _ _ _ ?_
    rw [Nat.div_self (by decide)]
    omega
  -- both sides stay below the order of the field, so the link holds over the numbers
  have hlink : s.predecessorBlinding + s.balanceBlindingDelta =
      s.successorBlinding + s.balanceBlindingCarry * suborder := by
    have hconstraint := h.blindingLink
    rw [opening_eq_one h hkind, one_mul] at hconstraint
    linear_combination hconstraint
  have hvalue : s.predecessorBlinding.val + s.balanceBlindingDelta.val =
      s.successorBlinding.val + s.balanceBlindingCarry.val * babyJubSuborder := by
    have hval := congrArg ZMod.val hlink
    rw [ZMod.val_add_of_lt (by omega), ZMod.val_add_of_lt, ZMod.val_mul_of_lt,
      val_suborder] at hval
    · exact hval
    · rw [val_suborder]
      omega
    · rw [ZMod.val_mul_of_lt, val_suborder]
      · omega
      · rw [val_suborder]
        omega
  rw [hvalue]
  exact Nat.add_mul_mod_self_right _ _ _

/-- A credit adds the amount and the delta to the predecessor, whatever pair of signals
that is. -/
theorem successor_eq (h : HiddenHeadTransitionV1 lib s o) (hkind : s.actionKind = 1) :
    (s.successorBalanceX, s.successorBalanceY) =
      addCoordinates
        (addCoordinates (s.predecessorBalanceX, s.predecessorBalanceY)
          (coordinates (s.amount.val • balanceG)))
        (coordinates (s.balanceBlindingDelta.val • balanceH)) := by
  obtain ⟨-, hamount⟩ := balanceScalarMul_eq (by decide) balanceG_x_ne_zero h.amountPoint
  obtain ⟨-, hdelta⟩ := balanceScalarMul_eq (by decide) balanceH_x_ne_zero h.deltaPoint
  rw [← hamount, ← hdelta, ← babyAdd_eq h.creditPartial, ← babyAdd_eq h.creditSuccessor]
  exact Prod.ext (eq_of_selected (isCredit_eq_one h hkind) h.creditX)
    (eq_of_selected (isCredit_eq_one h hkind) h.creditY)

/-- The balances and blindings of a debit or an exit over the numbers, with the
commitments they open. -/
structure ConservesBalance (s : Signals) : Prop where
  balance : s.predecessorBalance.val = s.successorBalance.val + s.amount.val
  predecessor_lt : s.predecessorBalance.val < 2 ^ 64
  successor_lt : s.successorBalance.val < 2 ^ 64
  amount_lt : s.amount.val < 2 ^ 64
  blinding : s.predecessorBlinding.val + s.balanceBlindingDelta.val ≡
    s.successorBlinding.val [MOD babyJubSuborder]
  predecessor_opened : (s.predecessorBalanceX, s.predecessorBalanceY) =
    coordinates (pedersen s.predecessorBalance.val s.predecessorBlinding.val)
  successor_opened : (s.successorBalanceX, s.successorBalanceY) =
    coordinates (pedersen s.successorBalance.val s.successorBlinding.val)

/-- The commitment update of a credit, by the addition law on coordinates, which on the
curve is the sum of points. -/
structure AddsCredit (s : Signals) : Prop where
  law : (s.successorBalanceX, s.successorBalanceY) =
    addCoordinates
      (addCoordinates (s.predecessorBalanceX, s.predecessorBalanceY)
        (coordinates (s.amount.val • balanceG)))
      (coordinates (s.balanceBlindingDelta.val • balanceH))
  sum : ∀ predecessor : BabyPoint,
    coordinates predecessor = (s.predecessorBalanceX, s.predecessorBalanceY) →
      (s.successorBalanceX, s.successorBalanceY) =
        coordinates (predecessor + s.amount.val • balanceG +
          s.balanceBlindingDelta.val • balanceH)
  delta : ¬ s.balanceBlindingDelta.val ≡ 0 [MOD babyJubSuborder]

/-- Every assignment that satisfies the circuit conserves value: a debit or an exit over
the numbers, a credit in the commitments. -/
theorem conservesValue (h : HiddenHeadTransitionV1 lib s o) :
    ((s.actionKind = 2 ∨ s.actionKind = 3) → ConservesBalance s) ∧
      (s.actionKind = 1 → AddsCredit s) := by
  refine ⟨fun hkind => ?_, fun hkind => ⟨successor_eq h hkind, ?_, ?_⟩⟩
  · exact ⟨balance_eq h hkind, predecessorBalance_lt h, successorBalance_lt h, amount_lt h,
      blinding_modEq h hkind, predecessor_opened h hkind, successor_opened h hkind⟩
  · intro predecessor hpredecessor
    rw [successor_eq h hkind, ← hpredecessor, addCoordinates_coordinates,
      addCoordinates_coordinates]
  · obtain ⟨hpositive, hlt⟩ := delta_range h
    intro hzero
    have hvalue : s.balanceBlindingDelta.val = 0 := by
      have hmod := Nat.mod_eq_of_lt hlt
      rw [← hmod]
      exact hzero
    omega

end Opening

theorem conservesValue_sampleCredit : AddsCredit (sampleCredit.signals sponge) :=
  (conservesValue (Credit.satisfied admissible_sampleCredit)).2 rfl

end TsnProtocol.HiddenHead.ValueConservation
