import TsnProtocol.HiddenHead.Circuit

/-!
What the constraints of the circuit say about its signals, one statement for each group
of constraints.
-/

namespace TsnProtocol.HiddenHead.Consequences

open Bn254.Field
open Bn254.Scalar
open Circomlib.BabyJub
open Circomlib.Gadgets
open HiddenHead.Circuit
open Lib.SparseMerkle

section Paths

variable {lib : Circomlib}

/-- The slot that the low bits of a key select. -/
def slot (key : Fr) : Nat :=
  key.val % 2 ^ 128

theorem climb_eq_pathRoot (bits siblings : List Fr) (node : Fr)
    (hbits : ∀ bit ∈ bits, IsBoolean bit) (hlength : bits.length = siblings.length) :
    climb lib bits siblings node = pathRoot lib.poseidon2 siblings (bitValue bits) node := by
  induction bits generalizing siblings node with
  | nil =>
      cases siblings with
      | nil => rfl
      | cons sibling siblings => cases hlength
  | cons bit bits ih =>
      cases siblings with
      | nil => cases hlength
      | cons sibling siblings =>
          have htail : ∀ other ∈ bits, IsBoolean other := fun other hother =>
            hbits other (List.mem_cons_of_mem _ hother)
          have hhead := hbits bit List.mem_cons_self
          have hhalf : bitValue (bit :: bits) / 2 = bitValue bits := by
            have hbit := val_le_one hhead
            rw [bitValue]
            omega
          have hparity : bitValue (bit :: bits) % 2 = bit.val := by
            have hbit := val_le_one hhead
            rw [bitValue]
            omega
          rw [climb, ih siblings _ htail (Nat.succ_injective hlength), pathRoot, hhalf]
          congr 1
          rcases isBoolean_iff.mp hhead with rfl | rfl
          · simp [children, hparity]
          · simp [children, hparity, ZMod.val_one]

theorem sparsePath128_iff (leaf key : Fr) (siblings : Vector Fr 128) (root : Fr) :
    SparsePath128 lib leaf key siblings root ↔
      root = pathRoot lib.poseidon2 siblings.toList (slot key) leaf := by
  have hlength : (natBits 128 key.val).length = siblings.toList.length := by
    rw [natBits_length, Vector.length_toList]
  unfold SparsePath128
  simp only [num2BitsStrict_iff]
  rw [exists_eq_left, take_natBits 128 126,
    climb_eq_pathRoot _ _ _ (fun bit => isBoolean_of_mem_natBits) hlength,
    bitValue_natBits, slot]

theorem sparsePath32_iff (leaf index : Fr) (siblings : Vector Fr 32) (root : Fr) :
    SparsePath32 lib leaf index siblings root ↔
      index.val < 2 ^ 32 ∧
        root = pathRoot lib.poseidon2 siblings.toList index.val leaf := by
  have hboolean : ∀ bit ∈ natBits 32 index.val, IsBoolean bit := fun bit =>
    isBoolean_of_mem_natBits
  have hlength : (natBits 32 index.val).length = siblings.toList.length := by
    rw [natBits_length, Vector.length_toList]
  unfold SparsePath32
  simp only [num2Bits_iff (show 2 ^ 32 ≤ bn254ScalarOrder by decide), and_assoc]
  constructor
  · rintro ⟨bits, hindex, rfl, hroot⟩
    rw [climb_eq_pathRoot _ _ _ hboolean hlength, bitValue_natBits,
      Nat.mod_eq_of_lt hindex] at hroot
    exact ⟨hindex, hroot⟩
  · rintro ⟨hindex, hroot⟩
    refine ⟨_, hindex, rfl, ?_⟩
    rw [climb_eq_pathRoot _ _ _ hboolean hlength, bitValue_natBits,
      Nat.mod_eq_of_lt hindex]
    exact hroot

theorem slot_lt (key : Fr) : slot key < 2 ^ 128 :=
  Nat.mod_lt _ (Nat.two_pow_pos 128)

end Paths

section Ranges

theorem exists_num2Bits_iff {n : Nat} (hn : 2 ^ n ≤ bn254ScalarOrder) (input : Fr) :
    (∃ bits, Num2Bits n input bits) ↔ input.val < 2 ^ n := by
  simp only [num2Bits_iff hn, exists_and_left, exists_eq, and_true]

theorem val_suborder : suborder.val = babyJubSuborder :=
  ZMod.val_cast_of_lt (by decide)

/-- The number whose top bit decides a comparison with the suborder. -/
theorem val_compared {input : Fr} (hinput : input.val < 2 ^ 252) :
    (input + 2 ^ 252 - suborder).val = input.val + 2 ^ 252 - babyJubSuborder := by
  have hsuborder : babyJubSuborder ≤ 2 ^ 252 := by decide
  have horder : 2 ^ 253 < bn254ScalarOrder := by decide
  have hcast : input + 2 ^ 252 - suborder =
      ((input.val + 2 ^ 252 - babyJubSuborder : Nat) : Fr) := by
    rw [Nat.cast_sub (by omega), Nat.cast_add, ZMod.natCast_val, ZMod.cast_id,
      Nat.cast_pow, Nat.cast_two, suborder]
  rw [hcast, ZMod.val_cast_of_lt (by omega)]

/-- A comparison with the suborder bounds an input of 252 bits. -/
theorem val_lt_suborder {input : Fr} (hinput : input.val < 2 ^ 252)
    (hless : LessThan 252 input suborder 1) : input.val < babyJubSuborder := by
  rw [lessThan_iff le_rfl, val_compared hinput] at hless
  obtain ⟨-, hout⟩ := hless
  by_contra hlarge
  rw [if_neg (by omega)] at hout
  exact one_ne_zero hout

theorem lessThan_suborder {input : Fr} (hinput : input.val < babyJubSuborder) :
    LessThan 252 input suborder 1 := by
  have hsuborder : babyJubSuborder ≤ 2 ^ 252 := by decide
  rw [lessThan_iff le_rfl, val_compared (hinput.trans_le hsuborder), if_pos (by omega)]
  exact ⟨by omega, rfl⟩

end Ranges

section Points

variable {lib : Circomlib}

theorem balanceG_x_ne_zero : balanceG.x ≠ 0 := by
  decide +kernel

theorem balanceH_x_ne_zero : balanceH.x ≠ 0 := by
  decide +kernel

theorem balanceScalarMul_eq {n : Nat} {base : BabyPoint} {scalar : Fr} {out : Coordinates}
    (hn : 2 ^ n ≤ bn254ScalarOrder) (hbase : base.x ≠ 0)
    (hmul : BalanceScalarMul lib n base scalar out) :
    scalar.val < 2 ^ n ∧ out = coordinates (scalar.val • base) := by
  obtain ⟨bits, hbits, hout⟩ := hmul
  have heq := lib.escalarMulAny_eq bits base out hbits.boolean hout
  obtain ⟨hscalar, rfl⟩ := (num2Bits_iff hn scalar bits).mp hbits
  rw [if_neg hbase, bitValue_natBits, Nat.mod_eq_of_lt hscalar] at heq
  exact ⟨hscalar, heq⟩

end Points

section Transition

variable {lib : Circomlib} {s : Signals} {o : Outputs}

theorem isFirstHead_eq (h : HiddenHeadTransitionV1 lib s o) :
    o.isFirstHead = if s.priorSequence = 0 then 1 else 0 :=
  (isZero_iff _ _).mp h.isFirstHead

/-- The next sequence does not wrap around. -/
theorem nextSequence_val (h : HiddenHeadTransitionV1 lib s o) :
    (s.priorSequence + 1).val = s.priorSequence.val + 1 ∧
      s.priorSequence.val + 1 < 2 ^ 64 := by
  have horder : 2 ^ 64 ≤ bn254ScalarOrder := by decide
  have hprior := (exists_num2Bits_iff horder _).mp h.sequenceBits
  have hnext := (exists_num2Bits_iff horder _).mp h.nextSequenceBits
  have hvalue : (s.priorSequence + 1).val = s.priorSequence.val + 1 := by
    have hone : (1 : Fr).val = 1 := ZMod.val_one _
    rw [ZMod.val_add_of_lt, hone]
    rw [hone]
    have hlarge : 2 ^ 64 + 1 < bn254ScalarOrder := by decide
    omega
  exact ⟨hvalue, hvalue ▸ hnext⟩

/-- A transition is a credit, or a debit or an exit, and the selectors say which. -/
theorem kind_cases (h : HiddenHeadTransitionV1 lib s o) :
    (s.actionKind = 1 ∧ o.isCredit = 1 ∧ o.isDebit + o.isExit = 0) ∨
      ((s.actionKind = 2 ∨ s.actionKind = 3) ∧ o.isCredit = 0 ∧
        o.isDebit + o.isExit = 1) := by
  have hcredit := (isEqual_iff _ _ _).mp h.isCredit
  have hdebit := (isEqual_iff _ _ _).mp h.isDebit
  have hexit := (isEqual_iff _ _ _).mp h.isExit
  have hone := h.oneKind
  by_cases hkind : s.actionKind = 1
  · left
    rw [if_pos hkind] at hcredit
    rw [hcredit, add_assoc, add_eq_left] at hone
    exact ⟨hkind, hcredit, hone⟩
  · right
    rw [if_neg hkind] at hcredit
    rw [hcredit, zero_add] at hone
    refine ⟨?_, hcredit, hone⟩
    by_contra hneither
    rw [not_or] at hneither
    rw [hdebit, hexit, if_neg hneither.1, if_neg hneither.2, add_zero] at hone
    exact zero_ne_one hone

theorem isCredit_eq_one (h : HiddenHeadTransitionV1 lib s o) (hkind : s.actionKind = 1) :
    o.isCredit = 1 := by
  rw [(isEqual_iff _ _ _).mp h.isCredit, if_pos hkind]

theorem opening_eq_one (h : HiddenHeadTransitionV1 lib s o)
    (hkind : s.actionKind = 2 ∨ s.actionKind = 3) : o.isDebit + o.isExit = 1 := by
  rcases kind_cases h with ⟨hcredit, -⟩ | ⟨-, -, hopening⟩
  · rw [hcredit] at hkind
    rcases hkind with hdebit | hexit
    · exact absurd hdebit (by decide)
    · exact absurd hexit (by decide)
  · exact hopening

/-- A blinding delta is a nonzero number below the suborder. -/
theorem delta_range (h : HiddenHeadTransitionV1 lib s o) :
    0 < s.balanceBlindingDelta.val ∧ s.balanceBlindingDelta.val < babyJubSuborder := by
  have hbits := (balanceScalarMul_eq (by decide) balanceH_x_ne_zero h.deltaPoint).1
  have hless := h.deltaBound
  rw [← sub_eq_zero.mp h.deltaBounded] at hless
  refine ⟨?_, val_lt_suborder hbits hless⟩
  rw [pos_iff_ne_zero, ne_eq, ZMod.val_eq_zero]
  intro hzero
  have hout := h.deltaNonzero
  rw [(isZero_iff _ _).mp h.deltaIsZero, if_pos hzero] at hout
  exact one_ne_zero hout

end Transition

end TsnProtocol.HiddenHead.Consequences
