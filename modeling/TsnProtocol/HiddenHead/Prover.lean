import TsnProtocol.HiddenHead.Consequences

/-!
Assignments for a credit. The prover supplies the route, the paths, the amount and the
scalars; the rest of the signals follow.
-/

namespace TsnProtocol.HiddenHead.Prover

open Bn254.Field
open Bn254.Scalar
open Circomlib.BabyJub
open Circomlib.Gadgets
open HiddenHead.Circuit
open HiddenHead.Consequences
open Lib.SparseMerkle

/-- The templates with a given Poseidon and the multiplication that circomlib documents. -/
def circomlibOf (poseidon : List Fr → Fr) : Circomlib where
  poseidon := poseidon
  EscalarMulAny bits base out := ∃ point : BabyPoint, coordinates point = base ∧
    out = if point.x = 0 then (0, 1) else coordinates (bitValue bits • point)
  escalarMulAny_eq := by
    rintro bits base out - ⟨point, hpoint, hout⟩
    have hbase : point = base :=
      Lib.TwistedEdwards.Point.ext (congrArg Prod.fst hpoint) (congrArg Prod.snd hpoint)
    rwa [hbase] at hout

/-- What a prover of a credit chooses. -/
structure Credit where
  (tipLookupCommitment routeKeyCommitment routePolicyCommitment : Fr)
  scan : BabyPoint
  tipRouteIndex : Fr
  tipSiblings : Vector Fr 32
  (priorSequence predecessorMemoCommitment predecessorActionCommitment : Fr)
  accountSiblings : Vector Fr 128
  isFirstToken : Bool
  predecessor : BabyPoint
  portfolioSiblings : Vector Fr 32
  nullifierSiblings : Vector Fr 128
  (memoCommitment nullifier assetId amount authorizationCommitment balanceBlindingDelta
    deltaEphemeralScalar sharedXReduction sharedXCarry encryptedDeltaCarry : Fr)
  (successor ephemeralPublic : BabyPoint)

namespace Credit

variable (poseidon : List Fr → Fr) (credit : Credit)

/-- `Poseidon(2)`. -/
def hash (left right : Fr) : Fr :=
  poseidon [left, right]

def priorTokenLeaf : Fr :=
  if credit.isFirstToken then 0
  else poseidon [credit.assetId, credit.predecessor.x, credit.predecessor.y]

def portfolioPath (leaf : Fr) : Fr :=
  pathRoot (hash poseidon) credit.portfolioSiblings.toList credit.assetId.val leaf

def predecessorPortfolioRoot : Fr :=
  credit.portfolioPath poseidon (credit.priorTokenLeaf poseidon)

def successorPortfolioRoot : Fr :=
  credit.portfolioPath poseidon
    (poseidon [credit.assetId, credit.successor.x, credit.successor.y])

def actionCommitment : Fr :=
  poseidon [1, credit.assetId, credit.amount, credit.authorizationCommitment,
    credit.nullifier]

def headPath (leaf : Fr) : Fr :=
  pathRoot (hash poseidon) credit.accountSiblings.toList (slot credit.routeKeyCommitment)
    leaf

def currentHeadRoot : Fr :=
  credit.headPath poseidon (if credit.priorSequence = 0 then 0 else
    poseidon [credit.routeKeyCommitment, credit.priorSequence,
      credit.predecessorMemoCommitment, credit.predecessorActionCommitment,
      credit.predecessorPortfolioRoot poseidon])

def nextHeadRoot : Fr :=
  credit.headPath poseidon
    (poseidon [credit.routeKeyCommitment, credit.priorSequence + 1, credit.memoCommitment,
      credit.actionCommitment poseidon, credit.successorPortfolioRoot poseidon])

def nullifierPath (leaf : Fr) : Fr :=
  pathRoot (hash poseidon) credit.nullifierSiblings.toList
    (slot (poseidon [credit.nullifier])) leaf

def encryptedBlindingDelta : Fr :=
  credit.balanceBlindingDelta + credit.sharedXReduction - credit.encryptedDeltaCarry * suborder

def sharedPoint : Coordinates :=
  if credit.scan.x = 0 then (0, 1)
  else coordinates (credit.deltaEphemeralScalar.val • credit.scan)

def signals : Signals where
  oldGlobalRoot := poseidon [credit.currentHeadRoot poseidon, credit.nullifierPath poseidon 0]
  newGlobalRoot := poseidon [credit.nextHeadRoot poseidon,
    credit.nullifierPath poseidon (poseidon [credit.nullifier])]
  memoCommitment := credit.memoCommitment
  actionCommitment := credit.actionCommitment poseidon
  nullifier := credit.nullifier
  tipRouteRoot := pathRoot (hash poseidon) credit.tipSiblings.toList credit.tipRouteIndex.val
    (poseidon [credit.tipLookupCommitment, credit.routeKeyCommitment, credit.scan.x,
      credit.scan.y, credit.routePolicyCommitment])
  successorPortfolioRoot := credit.successorPortfolioRoot poseidon
  successorBalanceX := credit.successor.x
  successorBalanceY := credit.successor.y
  encryptedBlindingDelta := credit.encryptedBlindingDelta
  deltaEphemeralPublicX := credit.ephemeralPublic.x
  deltaEphemeralPublicY := credit.ephemeralPublic.y
  tipLookupCommitment := credit.tipLookupCommitment
  routeKeyCommitment := credit.routeKeyCommitment
  routePolicyCommitment := credit.routePolicyCommitment
  balanceScanPublicX := credit.scan.x
  balanceScanPublicY := credit.scan.y
  tipRouteIndex := credit.tipRouteIndex
  tipSiblings := credit.tipSiblings
  accountPathKey := credit.routeKeyCommitment
  priorSequence := credit.priorSequence
  predecessorMemoCommitment := credit.predecessorMemoCommitment
  predecessorActionCommitment := credit.predecessorActionCommitment
  predecessorPortfolioRoot := credit.predecessorPortfolioRoot poseidon
  accountSiblings := credit.accountSiblings
  isFirstToken := if credit.isFirstToken then 1 else 0
  predecessorBalanceX := credit.predecessor.x
  predecessorBalanceY := credit.predecessor.y
  portfolioSiblings := credit.portfolioSiblings
  nullifierSiblings := credit.nullifierSiblings
  actionKind := 1
  assetId := credit.assetId
  amount := credit.amount
  authorizationCommitment := credit.authorizationCommitment
  balanceBlindingDelta := credit.balanceBlindingDelta
  balanceBlindingCarry := 0
  deltaEphemeralScalar := credit.deltaEphemeralScalar
  sharedXReduction := credit.sharedXReduction
  sharedXCarry := credit.sharedXCarry
  encryptedDeltaCarry := credit.encryptedDeltaCarry
  predecessorBalance := 0
  predecessorBlinding := 0
  successorBalance := 0
  successorBlinding := 0

def outputs : Outputs where
  isFirstHead := if credit.priorSequence = 0 then 1 else 0
  isCredit := 1
  isDebit := 0
  isExit := 0
  deltaBound := 1
  deltaIsZero := 0
  priorBlindBound := 1
  nextBlindBound := 1
  ephemeralScalarBound := 1
  currentHeadRoot := credit.currentHeadRoot poseidon
  nextHeadRoot := credit.nextHeadRoot poseidon
  nullifierOldRoot := credit.nullifierPath poseidon 0
  nullifierNewRoot := credit.nullifierPath poseidon (poseidon [credit.nullifier])
  amountPoint := coordinates (credit.amount.val • balanceG)
  deltaPoint := coordinates (credit.balanceBlindingDelta.val • balanceH)
  sharedPoint := credit.sharedPoint
  creditPartial := coordinates (credit.predecessor + credit.amount.val • balanceG)
  creditSuccessor := coordinates credit.successor
  oldValuePoint := coordinates 0
  oldBlindPoint := coordinates 0
  openedOld := coordinates 0
  newValuePoint := coordinates 0
  newBlindPoint := coordinates 0
  openedNew := coordinates 0

/-- The choices satisfy the circuit. -/
structure Admissible : Prop where
  subgroup : credit.scan.x ≠ 0 → babyJubSuborder • credit.scan = 0
  tipRouteIndex : credit.tipRouteIndex.val < 2 ^ 32
  sequence : credit.priorSequence.val + 1 < 2 ^ 64
  assetId : credit.assetId.val < 2 ^ 32
  amount : credit.amount.val < 2 ^ 64
  firstHead : credit.priorSequence = 0 →
    credit.predecessorMemoCommitment = 0 ∧ credit.predecessorActionCommitment = 0 ∧
      credit.isFirstToken = true ∧
      credit.portfolioSiblings = emptySiblings (hash poseidon) 0 32
  firstToken : credit.isFirstToken = true → credit.predecessor = 0
  deltaNonzero : credit.balanceBlindingDelta ≠ 0
  delta : credit.balanceBlindingDelta.val < babyJubSuborder
  ephemeral : credit.deltaEphemeralScalar.val < babyJubSuborder
  ephemeralPublic :
    credit.ephemeralPublic = credit.deltaEphemeralScalar.val • balanceG
  sharedX : credit.sharedPoint.1 =
    credit.sharedXReduction + credit.sharedXCarry * suborder
  sharedXCarry : credit.sharedXCarry.val < 2 ^ 3
  sharedXReduction : LessThan 252 credit.sharedXReduction suborder 1
  encryptedDeltaCarry : credit.encryptedDeltaCarry.val < 2 ^ 1
  encryptedDelta : LessThan 252 credit.encryptedBlindingDelta suborder 1
  successor : credit.successor =
    credit.predecessor + credit.amount.val • balanceG +
      credit.balanceBlindingDelta.val • balanceH

section Satisfaction

variable {poseidon : List Fr → Fr} {credit : Credit}

theorem exists_num2Bits {n : Nat} {input : Fr} (hn : 2 ^ n ≤ bn254ScalarOrder)
    (hinput : input.val < 2 ^ n) : ∃ bits, Num2Bits n input bits :=
  (exists_num2Bits_iff hn input).mpr hinput

variable (poseidon) in
theorem escalarMulAny_natBits {n scalar : Nat} (hscalar : scalar < 2 ^ n) (base : BabyPoint) :
    (circomlibOf poseidon).EscalarMulAny (natBits n scalar) (coordinates base)
      (if base.x = 0 then (0, 1) else coordinates (scalar • base)) :=
  ⟨base, rfl, by rw [bitValue_natBits, Nat.mod_eq_of_lt hscalar]⟩

variable (poseidon) in
theorem balanceScalarMul {n : Nat} {base : BabyPoint} (scalar : Fr)
    (hn : 2 ^ n ≤ bn254ScalarOrder) (hbase : base.x ≠ 0) (hscalar : scalar.val < 2 ^ n) :
    BalanceScalarMul (circomlibOf poseidon) n base scalar
      (coordinates (scalar.val • base)) := by
  refine ⟨natBits n scalar.val, (num2Bits_iff hn _ _).mpr ⟨hscalar, rfl⟩, ?_⟩
  have hmul := escalarMulAny_natBits poseidon hscalar base
  rwa [if_neg hbase] at hmul

theorem balanceScalarMul_zero {n : Nat} {base : BabyPoint} (hn : 2 ^ n ≤ bn254ScalarOrder)
    (hbase : base.x ≠ 0) :
    BalanceScalarMul (circomlibOf poseidon) n base 0 (coordinates 0) := by
  have hmul := balanceScalarMul poseidon 0 hn hbase (Nat.two_pow_pos n)
  rwa [ZMod.val_zero, zero_nsmul] at hmul

theorem portfolioRoot_first (hadmissible : Admissible poseidon credit)
    (hfirst : credit.priorSequence = 0) :
    credit.predecessorPortfolioRoot poseidon = ladder (hash poseidon) 0 32 := by
  obtain ⟨-, -, htoken, hsiblings⟩ := hadmissible.firstHead hfirst
  rw [predecessorPortfolioRoot, portfolioPath, hsiblings, priorTokenLeaf, if_pos htoken]
  exact pathRoot_emptySiblings 0 32 _

theorem sharedPoint_mul (hadmissible : Admissible poseidon credit) :
    ∃ bits, Num2Bits 252 credit.deltaEphemeralScalar bits ∧
      (circomlibOf poseidon).EscalarMulAny bits (coordinates credit.scan)
        credit.sharedPoint := by
  have hscalar : credit.deltaEphemeralScalar.val < 2 ^ 252 :=
    hadmissible.ephemeral.trans (by decide)
  exact ⟨_, (num2Bits_iff (by decide) _ _).mpr ⟨hscalar, rfl⟩,
    escalarMulAny_natBits poseidon hscalar credit.scan⟩

theorem subgroup_mul (hadmissible : Admissible poseidon credit) :
    (circomlibOf poseidon).EscalarMulAny (natBits 252 babyJubSuborder)
      (coordinates credit.scan) (0, 1) := by
  have hmul := escalarMulAny_natBits poseidon (show babyJubSuborder < 2 ^ 252 by decide)
    credit.scan
  by_cases hscan : credit.scan.x = 0
  · rwa [if_pos hscan] at hmul
  · rwa [if_neg hscan, hadmissible.subgroup hscan] at hmul

/-- Every admissible credit satisfies the circuit. -/
theorem satisfied (hadmissible : Admissible poseidon credit) :
    HiddenHeadTransitionV1 (circomlibOf poseidon) (credit.signals poseidon)
      (credit.outputs poseidon) where
  balanceScanPointCheck := by
    have hcontains := credit.scan.contains
    unfold Lib.TwistedEdwards.Curve.Contains at hcontains
    rw [babyJub_a, babyJub_d] at hcontains
    unfold BabyCheck
    simp only [signals]
    linear_combination hcontains
  balanceScanSubgroupCheck := subgroup_mul hadmissible
  tipPath := (sparsePath32_iff _ _ _ _).mpr ⟨hadmissible.tipRouteIndex, rfl⟩
  accountPathKey := rfl
  isFirstHead := (isZero_iff _ _).mpr rfl
  sequenceBits := exists_num2Bits (by decide) (by
    have hsequence := hadmissible.sequence
    simp only [signals]
    omega)
  nextSequenceBits := exists_num2Bits (by decide) (by
    have hone : (1 : Fr).val = 1 := ZMod.val_one _
    have hsequence := hadmissible.sequence
    have horder : 2 ^ 64 < bn254ScalarOrder := by decide
    simp only [signals]
    rw [ZMod.val_add_of_lt (by omega), hone]
    exact hsequence)
  assetBits := exists_num2Bits (by decide) hadmissible.assetId
  actionKindBits := exists_num2Bits (by decide) (show (1 : Fr).val < 2 ^ 8 by decide)
  amountBits := exists_num2Bits (by decide) hadmissible.amount
  firstMemo := by
    simp only [signals, outputs]
    split
    · rename_i hfirst
      rw [(hadmissible.firstHead hfirst).1, mul_zero]
    · rw [zero_mul]
  firstAction := by
    simp only [signals, outputs]
    split
    · rename_i hfirst
      rw [(hadmissible.firstHead hfirst).2.1, mul_zero]
    · rw [zero_mul]
  firstTokenBits := exists_num2Bits (by decide) (by
    simp only [signals]
    split <;> decide)
  firstHeadToken := by
    simp only [signals, outputs]
    split
    · rename_i hfirst
      rw [if_pos (hadmissible.firstHead hfirst).2.2.1, sub_self, mul_zero]
    · rw [zero_mul]
  firstPortfolioSiblings := fun level => by
    change (if credit.priorSequence = 0 then 1 else 0) * _ = _
    split
    · rename_i hfirst
      rw [one_mul, sub_eq_zero]
      change credit.portfolioSiblings[level] = _
      rw [(hadmissible.firstHead hfirst).2.2.2]
      exact Vector.getElem_ofFn level.isLt
    · rw [zero_mul]
  firstPortfolioRoot := by
    simp only [signals, outputs]
    split
    · rename_i hfirst
      rw [portfolioRoot_first hadmissible hfirst, one_mul, sub_eq_zero]
      rfl
    · rw [zero_mul]
  priorTokenPath := (sparsePath32_iff _ _ _ _).mpr ⟨hadmissible.assetId, by
    simp only [signals, predecessorPortfolioRoot, portfolioPath, priorTokenLeaf]
    split
    · rw [sub_self, zero_mul]
      rfl
    · rw [sub_zero, one_mul]
      rfl⟩
  firstTokenX := by
    simp only [signals]
    split
    · rename_i htoken
      rw [hadmissible.firstToken htoken]
      rfl
    · rw [zero_mul]
  firstTokenY := by
    simp only [signals]
    split
    · rename_i htoken
      rw [hadmissible.firstToken htoken]
      rfl
    · rw [zero_mul]
  currentHeadPath := (sparsePath128_iff _ _ _ _).mpr (by
    simp only [signals, outputs, currentHeadRoot, headPath]
    split
    · rw [sub_self, zero_mul]
      rfl
    · rw [sub_zero, one_mul]
      rfl)
  successorPortfolioPath := (sparsePath32_iff _ _ _ _).mpr ⟨hadmissible.assetId, rfl⟩
  nextHeadPath := (sparsePath128_iff _ _ _ _).mpr rfl
  isCredit := (isEqual_iff _ _ _).mpr rfl
  isDebit := (isEqual_iff _ _ _).mpr rfl
  isExit := (isEqual_iff _ _ _).mpr rfl
  oneKind := by simp [outputs]
  firstHeadCredit := by simp [outputs]
  firstTokenCredit := by simp [outputs]
  deltaBound := lessThan_suborder hadmissible.delta
  deltaIsZero := (isZero_iff _ _).mpr (if_neg hadmissible.deltaNonzero).symm
  priorBlindBound := lessThan_suborder (show (0 : Fr).val < babyJubSuborder by decide)
  nextBlindBound := lessThan_suborder (show (0 : Fr).val < babyJubSuborder by decide)
  carryBits := exists_num2Bits (by decide) (show (0 : Fr).val < 2 ^ 1 by decide)
  deltaBounded := by simp [outputs]
  deltaNonzero := rfl
  priorBlindBounded := by simp [outputs]
  nextBlindBounded := by simp [outputs]
  blindingLink := by simp [outputs]
  amountPoint := balanceScalarMul poseidon _ (by decide) balanceG_x_ne_zero hadmissible.amount
  deltaPoint := balanceScalarMul poseidon _ (by decide) balanceH_x_ne_zero
    (hadmissible.delta.trans (by decide))
  ephemeralScalarBound := lessThan_suborder hadmissible.ephemeral
  ephemeralPublicPoint := by
    simp only [signals, hadmissible.ephemeralPublic]
    exact balanceScalarMul poseidon _ (by decide) balanceG_x_ne_zero
      (hadmissible.ephemeral.trans (by decide))
  sharedPoint := sharedPoint_mul hadmissible
  sharedXCarryBits := exists_num2Bits (by decide) hadmissible.sharedXCarry
  sharedXMaskBound := hadmissible.sharedXReduction
  sharedX := hadmissible.sharedX
  encryptedDeltaCarryBits := exists_num2Bits (by decide) hadmissible.encryptedDeltaCarry
  encryptedDelta := rfl
  encryptedDeltaBound := hadmissible.encryptedDelta
  creditPartial := (babyAdd_iff _ _ _).mpr rfl
  creditSuccessor := (babyAdd_iff _ _ _).mpr (congrArg coordinates hadmissible.successor)
  creditX := by simp [signals, outputs, coordinates]
  creditY := by simp [signals, outputs, coordinates]
  oldBalanceBits := exists_num2Bits (by decide) (show (0 : Fr).val < 2 ^ 64 by decide)
  newBalanceBits := exists_num2Bits (by decide) (show (0 : Fr).val < 2 ^ 64 by decide)
  oldValuePoint := balanceScalarMul_zero (by decide) balanceG_x_ne_zero
  oldBlindPoint := balanceScalarMul_zero (by decide) balanceH_x_ne_zero
  openedOld := (babyAdd_iff _ _ _).mpr (congrArg coordinates (add_zero 0).symm)
  newValuePoint := balanceScalarMul_zero (by decide) balanceG_x_ne_zero
  newBlindPoint := balanceScalarMul_zero (by decide) balanceH_x_ne_zero
  openedNew := (babyAdd_iff _ _ _).mpr (congrArg coordinates (add_zero 0).symm)
  openedOldX := by simp [outputs]
  openedOldY := by simp [outputs]
  openedNewX := by simp [outputs]
  openedNewY := by simp [outputs]
  balanceLink := by simp [outputs]
  actionHash := rfl
  nullifierOldPath := (sparsePath128_iff _ _ _ _).mpr rfl
  nullifierNewPath := (sparsePath128_iff _ _ _ _).mpr rfl
  oldRootHash := rfl
  newRootHash := rfl

end Satisfaction

end Credit

section Opening

/-- The sum of the two bases. -/
def balanceGH : BabyPoint where
  x := 19757817923676489371299800328209906900164534759230369074872890910021120959701
  y := 10575350927334205029281103535282954862211836838087036877615124616122872329807
  contains := by
    unfold Lib.TwistedEdwards.Curve.Contains
    decide +kernel

theorem balanceG_add_balanceH : balanceG + balanceH = balanceGH := by
  have hplus := Lib.TwistedEdwards.one_add_ne_zero balanceG.contains balanceH.contains
  have hminus := Lib.TwistedEdwards.one_sub_ne_zero balanceG.contains balanceH.contains
  apply Lib.TwistedEdwards.Point.ext
  · rw [Lib.TwistedEdwards.Point.add_x, div_eq_iff hplus]
    decide +kernel
  · rw [Lib.TwistedEdwards.Point.add_y, div_eq_iff hminus]
    decide +kernel

/-- The first credit of a route, of one unit of the first token, with the scan key
`BASE8` and both scalars one. -/
def openingCredit (poseidon : List Fr → Fr)
    (tipLookupCommitment routeKeyCommitment routePolicyCommitment tipRouteIndex : Fr)
    (tipSiblings : Vector Fr 32) (memoCommitment nullifier : Fr) : Credit where
  tipLookupCommitment := tipLookupCommitment
  routeKeyCommitment := routeKeyCommitment
  routePolicyCommitment := routePolicyCommitment
  scan := balanceG
  tipRouteIndex := tipRouteIndex
  tipSiblings := tipSiblings
  priorSequence := 0
  predecessorMemoCommitment := 0
  predecessorActionCommitment := 0
  accountSiblings := emptySiblings (Credit.hash poseidon) 0 128
  isFirstToken := true
  predecessor := 0
  portfolioSiblings := emptySiblings (Credit.hash poseidon) 0 32
  nullifierSiblings := emptySiblings (Credit.hash poseidon) 0 128
  memoCommitment := memoCommitment
  nullifier := nullifier
  assetId := 1
  amount := 1
  authorizationCommitment := 1
  balanceBlindingDelta := 1
  deltaEphemeralScalar := 1
  sharedXReduction := balanceG.x - suborder
  sharedXCarry := 1
  encryptedDeltaCarry := 0
  successor := balanceGH
  ephemeralPublic := balanceG

theorem sharedPoint_openingCredit {credit : Credit} (hscan : credit.scan = balanceG)
    (hephemeral : credit.deltaEphemeralScalar = 1) :
    credit.sharedPoint = coordinates balanceG := by
  have hone : (1 : Fr).val = 1 := ZMod.val_one _
  rw [Credit.sharedPoint, hscan, if_neg balanceG_x_ne_zero, hephemeral, hone, one_nsmul]

theorem admissible_openingCredit (poseidon : List Fr → Fr)
    {tipLookupCommitment routeKeyCommitment routePolicyCommitment tipRouteIndex : Fr}
    {tipSiblings : Vector Fr 32} {memoCommitment nullifier : Fr}
    (hindex : tipRouteIndex.val < 2 ^ 32) :
    (openingCredit poseidon tipLookupCommitment routeKeyCommitment routePolicyCommitment
      tipRouteIndex tipSiblings memoCommitment nullifier).Admissible poseidon := by
  have hone : (1 : Fr).val = 1 := ZMod.val_one _
  refine
    { subgroup := fun _ => suborder_nsmul_balanceG
      tipRouteIndex := hindex
      sequence := ?_
      assetId := ?_
      amount := ?_
      firstHead := fun _ => ⟨rfl, rfl, rfl, rfl⟩
      firstToken := fun _ => rfl
      deltaNonzero := one_ne_zero
      delta := ?_
      ephemeral := ?_
      ephemeralPublic := ?_
      sharedX := ?_
      sharedXCarry := ?_
      sharedXReduction := lessThan_suborder ?_
      encryptedDeltaCarry := ?_
      encryptedDelta := lessThan_suborder ?_
      successor := ?_ }
  · exact (by decide : (0 : Fr).val + 1 < 2 ^ 64)
  · exact (by decide : (1 : Fr).val < 2 ^ 32)
  · exact (by decide : (1 : Fr).val < 2 ^ 64)
  · exact (by decide : (1 : Fr).val < babyJubSuborder)
  · exact (by decide : (1 : Fr).val < babyJubSuborder)
  · change balanceG = (1 : Fr).val • balanceG
    rw [hone, one_nsmul]
  · rw [sharedPoint_openingCredit rfl rfl]
    change balanceG.x = balanceG.x - suborder + 1 * suborder
    ring
  · exact (by decide : (1 : Fr).val < 2 ^ 3)
  · exact (by decide +kernel : (balanceG.x - suborder).val < babyJubSuborder)
  · exact (by decide : (0 : Fr).val < 2 ^ 1)
  · exact (by decide +kernel :
      (1 + (balanceG.x - suborder) - 0 * suborder : Fr).val < babyJubSuborder)
  · change balanceGH = 0 + (1 : Fr).val • balanceG + (1 : Fr).val • balanceH
    rw [hone, one_nsmul, one_nsmul, zero_add, balanceG_add_balanceH]

/-- A sponge of fifth powers, for evaluating assignments. -/
def sponge (inputs : List Fr) : Fr :=
  inputs.foldl (fun state input => (state + input) ^ 5) (inputs.length : Fr)

/-- The first credit of a route alone in its tree. -/
def sampleCredit : Credit :=
  openingCredit sponge 11 7 13 0 (emptySiblings (Credit.hash sponge) 0 32) 17 19

theorem admissible_sampleCredit : sampleCredit.Admissible sponge :=
  admissible_openingCredit sponge (show (0 : Fr).val < 2 ^ 32 by decide)

end Opening

end TsnProtocol.HiddenHead.Prover
