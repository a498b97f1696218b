import TsnProtocol.Circomlib.BabyJub
import TsnProtocol.Lib.SparseMerkle

/-!
The circuit `hidden_head_v1`: its signals and the constraints on them.
-/

namespace TsnProtocol.HiddenHead.Circuit

open Bn254.Field
open Circomlib.BabyJub
open Circomlib.Gadgets
open Lib.SparseMerkle

/-- The circomlib templates the circuit takes as they are: Poseidon of each arity, and
the multiplication of a point by boolean signals, which replaces a point with first
coordinate zero by the base `BASE8` and then returns the neutral point. -/
structure Circomlib where
  poseidon : List Fr → Fr
  EscalarMulAny : List Fr → Coordinates → Coordinates → Prop
  escalarMulAny_eq : ∀ (bits : List Fr) (base : BabyPoint) (out : Coordinates),
    (∀ bit ∈ bits, IsBoolean bit) → EscalarMulAny bits (coordinates base) out →
      out = if base.x = 0 then (0, 1) else coordinates (bitValue bits • base)

namespace Circomlib

/-- `Poseidon(2)`. -/
def poseidon2 (lib : Circomlib) (left right : Fr) : Fr :=
  lib.poseidon [left, right]

end Circomlib

section Templates

variable (lib : Circomlib)

/-- `BalanceScalarMul(n, baseX, baseY)`. -/
def BalanceScalarMul (n : Nat) (base : BabyPoint) (scalar : Fr) (out : Coordinates) : Prop :=
  ∃ bits, Num2Bits n scalar bits ∧ lib.EscalarMulAny bits (coordinates base) out

/-- The levels of a sparse path: each bit selects the side of the node by linear
combinations. -/
def climb : List Fr → List Fr → Fr → Fr
  | bit :: bits, sibling :: siblings, node =>
      climb bits siblings
        (lib.poseidon2 (node + bit * (sibling - node)) (sibling + bit * (node - sibling)))
  | _, _, node => node

/-- `SparsePath128`: the low bits of the key select the path. -/
def SparsePath128 (leaf key : Fr) (siblings : Vector Fr 128) (root : Fr) : Prop :=
  ∃ keyBits, Num2BitsStrict key keyBits ∧
    root = climb lib (keyBits.take 128) siblings.toList leaf

/-- `SparsePath32`. -/
def SparsePath32 (leaf index : Fr) (siblings : Vector Fr 32) (root : Fr) : Prop :=
  ∃ indexBits, Num2Bits 32 index indexBits ∧ root = climb lib indexBits siblings.toList leaf

end Templates

/-- Input signals of `HiddenHeadTransitionV1`, the public ones first. -/
structure Signals where
  (oldGlobalRoot newGlobalRoot memoCommitment actionCommitment nullifier tipRouteRoot
    successorPortfolioRoot successorBalanceX successorBalanceY encryptedBlindingDelta
    deltaEphemeralPublicX deltaEphemeralPublicY tipLookupCommitment routeKeyCommitment
    routePolicyCommitment balanceScanPublicX balanceScanPublicY tipRouteIndex : Fr)
  tipSiblings : Vector Fr 32
  (accountPathKey priorSequence predecessorMemoCommitment predecessorActionCommitment
    predecessorPortfolioRoot : Fr)
  accountSiblings : Vector Fr 128
  (isFirstToken predecessorBalanceX predecessorBalanceY : Fr)
  portfolioSiblings : Vector Fr 32
  nullifierSiblings : Vector Fr 128
  (actionKind assetId amount authorizationCommitment balanceBlindingDelta balanceBlindingCarry
    deltaEphemeralScalar sharedXReduction sharedXCarry encryptedDeltaCarry predecessorBalance
    predecessorBlinding successorBalance successorBlinding : Fr)

/-- Outputs of the components whose value the circuit uses further. -/
structure Outputs where
  (isFirstHead isCredit isDebit isExit deltaBound deltaIsZero priorBlindBound nextBlindBound
    ephemeralScalarBound currentHeadRoot nextHeadRoot nullifierOldRoot nullifierNewRoot : Fr)
  (amountPoint deltaPoint sharedPoint creditPartial creditSuccessor oldValuePoint oldBlindPoint
    openedOld newValuePoint newBlindPoint openedNew : Coordinates)

/-- The order of the subgroup as the circuit's constant. -/
def suborder : Fr :=
  (babyJubSuborder : Nat)

section Leaves

variable (lib : Circomlib) (s : Signals)

def routeInputs : List Fr :=
  [s.tipLookupCommitment, s.routeKeyCommitment, s.balanceScanPublicX,
    s.balanceScanPublicY, s.routePolicyCommitment]

def priorLeafInputs : List Fr :=
  [s.routeKeyCommitment, s.priorSequence, s.predecessorMemoCommitment,
    s.predecessorActionCommitment, s.predecessorPortfolioRoot]

def nextLeafInputs : List Fr :=
  [s.routeKeyCommitment, s.priorSequence + 1, s.memoCommitment, s.actionCommitment,
    s.successorPortfolioRoot]

def priorTokenInputs : List Fr :=
  [s.assetId, s.predecessorBalanceX, s.predecessorBalanceY]

def successorTokenInputs : List Fr :=
  [s.assetId, s.successorBalanceX, s.successorBalanceY]

def actionInputs : List Fr :=
  [s.actionKind, s.assetId, s.amount, s.authorizationCommitment, s.nullifier]

/-- The hash that is both the key and the leaf of the nullifier. -/
def nullifierHash : Fr :=
  lib.poseidon [s.nullifier]

end Leaves

/-- The constraints of `HiddenHeadTransitionV1`, in the order of the template. -/
structure HiddenHeadTransitionV1 (lib : Circomlib) (s : Signals) (o : Outputs) : Prop where
  balanceScanPointCheck : BabyCheck s.balanceScanPublicX s.balanceScanPublicY
  balanceScanSubgroupCheck : lib.EscalarMulAny (natBits 252 babyJubSuborder)
    (s.balanceScanPublicX, s.balanceScanPublicY) (0, 1)
  tipPath : SparsePath32 lib (lib.poseidon (routeInputs s)) s.tipRouteIndex s.tipSiblings
    s.tipRouteRoot
  accountPathKey : s.routeKeyCommitment = s.accountPathKey
  isFirstHead : IsZero s.priorSequence o.isFirstHead
  sequenceBits : ∃ bits, Num2Bits 64 s.priorSequence bits
  nextSequenceBits : ∃ bits, Num2Bits 64 (s.priorSequence + 1) bits
  assetBits : ∃ bits, Num2Bits 32 s.assetId bits
  actionKindBits : ∃ bits, Num2Bits 8 s.actionKind bits
  amountBits : ∃ bits, Num2Bits 64 s.amount bits
  firstMemo : o.isFirstHead * s.predecessorMemoCommitment = 0
  firstAction : o.isFirstHead * s.predecessorActionCommitment = 0
  firstTokenBits : ∃ bits, Num2Bits 1 s.isFirstToken bits
  firstHeadToken : o.isFirstHead * (s.isFirstToken - 1) = 0
  firstPortfolioSiblings : ∀ i : Fin 32,
    o.isFirstHead * (s.portfolioSiblings[i] - ladder lib.poseidon2 0 i) = 0
  firstPortfolioRoot :
    o.isFirstHead * (s.predecessorPortfolioRoot - ladder lib.poseidon2 0 32) = 0
  priorTokenPath : SparsePath32 lib
    ((1 - s.isFirstToken) * lib.poseidon (priorTokenInputs s)) s.assetId
    s.portfolioSiblings s.predecessorPortfolioRoot
  firstTokenX : s.isFirstToken * s.predecessorBalanceX = 0
  firstTokenY : s.isFirstToken * (s.predecessorBalanceY - 1) = 0
  currentHeadPath : SparsePath128 lib
    ((1 - o.isFirstHead) * lib.poseidon (priorLeafInputs s)) s.accountPathKey
    s.accountSiblings o.currentHeadRoot
  successorPortfolioPath : SparsePath32 lib (lib.poseidon (successorTokenInputs s))
    s.assetId s.portfolioSiblings s.successorPortfolioRoot
  nextHeadPath : SparsePath128 lib (lib.poseidon (nextLeafInputs s)) s.accountPathKey
    s.accountSiblings o.nextHeadRoot
  isCredit : IsEqual s.actionKind 1 o.isCredit
  isDebit : IsEqual s.actionKind 2 o.isDebit
  isExit : IsEqual s.actionKind 3 o.isExit
  oneKind : o.isCredit + o.isDebit + o.isExit = 1
  firstHeadCredit : o.isFirstHead * (1 - o.isCredit) = 0
  firstTokenCredit : s.isFirstToken * (1 - o.isCredit) = 0
  deltaBound : LessThan 252 s.balanceBlindingDelta suborder o.deltaBound
  deltaIsZero : IsZero s.balanceBlindingDelta o.deltaIsZero
  priorBlindBound : LessThan 252 s.predecessorBlinding suborder o.priorBlindBound
  nextBlindBound : LessThan 252 s.successorBlinding suborder o.nextBlindBound
  carryBits : ∃ bits, Num2Bits 1 s.balanceBlindingCarry bits
  deltaBounded : 1 - o.deltaBound = 0
  deltaNonzero : o.deltaIsZero = 0
  priorBlindBounded : (o.isDebit + o.isExit) * (1 - o.priorBlindBound) = 0
  nextBlindBounded : (o.isDebit + o.isExit) * (1 - o.nextBlindBound) = 0
  blindingLink : (o.isDebit + o.isExit) * (s.predecessorBlinding + s.balanceBlindingDelta -
    s.successorBlinding - s.balanceBlindingCarry * suborder) = 0
  amountPoint : BalanceScalarMul lib 64 balanceG s.amount o.amountPoint
  deltaPoint : BalanceScalarMul lib 252 balanceH s.balanceBlindingDelta o.deltaPoint
  ephemeralScalarBound :
    LessThan 252 s.deltaEphemeralScalar suborder o.ephemeralScalarBound
  ephemeralPublicPoint : BalanceScalarMul lib 252 balanceG s.deltaEphemeralScalar
    (s.deltaEphemeralPublicX, s.deltaEphemeralPublicY)
  sharedPoint : ∃ ephemeralBits, Num2Bits 252 s.deltaEphemeralScalar ephemeralBits ∧
    lib.EscalarMulAny ephemeralBits (s.balanceScanPublicX, s.balanceScanPublicY)
      o.sharedPoint
  sharedXCarryBits : ∃ bits, Num2Bits 3 s.sharedXCarry bits
  sharedXMaskBound : LessThan 252 s.sharedXReduction suborder 1
  sharedX : o.sharedPoint.1 = s.sharedXReduction + s.sharedXCarry * suborder
  encryptedDeltaCarryBits : ∃ bits, Num2Bits 1 s.encryptedDeltaCarry bits
  encryptedDelta : s.encryptedBlindingDelta =
    s.balanceBlindingDelta + s.sharedXReduction - s.encryptedDeltaCarry * suborder
  encryptedDeltaBound : LessThan 252 s.encryptedBlindingDelta suborder 1
  creditPartial : BabyAdd (s.predecessorBalanceX, s.predecessorBalanceY) o.amountPoint
    o.creditPartial
  creditSuccessor : BabyAdd o.creditPartial o.deltaPoint o.creditSuccessor
  creditX : o.isCredit * (s.successorBalanceX - o.creditSuccessor.1) = 0
  creditY : o.isCredit * (s.successorBalanceY - o.creditSuccessor.2) = 0
  oldBalanceBits : ∃ bits, Num2Bits 64 s.predecessorBalance bits
  newBalanceBits : ∃ bits, Num2Bits 64 s.successorBalance bits
  oldValuePoint : BalanceScalarMul lib 64 balanceG s.predecessorBalance o.oldValuePoint
  oldBlindPoint : BalanceScalarMul lib 252 balanceH s.predecessorBlinding o.oldBlindPoint
  openedOld : BabyAdd o.oldValuePoint o.oldBlindPoint o.openedOld
  newValuePoint : BalanceScalarMul lib 64 balanceG s.successorBalance o.newValuePoint
  newBlindPoint : BalanceScalarMul lib 252 balanceH s.successorBlinding o.newBlindPoint
  openedNew : BabyAdd o.newValuePoint o.newBlindPoint o.openedNew
  openedOldX : (o.isDebit + o.isExit) * (s.predecessorBalanceX - o.openedOld.1) = 0
  openedOldY : (o.isDebit + o.isExit) * (s.predecessorBalanceY - o.openedOld.2) = 0
  openedNewX : (o.isDebit + o.isExit) * (s.successorBalanceX - o.openedNew.1) = 0
  openedNewY : (o.isDebit + o.isExit) * (s.successorBalanceY - o.openedNew.2) = 0
  balanceLink : (o.isDebit + o.isExit) *
    (s.predecessorBalance - s.successorBalance - s.amount) = 0
  actionHash : lib.poseidon (actionInputs s) = s.actionCommitment
  nullifierOldPath : SparsePath128 lib 0 (nullifierHash lib s) s.nullifierSiblings
    o.nullifierOldRoot
  nullifierNewPath : SparsePath128 lib (nullifierHash lib s) (nullifierHash lib s)
    s.nullifierSiblings o.nullifierNewRoot
  oldRootHash : lib.poseidon [o.currentHeadRoot, o.nullifierOldRoot] = s.oldGlobalRoot
  newRootHash : lib.poseidon [o.nextHeadRoot, o.nullifierNewRoot] = s.newGlobalRoot

end TsnProtocol.HiddenHead.Circuit
