import TsnProtocol.Gpru.Verifier
import TsnProtocol.HiddenHead.Consequences
import TsnProtocol.Lib.KeyedList
import TsnProtocol.Lib.Transition

/-!
The shared root on chain under hidden-head transitions, and the circuit witness behind
each of them.
-/

namespace TsnProtocol.HiddenHead.Chain

open Bn254.Field
open Gpru.Verifier
open HiddenHead.Circuit
open HiddenHead.Consequences
open Lib.Checked
open Lib.KeyedList
open Lib.SparseMerkle
open Solana.Address
open Tcap.Execution (HiddenHeadProofArgsV1 commitmentRootAddress)
open Tcap.State

inductive TransitionError where
  | gpru (error : HiddenHeadError)
  | wrongTcapRoot
  | arithmeticOverflow
  deriving DecidableEq

/-- A proof with the accounts it is checked against, and the assignment behind it. -/
structure Transition where
  tipRouteRoot : TipRouteRootAccount
  verifierAddress : Pubkey
  verifier : GpruHiddenHeadVerifierV1
  instructions : Instructions
  args : HiddenHeadProofArgsV1
  signals : Signals
  outputs : Outputs

/-- The accounts of the verification, which the TCAP program hands over with its own
commitment root. -/
def Transition.accounts (transition : Transition) (root : TcapCommitmentRootStateV1) :
    VerifyHiddenHeadTransitionV1 where
  tipRouteRoot := transition.tipRouteRoot
  tcapCommitmentRoot := ⟨commitmentRootAddress, tcapProgram, root⟩
  verifierAddress := transition.verifierAddress
  verifier := transition.verifier
  instructions := transition.instructions

section Inputs

local instance neZero_publicInputs : NeZero 12 := ⟨by decide⟩

/-- A verified transition replaces the shared root. -/
def applyTransition (runtime : Runtime) (root : TcapCommitmentRootStateV1)
    (transition : Transition) : Except TransitionError TcapCommitmentRootStateV1 := do
  require (transition.args.publicInputs 0 = root.currentRoot ∧
    transition.args.publicInputs 1 ≠ root.currentRoot) .wrongTcapRoot
  let sequence ← okOr (checkedAdd 64 root.sequence 1) .arithmeticOverflow
  match verifyTransition runtime (transition.accounts root) transition.args with
  | .error error => .error (.gpru error)
  | .ok () =>
      let rootVersion ← okOr (checkedAdd 32 root.rootVersion 1) .arithmeticOverflow
      return { root with
        previousRoot := root.currentRoot
        currentRoot := transition.args.publicInputs 1
        sequence := sequence
        rootVersion := rootVersion }

end Inputs

/-- The public signals in the order of the proof's public inputs. -/
def publicSignals (s : Signals) : Fin 12 → Fr :=
  ![s.oldGlobalRoot, s.newGlobalRoot, s.memoCommitment, s.actionCommitment, s.nullifier,
    s.tipRouteRoot, s.successorPortfolioRoot, s.successorBalanceX, s.successorBalanceY,
    s.encryptedBlindingDelta, s.deltaEphemeralPublicX, s.deltaEphemeralPublicY]

/-- The proof is about an assignment that satisfies the circuit. -/
structure Proven (lib : Circomlib) (transition : Transition) : Prop where
  satisfied : HiddenHeadTransitionV1 lib transition.signals transition.outputs
  publicInputs : ∀ index,
    (transition.args.publicInputs index).toNat = (publicSignals transition.signals index).val

theorem applyTransition_eq_ok {runtime : Runtime} {root next : TcapCommitmentRootStateV1}
    {transition : Transition} (hstep : applyTransition runtime root transition = .ok next) :
    transition.args.publicInputs 0 = root.currentRoot ∧
      next.currentRoot = transition.args.publicInputs 1 := by
  simp only [applyTransition, bind_eq_ok, require_eq_ok, okOr_eq_ok] at hstep
  obtain ⟨_, ⟨hroot, -⟩, sequence, -, hstep⟩ := hstep
  split at hstep
  · cases hstep
  · simp only [bind_eq_ok, pure_eq_ok] at hstep
    obtain ⟨rootVersion, -, rfl⟩ := hstep
    exact ⟨hroot, rfl⟩

section Hashing

variable (lib : Circomlib)

/-- The leaf that the predecessor head has in the map. -/
def currentLeaf (s : Signals) : Fr :=
  if s.priorSequence = 0 then 0 else lib.poseidon (priorLeafInputs s)

/-- The leaf that the predecessor balance has in the portfolio. -/
def priorTokenLeaf (s : Signals) : Fr :=
  if s.isFirstToken = 1 then 0 else lib.poseidon (priorTokenInputs s)

def pathInputs (siblings : List Fr) (index : Nat) (leaf : Fr) : List (List Fr) :=
  (pathPairs lib.poseidon2 siblings index leaf).map fun pair => [pair.1, pair.2]

/-- The inputs on which the circuit evaluates Poseidon, the empty ladder apart. -/
def hashedInputs (s : Signals) : List (List Fr) :=
  let headPath := pathRoot lib.poseidon2 s.accountSiblings.toList (slot s.accountPathKey)
  let nullifierPath :=
    pathRoot lib.poseidon2 s.nullifierSiblings.toList (slot (nullifierHash lib s))
  [routeInputs s, priorLeafInputs s, nextLeafInputs s, priorTokenInputs s,
      successorTokenInputs s, actionInputs s, [s.nullifier],
      [headPath (currentLeaf lib s), nullifierPath 0],
      [headPath (lib.poseidon (nextLeafInputs s)), nullifierPath (nullifierHash lib s)]] ++
    pathInputs lib s.tipSiblings.toList s.tipRouteIndex.val (lib.poseidon (routeInputs s)) ++
    pathInputs lib s.portfolioSiblings.toList s.assetId.val (priorTokenLeaf lib s) ++
    pathInputs lib s.portfolioSiblings.toList s.assetId.val
      (lib.poseidon (successorTokenInputs s)) ++
    pathInputs lib s.accountSiblings.toList (slot s.accountPathKey) (currentLeaf lib s) ++
    pathInputs lib s.accountSiblings.toList (slot s.accountPathKey)
      (lib.poseidon (nextLeafInputs s)) ++
    pathInputs lib s.nullifierSiblings.toList (slot (nullifierHash lib s)) 0 ++
    pathInputs lib s.nullifierSiblings.toList (slot (nullifierHash lib s))
      (nullifierHash lib s)

/-- The inputs of the empty ladder, from an empty leaf to the empty shared root. -/
def ladderInputs : List (List Fr) :=
  (List.range 129).map fun level =>
    [ladder lib.poseidon2 0 level, ladder lib.poseidon2 0 level]

/-- Every input of Poseidon in a list of transitions. -/
def evaluated (transitions : List Transition) : List (List Fr) :=
  ladderInputs lib ++ transitions.flatMap fun transition => hashedInputs lib transition.signals

/-- Poseidon of each arity has no collision among the inputs. -/
def CollisionFree (inputs : List (List Fr)) : Prop :=
  ∀ first ∈ inputs, ∀ second ∈ inputs, first.length = second.length →
    lib.poseidon first = lib.poseidon second → first = second

/-- The inputs under keys that combine their length and their hash. -/
def keyedInputs (inputs : List (List Fr)) : List (Nat × List Fr) :=
  inputs.map fun input => (8 * (lib.poseidon input).val + input.length, input)

variable {lib} in
theorem collisionFree_of_functional {inputs : List (List Fr)}
    (hfunctional : Functional (keyedInputs lib inputs)) : CollisionFree lib inputs := by
  intro first hfirst second hsecond hlength hhash
  refine hfunctional _ (List.mem_map_of_mem hfirst) _ (List.mem_map_of_mem hsecond) ?_
  rw [hlength, hhash]

/-- No entry that a transition opens or writes is hashed to the empty leaf. -/
structure LiveLeavesNonzero (s : Signals) : Prop where
  prior : s.priorSequence ≠ 0 → lib.poseidon (priorLeafInputs s) ≠ 0
  next : lib.poseidon (nextLeafInputs s) ≠ 0
  nullifier : nullifierHash lib s ≠ 0

end Hashing

end TsnProtocol.HiddenHead.Chain
