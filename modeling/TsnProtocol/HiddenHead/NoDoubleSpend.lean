import TsnProtocol.HiddenHead.HeadMap
import TsnProtocol.HiddenHead.Prover

/-!
Runs of hidden-head transitions: at every state the shared root is that of a map, and
each transition advances the map by one head and one nullifier.
-/

namespace TsnProtocol.HiddenHead.NoDoubleSpend

open Bn254.Field
open Bn254.Scalar
open Gpru.Verifier
open HiddenHead.Chain
open HiddenHead.Circuit
open HiddenHead.HeadMap
open HiddenHead.Prover
open Lib.KeyedList
open Lib.SparseMerkle
open Lib.Transition
open Solana.Address
open Tcap.State

/-- Transitions recorded with the root state each was applied to, latest first. -/
abbrev History := List (TcapCommitmentRootStateV1 × Transition)

/-- The stored root as a field element. -/
def storedRoot (root : TcapCommitmentRootStateV1) : Fr :=
  (root.currentRoot.toNat : Fr)

/-- The shared root of the empty map. -/
def emptyRoot (lib : Circomlib) : Fr :=
  sharedRoot lib (fun _ => 0) (fun _ => 0)

/-- A map follows a run: it has the stored root at every state, and each transition
advances it. -/
inductive Tracks (lib : Circomlib) : History → TcapCommitmentRootStateV1 → HiddenMap → Prop
  | start {root : TcapCommitmentRootStateV1} :
      IsRoot lib HiddenMap.empty (storedRoot root) → Tracks lib [] root HiddenMap.empty
  | step {history : History} {before after : TcapCommitmentRootStateV1}
      {transition : Transition} {map next : HiddenMap} :
      Tracks lib history before map → Advances map transition.signals next →
        IsRoot lib next (storedRoot after) →
          Tracks lib ((before, transition) :: history) after next

def nullifiersOf (history : History) : List Fr :=
  history.map fun entry => entry.2.signals.nullifier

section Run

variable {lib : Circomlib} {runtime : Runtime} {genesis root : TcapCommitmentRootStateV1}
  {history : History}

/-- The stored roots around a transition are the public roots of its assignment. -/
theorem storedRoot_of_step {before after : TcapCommitmentRootStateV1} {transition : Transition}
    (hproven : Proven lib transition)
    (hstep : applyTransition runtime before transition = .ok after) :
    storedRoot before = transition.signals.oldGlobalRoot ∧
      storedRoot after = transition.signals.newGlobalRoot := by
  obtain ⟨hold, hnew⟩ := applyTransition_eq_ok hstep
  have holdInput := hproven.publicInputs 0
  have hnewInput := hproven.publicInputs 1
  unfold storedRoot
  rw [← hold, hnew, holdInput, hnewInput, ZMod.natCast_val, ZMod.cast_id, ZMod.natCast_val,
    ZMod.cast_id]
  exact ⟨rfl, rfl⟩

/-- What every transition of a run has to meet for its hashes to bind. -/
structure Binds (lib : Circomlib) (inputs : List (List Fr)) (transition : Transition) :
    Prop where
  proven : Proven lib transition
  hashed : ∀ input ∈ hashedInputs lib transition.signals, input ∈ inputs
  nonzero : LiveLeavesNonzero lib transition.signals

theorem tracks_of_run {inputs : List (List Fr)} (hfree : CollisionFree lib inputs)
    (hladder : ∀ input ∈ ladderInputs lib, input ∈ inputs)
    (hgenesis : storedRoot genesis = emptyRoot lib)
    (hrun : Run (applyTransition runtime) genesis history root)
    (hbinds : ∀ entry ∈ history, Binds lib inputs entry.2) :
    ∃ map, Tracks lib history root map := by
  have hinvariant : ∃ map headLeaves nullifierLeaves, Tracks lib history root map ∧
      Committed lib inputs map headLeaves nullifierLeaves ∧
        sharedRoot lib headLeaves nullifierLeaves = storedRoot root := by
    induction hrun with
    | start =>
        have hempty := committed_empty hladder
        exact ⟨_, _, _, .start ⟨_, _, hempty.layout, hgenesis.symm⟩, hempty, hgenesis.symm⟩
    | step hprefix hstep ih =>
        obtain ⟨map, heads, nullifiers, htracks, hcommitted, hroot⟩ :=
          ih fun entry hentry => hbinds entry (List.mem_cons_of_mem _ hentry)
        have hbind := hbinds _ List.mem_cons_self
        obtain ⟨hold, hnew⟩ := storedRoot_of_step hbind.proven hstep
        obtain ⟨hadvances, heads', nullifiers', hcommitted', hroot'⟩ := committed_step hfree
          hcommitted hbind.proven.satisfied hbind.hashed hbind.nonzero (hroot.trans hold)
        have hafter := hroot'.trans hnew.symm
        exact ⟨_, heads', nullifiers',
          .step htracks hadvances ⟨_, _, hcommitted'.layout, hafter⟩, hcommitted', hafter⟩
  obtain ⟨map, -, -, htracks, -⟩ := hinvariant
  exact ⟨map, htracks⟩

/-- The nullifiers of a map are those accepted, each of them once. -/
theorem nullifiers_of_tracks {map : HiddenMap} (htracks : Tracks lib history root map) :
    (nullifiersOf history).Nodup ∧
      ∀ nullifier, nullifier ∈ map.nullifiers ↔ nullifier ∈ nullifiersOf history := by
  induction htracks with
  | start => simp [nullifiersOf, HiddenMap.empty]
  | step hprefix hadvances hroot ih =>
      obtain ⟨hnodup, hmem⟩ := ih
      refine ⟨List.nodup_cons.mpr ⟨?_, hnodup⟩, fun nullifier => ?_⟩
      · rw [← nullifiersOf, ← hmem]
        exact hadvances.fresh
      · rw [hadvances.nullifiers, Finset.mem_insert, hmem]
        exact List.mem_cons.symm

/-- Along every run from the empty map, a map has the stored root at every state, each
transition replaces the head of one key by its successor and spends one nullifier, and no
nullifier is accepted twice. -/
theorem noDoubleSpend_of_run (hgenesis : storedRoot genesis = emptyRoot lib)
    (hrun : Run (applyTransition runtime) genesis history root)
    (hproven : ∀ entry ∈ history, Proven lib entry.2)
    (hfree : CollisionFree lib (evaluated lib (history.map Prod.snd)))
    (hnonzero : ∀ entry ∈ history, LiveLeavesNonzero lib entry.2.signals) :
    (∃ map, Tracks lib history root map) ∧ (nullifiersOf history).Nodup := by
  have hbinds : ∀ entry ∈ history,
      Binds lib (evaluated lib (history.map Prod.snd)) entry.2 := by
    intro entry hentry
    refine ⟨hproven entry hentry, fun input hinput => ?_, hnonzero entry hentry⟩
    exact List.mem_append_right _
      (List.mem_flatMap.mpr ⟨entry.2, List.mem_map_of_mem hentry, hinput⟩)
  obtain ⟨map, htracks⟩ := tracks_of_run hfree
    (fun input hinput => List.mem_append_left _ hinput) hgenesis hrun hbinds
  exact ⟨⟨map, htracks⟩, (nullifiers_of_tracks htracks).1⟩

end Run

section Sample

/-- A field element as a 32-byte word. -/
def word (value : Fr) : Bytes32 :=
  BitVec.ofNat 256 value.val

theorem toNat_word (value : Fr) : (word value).toNat = value.val := by
  have horder : bn254ScalarOrder < 2 ^ 256 := by decide
  rw [word, BitVec.toNat_ofNat, Nat.mod_eq_of_lt ((ZMod.val_lt value).trans horder)]

def sampleRuntime : Runtime where
  bump _ := 255
  sha256 data := BitVec.ofNat 256
    (data.foldl (fun state byte => (257 * state + byte.toNat) % bn254ScalarOrder) 1)
  poseidon inputs := some (word (sponge (inputs.map fun input => (input.toNat : Fr))))
  circuitCommitmentV1 := 1
  groth16 _ _ := true

def encodeHex (value : Nat) : List Byte :=
  (List.range 64).reverse.map fun place =>
    let digit := value / 16 ^ place % 16
    BitVec.ofNat 8 (if digit < 10 then 48 + digit else 87 + digit)

/-- The memo that carries the public signals of a credit. -/
def sampleMemo (s : Signals) : List Byte :=
  memoPrefix ++
    ([s.successorPortfolioRoot, s.successorBalanceX, s.successorBalanceY,
      s.actionCommitment, s.encryptedBlindingDelta, s.deltaEphemeralPublicX,
      s.deltaEphemeralPublicY].flatMap fun field => encodeHex field.val ++ [58]) ++ [65]

/-- The scalar of the memo of the sample credit. -/
def memoScalar : Fr :=
  ((sampleRuntime.sha256 (sampleMemo (sampleCredit.signals sponge))).toNat : Fr)

/-- The sample credit with its own memo. -/
def memoCredit : Credit :=
  openingCredit sponge (11 : Nat) (7 : Nat) (13 : Nat) 0
    (emptySiblings (Credit.hash sponge) 0 32) memoScalar (19 : Nat)

def sampleGenesis : TcapCommitmentRootStateV1 where
  version := 1
  protocolVersion := 1
  currentRoot := word (sponge [ladder (Credit.hash sponge) 0 128,
    ladder (Credit.hash sponge) 0 128])
  previousRoot := 0
  rootVersion := 0
  sequence := 0
  historyPolicy := 0
  verifierConfig := Pubkey.default
  verifierEnabled := true
  paused := false
  bump := 255

def sampleTransition : Transition where
  tipRouteRoot := ⟨tipRouteRootAddress, tipProgram, 1, 255,
    word (memoCredit.signals sponge).tipRouteRoot, 1⟩
  verifierAddress := hiddenHeadVerifierAddress
  verifier := ⟨1, 1, true, 255, 0, 0, 0, 0, fun _ => 0⟩
  instructions := ⟨instructionsSysvar, tsnProgram,
    some (memoProgram, sampleMemo (memoCredit.signals sponge))⟩
  args :=
    { publicInputs := fun index => word (publicSignals (memoCredit.signals sponge) index)
      proofA := 0
      proofB := 0
      proofC := 0
      actionKind := 1
      tokenId := 1
      amount := 1
      authorizationCommitment := 1 }
  signals := memoCredit.signals sponge
  outputs := memoCredit.outputs sponge

def sampleRoot : TcapCommitmentRootStateV1 :=
  { sampleGenesis with
    previousRoot := sampleGenesis.currentRoot
    currentRoot := word (memoCredit.signals sponge).newGlobalRoot
    sequence := 1
    rootVersion := 1 }

/-- The sponge on the numbers of the elements, which evaluates faster. -/
def natSponge (inputs : List Nat) : Nat :=
  inputs.foldl (fun state input => (state + input) ^ 5 % bn254ScalarOrder) inputs.length

def fastSponge (inputs : List Fr) : Fr :=
  (natSponge (inputs.map ZMod.val) : Fr)

theorem sponge_eq_fastSponge : sponge = fastSponge := by
  funext inputs
  have hfold : ∀ (inputs : List Fr) (state : Nat),
      inputs.foldl (fun state input => (state + input) ^ 5) (state : Fr) =
        (((inputs.map ZMod.val).foldl
          (fun state input => (state + input) ^ 5 % bn254ScalarOrder) state : Nat) : Fr) := by
    intro inputs
    induction inputs with
    | nil => intro state; rfl
    | cons input inputs ih =>
        intro state
        rw [List.foldl_cons, List.map_cons, List.foldl_cons, ← ih, ZMod.natCast_mod, Nat.cast_pow,
          Nat.cast_add, ZMod.natCast_zmod_val]
  rw [sponge, hfold, fastSponge, natSponge, List.length_map]

theorem admissible_memoCredit : memoCredit.Admissible sponge :=
  admissible_openingCredit sponge (show (0 : Fr).val < 2 ^ 32 by decide)

theorem proven_sampleTransition : Proven (circomlibOf sponge) sampleTransition := by
  refine ⟨?_, fun index => toNat_word _⟩
  exact Credit.satisfied admissible_memoCredit

theorem run_sample : Run (applyTransition sampleRuntime) sampleGenesis
    [(sampleGenesis, sampleTransition)] sampleRoot := by
  have happlied : (applyTransition sampleRuntime sampleGenesis sampleTransition).toOption =
      some sampleRoot := by
    simp only [sampleTransition, sampleRoot, sampleGenesis, sampleRuntime, memoCredit, memoScalar,
      sampleCredit, sponge_eq_fastSponge]
    decide +kernel
  refine .step .start ?_
  revert happlied
  generalize applyTransition sampleRuntime sampleGenesis sampleTransition = outcome
  intro happlied
  cases outcome with
  | error error => cases happlied
  | ok root => rw [Option.some.inj happlied]

example : sampleRoot.sequence = 1 := by
  decide +kernel

theorem collisionFree_sample :
    CollisionFree (circomlibOf sponge) (evaluated (circomlibOf sponge) [sampleTransition]) := by
  apply collisionFree_of_functional
  apply functional_of_isFunctional 1000
  simp only [sampleTransition, memoCredit, memoScalar, sampleCredit, sponge_eq_fastSponge]
  decide +kernel

theorem liveLeavesNonzero_sample :
    LiveLeavesNonzero (circomlibOf sponge) sampleTransition.signals := by
  refine ⟨fun hlater => absurd rfl hlater, ?_, ?_⟩
  · decide +kernel
  · decide +kernel

example : (nullifiersOf [(sampleGenesis, sampleTransition)]).length = 1 := by
  decide +kernel

theorem noDoubleSpend_sample :
    (∃ map, Tracks (circomlibOf sponge) [(sampleGenesis, sampleTransition)] sampleRoot map) ∧
      (nullifiersOf [(sampleGenesis, sampleTransition)]).Nodup := by
  refine noDoubleSpend_of_run ?_ run_sample ?_ collisionFree_sample ?_
  · rw [emptyRoot, sharedRoot, treeRoot_const]
    decide +kernel
  · intro entry hentry
    rw [List.mem_singleton.mp hentry]
    exact proven_sampleTransition
  · intro entry hentry
    rw [List.mem_singleton.mp hentry]
    exact liveLeavesNonzero_sample

end Sample

end TsnProtocol.HiddenHead.NoDoubleSpend
