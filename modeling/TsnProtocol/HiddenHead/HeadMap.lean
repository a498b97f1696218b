import TsnProtocol.HiddenHead.Chain

/-!
The map behind the shared root: the latest head of each route key and the nullifiers
spent so far. A transition that the circuit accepts opens the head it replaces and
changes nothing else.
-/

namespace TsnProtocol.HiddenHead.HeadMap

open Bn254.Field
open Bn254.Scalar
open HiddenHead.Chain
open HiddenHead.Circuit
open HiddenHead.Consequences
open Lib.SparseMerkle

/-- The latest head of a route key. -/
structure Head where
  sequence : Nat
  (memoCommitment actionCommitment portfolioRoot : Fr)
  deriving DecidableEq

/-- What the shared root commits to. -/
structure HiddenMap where
  heads : Fr → Option Head
  nullifiers : Finset Fr

def HiddenMap.empty : HiddenMap where
  heads _ := none
  nullifiers := ∅

def headInputs (key : Fr) (head : Head) : List Fr :=
  [key, (head.sequence : Fr), head.memoCommitment, head.actionCommitment, head.portfolioRoot]

/-- The head that an assignment opens: none when it claims the first one. -/
def priorHead (s : Signals) : Option Head :=
  if s.priorSequence = 0 then none
  else some ⟨s.priorSequence.val, s.predecessorMemoCommitment,
    s.predecessorActionCommitment, s.predecessorPortfolioRoot⟩

/-- The head that an assignment writes. -/
def nextHead (s : Signals) : Head where
  sequence := s.priorSequence.val + 1
  memoCommitment := s.memoCommitment
  actionCommitment := s.actionCommitment
  portfolioRoot := s.successorPortfolioRoot

/-- The change of the map that a transition makes. -/
structure Advances (map : HiddenMap) (s : Signals) (next : HiddenMap) : Prop where
  opens : map.heads s.accountPathKey = priorHead s
  sequence : (nextHead s).sequence =
    match map.heads s.accountPathKey with
    | none => 1
    | some head => head.sequence + 1
  heads : next.heads = Function.update map.heads s.accountPathKey (some (nextHead s))
  fresh : s.nullifier ∉ map.nullifiers
  nullifiers : next.nullifiers = insert s.nullifier map.nullifiers

section Layout

variable (lib : Circomlib)

/-- The entry of a spent nullifier. -/
def HiddenMap.spent (map : HiddenMap) (nullifier : Fr) : Option Unit :=
  if nullifier ∈ map.nullifiers then some () else none

/-- The leaves of the two trees hold the map. -/
structure LaysOut (map : HiddenMap) (headLeaves nullifierLeaves : Nat → Fr) : Prop where
  heads : Stores slot (fun key head => lib.poseidon (headInputs key head)) 0
    map.heads headLeaves
  nullifiers : Stores (fun nullifier => slot (lib.poseidon [nullifier]))
    (fun nullifier _ => lib.poseidon [nullifier]) 0 map.spent nullifierLeaves

/-- The shared root over the two trees. -/
def sharedRoot (headLeaves nullifierLeaves : Nat → Fr) : Fr :=
  lib.poseidon [treeRoot lib.poseidon2 128 headLeaves,
    treeRoot lib.poseidon2 128 nullifierLeaves]

/-- A root is that of a map. -/
def IsRoot (map : HiddenMap) (root : Fr) : Prop :=
  ∃ headLeaves nullifierLeaves, LaysOut lib map headLeaves nullifierLeaves ∧
    sharedRoot lib headLeaves nullifierLeaves = root

end Layout

section Binding

variable {lib : Circomlib} {inputs : List (List Fr)}

/-- Pairs of nodes that are hashed. -/
def hashedPairs (inputs : List (List Fr)) : Set (Fr × Fr) :=
  { pair | [pair.1, pair.2] ∈ inputs }

theorem injOn_hashedPairs (hfree : CollisionFree lib inputs) :
    Set.InjOn (Function.uncurry lib.poseidon2) (hashedPairs inputs) := by
  rintro ⟨left, right⟩ hfirst ⟨left', right'⟩ hsecond heq
  have hlist := hfree _ hfirst _ hsecond rfl heq
  simpa using hlist

theorem mem_hashedPairs {siblings : List Fr} {index : Nat} {leaf : Fr}
    (hinputs : ∀ input ∈ pathInputs lib siblings index leaf, input ∈ inputs)
    (pair : Fr × Fr) (hpair : pair ∈ pathPairs lib.poseidon2 siblings index leaf) :
    pair ∈ hashedPairs inputs :=
  hinputs _ (List.mem_map_of_mem hpair)

/-- What a path to the root of a tree says, for the hash of the circuit. -/
theorem opens_leaf (hfree : CollisionFree lib inputs) {depth : Nat} {leaves : Nat → Fr}
    {index : Nat} {leaf : Fr} {siblings : Vector Fr depth} (hindex : index < 2 ^ depth)
    (htree : HashedWithin lib.poseidon2 (hashedPairs inputs) depth leaves)
    (hinputs : ∀ input ∈ pathInputs lib siblings.toList index leaf, input ∈ inputs)
    (hroot : pathRoot lib.poseidon2 siblings.toList index leaf =
      treeRoot lib.poseidon2 depth leaves) :
    leaf = leaves index ∧
      ∀ next, (∀ input ∈ pathInputs lib siblings.toList index next, input ∈ inputs) →
        pathRoot lib.poseidon2 siblings.toList index next =
            treeRoot lib.poseidon2 depth (Function.update leaves index next) ∧
          HashedWithin lib.poseidon2 (hashedPairs inputs) depth
            (Function.update leaves index next) := by
  obtain ⟨hleaf, hnext⟩ := opens_of_pathRoot (injOn_hashedPairs hfree)
    Vector.length_toList hindex htree (mem_hashedPairs hinputs) hroot
  exact ⟨hleaf, fun next hinputs => hnext next (mem_hashedPairs hinputs)⟩

end Binding

section Step

variable {lib : Circomlib} {inputs : List (List Fr)} {map : HiddenMap}
  {headLeaves nullifierLeaves : Nat → Fr} {s : Signals} {o : Outputs}

/-- The invariant of the two trees: they hold the map, and every hash behind the shared
root is among those without collisions. -/
structure Committed (lib : Circomlib) (inputs : List (List Fr)) (map : HiddenMap)
    (headLeaves nullifierLeaves : Nat → Fr) : Prop where
  layout : LaysOut lib map headLeaves nullifierLeaves
  headsHashed : HashedWithin lib.poseidon2 (hashedPairs inputs) 128 headLeaves
  nullifiersHashed : HashedWithin lib.poseidon2 (hashedPairs inputs) 128 nullifierLeaves
  rootHashed : [treeRoot lib.poseidon2 128 headLeaves,
    treeRoot lib.poseidon2 128 nullifierLeaves] ∈ inputs
  headLive : ∀ key head, map.heads key = some head →
    headInputs key head ∈ inputs ∧ lib.poseidon (headInputs key head) ≠ 0 ∧
      head.sequence < 2 ^ 64
  nullifierLive : ∀ nullifier ∈ map.nullifiers, lib.poseidon [nullifier] ≠ 0

theorem committed_empty (hladder : ∀ input ∈ ladderInputs lib, input ∈ inputs) :
    Committed lib inputs HiddenMap.empty (fun _ => 0) (fun _ => 0) := by
  have hpair : ∀ level < 129,
      [ladder lib.poseidon2 0 level, ladder lib.poseidon2 0 level] ∈ inputs :=
    fun level hlevel => hladder _ (List.mem_map.mpr ⟨level, List.mem_range.mpr hlevel, rfl⟩)
  have hhashed : HashedWithin lib.poseidon2 (hashedPairs inputs) 128 fun _ => 0 :=
    hashedWithin_const 0 128 fun level hlevel => hpair level (by omega)
  refine ⟨⟨stores_none, stores_none⟩, hhashed, hhashed, ?_, ?_, ?_⟩
  · rw [treeRoot_const]
    exact hpair 128 (by omega)
  · intro key head hhead
    cases hhead
  · intro nullifier hnullifier
    cases hnullifier

theorem currentHeadRoot_eq (h : HiddenHeadTransitionV1 lib s o) :
    o.currentHeadRoot = pathRoot lib.poseidon2 s.accountSiblings.toList
      (slot s.accountPathKey) (currentLeaf lib s) := by
  have hpath := (sparsePath128_iff _ _ _ _).mp h.currentHeadPath
  rw [isFirstHead_eq h] at hpath
  rw [hpath, currentLeaf]
  split
  · rw [sub_self, zero_mul]
  · rw [sub_zero, one_mul]

/-- The leaf opened for the head is that of the head an assignment claims. -/
theorem opens_head (hfree : CollisionFree lib inputs)
    (hcommitted : Committed lib inputs map headLeaves nullifierLeaves)
    (h : HiddenHeadTransitionV1 lib s o)
    (hinputs : priorLeafInputs s ∈ inputs) (hnonzero : LiveLeavesNonzero lib s)
    (hleaf : currentLeaf lib s = headLeaves (slot s.accountPathKey)) :
    map.heads s.accountPathKey = priorHead s ∧
      ∀ other, other ≠ s.accountPathKey → slot other = slot s.accountPathKey →
        map.heads other = none := by
  have hencode : ∀ key head, map.heads key = some head →
      lib.poseidon (headInputs key head) ≠ 0 := fun key head hhead =>
    (hcommitted.headLive key head hhead).2.1
  unfold currentLeaf at hleaf
  unfold priorHead
  split at hleaf
  · rename_i hfirst
    have hnone := hcommitted.layout.heads.eq_none hleaf.symm hencode
    rw [if_pos hfirst]
    exact ⟨hnone _ rfl, fun other _ => hnone other⟩
  · rename_i hlater
    rw [if_neg hlater]
    have hopened : ∀ key head, slot key = slot s.accountPathKey →
        map.heads key = some head → key = s.accountPathKey ∧
          head = ⟨s.priorSequence.val, s.predecessorMemoCommitment,
            s.predecessorActionCommitment, s.predecessorPortfolioRoot⟩ := by
      intro key head hslot hhead
      obtain ⟨hheadInputs, -, hsequence⟩ := hcommitted.headLive key head hhead
      have hstored := hcommitted.layout.heads.live key head hhead
      rw [hslot, ← hleaf] at hstored
      have heq := hfree _ hinputs _ hheadInputs rfl hstored
      simp only [priorLeafInputs, headInputs, List.cons.injEq, and_true] at heq
      obtain ⟨hkey, hprior, hmemo, haction, hportfolio⟩ := heq
      have hvalue : s.priorSequence.val = head.sequence := by
        rw [hprior, ZMod.val_cast_of_lt]
        have horder : 2 ^ 64 < bn254ScalarOrder := by decide
        omega
      refine ⟨by rw [← hkey, h.accountPathKey], ?_⟩
      rw [hvalue, hmemo, haction, hportfolio]
    obtain ⟨key, head, hslot, hhead⟩ :=
      hcommitted.layout.heads.exists_live (hleaf ▸ hnonzero.prior hlater)
    obtain ⟨rfl, rfl⟩ := hopened key head hslot hhead
    refine ⟨hhead, fun other hother hslot' => ?_⟩
    rcases hentry : map.heads other with _ | stored
    · rfl
    · exact absurd (hopened other stored hslot' hentry).1 hother

theorem nullifierRoots_eq (h : HiddenHeadTransitionV1 lib s o) :
    o.nullifierOldRoot = pathRoot lib.poseidon2 s.nullifierSiblings.toList
        (slot (nullifierHash lib s)) 0 ∧
      o.nullifierNewRoot = pathRoot lib.poseidon2 s.nullifierSiblings.toList
        (slot (nullifierHash lib s)) (nullifierHash lib s) :=
  ⟨(sparsePath128_iff _ _ _ _).mp h.nullifierOldPath,
    (sparsePath128_iff _ _ _ _).mp h.nullifierNewPath⟩

theorem headInputs_nextHead (h : HiddenHeadTransitionV1 lib s o) :
    headInputs s.accountPathKey (nextHead s) = nextLeafInputs s := by
  have hvalue : ((s.priorSequence.val + 1 : Nat) : Fr) = s.priorSequence + 1 := by
    rw [Nat.cast_add, ZMod.natCast_val, ZMod.cast_id, Nat.cast_one]
  simp only [headInputs, nextLeafInputs, nextHead, hvalue, h.accountPathKey]

/-- The map with the head and the nullifier that an assignment writes. -/
def advance (map : HiddenMap) (s : Signals) : HiddenMap where
  heads := Function.update map.heads s.accountPathKey (some (nextHead s))
  nullifiers := insert s.nullifier map.nullifiers

theorem spent_advance (map : HiddenMap) (s : Signals) :
    (advance map s).spent = Function.update map.spent s.nullifier (some ()) := by
  funext nullifier
  by_cases hnullifier : nullifier = s.nullifier
  · subst hnullifier
    simp [HiddenMap.spent, advance]
  · simp [HiddenMap.spent, advance, hnullifier]

theorem sequence_nextHead (hopens : map.heads s.accountPathKey = priorHead s) :
    (nextHead s).sequence =
      match map.heads s.accountPathKey with
      | none => 1
      | some head => head.sequence + 1 := by
  rw [hopens, priorHead]
  split_ifs with hfirst
  · simp [nextHead, hfirst]
  · rfl

/-- A transition that the circuit accepts against the root of a map advances the map. -/
theorem committed_step (hfree : CollisionFree lib inputs)
    (hcommitted : Committed lib inputs map headLeaves nullifierLeaves)
    (h : HiddenHeadTransitionV1 lib s o)
    (hinputs : ∀ input ∈ hashedInputs lib s, input ∈ inputs)
    (hnonzero : LiveLeavesNonzero lib s)
    (hroot : sharedRoot lib headLeaves nullifierLeaves = s.oldGlobalRoot) :
    Advances map s (advance map s) ∧
      ∃ headLeaves' nullifierLeaves',
        Committed lib inputs (advance map s) headLeaves' nullifierLeaves' ∧
          sharedRoot lib headLeaves' nullifierLeaves' = s.newGlobalRoot := by
  simp only [hashedInputs, List.forall_mem_append, List.forall_mem_cons] at hinputs
  obtain ⟨⟨⟨⟨⟨⟨⟨⟨-, hprior, hnext, -, -, -, -, holdRoot, hnewRoot, -⟩, -⟩, -⟩, -⟩,
    hheadOld⟩, hheadNew⟩, hnullOld⟩, hnullNew⟩ := hinputs
  obtain ⟨hnullifierOld, hnullifierNew⟩ := nullifierRoots_eq h
  have hheadNewRoot := (sparsePath128_iff _ _ _ _).mp h.nextHeadPath
  -- the two roots under the shared root are those of the trees
  have hroots := hfree _ hcommitted.rootHashed _ holdRoot rfl (by
    rw [← currentHeadRoot_eq h, ← hnullifierOld, h.oldRootHash]
    exact hroot)
  simp only [List.cons.injEq, and_true] at hroots
  obtain ⟨hheadLeaf, hheadAdvance⟩ := opens_leaf hfree (slot_lt s.accountPathKey)
    hcommitted.headsHashed hheadOld hroots.1.symm
  obtain ⟨hnullLeaf, hnullAdvance⟩ := opens_leaf hfree (slot_lt (nullifierHash lib s))
    hcommitted.nullifiersHashed hnullOld hroots.2.symm
  obtain ⟨hheadRoot, hheadHashed⟩ := hheadAdvance _ hheadNew
  obtain ⟨hnullRoot, hnullHashed⟩ := hnullAdvance _ hnullNew
  obtain ⟨hopens, halone⟩ := opens_head hfree hcommitted h hprior hnonzero hheadLeaf
  have hunspent := hcommitted.layout.nullifiers.eq_none hnullLeaf.symm
    fun nullifier _ hspent => hcommitted.nullifierLive nullifier (by
      by_contra hfresh
      simp [HiddenMap.spent, hfresh] at hspent)
  have hfresh : s.nullifier ∉ map.nullifiers := by
    intro hspent
    have hnone := hunspent s.nullifier rfl
    simp [HiddenMap.spent, hspent] at hnone
  refine ⟨⟨hopens, sequence_nextHead hopens, rfl, hfresh, rfl⟩, _, _,
    ⟨⟨?_, ?_⟩, hheadHashed, hnullHashed, ?_, ?_, ?_⟩, ?_⟩
  · rw [← headInputs_nextHead h]
    exact hcommitted.layout.heads.update _ _ halone
  · rw [spent_advance]
    exact hcommitted.layout.nullifiers.update s.nullifier ()
      fun other _ hslot => hunspent other hslot
  · rw [← hheadRoot, ← hnullRoot]
    exact hnewRoot
  · intro key head hhead
    by_cases hkey : key = s.accountPathKey
    · subst hkey
      simp only [advance, Function.update_self, Option.some.injEq] at hhead
      subst hhead
      rw [headInputs_nextHead h]
      exact ⟨hnext, hnonzero.next, (nextSequence_val h).2⟩
    · simp only [advance, Function.update_of_ne hkey] at hhead
      exact hcommitted.headLive key head hhead
  · intro nullifier hspent
    rcases Finset.mem_insert.mp hspent with rfl | hearlier
    · exact hnonzero.nullifier
    · exact hcommitted.nullifierLive nullifier hearlier
  · rw [sharedRoot, ← hheadRoot, ← hnullRoot, ← hheadNewRoot, ← hnullifierNew]
    exact h.newRootHash

end Step

end TsnProtocol.HiddenHead.HeadMap
