import TsnProtocol.Lib.SparseMerkle

/-!
Binary Merkle trees that grow leaf by leaf. The frontier keeps, for each level at which the
count of leaves has a bit, the node left of the one that is being filled; an append walks up
once, and at each level either leaves its node there or completes the node that waits.
-/

namespace TsnProtocol.Lib.IncrementalMerkle

open Lib.SparseMerkle

variable {Node : Type} {hash : Node → Node → Node} {leaf node : Node} {count depth : Nat}
  {leaves leaves' : Nat → Node} {frontier : Nat → Node}

section Levels

variable (hash) in
/-- The nodes of a tree at a level, the leaves at level zero. -/
def nodesAt : Nat → (Nat → Node) → Nat → Node
  | 0, leaves => leaves
  | level + 1, leaves => parents hash (nodesAt level leaves)

theorem nodesAt_parents (level : Nat) (leaves : Nat → Node) :
    nodesAt hash level (parents hash leaves) = nodesAt hash (level + 1) leaves := by
  induction level with
  | zero => rfl
  | succ level ih => exact congrArg (parents hash) ih

theorem treeRoot_eq_nodesAt (depth : Nat) (leaves : Nat → Node) :
    treeRoot hash depth leaves = nodesAt hash depth leaves 0 := by
  induction depth generalizing leaves with
  | zero => rfl
  | succ depth ih => rw [treeRoot, ih, nodesAt_parents]

theorem div_two_pow_succ (index level : Nat) :
    index / 2 ^ (level + 1) = index / 2 ^ level / 2 := by
  rw [Nat.pow_succ, Nat.div_div_eq_div_mul]

/-- A node depends on the leaves below it only. -/
theorem nodesAt_congr {level index : Nat}
    (hleaves : ∀ below, below / 2 ^ level = index → leaves below = leaves' below) :
    nodesAt hash level leaves index = nodesAt hash level leaves' index := by
  induction level generalizing index with
  | zero => exact hleaves index (by simp)
  | succ level ih =>
      have hbelow : ∀ child, child / 2 = index →
          nodesAt hash level leaves child = nodesAt hash level leaves' child := by
        intro child hchild
        apply ih
        rintro below rfl
        exact hleaves below (by rw [div_two_pow_succ, hchild])
      simp only [nodesAt, parents]
      rw [hbelow (2 * index) (by omega), hbelow (2 * index + 1) (by omega)]

/-- Over equal leaves a node is the root of the tree of its level. -/
theorem nodesAt_of_vacant {level index : Nat}
    (hleaves : ∀ below, below / 2 ^ level = index → leaves below = leaf) :
    nodesAt hash level leaves index = ladder hash leaf level := by
  induction level generalizing index with
  | zero => exact hleaves index (by simp)
  | succ level ih =>
      have hbelow : ∀ child, child / 2 = index →
          nodesAt hash level leaves child = ladder hash leaf level := by
        intro child hchild
        apply ih
        rintro below rfl
        exact hleaves below (by rw [div_two_pow_succ, hchild])
      simp only [nodesAt, parents, ladder]
      rw [hbelow (2 * index) (by omega), hbelow (2 * index + 1) (by omega)]

end Levels

section Paths

variable (hash) in
/-- The siblings on the way up from a leaf. -/
def siblings : Nat → Nat → (Nat → Node) → List Node
  | 0, _, _ => []
  | depth + 1, index, leaves =>
      leaves (siblingIndex index) :: siblings depth (index / 2) (parents hash leaves)

@[simp] theorem length_siblings (depth index : Nat) (leaves : Nat → Node) :
    (siblings hash depth index leaves).length = depth := by
  induction depth generalizing index leaves with
  | zero => rfl
  | succ depth ih => rw [siblings, List.length_cons, ih]

theorem authentic_siblings (depth index : Nat) (leaves : Nat → Node) :
    Authentic hash (siblings hash depth index leaves) index leaves := by
  induction depth generalizing index leaves with
  | zero => trivial
  | succ depth ih => exact ⟨rfl, ih (index / 2) (parents hash leaves)⟩

/-- The path of a leaf leads to the root. -/
theorem pathRoot_siblings {index : Nat} (hindex : index < 2 ^ depth) (leaves : Nat → Node) :
    pathRoot hash (siblings hash depth index leaves) index (leaves index) =
      treeRoot hash depth leaves := by
  have hroot := pathRoot_eq_treeRoot_update (siblings hash depth index leaves) index
    (leaves index) leaves (by rwa [length_siblings]) (authentic_siblings depth index leaves)
  rwa [length_siblings, Function.update_eq_self] at hroot

end Paths

section Append

variable (hash) (zero : Nat → Node)

/-- One level of an append. -/
def appendLevel (count : Nat) (state : (Nat → Node) × Node) (level : Nat) :
    (Nat → Node) × Node :=
  if count / 2 ^ level % 2 = 0 then
    (Function.update state.1 level state.2, hash state.2 (zero level))
  else
    (state.1, hash (state.1 level) state.2)

/-- An append up to a level: the frontier and the node reached. -/
def appendUpTo (count : Nat) (frontier : Nat → Node) (node : Node) :
    Nat → (Nat → Node) × Node
  | 0 => (frontier, node)
  | level + 1 => appendLevel hash zero count (appendUpTo count frontier node level) level

variable {zero}

/-- The frontier of the first `count` leaves; the leaves from there on are empty. -/
structure Frontier (depth : Nat) (leaf : Node) (count : Nat) (leaves frontier : Nat → Node) :
    Prop where
  vacant : ∀ index, count ≤ index → leaves index = leaf
  waiting : ∀ level < depth, count / 2 ^ level % 2 = 1 →
    frontier level = nodesAt hash level leaves (count / 2 ^ level - 1)

variable {hash}

theorem frontier_empty (depth : Nat) (leaf : Node) (frontier : Nat → Node) :
    Frontier hash depth leaf 0 (fun _ => leaf) frontier := by
  constructor
  · intro index _
    rfl
  · intro level _ hbit
    rw [Nat.zero_div] at hbit
    cases hbit

/-- The frontier half-way up: the levels passed hold the nodes of the new leaf where the count
has no bit. -/
theorem frontier_appendUpTo (level other : Nat) :
    (appendUpTo hash zero count frontier node level).1 other =
      if other < level ∧ count / 2 ^ other % 2 = 0 then
        (appendUpTo hash zero count frontier node other).2
      else frontier other := by
  induction level with
  | zero => rw [if_neg (by omega)]; rfl
  | succ level ih =>
      rw [appendUpTo, appendLevel]
      by_cases hsame : other = level
      · subst hsame
        split
        · next hbit =>
            rw [if_pos ⟨by omega, hbit⟩]
            exact Function.update_self ..
        · next hbit =>
            rw [if_neg (fun h => hbit h.2), ih, if_neg (by omega)]
      · have hbelow : other < level + 1 ↔ other < level := by omega
        simp only [hbelow]
        rw [← ih]
        split
        · exact Function.update_of_ne hsame _ _
        · rfl

/-- The node reached is the one above the new leaf in the tree that holds it. -/
theorem node_appendUpTo (hzero : ∀ level < depth, zero level = ladder hash leaf level)
    (hfrontier : Frontier hash depth leaf count leaves frontier) {level : Nat}
    (hlevel : level ≤ depth) :
    (appendUpTo hash zero count frontier node level).2 =
      nodesAt hash level (Function.update leaves count node) (count / 2 ^ level) := by
  induction level with
  | zero =>
      simp only [appendUpTo, nodesAt, Nat.pow_zero, Nat.div_one, Function.update_self]
  | succ level ih =>
      have hnode := ih (by omega)
      rw [appendUpTo, appendLevel, div_two_pow_succ]
      split
      · next hbit =>
          have hchild : 2 * (count / 2 ^ level / 2) = count / 2 ^ level := by omega
          simp only [nodesAt, parents, hchild, hnode]
          congr 1
          rw [hzero level hlevel]
          refine (nodesAt_of_vacant ?_).symm
          intro below hbelow
          have hafter : count < below := by
            by_contra hle
            have hdiv : below / 2 ^ level ≤ count / 2 ^ level :=
              Nat.div_le_div_right (by omega)
            omega
          rw [Function.update_of_ne hafter.ne']
          exact hfrontier.vacant below hafter.le
      · next hbit =>
          have hodd : count / 2 ^ level % 2 = 1 := by omega
          have hleft : 2 * (count / 2 ^ level / 2) = count / 2 ^ level - 1 := by omega
          have hright : 2 * (count / 2 ^ level / 2) + 1 = count / 2 ^ level := by omega
          simp only [nodesAt, parents, hright, hnode]
          congr 1
          rw [frontier_appendUpTo, if_neg (by omega), hfrontier.waiting level hlevel hodd, hleft]
          refine nodesAt_congr ?_
          intro below hbelow
          refine (Function.update_of_ne ?_ _ _).symm
          rintro rfl
          omega

/-- An append keeps the frontier and reaches the root of the tree with the new leaf. -/
theorem append_spec (hzero : ∀ level < depth, zero level = ladder hash leaf level)
    (hfrontier : Frontier hash depth leaf count leaves frontier) (hcount : count < 2 ^ depth)
    (node : Node) :
    (appendUpTo hash zero count frontier node depth).2 =
        treeRoot hash depth (Function.update leaves count node) ∧
      Frontier hash depth leaf (count + 1) (Function.update leaves count node)
        (appendUpTo hash zero count frontier node depth).1 := by
  constructor
  · rw [node_appendUpTo hzero hfrontier (le_refl depth), Nat.div_eq_of_lt hcount,
      treeRoot_eq_nodesAt]
  · constructor
    · intro index hindex
      rw [Function.update_of_ne (by omega)]
      exact hfrontier.vacant index (by omega)
    · intro level hlevel hbit
      rw [frontier_appendUpTo]
      have hpos : 0 < 2 ^ level := Nat.two_pow_pos level
      have hsucc : (count + 1) / 2 ^ level = count / 2 ^ level ∨
          (count + 1) / 2 ^ level = count / 2 ^ level + 1 := by
        rw [Nat.succ_div]
        split
        · exact Or.inr rfl
        · exact Or.inl rfl
      rcases hsucc with hsame | hnext
      · -- the carry stops below this level
        rw [hsame] at hbit ⊢
        rw [if_neg (by omega), hfrontier.waiting level hlevel hbit]
        refine nodesAt_congr ?_
        intro below hbelow
        refine (Function.update_of_ne ?_ _ _).symm
        rintro rfl
        omega
      · rw [hnext] at hbit ⊢
        rw [if_pos ⟨hlevel, by omega⟩, node_appendUpTo hzero hfrontier hlevel.le,
          Nat.add_sub_cancel]

end Append

end TsnProtocol.Lib.IncrementalMerkle
