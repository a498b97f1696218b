import Mathlib

/-!
Binary Merkle trees over an indexed family of leaves, and the paths that open one of
them. Nothing is assumed of the hash beyond having no collision among a set of pairs
that contains all the pairs hashed.
-/

namespace TsnProtocol.Lib.SparseMerkle

variable {Node : Type} (hash : Node → Node → Node)

/-- The level above a family of nodes. -/
def parents (nodes : Nat → Node) (index : Nat) : Node :=
  hash (nodes (2 * index)) (nodes (2 * index + 1))

/-- Root of the tree over the first `2 ^ depth` leaves. -/
def treeRoot : Nat → (Nat → Node) → Node
  | 0, leaves => leaves 0
  | depth + 1, leaves => treeRoot depth (parents hash leaves)

/-- Index of the other child of the same parent. -/
def siblingIndex (index : Nat) : Nat :=
  if index % 2 = 0 then index + 1 else index - 1

/-- A node and its sibling, left child first. -/
def children (index : Nat) (node sibling : Node) : Node × Node :=
  if index % 2 = 0 then (node, sibling) else (sibling, node)

/-- The root a path leads to from a node. -/
def pathRoot : List Node → Nat → Node → Node
  | [], _, node => node
  | sibling :: siblings, index, node =>
      pathRoot siblings (index / 2) (Function.uncurry hash (children index node sibling))

/-- The pairs hashed along a path. -/
def pathPairs : List Node → Nat → Node → List (Node × Node)
  | [], _, _ => []
  | sibling :: siblings, index, node =>
      children index node sibling ::
        pathPairs siblings (index / 2) (Function.uncurry hash (children index node sibling))

/-- Every pair hashed in the tree belongs to a set. -/
def HashedWithin (pairs : Set (Node × Node)) : Nat → (Nat → Node) → Prop
  | 0, _ => True
  | depth + 1, leaves =>
      (∀ index, (leaves (2 * index), leaves (2 * index + 1)) ∈ pairs) ∧
        HashedWithin pairs depth (parents hash leaves)

/-- The siblings of a path are those of the tree. -/
def Authentic : List Node → Nat → (Nat → Node) → Prop
  | [], _, _ => True
  | sibling :: siblings, index, leaves =>
      sibling = leaves (siblingIndex index) ∧
        Authentic siblings (index / 2) (parents hash leaves)

variable {hash}

theorem children_eq (leaves : Nat → Node) (index : Nat) :
    children index (leaves index) (leaves (siblingIndex index)) =
      (leaves (2 * (index / 2)), leaves (2 * (index / 2) + 1)) := by
  rcases Nat.mod_two_eq_zero_or_one index with heven | hodd
  · have hindex : 2 * (index / 2) = index := by omega
    simp [children, siblingIndex, heven, hindex]
  · have hindex : 2 * (index / 2) + 1 = index := by omega
    have hsibling : index - 1 = 2 * (index / 2) := by omega
    simp [children, siblingIndex, hodd, hindex, hsibling]

theorem parents_half (leaves : Nat → Node) (index : Nat) :
    parents hash leaves (index / 2) =
      Function.uncurry hash
        (children index (leaves index) (leaves (siblingIndex index))) := by
  rw [children_eq]
  rfl

theorem children_inj {index : Nat} {node sibling node' sibling' : Node}
    (hchildren : children index node sibling = children index node' sibling') :
    node = node' ∧ sibling = sibling' := by
  unfold children at hchildren
  split at hchildren
  · exact ⟨congrArg Prod.fst hchildren, congrArg Prod.snd hchildren⟩
  · exact ⟨congrArg Prod.snd hchildren, congrArg Prod.fst hchildren⟩

theorem siblingIndex_ne (index : Nat) : siblingIndex index ≠ index := by
  unfold siblingIndex
  split <;> omega

/-- Replacing a leaf replaces its parent and nothing else on the level above. -/
theorem parents_update (leaves : Nat → Node) (index : Nat) (node : Node) :
    parents hash (Function.update leaves index node) =
      Function.update (parents hash leaves) (index / 2)
        (Function.uncurry hash (children index node (leaves (siblingIndex index)))) := by
  funext other
  by_cases hother : other = index / 2
  · subst hother
    rw [parents_half, Function.update_self, Function.update_self,
      Function.update_of_ne (siblingIndex_ne index)]
  · have hleft : 2 * other ≠ index := by omega
    have hright : 2 * other + 1 ≠ index := by omega
    rw [Function.update_of_ne hother]
    simp [parents, hleft, hright]

section Binding

variable {pairs : Set (Node × Node)}

/-- A path that leads to the root of a tree starts at the leaf it names, and its
siblings are those of the tree. -/
theorem authentic_of_pathRoot (hinj : Set.InjOn (Function.uncurry hash) pairs)
    (siblings : List Node) (index : Nat) (node : Node) (leaves : Nat → Node)
    (htree : HashedWithin hash pairs siblings.length leaves)
    (hpath : ∀ pair ∈ pathPairs hash siblings index node, pair ∈ pairs)
    (hindex : index < 2 ^ siblings.length)
    (hroot : pathRoot hash siblings index node = treeRoot hash siblings.length leaves) :
    node = leaves index ∧ Authentic hash siblings index leaves := by
  induction siblings generalizing index node leaves with
  | nil =>
      have hzero : index = 0 := by simpa using hindex
      subst hzero
      exact ⟨hroot, trivial⟩
  | cons sibling siblings ih =>
      obtain ⟨hlevel, habove⟩ := htree
      have hhalf : index / 2 < 2 ^ siblings.length := by
        rw [List.length_cons, Nat.pow_succ] at hindex
        omega
      obtain ⟨hnode, hauthentic⟩ := ih (index / 2) _ _ habove
        (fun pair hpair => hpath pair (List.mem_cons_of_mem _ hpair)) hhalf hroot
      rw [parents_half] at hnode
      have hstored : children index (leaves index) (leaves (siblingIndex index)) ∈ pairs := by
        rw [children_eq]
        exact hlevel (index / 2)
      obtain ⟨hleaf, hsibling⟩ :=
        children_inj (hinj (hpath _ List.mem_cons_self) hstored hnode)
      exact ⟨hleaf, hsibling, hauthentic⟩

/-- An authentic path leads from any node to the root of the tree with that node in
place of the leaf. -/
theorem pathRoot_eq_treeRoot_update (siblings : List Node) (index : Nat) (node : Node)
    (leaves : Nat → Node) (hindex : index < 2 ^ siblings.length)
    (hauthentic : Authentic hash siblings index leaves) :
    pathRoot hash siblings index node =
      treeRoot hash siblings.length (Function.update leaves index node) := by
  induction siblings generalizing index node leaves with
  | nil =>
      have hzero : index = 0 := by simpa using hindex
      subst hzero
      simp [pathRoot, treeRoot]
  | cons sibling siblings ih =>
      obtain ⟨rfl, habove⟩ := hauthentic
      have hhalf : index / 2 < 2 ^ siblings.length := by
        rw [List.length_cons, Nat.pow_succ] at hindex
        omega
      rw [List.length_cons, treeRoot, parents_update, ← ih (index / 2) _ _ hhalf habove]
      rfl

/-- Replacing a leaf hashes the pairs along its path and no other new ones. -/
theorem hashedWithin_update (siblings : List Node) (index : Nat) (node : Node)
    (leaves : Nat → Node)
    (htree : HashedWithin hash pairs siblings.length leaves)
    (hauthentic : Authentic hash siblings index leaves)
    (hpath : ∀ pair ∈ pathPairs hash siblings index node, pair ∈ pairs) :
    HashedWithin hash pairs siblings.length (Function.update leaves index node) := by
  induction siblings generalizing index node leaves with
  | nil => trivial
  | cons sibling siblings ih =>
      obtain ⟨hlevel, habove⟩ := htree
      obtain ⟨rfl, hauthentic⟩ := hauthentic
      refine ⟨fun other => ?_, ?_⟩
      · by_cases hother : other = index / 2
        · subst hother
          rw [← children_eq, Function.update_self,
            Function.update_of_ne (siblingIndex_ne index)]
          exact hpath _ List.mem_cons_self
        · rw [Function.update_of_ne (by omega), Function.update_of_ne (by omega)]
          exact hlevel other
      · rw [parents_update]
        exact ih (index / 2) _ _ habove hauthentic
          fun pair hpair => hpath pair (List.mem_cons_of_mem _ hpair)

/-- A path to the root of a tree opens the leaf it names, and leads from any other node
to the root of the tree with that node in place of the leaf. -/
theorem opens_of_pathRoot (hinj : Set.InjOn (Function.uncurry hash) pairs)
    {siblings : List Node} {depth index : Nat} {node : Node} {leaves : Nat → Node}
    (hlength : siblings.length = depth) (hindex : index < 2 ^ depth)
    (htree : HashedWithin hash pairs depth leaves)
    (hpath : ∀ pair ∈ pathPairs hash siblings index node, pair ∈ pairs)
    (hroot : pathRoot hash siblings index node = treeRoot hash depth leaves) :
    node = leaves index ∧
      ∀ next, (∀ pair ∈ pathPairs hash siblings index next, pair ∈ pairs) →
        pathRoot hash siblings index next =
            treeRoot hash depth (Function.update leaves index next) ∧
          HashedWithin hash pairs depth (Function.update leaves index next) := by
  subst hlength
  obtain ⟨hnode, hauthentic⟩ :=
    authentic_of_pathRoot hinj siblings index node leaves htree hpath hindex hroot
  exact ⟨hnode, fun next hnext =>
    ⟨pathRoot_eq_treeRoot_update siblings index next leaves hindex hauthentic,
      hashedWithin_update siblings index next leaves htree hauthentic hnext⟩⟩

end Binding

section Empty

variable (hash)

/-- Roots of the empty trees of each depth. -/
def ladder (leaf : Node) : Nat → Node
  | 0 => leaf
  | depth + 1 => hash (ladder leaf depth) (ladder leaf depth)

variable {hash}

theorem ladder_hash (leaf : Node) (depth : Nat) :
    ladder hash (hash leaf leaf) depth = ladder hash leaf (depth + 1) := by
  induction depth with
  | zero => rfl
  | succ depth ih => simp only [ladder, ih]

theorem treeRoot_const (leaf : Node) (depth : Nat) :
    treeRoot hash depth (fun _ => leaf) = ladder hash leaf depth := by
  induction depth generalizing leaf with
  | zero => rfl
  | succ depth ih => exact (ih (hash leaf leaf)).trans (ladder_hash leaf depth)

theorem hashedWithin_const {pairs : Set (Node × Node)} (leaf : Node) (depth : Nat)
    (hpairs : ∀ level < depth, (ladder hash leaf level, ladder hash leaf level) ∈ pairs) :
    HashedWithin hash pairs depth (fun _ => leaf) := by
  induction depth generalizing leaf with
  | zero => trivial
  | succ depth ih =>
      refine ⟨fun _ => hpairs 0 (by omega), ih (hash leaf leaf) fun level hlevel => ?_⟩
      rw [ladder_hash]
      exact hpairs (level + 1) (by omega)

variable (hash) in
/-- The siblings of a path through an empty tree. -/
def emptySiblings (leaf : Node) (depth : Nat) : Vector Node depth :=
  Vector.ofFn fun level => ladder hash leaf level

theorem pathRoot_emptySiblings (leaf : Node) (depth index : Nat) :
    pathRoot hash (emptySiblings hash leaf depth).toList index leaf =
      ladder hash leaf depth := by
  rw [emptySiblings, Vector.toList_ofFn]
  induction depth generalizing leaf index with
  | zero => rfl
  | succ depth ih =>
      have hnode : Function.uncurry hash (children index leaf leaf) = hash leaf leaf := by
        unfold children
        split <;> rfl
      simp only [List.ofFn_succ, pathRoot, Fin.val_zero, Fin.val_succ, ← ladder_hash]
      rw [ladder, hnode]
      exact ih (hash leaf leaf) (index / 2)

end Empty

section Slots

variable {Key Value : Type} (slot : Key → Nat) (encode : Key → Value → Node) (empty : Node)

/-- The leaves hold the entries of a map: each entry at the slot of its key, and the
empty leaf where no key has an entry. -/
structure Stores (entries : Key → Option Value) (leaves : Nat → Node) : Prop where
  live : ∀ key value, entries key = some value → leaves (slot key) = encode key value
  vacant : ∀ index, (∀ key, slot key = index → entries key = none) → leaves index = empty

variable {slot encode empty}

theorem stores_none : Stores slot encode empty (fun _ => none) (fun _ => empty) :=
  ⟨fun _ _ hentry => (by cases hentry), fun _ _ => rfl⟩

/-- A leaf that is not empty holds an entry. -/
theorem Stores.exists_live {entries : Key → Option Value} {leaves : Nat → Node}
    (hstores : Stores slot encode empty entries leaves) {index : Nat}
    (hleaf : leaves index ≠ empty) :
    ∃ key value, slot key = index ∧ entries key = some value := by
  by_contra hnone
  refine hleaf (hstores.vacant index fun key hslot => ?_)
  rcases hentry : entries key with _ | value
  · rfl
  · exact absurd ⟨key, value, hslot, hentry⟩ hnone

/-- A slot with the empty leaf holds no entry, when no entry is encoded as that leaf. -/
theorem Stores.eq_none {entries : Key → Option Value} {leaves : Nat → Node}
    (hstores : Stores slot encode empty entries leaves) {index : Nat}
    (hleaf : leaves index = empty)
    (hencode : ∀ key value, entries key = some value → encode key value ≠ empty)
    (key : Key) (hslot : slot key = index) : entries key = none := by
  rcases hentry : entries key with _ | value
  · rfl
  · refine absurd ?_ (hencode key value hentry)
    rw [← hstores.live key value hentry, hslot, hleaf]

/-- Writing the entry of a key that has its slot to itself. -/
theorem Stores.update [DecidableEq Key] {entries : Key → Option Value} {leaves : Nat → Node}
    (hstores : Stores slot encode empty entries leaves) (key : Key) (value : Value)
    (halone : ∀ other, other ≠ key → slot other = slot key → entries other = none) :
    Stores slot encode empty (Function.update entries key (some value))
      (Function.update leaves (slot key) (encode key value)) := by
  refine ⟨fun other stored hentry => ?_, fun index hvacant => ?_⟩
  · by_cases hother : other = key
    · subst hother
      rw [Function.update_self, Option.some.injEq] at hentry
      rw [Function.update_self, hentry]
    · rw [Function.update_of_ne hother] at hentry
      have hslot : slot other ≠ slot key := by
        intro hslot
        rw [halone other hother hslot] at hentry
        cases hentry
      rw [Function.update_of_ne hslot]
      exact hstores.live other stored hentry
  · have hindex : index ≠ slot key := by
      rintro rfl
      have hself := hvacant key rfl
      rw [Function.update_self] at hself
      cases hself
    rw [Function.update_of_ne hindex]
    refine hstores.vacant index fun other hslot => ?_
    have hother : other ≠ key := by
      rintro rfl
      exact hindex hslot.symm
    have hnone := hvacant other hslot
    rwa [Function.update_of_ne hother] at hnone

end Slots

end TsnProtocol.Lib.SparseMerkle
