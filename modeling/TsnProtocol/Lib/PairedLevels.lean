import Mathlib

/-!
Levels of a tree that is built from its leaves up: neighbours are combined, and a last node
without a neighbour is combined with itself.
-/

namespace TsnProtocol.Lib.PairedLevels

variable {α : Type}

/-- The neighbours of a level; a last node without one is paired with itself. -/
def pairs : List α → List (α × α)
  | [] => []
  | [last] => [(last, last)]
  | left :: right :: rest => (left, right) :: pairs rest

theorem length_pairs (level : List α) : (pairs level).length = (level.length + 1) / 2 := by
  induction level using pairs.induct with
  | case1 => simp [pairs]
  | case2 last => simp [pairs]
  | case3 left right rest ih =>
      simp only [pairs, List.length_cons, ih]
      omega

theorem mem_of_mem_pairs {level : List α} {pair : α × α} (hpair : pair ∈ pairs level) :
    pair.1 ∈ level ∧ pair.2 ∈ level := by
  induction level using pairs.induct with
  | case1 => simp [pairs] at hpair
  | case2 last =>
      obtain rfl := List.mem_singleton.mp hpair
      simp
  | case3 left right rest ih =>
      rcases List.mem_cons.mp hpair with rfl | hrest
      · simp
      · obtain ⟨hfirst, hsecond⟩ := ih hrest
        simp [hfirst, hsecond]

/-- Distinct nodes are paired in one way only: a node repeated at the end would be a
duplicate of the level. -/
theorem pairs_injective {level level' : List α} (hnodup : level.Nodup) (hnodup' : level'.Nodup)
    (hpairs : pairs level = pairs level') : level = level' := by
  induction level using pairs.induct generalizing level' with
  | case1 =>
      rcases level' with _ | ⟨left, _ | ⟨right, rest⟩⟩
      · rfl
      · simp [pairs] at hpairs
      · simp [pairs] at hpairs
  | case2 last =>
      rcases level' with _ | ⟨left, _ | ⟨right, rest⟩⟩
      · simp [pairs] at hpairs
      · simp only [pairs, List.cons.injEq, Prod.mk.injEq, and_true, and_self] at hpairs
        rw [hpairs]
      · simp only [pairs, List.cons.injEq, Prod.mk.injEq] at hpairs
        obtain ⟨⟨rfl, rfl⟩, -⟩ := hpairs
        simp at hnodup'
  | case3 left right rest ih =>
      rcases level' with _ | ⟨left', _ | ⟨right', rest'⟩⟩
      · simp [pairs] at hpairs
      · simp only [pairs, List.cons.injEq, Prod.mk.injEq] at hpairs
        obtain ⟨⟨rfl, rfl⟩, -⟩ := hpairs
        simp at hnodup
      · simp only [pairs, List.cons.injEq, Prod.mk.injEq] at hpairs
        obtain ⟨⟨rfl, rfl⟩, hrest⟩ := hpairs
        have hsame := ih (hnodup.of_cons.of_cons) (hnodup'.of_cons.of_cons) hrest
        rw [hsame]

theorem nodup_pairs {level : List α} (hnodup : level.Nodup) : (pairs level).Nodup := by
  induction level using pairs.induct with
  | case1 => exact List.nodup_nil
  | case2 last => exact List.nodup_singleton _
  | case3 left right rest ih =>
      refine List.nodup_cons.mpr ⟨fun hmem => ?_, ih hnodup.of_cons.of_cons⟩
      have hleft := (mem_of_mem_pairs hmem).1
      exact (List.nodup_cons.mp hnodup).1 (List.mem_cons_of_mem _ hleft)

section Climb

variable (node : α → α → α)

def nextLevel (level : List α) : List α :=
  (pairs level).map fun pair => node pair.1 pair.2

theorem length_nextLevel (level : List α) :
    (nextLevel node level).length = (level.length + 1) / 2 := by
  rw [nextLevel, List.length_map, length_pairs]

theorem nextLevel_ne_nil {level : List α} (hlevel : level ≠ []) : nextLevel node level ≠ [] := by
  have hlength := length_nextLevel node level
  have hpos := List.length_pos_iff.mpr hlevel
  refine List.length_pos_iff.mp ?_
  omega

/-- The top of the tree over a level. -/
def climb (level : List α) : List α :=
  if 1 < level.length then climb (nextLevel node level) else level
termination_by level.length
decreasing_by
  rw [length_nextLevel]
  omega

/-- Every pair that is combined on the way to the top. -/
def combined (level : List α) : List (α × α) :=
  if 1 < level.length then pairs level ++ combined (nextLevel node level) else []
termination_by level.length
decreasing_by
  rw [length_nextLevel]
  omega

variable {node}

theorem climb_of_lt {level : List α} (hlevel : 1 < level.length) :
    climb node level = climb node (nextLevel node level) := by
  rw [climb, if_pos hlevel]

theorem climb_of_le {level : List α} (hlevel : level.length ≤ 1) : climb node level = level := by
  rw [climb, if_neg (by omega)]

theorem combined_of_lt {level : List α} (hlevel : 1 < level.length) :
    combined node level = pairs level ++ combined node (nextLevel node level) := by
  rw [combined, if_pos hlevel]

theorem length_climb {level : List α} (hlevel : level ≠ []) : (climb node level).length = 1 := by
  induction level using climb.induct node with
  | case1 level hlt ih =>
      rw [climb_of_lt hlt]
      exact ih (nextLevel_ne_nil node hlevel)
  | case2 level hle =>
      have hpos := List.length_pos_iff.mpr hlevel
      rw [climb_of_le (by omega)]
      omega

/-- A property of the leaves that combining establishes holds of every node. -/
theorem forall_combined {P : α → Prop} (hnode : ∀ left right, P (node left right))
    {level : List α} (hlevel : ∀ element ∈ level, P element) {pair : α × α}
    (hpair : pair ∈ combined node level) : P pair.1 ∧ P pair.2 := by
  induction level using combined.induct node with
  | case1 level hlt ih =>
      rw [combined_of_lt hlt, List.mem_append] at hpair
      rcases hpair with hpair | hpair
      · obtain ⟨hfirst, hsecond⟩ := mem_of_mem_pairs hpair
        exact ⟨hlevel _ hfirst, hlevel _ hsecond⟩
      · refine ih (fun element helement => ?_) hpair
        obtain ⟨below, -, rfl⟩ := List.mem_map.mp helement
        exact hnode below.1 below.2
  | case2 level hle =>
      rw [combined, if_neg hle] at hpair
      cases hpair

/-- One round of the climb. -/
def Below (node : α → α → α) (level next : List α) : Prop :=
  1 < level.length ∧ next = nextLevel node level

/-- The second level is on the way from the first to the top. -/
def OnTheWay (node : α → α → α) : List α → List α → Prop :=
  Relation.ReflTransGen (Below node)

theorem onTheWay_climb (level : List α) : OnTheWay node level (climb node level) := by
  induction level using climb.induct node with
  | case1 level hlt ih =>
      rw [climb_of_lt hlt]
      exact Relation.ReflTransGen.head ⟨hlt, rfl⟩ ih
  | case2 level hle =>
      rw [climb_of_le (by omega)]
      exact Relation.ReflTransGen.refl

section Binding

variable {allowed : Set (α × α)} {level level' : List α}

theorem eq_of_map_eq {β γ : Type} {change : β → γ} {members : Set β}
    (hinj : Set.InjOn change members) {first second : List β}
    (hfirst : ∀ element ∈ first, element ∈ members)
    (hsecond : ∀ element ∈ second, element ∈ members)
    (hsame : first.map change = second.map change) : first = second := by
  induction first generalizing second with
  | nil => exact (List.map_eq_nil_iff.mp hsame.symm).symm
  | cons element first ih =>
      rcases second with _ | ⟨element', second⟩
      · cases hsame
      · obtain ⟨hhead, htail⟩ := List.cons.inj hsame
        rw [List.forall_mem_cons] at hfirst hsecond
        rw [hinj hfirst.1 hsecond.1 hhead, ih hfirst.2 hsecond.2 htail]

/-- A level of distinct nodes all of whose combinations are among those allowed. -/
structure Binds (node : α → α → α) (allowed : Set (α × α)) (level : List α) : Prop where
  nodup : level.Nodup
  allowed : ∀ pair ∈ combined node level, pair ∈ allowed

variable (hinj : Set.InjOn (fun pair => node pair.1 pair.2) allowed)

include hinj

theorem binds_of_below (hlevel : Binds node allowed level) (hbelow : Below node level level') :
    Binds node allowed level' := by
  obtain ⟨hlt, rfl⟩ := hbelow
  have hallowed := hlevel.allowed
  rw [combined_of_lt hlt, List.forall_mem_append] at hallowed
  refine ⟨?_, hallowed.2⟩
  refine (nodup_pairs hlevel.nodup).map_on fun first hfirst second hsecond hsame => ?_
  exact hinj (hallowed.1 first hfirst) (hallowed.1 second hsecond) hsame

theorem binds_of_onTheWay (hlevel : Binds node allowed level)
    (hway : OnTheWay node level level') : Binds node allowed level' := by
  induction hway with
  | refl => exact hlevel
  | tail _ hbelow ih => exact binds_of_below hinj ih hbelow

theorem eq_of_nextLevel_eq (hlevel : Binds node allowed level)
    (hlevel' : Binds node allowed level') (hlt : 1 < level.length) (hlt' : 1 < level'.length)
    (hnext : nextLevel node level = nextLevel node level') : level = level' := by
  have hallowed := hlevel.allowed
  have hallowed' := hlevel'.allowed
  rw [combined_of_lt hlt, List.forall_mem_append] at hallowed
  rw [combined_of_lt hlt', List.forall_mem_append] at hallowed'
  exact pairs_injective hlevel.nodup hlevel'.nodup
    (eq_of_map_eq hinj hallowed.1 hallowed'.1 hnext)

/-- A level whose successor is met above another level is met above that level itself. -/
theorem onTheWay_of_nextLevel (hlevel : Binds node allowed level)
    (hlevel' : Binds node allowed level') (hlt : 1 < level.length) (hlt' : 1 < level'.length)
    (hway : OnTheWay node (nextLevel node level') (nextLevel node level)) :
    OnTheWay node level' level := by
  rcases Relation.ReflTransGen.cases_tail hway with hsame | ⟨last, hlast, hltLast, hnext⟩
  · rw [eq_of_nextLevel_eq hinj hlevel hlevel' hlt hlt' hsame]
    exact Relation.ReflTransGen.refl
  · have hwayLast : OnTheWay node level' last := Relation.ReflTransGen.head ⟨hlt', rfl⟩ hlast
    have hbinds := binds_of_onTheWay hinj hlevel' hwayLast
    rw [eq_of_nextLevel_eq hinj hlevel hbinds hlt hltLast hnext]
    exact hwayLast

/-- Levels with one top are levels of one tree. -/
theorem onTheWay_of_climb_eq (hlevel : Binds node allowed level)
    (hlevel' : Binds node allowed level') (htop : climb node level = climb node level') :
    OnTheWay node level' level ∨ OnTheWay node level level' := by
  induction level using climb.induct node generalizing level' with
  | case2 level hle =>
      rw [climb_of_le (by omega)] at htop
      rw [htop]
      exact Or.inl (onTheWay_climb level')
  | case1 level hlt ih =>
      by_cases hlt' : 1 < level'.length
      · rw [climb_of_lt hlt, climb_of_lt hlt'] at htop
        have hnext := binds_of_below hinj hlevel ⟨hlt, rfl⟩
        have hnext' := binds_of_below hinj hlevel' ⟨hlt', rfl⟩
        rcases ih hnext hnext' htop with hway | hway
        · exact Or.inl (onTheWay_of_nextLevel hinj hlevel hlevel' hlt hlt' hway)
        · exact Or.inr (onTheWay_of_nextLevel hinj hlevel' hlevel hlt' hlt hway)
      · rw [climb_of_le (show level'.length ≤ 1 by omega)] at htop
        rw [← htop]
        exact Or.inr (onTheWay_climb level)

end Binding

end Climb

end TsnProtocol.Lib.PairedLevels
