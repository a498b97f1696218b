import Mathlib

/-!
Finite stores of values under keys, and the sum of a weight over everything a
store holds. A write changes the sum by exactly what it does at its own key.
-/

namespace TsnProtocol.Lib.FiniteStore

/-- A finite store of values under keys. -/
abbrev Store (K V : Type*) :=
  Finmap fun _ : K => V

variable {K V : Type*}

/-- Sum of `weight` over all values held by the store. -/
def total (weight : V → Nat) (store : Store K V) : Nat :=
  (store.entries.map fun entry => weight entry.2).sum

/-- Everything a store holds. -/
def values (store : Store K V) : Multiset V :=
  store.entries.map fun entry => entry.2

theorem total_eq_sum_values (weight : V → Nat) (store : Store K V) :
    total weight store = ((values store).map weight).sum := by
  simp [total, values, Multiset.map_map]

/-- Weight of an optional value; nothing weighs zero. -/
def weigh (weight : V → Nat) (value : Option V) : Nat :=
  value.elim 0 weight

@[simp] theorem weigh_none (weight : V → Nat) :
    weigh weight none = 0 := rfl

@[simp] theorem weigh_some (weight : V → Nat) (value : V) :
    weigh weight (some value) = weight value := rfl

variable [DecidableEq K]

theorem values_insert_of_lookup_eq_none {store : Store K V} {key : K} (value : V)
    (habsent : store.lookup key = none) :
    values (store.insert key value) = value ::ₘ values store := by
  have hentries : (store.insert key value).entries = ⟨key, value⟩ ::ₘ store.entries :=
    Finmap.entries_insert_of_notMem (Finmap.lookup_eq_none.mp habsent)
  simp [values, hentries]

theorem total_insert_of_lookup_eq_none {weight : V → Nat}
    {store : Store K V} {key : K} (value : V)
    (habsent : store.lookup key = none) :
    total weight (store.insert key value) = weight value + total weight store := by
  have hentries : (store.insert key value).entries =
      ⟨key, value⟩ ::ₘ store.entries :=
    Finmap.entries_insert_of_notMem (Finmap.lookup_eq_none.mp habsent)
  simp [total, hentries]

private theorem insert_erase_self (store : Store K V) (key : K) (value : V) :
    (store.erase key).insert key value = store.insert key value := by
  apply Finmap.ext_lookup
  intro other
  by_cases hkey : other = key
  · subst other
    simp
  · rw [Finmap.lookup_insert_of_ne _ hkey, Finmap.lookup_insert_of_ne _ hkey,
      Finmap.lookup_erase_ne hkey]

private theorem insert_lookup_self {store : Store K V} {key : K} {value : V}
    (hpresent : store.lookup key = some value) :
    store.insert key value = store := by
  apply Finmap.ext_lookup
  intro other
  by_cases hkey : other = key
  · subst other
    simp [hpresent]
  · rw [Finmap.lookup_insert_of_ne _ hkey]

theorem total_eq_add_erase (weight : V → Nat) {store : Store K V} {key : K}
    {value : V} (hpresent : store.lookup key = some value) :
    total weight store = weight value + total weight (store.erase key) := by
  have hsplit : (store.erase key).insert key value = store := by
    rw [insert_erase_self, insert_lookup_self hpresent]
  have htotal : total weight ((store.erase key).insert key value) =
      weight value + total weight (store.erase key) :=
    total_insert_of_lookup_eq_none value
    (Finmap.lookup_erase key store)
  rwa [hsplit] at htotal

/-- A write at one key trades the weight found there for the weight written. -/
theorem total_insert (weight : V → Nat) (store : Store K V) (key : K)
    (value : V) :
    total weight (store.insert key value) + weigh weight (store.lookup key) =
      total weight store + weight value := by
  cases hlookup : store.lookup key with
  | none =>
      rw [total_insert_of_lookup_eq_none value hlookup, weigh_none]
      omega
  | some old =>
      rw [← insert_erase_self store key value,
        total_insert_of_lookup_eq_none value (Finmap.lookup_erase key store),
        total_eq_add_erase weight hlookup, weigh_some]
      omega

/-- A write that leaves the weight at its key as it was leaves the total as it
was. -/
theorem total_insert_of_weigh_eq {weight : V → Nat} {store : Store K V}
    {key : K} {value : V}
    (hweight : weigh weight (store.lookup key) = weight value) :
    total weight (store.insert key value) = total weight store := by
  have htotal := total_insert weight store key value
  omega

theorem weight_le_total {weight : V → Nat} {store : Store K V} {key : K}
    {value : V} (hpresent : store.lookup key = some value) :
    weight value ≤ total weight store := by
  rw [total_eq_add_erase weight hpresent]
  omega

theorem total_eq_zero {weight : V → Nat} {store : Store K V}
    (hweight : ∀ key value, store.lookup key = some value → weight value = 0) :
    total weight store = 0 := by
  refine Multiset.sum_eq_zero ?_
  intro amount hmember
  obtain ⟨⟨key, value⟩, hentry, rfl⟩ := Multiset.mem_map.mp hmember
  exact hweight key value (Finmap.lookup_eq_some_iff.mpr hentry)

theorem total_eq_sum_keys (weight : V → Nat) (store : Store K V) :
    total weight store = ∑ key ∈ store.keys, weigh weight (store.lookup key) := by
  have hmap : store.entries.map (fun entry => weight entry.2) =
      store.entries.map (fun entry => weigh weight (store.lookup entry.1)) := by
    refine Multiset.map_congr rfl ?_
    rintro ⟨key, value⟩ hentry
    rw [Finmap.lookup_eq_some_iff.mpr hentry, weigh_some]
  rw [total, hmap]
  simp [Finset.sum, Finmap.keys, Multiset.keys]

/-- Stores that agree in weight at every key agree in total. -/
theorem total_congr {weight : V → Nat} {left right : Store K V}
    (hweight : ∀ key, weigh weight (left.lookup key) = weigh weight (right.lookup key)) :
    total weight left = total weight right := by
  have hextend : ∀ store : Store K V, ∀ keys, store.keys ⊆ keys →
      total weight store = ∑ key ∈ keys, weigh weight (store.lookup key) := by
    intro store keys hkeys
    rw [total_eq_sum_keys]
    refine Finset.sum_subset hkeys ?_
    intro key _ habsent
    rw [Finmap.lookup_eq_none.mpr (mt Finmap.mem_keys.mpr habsent), weigh_none]
  rw [hextend left _ Finset.subset_union_left, hextend right _ Finset.subset_union_right]
  exact Finset.sum_congr rfl fun key _ => hweight key

/-- Reading at one key after a write at some key. -/
theorem lookup_insert_eq (store : Store K V) (key other : K) (value : V) :
    (store.insert key value).lookup other =
      if other = key then some value else store.lookup other := by
  split_ifs with hkey
  · subst other
    simp
  · exact Finmap.lookup_insert_of_ne _ hkey

end TsnProtocol.Lib.FiniteStore
