import Mathlib
import TsnProtocol.Lib.PairedLevels
import TsnProtocol.Sdk.DeviceAccess

/-!
Roots of accumulators: distinct leaves are hashed, and each level is hashed in pairs, an odd
last node with itself. Leaves and nodes carry different tags, so that a root fixes the list.
-/

namespace TsnProtocol.Tcap.AccumulatorRoot

open Lib.ByteReader
open Lib.Checked
open Lib.PairedLevels
open Lib.TextFormat
open Sdk.DeviceAccess (JsString js textEncode)

section Program

variable (hash : List Byte → List Byte) (domain : JsString)

def leafInput (leaf : List Byte) : List Byte :=
  textEncode domain ++ 0 :: leaf

def nodeInput (left right : List Byte) : List Byte :=
  textEncode domain ++ 1 :: (left ++ right)

def hashLeaves (leaves : List (List Byte)) : List (List Byte) :=
  leaves.map fun leaf => hash (leafInput domain leaf)

def hashPair (left right : List Byte) : List Byte :=
  hash (nodeInput domain left right)

/-- `Array.from(leaf).join(",")`. -/
def leafKey (leaf : List Byte) : Text :=
  [','].intercalate (leaf.map fun byte => decimal byte.toNat)

/-- `buildDeterministicRoot`; the set of the keys is as large as it has different ones. -/
def buildDeterministicRoot (leaves : List (List Byte)) : Except String Text := do
  require (leaves.length ≠ 0) "empty_accumulator"
  let seen := (leaves.map leafKey).dedup
  require (seen.length = leaves.length) "duplicate_accumulator_leaf"
  let level := climb (hashPair hash domain) (hashLeaves hash domain leaves)
  return hexText (level.headD [])

/-- Everything that is hashed for a root. -/
def hashed (leaves : List (List Byte)) : List (List Byte) :=
  leaves.map (leafInput domain) ++
    (combined (hashPair hash domain) (hashLeaves hash domain leaves)).map
      fun pair => nodeInput domain pair.1 pair.2

end Program

section Acceptance

theorem comma_notMem_decimal (value : Nat) : ',' ∉ decimal value := by
  intro hmem
  have hdigit := isDigit_of_mem_decimal hmem
  revert hdigit
  decide

theorem decimal_ne_nil (value : Nat) : decimal value ≠ [] := by
  intro hnil
  have hvalue := decimalValue_decimal value
  rw [hnil] at hvalue
  obtain rfl : value = 0 := hvalue.symm
  revert hnil
  decide

theorem leafKey_injective : Function.Injective leafKey := by
  have hdecimal : Function.Injective fun byte : Byte => decimal byte.toNat := by
    intro byte byte' hsame
    have hvalue := congrArg decimalValue hsame
    simp only [decimalValue_decimal] at hvalue
    exact BitVec.eq_of_toNat_eq hvalue
  have hsplit : ∀ leaf : List Byte, leaf ≠ [] →
      (leafKey leaf).splitOn ',' = leaf.map fun byte => decimal byte.toNat := by
    intro leaf hleaf
    refine List.splitOn_intercalate _ ?_ (by simpa using hleaf)
    intro text htext
    obtain ⟨byte, -, rfl⟩ := List.mem_map.mp htext
    exact comma_notMem_decimal _
  have hnil : ∀ leaf : List Byte, leafKey [] = leafKey leaf → leaf = [] := by
    intro leaf hsame
    by_contra hleaf
    have hpieces := hsplit leaf hleaf
    rw [← hsame] at hpieces
    have hmem : [] ∈ leaf.map fun byte => decimal byte.toNat := by
      rw [← hpieces]
      exact List.mem_singleton.mpr rfl
    obtain ⟨byte, -, hempty⟩ := List.mem_map.mp hmem
    exact decimal_ne_nil _ hempty
  intro leaf leaf' hsame
  by_cases hleaf : leaf = []
  · subst hleaf
    exact (hnil leaf' hsame).symm
  by_cases hleaf' : leaf' = []
  · subst hleaf'
    exact hnil leaf hsame.symm
  · have hpieces := hsplit leaf hleaf
    rw [hsame, hsplit leaf' hleaf'] at hpieces
    exact hdecimal.list_map hpieces.symm

variable {hash : List Byte → List Byte} {domain : JsString} {leaves : List (List Byte)}
  {root : Text}

theorem length_dedup_iff (leaves : List (List Byte)) :
    (leaves.map leafKey).dedup.length = leaves.length ↔ leaves.Nodup := by
  rw [← List.nodup_map_iff leafKey_injective, ← List.dedup_eq_self]
  constructor
  · intro hlength
    refine (List.dedup_sublist _).eq_of_length ?_
    rw [hlength, List.length_map]
  · intro hsame
    rw [hsame, List.length_map]

theorem buildDeterministicRoot_eq_ok :
    buildDeterministicRoot hash domain leaves = .ok root ↔
      (leaves ≠ [] ∧ leaves.Nodup) ∧
        hexText ((climb (hashPair hash domain) (hashLeaves hash domain leaves)).headD []) =
          root := by
  simp only [buildDeterministicRoot, bind_eq_ok, require_eq_ok, pure_eq_ok, exists_const,
    length_dedup_iff, and_assoc, List.length_eq_zero_iff, ne_eq]

end Acceptance

section Binding

variable {hash : List Byte → List Byte} {domain : JsString} {size : Nat}
  {leaves leaves' : List (List Byte)} {inputs : Set (List Byte)}

theorem leafInput_injective : Function.Injective (leafInput domain) := by
  intro leaf leaf' hsame
  exact (List.cons.inj (List.append_cancel_left hsame)).2

theorem leafInput_ne_nodeInput (leaf left right : List Byte) :
    leafInput domain leaf ≠ nodeInput domain left right := by
  intro hsame
  have htag := (List.cons.inj (List.append_cancel_left hsame)).1
  revert htag
  decide

/-- The pairs whose combination is hashed. -/
def hashedPairs (domain : JsString) (size : Nat) (inputs : Set (List Byte)) :
    Set (List Byte × List Byte) :=
  {pair | nodeInput domain pair.1 pair.2 ∈ inputs ∧ pair.1.length = size ∧ pair.2.length = size}

theorem injOn_hashPair (hinj : Set.InjOn hash inputs) :
    Set.InjOn (fun pair => hashPair hash domain pair.1 pair.2)
      (hashedPairs domain size inputs) := by
  rintro ⟨left, right⟩ ⟨hmem, hleft, -⟩ ⟨left', right'⟩ ⟨hmem', hleft', -⟩ hsame
  have hnodes := List.append_cancel_left (hinj hmem hmem' hsame)
  obtain ⟨rfl, rfl⟩ := List.append_inj (List.cons.inj hnodes).2 (hleft.trans hleft'.symm)
  rfl

theorem binds_hashLeaves (hsize : ∀ input, (hash input).length = size)
    (hinj : Set.InjOn hash inputs) (hleaves : leaves.Nodup)
    (hinputs : ∀ input ∈ hashed hash domain leaves, input ∈ inputs) :
    Binds (hashPair hash domain) (hashedPairs domain size inputs)
      (hashLeaves hash domain leaves) := by
  rw [hashed, List.forall_mem_append] at hinputs
  obtain ⟨hleafInputs, hnodeInputs⟩ := hinputs
  rw [List.forall_mem_map] at hleafInputs hnodeInputs
  refine ⟨?_, fun pair hpair => ⟨hnodeInputs pair hpair, ?_⟩⟩
  · refine hleaves.map_on fun leaf hleaf leaf' hleaf' hsame => ?_
    exact leafInput_injective (hinj (hleafInputs leaf hleaf) (hleafInputs leaf' hleaf') hsame)
  · refine forall_combined (P := fun node => node.length = size)
      (fun left right => hsize _) (fun node hnode => ?_) hpair
    obtain ⟨leaf, -, rfl⟩ := List.mem_map.mp hnode
    exact hsize _

/-- The hashed leaves of one list are no higher level over another list: the nodes there
carry the other tag. -/
theorem hashLeaves_eq_of_onTheWay (hinj : Set.InjOn hash inputs) (hleaves : leaves ≠ [])
    (hleafInputs : ∀ leaf ∈ leaves, leafInput domain leaf ∈ inputs)
    (hbinds : Binds (hashPair hash domain) (hashedPairs domain size inputs)
      (hashLeaves hash domain leaves'))
    (hway : OnTheWay (hashPair hash domain) (hashLeaves hash domain leaves')
      (hashLeaves hash domain leaves)) :
    hashLeaves hash domain leaves = hashLeaves hash domain leaves' := by
  rcases Relation.ReflTransGen.cases_tail hway with hsame | ⟨last, hlast, hlt, hnext⟩
  · exact hsame
  · obtain ⟨leaf, rest, rfl⟩ := List.exists_cons_of_ne_nil hleaves
    have hallowed := (binds_of_onTheWay (injOn_hashPair hinj) hbinds hlast).allowed
    rw [combined_of_lt hlt, List.forall_mem_append] at hallowed
    have hmem : hash (leafInput domain leaf) ∈ nextLevel (hashPair hash domain) last := by
      rw [← hnext]
      exact List.mem_cons_self
    obtain ⟨pair, hpair, hsame⟩ := List.mem_map.mp hmem
    have hinput := hinj (hallowed.1 pair hpair).1 (hleafInputs leaf List.mem_cons_self) hsame
    exact absurd hinput.symm (leafInput_ne_nodeInput leaf pair.1 pair.2)

theorem climb_eq_of_root (hleaves : leaves ≠ []) (hleaves' : leaves' ≠ [])
    (hroot : hexText ((climb (hashPair hash domain) (hashLeaves hash domain leaves)).headD []) =
      hexText ((climb (hashPair hash domain) (hashLeaves hash domain leaves')).headD [])) :
    climb (hashPair hash domain) (hashLeaves hash domain leaves) =
      climb (hashPair hash domain) (hashLeaves hash domain leaves') := by
  have hlength : (climb (hashPair hash domain) (hashLeaves hash domain leaves)).length = 1 :=
    length_climb (by simpa [hashLeaves] using hleaves)
  have hlength' : (climb (hashPair hash domain) (hashLeaves hash domain leaves')).length = 1 :=
    length_climb (by simpa [hashLeaves] using hleaves')
  obtain ⟨top, htop⟩ := List.length_eq_one_iff.mp hlength
  obtain ⟨top', htop'⟩ := List.length_eq_one_iff.mp hlength'
  have hbytes := congrArg bytesOfHex hroot
  rw [htop, htop', bytesOfHex_hexText, bytesOfHex_hexText] at hbytes
  rw [htop, htop']
  exact congrArg (fun node => [node]) (Option.some.inj hbytes)

/-- A root is that of one list of leaves only, of whatever length, for a hash with outputs of
one length and without collision among what is hashed for the two roots. -/
theorem buildDeterministicRoot_binding {root : Text}
    (hsize : ∀ input, (hash input).length = size)
    (hinj : Set.InjOn hash
      {input | input ∈ hashed hash domain leaves ∨ input ∈ hashed hash domain leaves'})
    (hroot : buildDeterministicRoot hash domain leaves = .ok root)
    (hroot' : buildDeterministicRoot hash domain leaves' = .ok root) : leaves = leaves' := by
  obtain ⟨⟨hleaves, hnodup⟩, hhex⟩ := buildDeterministicRoot_eq_ok.mp hroot
  obtain ⟨⟨hleaves', hnodup'⟩, hhex'⟩ := buildDeterministicRoot_eq_ok.mp hroot'
  have hbinds := binds_hashLeaves hsize hinj hnodup fun input hinput => Or.inl hinput
  have hbinds' := binds_hashLeaves hsize hinj hnodup' fun input hinput => Or.inr hinput
  have hmem : ∀ leaf ∈ leaves, leafInput domain leaf ∈ hashed hash domain leaves :=
    fun leaf hleaf => List.mem_append_left _ (List.mem_map_of_mem hleaf)
  have hmem' : ∀ leaf ∈ leaves', leafInput domain leaf ∈ hashed hash domain leaves' :=
    fun leaf hleaf => List.mem_append_left _ (List.mem_map_of_mem hleaf)
  have hlevels : hashLeaves hash domain leaves = hashLeaves hash domain leaves' := by
    rcases onTheWay_of_climb_eq (injOn_hashPair hinj) hbinds hbinds'
      (climb_eq_of_root hleaves hleaves' (hhex.trans hhex'.symm)) with hway | hway
    · exact hashLeaves_eq_of_onTheWay hinj hleaves
        (fun leaf hleaf => Or.inl (hmem leaf hleaf)) hbinds' hway
    · exact (hashLeaves_eq_of_onTheWay hinj hleaves'
        (fun leaf hleaf => Or.inr (hmem' leaf hleaf)) hbinds hway).symm
  have hinput : ∀ leaf, leaf ∈ leaves ∨ leaf ∈ leaves' → leafInput domain leaf ∈
      {input | input ∈ hashed hash domain leaves ∨ input ∈ hashed hash domain leaves'} := by
    rintro leaf (hleaf | hleaf)
    · exact Or.inl (hmem leaf hleaf)
    · exact Or.inr (hmem' leaf hleaf)
  have hinjLeaves : Set.InjOn (fun leaf => hash (leafInput domain leaf))
      {leaf | leaf ∈ leaves ∨ leaf ∈ leaves'} := by
    intro leaf hleaf leaf' hleaf' hsame
    exact leafInput_injective (hinj (hinput leaf hleaf) (hinput leaf' hleaf') hsame)
  exact eq_of_map_eq hinjLeaves (fun leaf hleaf => Or.inl hleaf) (fun leaf hleaf => Or.inr hleaf)
    hlevels

end Binding

section Sample

/-- A hash without collision on the six inputs of the sample. -/
def sampleHash (input : List Byte) : List Byte :=
  leBytes 4 (input.foldl (fun state byte => (state * 31 + byte.toNat + 1) % 2 ^ 32) 7)

def sampleDomain : JsString := js "nullifiers"

def sampleLeaves : List (List Byte) := [[1], [2], [3]]

theorem sampleHash_injOn :
    ∀ input ∈ hashed sampleHash sampleDomain sampleLeaves,
      ∀ input' ∈ hashed sampleHash sampleDomain sampleLeaves,
        sampleHash input = sampleHash input' → input = input' := by
  decide +kernel

theorem buildDeterministicRoot_binding_sample :
    buildDeterministicRoot sampleHash sampleDomain sampleLeaves = .ok "f8750096".toList ∧
      sampleLeaves = [[1], [2], [3]] := by
  have hroot : buildDeterministicRoot sampleHash sampleDomain sampleLeaves =
      .ok "f8750096".toList := by
    decide +kernel
  refine ⟨hroot, buildDeterministicRoot_binding (fun input => length_leBytes 4 _) ?_ hroot hroot⟩
  rintro input (hinput | hinput) input' (hinput' | hinput') hsame <;>
    exact sampleHash_injOn input hinput input' hinput' hsame

end Sample

end TsnProtocol.Tcap.AccumulatorRoot
