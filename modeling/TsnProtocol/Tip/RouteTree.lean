import TsnProtocol.HiddenHead.Prover
import TsnProtocol.Lib.IncrementalMerkle
import TsnProtocol.Tip.Creation

/-!
The tree of routes of the TIP program against the one the circuit opens. The program appends
by a frontier of byte strings; the root it stores is that of the full tree over the scalar
field, and each leaf opens against it.
-/

namespace TsnProtocol.Tip.RouteTree

open Bn254.Field
open Bn254.Scalar
open Gpru.Verifier (tipRouteRootAddress)
open HiddenHead.Circuit
open HiddenHead.Consequences
open HiddenHead.Prover (circomlibOf)
open Lib.Checked
open Lib.IncrementalMerkle
open Lib.SparseMerkle
open Solana.Address
open Tip.Creation
open Tip.Registrar
open Tip.State

variable {runtime : Runtime} {lib : Circomlib} {world : World}

section Fields

/-- `field_bytes`. -/
def fieldBytes (value : Fr) : Bytes32 :=
  BitVec.ofNat 256 value.val

/-- `from_be_bytes_mod_order`. -/
def fieldOf (bytes : Bytes32) : Fr :=
  (bytes.toNat : Fr)

theorem toNat_fieldBytes (value : Fr) : (fieldBytes value).toNat = value.val := by
  have hlt : value.val < bn254ScalarOrder := ZMod.val_lt value
  have horder : bn254ScalarOrder < 2 ^ 256 := by decide
  rw [fieldBytes, BitVec.toNat_ofNat, Nat.mod_eq_of_lt (by omega)]

@[simp] theorem fieldOf_fieldBytes (value : Fr) : fieldOf (fieldBytes value) = value := by
  rw [fieldOf, toNat_fieldBytes, ZMod.natCast_val, ZMod.cast_id]

theorem canonicalFieldBytes_eq (bytes : Bytes32) :
    canonicalFieldBytes bytes = fieldBytes (fieldOf bytes) := by
  rw [canonicalFieldBytes, fieldBytes, fieldOf, ZMod.val_natCast]

@[simp] theorem canonicalFieldBytes_fieldBytes (value : Fr) :
    canonicalFieldBytes (fieldBytes value) = fieldBytes value := by
  rw [canonicalFieldBytes_eq, fieldOf_fieldBytes]

end Fields

section Hashes

/-- The Poseidon of the runtime and that of circomlib are one function of field elements. -/
def PoseidonAgrees (runtime : Runtime) (lib : Circomlib) : Prop :=
  ∀ inputs : List Fr, inputs.length = 2 ∨ inputs.length = 5 →
    runtime.poseidon (inputs.map fieldBytes) = some (fieldBytes (lib.poseidon inputs))

/-- Each constant of the table is the hash of two of the one before. -/
def ZeroLadder (runtime : Runtime) : Prop :=
  ∀ level < 32, poseidon2 runtime (routeZeroHash level) (routeZeroHash level) =
    .ok (routeZeroHash (level + 1))

/-- The leaf of a route as a field element. -/
def routeLeafOf (lib : Circomlib) (entry : Bytes32 × TipRoute) : Fr :=
  lib.poseidon ([entry.1, entry.2.gpruElgamalKeyCommitment, entry.2.gpruBalanceScanPublicKeyX,
    entry.2.gpruBalanceScanPublicKeyY, entry.2.policyCommitment].map fieldOf)

theorem poseidon2_fieldBytes (hagrees : PoseidonAgrees runtime lib) (left right : Fr) :
    poseidon2 runtime (fieldBytes left) (fieldBytes right) =
      .ok (fieldBytes (lib.poseidon2 left right)) := by
  rw [poseidon2, canonicalFieldBytes_fieldBytes, canonicalFieldBytes_fieldBytes, okOr_eq_ok]
  exact hagrees [left, right] (Or.inl rfl)

theorem routeLeaf_eq_ok (hagrees : PoseidonAgrees runtime lib) (entry : Bytes32 × TipRoute) :
    routeLeaf runtime entry.1 entry.2 = .ok (fieldBytes (routeLeafOf lib entry)) := by
  rw [routeLeaf, okOr_eq_ok, routeLeafOf, ← hagrees _ (Or.inr rfl)]
  simp only [routeLeafInputs, List.map_cons, List.map_nil, canonicalFieldBytes_eq]

theorem routeZeroHash_eq (hagrees : PoseidonAgrees runtime lib) (hladder : ZeroLadder runtime)
    {level : Nat} (hlevel : level ≤ 32) :
    routeZeroHash level = fieldBytes (ladder lib.poseidon2 0 level) := by
  induction level with
  | zero => rfl
  | succ level ih =>
      have hstep := hladder level hlevel
      rw [ih (by omega), poseidon2_fieldBytes hagrees] at hstep
      exact (Except.ok.inj hstep).symm

end Hashes

section Appends

variable {count : Nat} {node : Fr} {abstract : Nat → Fr} {stored : Fin 32 → Bytes32}

/-- A stored frontier holds the bytes of a frontier of field elements. -/
def Encodes (stored : Fin 32 → Bytes32) (abstract : Nat → Fr) : Prop :=
  ∀ level : Fin 32, stored level = fieldBytes (abstract level)

/-- A level of the program is a level of the append over field elements. -/
theorem appendLevel_eq_ok (hagrees : PoseidonAgrees runtime lib)
    (hladder : ZeroLadder runtime) (hstored : Encodes stored abstract) (level : Fin 32) :
    ∃ next, Registrar.appendLevel runtime count (stored, fieldBytes node) level =
        .ok (next, fieldBytes (Lib.IncrementalMerkle.appendLevel lib.poseidon2
          (ladder lib.poseidon2 0) count (abstract, node) level).2) ∧
      Encodes next (Lib.IncrementalMerkle.appendLevel lib.poseidon2
        (ladder lib.poseidon2 0) count (abstract, node) level).1 := by
  simp only [Registrar.appendLevel, Lib.IncrementalMerkle.appendLevel, Nat.shiftRight_eq_div_pow]
  split
  · rw [routeZeroHash_eq hagrees hladder level.isLt.le, poseidon2_fieldBytes hagrees]
    refine ⟨_, rfl, ?_⟩
    intro other
    by_cases hother : other = level
    · subst hother
      simp only [Function.update_self]
    · have hlevel : other.val ≠ level.val := fun h => hother (Fin.ext h)
      simp only [Function.update_of_ne hother, Function.update_of_ne hlevel]
      exact hstored other
  · rw [hstored level, poseidon2_fieldBytes hagrees]
    exact ⟨_, rfl, hstored⟩

theorem foldlM_appendLevel (hagrees : PoseidonAgrees runtime lib)
    (hladder : ZeroLadder runtime) (hstored : Encodes stored abstract) {level : Nat}
    (hlevel : level ≤ 32) :
    ∃ next, ((List.finRange 32).take level).foldlM (Registrar.appendLevel runtime count)
        (stored, fieldBytes node) =
          .ok (next, fieldBytes (appendUpTo lib.poseidon2 (ladder lib.poseidon2 0) count
            abstract node level).2) ∧
      Encodes next (appendUpTo lib.poseidon2 (ladder lib.poseidon2 0) count abstract node
        level).1 := by
  induction level with
  | zero => exact ⟨stored, rfl, hstored⟩
  | succ level ih =>
      obtain ⟨reached, hreached, hencodes⟩ := ih (by omega)
      have hget : (List.finRange 32)[level]? = some ⟨level, hlevel⟩ := by
        rw [List.getElem?_eq_getElem (by rwa [List.length_finRange]), List.getElem_finRange]
        rfl
      obtain ⟨next, hnext, hencodes'⟩ :=
        appendLevel_eq_ok hagrees hladder hencodes ⟨level, hlevel⟩
      refine ⟨next, ?_, hencodes'⟩
      rw [List.take_add_one, hget, List.foldlM_append, hreached]
      exact (bind_pure _).trans hnext

/-- The leaves of the routes appended so far, and the empty leaf after them. -/
def leavesOf (lib : Circomlib) (entries : List (Bytes32 × TipRoute)) (index : Nat) : Fr :=
  (entries[index]?.map (routeLeafOf lib)).getD 0

theorem leavesOf_append (entries : List (Bytes32 × TipRoute)) (entry : Bytes32 × TipRoute) :
    leavesOf lib (entries ++ [entry]) =
      Function.update (leavesOf lib entries) entries.length (routeLeafOf lib entry) := by
  funext index
  rcases Nat.lt_trichotomy index entries.length with hlt | rfl | hgt
  · rw [Function.update_of_ne hlt.ne, leavesOf, leavesOf, List.getElem?_append_left hlt]
  · rw [Function.update_self, leavesOf, List.getElem?_concat_length]
    rfl
  · rw [Function.update_of_ne hgt.ne', leavesOf, leavesOf,
      List.getElem?_eq_none (by simp; omega), List.getElem?_eq_none hgt.le]

/-- The route root account after some appends. -/
structure Holds (runtime : Runtime) (lib : Circomlib) (entries : List (Bytes32 × TipRoute))
    (root : TipRouteMerkleRootV1) : Prop where
  version : root.version = routeRootVersion
  bump : root.bump = runtime.bump tipRouteRootAddress
  leafCount : root.leafCount = entries.length
  root_eq : root.root = fieldBytes (treeRoot lib.poseidon2 32 (leavesOf lib entries))
  frontier : ∃ abstract, Encodes root.frontier abstract ∧
    Frontier lib.poseidon2 32 0 entries.length (leavesOf lib entries) abstract

theorem holds_emptyRouteRoot (hagrees : PoseidonAgrees runtime lib)
    (hladder : ZeroLadder runtime) : Holds runtime lib [] (emptyRouteRoot runtime) where
  version := rfl
  bump := rfl
  leafCount := rfl
  root_eq := (routeZeroHash_eq hagrees hladder (le_refl 32)).trans
    (congrArg fieldBytes (treeRoot_const 0 32).symm)
  frontier := ⟨fun _ => 0, fun _ => rfl, frontier_empty 32 0 _⟩

/-- An append of the program keeps the account the root of the full tree. -/
theorem appendLeaf_eq_ok (hagrees : PoseidonAgrees runtime lib) (hladder : ZeroLadder runtime)
    {entries : List (Bytes32 × TipRoute)} {root : TipRouteMerkleRootV1}
    (hholds : Holds runtime lib entries root) (hlength : entries.length < 2 ^ 32)
    (entry : Bytes32 × TipRoute) :
    ∃ after, appendLeaf runtime root (fieldBytes (routeLeafOf lib entry)) = .ok after ∧
      Holds runtime lib (entries ++ [entry]) after := by
  obtain ⟨abstract, hencodes, hfrontier⟩ := hholds.frontier
  obtain ⟨next, hfold, hnext⟩ := @foldlM_appendLevel runtime lib root.leafCount
    (routeLeafOf lib entry) _ _ hagrees hladder hencodes 32 (le_refl 32)
  obtain ⟨hroot, hfrontier'⟩ :=
    append_spec (fun _ _ => rfl) hfrontier hlength (routeLeafOf lib entry)
  rw [hholds.leafCount, List.take_of_length_le (by simp)] at hfold
  rw [hholds.leafCount] at hnext
  have hadd : checkedAdd 64 entries.length 1 = some (entries.length + 1) :=
    checkedAdd_eq_some.mpr ⟨by omega, rfl⟩
  refine ⟨{ root with
    root := fieldBytes (appendUpTo lib.poseidon2 (ladder lib.poseidon2 0) entries.length
      abstract (routeLeafOf lib entry) 32).2
    leafCount := entries.length + 1
    frontier := next }, ?_, ?_⟩
  · rw [appendLeaf, hholds.leafCount, hfold]
    simp only [bind, Except.bind, hadd, okOr, pure, Except.pure]
  · constructor
    · exact hholds.version
    · exact hholds.bump
    · rw [List.length_append, List.length_singleton]
    · rw [leavesOf_append, ← hroot]
    · rw [leavesOf_append, List.length_append, List.length_singleton]
      exact ⟨_, hnext, hfrontier'⟩

end Appends

section Runs

/-- Appends one after the other. -/
def appendRoutes (runtime : Runtime) (world : World) (entries : List (Bytes32 × TipRoute)) :
    Result World :=
  entries.foldlM
    (fun world entry => appendRoute runtime world tipRouteRootAddress entry.1 entry.2) world

theorem openRouteRoot_of_routeRootIn {root : TipRouteMerkleRootV1}
    (hroot : routeRootIn runtime world = some root) :
    ∃ opened, openRouteRoot runtime world tipRouteRootAddress = .ok (opened, root) := by
  rw [routeRootIn] at hroot
  simp only [openRouteRoot, assertPda, require, if_true, dataIsEmpty]
  split at hroot
  · next hnone =>
      cases hroot
      refine ⟨Function.update world tipRouteRootAddress
        (some (.routeRoot (emptyRouteRoot runtime))), ?_⟩
      simp only [hnone, createPdaAccount, dataIsEmpty, require, Option.isNone_none, if_true,
        bind, Except.bind, pure, Except.pure, routeRootLen, maxPermittedDataLength]
      rfl
  · next stored hsome =>
      cases hroot
      refine ⟨world, ?_⟩
      simp only [hsome, assertProgramOwned, okOr, loadRouteRoot, Option.isNone_some, bind,
        Except.bind, pure, Except.pure, require]
      rfl
  · cases hroot

/-- An append to an account that holds the tree of some routes leaves that of one more. -/
theorem appendRoute_of_holds (hagrees : PoseidonAgrees runtime lib)
    (hladder : ZeroLadder runtime) {entries : List (Bytes32 × TipRoute)}
    {root : TipRouteMerkleRootV1} (hroot : routeRootIn runtime world = some root)
    (hholds : Holds runtime lib entries root) (hlength : entries.length < 2 ^ 32 - 1)
    (entry : Bytes32 × TipRoute) :
    ∃ next after, appendRoute runtime world tipRouteRootAddress entry.1 entry.2 = .ok next ∧
      next tipRouteRootAddress = some (.routeRoot after) ∧
      Holds runtime lib (entries ++ [entry]) after := by
  obtain ⟨opened, hopen⟩ := openRouteRoot_of_routeRootIn hroot
  obtain ⟨after, hafter, hnext⟩ :=
    appendLeaf_eq_ok hagrees hladder hholds (by omega) entry
  have hchecks : root.version = routeRootVersion ∧
      root.bump = runtime.bump tipRouteRootAddress ∧ root.leafCount < 2 ^ 32 - 1 :=
    ⟨hholds.version, hholds.bump, hholds.leafCount ▸ hlength⟩
  refine ⟨Function.update opened tipRouteRootAddress (some (.routeRoot after)), after, ?_,
    Function.update_self .., hnext⟩
  simp only [appendRoute, bind_eq_ok, require_eq_ok, pure_eq_ok]
  exact ⟨_, hopen, (), hchecks, _, routeLeaf_eq_ok hagrees entry, _, hafter, rfl⟩

theorem appendRoutes_of_holds (hagrees : PoseidonAgrees runtime lib)
    (hladder : ZeroLadder runtime) (hempty : world tipRouteRootAddress = none)
    (entries : List (Bytes32 × TipRoute)) (hlength : entries.length ≤ 2 ^ 32 - 1) :
    ∃ next root, appendRoutes runtime world entries = .ok next ∧
      routeRootIn runtime next = some root ∧ Holds runtime lib entries root ∧
      (entries ≠ [] → next tipRouteRootAddress = some (.routeRoot root)) := by
  induction entries using List.reverseRecOn with
  | nil =>
      refine ⟨world, emptyRouteRoot runtime, rfl, ?_, holds_emptyRouteRoot hagrees hladder, ?_⟩
      · rw [routeRootIn, hempty]
      · intro hne
        exact absurd rfl hne
  | append_singleton entries entry ih =>
      rw [List.length_append, List.length_singleton] at hlength
      obtain ⟨reached, root, hreached, hroot, hholds, -⟩ := ih (by omega)
      obtain ⟨next, after, happend, hstored, hnext⟩ :=
        appendRoute_of_holds hagrees hladder hroot hholds (by omega) entry
      refine ⟨next, after, ?_, ?_, hnext, fun _ => hstored⟩
      · rw [appendRoutes] at hreached
        rw [appendRoutes, List.foldlM_append, hreached]
        exact (bind_pure _).trans happend
      · rw [routeRootIn, hstored]

/-- The siblings that open a leaf, as the circuit takes them. -/
def leafSiblings (lib : Circomlib) (leaves : Nat → Fr) (index : Nat) : Vector Fr 32 :=
  ⟨(siblings lib.poseidon2 32 index leaves).toArray, by simp⟩

theorem sparsePath32_leafSiblings (leaves : Nat → Fr) {index : Nat} (hindex : index < 2 ^ 32) :
    SparsePath32 lib (leaves index) index (leafSiblings lib leaves index)
      (treeRoot lib.poseidon2 32 leaves) := by
  have horder : 2 ^ 32 < bn254ScalarOrder := by decide
  rw [sparsePath32_iff, ZMod.val_cast_of_lt (by omega)]
  exact ⟨hindex, (pathRoot_siblings hindex leaves).symm⟩

/-- From an empty account every sequence of appends goes through. What is stored then is the
root of the tree with the routes in order and empty leaves after them, and the circuit accepts
the path of every route against it. -/
theorem appendRoutes_opens (hagrees : PoseidonAgrees runtime lib)
    (hladder : ZeroLadder runtime) (hempty : world tipRouteRootAddress = none)
    (entries : List (Bytes32 × TipRoute)) (hlength : entries.length ≤ 2 ^ 32 - 1) :
    ∃ next root, appendRoutes runtime world entries = .ok next ∧
      (entries ≠ [] → next tipRouteRootAddress = some (.routeRoot root)) ∧
      routeRootIn runtime next = some root ∧
      root.root = fieldBytes (treeRoot lib.poseidon2 32 (leavesOf lib entries)) ∧
      ∀ index entry, entries[index]? = some entry →
        routeLeaf runtime entry.1 entry.2 = .ok (fieldBytes (leavesOf lib entries index)) ∧
        SparsePath32 lib (leavesOf lib entries index) index
          (leafSiblings lib (leavesOf lib entries) index) (fieldOf root.root) := by
  obtain ⟨next, root, happend, hroot, hholds, hstored⟩ :=
    appendRoutes_of_holds hagrees hladder hempty entries hlength
  refine ⟨next, root, happend, hstored, hroot, hholds.root_eq, ?_⟩
  intro index entry hentry
  have hindex : index < entries.length := (List.getElem?_eq_some_iff.mp hentry).1
  constructor
  · rw [routeLeaf_eq_ok hagrees, leavesOf, hentry]
    rfl
  · rw [hholds.root_eq, fieldOf_fieldBytes]
    exact sparsePath32_leafSiblings _ (by omega)

end Runs

section Sample

/-- A route with small commitments. -/
def sampleEntry : Bytes32 × TipRoute :=
  (1, ⟨1, 1, 9, 2, 1, 3, 4, 5⟩)

/-- The nodes above that route where it is the first one. -/
def sampleNodes : List Bytes32 :=
  [0x0dab9449e4a1398a15224c0b15a49d598b2174d305a316c918125f8feeb123c0,
    0x16f2e0eca6da9b5532f6a01dada90d34878d7cfd8cb3d803dc1fb6c604ab94fb,
    0x269638bda1ea08dbfd0e51d263204428fe09ae20788f8a1ffe99319cb8d69b2f,
    0x25b5ad66439e2d92ca225bcfce39f5657c401ca635c1d68947039f5b8d663bc6,
    0x1f8a5401c20dcfb26f09e6ac21ad78c05e3aafb8365dac501b212f48c29d50ff,
    0x2d9d76b396a29a0ff6e4ad09e891deabfdbc346d33cc0d071423bb7df7456884,
    0x1cf43b18af99850b192976e2df9d8382d1554d460005d8a76b7d5554c2d8e67c,
    0x1506271e601071ec792cd09db4d27f0675044d2302403438ccebc68fffc8f280,
    0x2f70718c4ebd6ada772fa2bfe1cf5eaa3c018cf8a6d9d085521712993b2e0615,
    0x0ea2e97c5a248ed447898bd93939968736f610a6d148ef9f8526eaf6d5004540,
    0x03c61675d63a309418cc0031143d990fe7a49e5b986d0f0d28cdd3a87a83d889,
    0x0095d56df137d91456b7d74aaf7adaefbc170b59dee6900a3ab5732281424ef8,
    0x29a0bb1430159aa27ebbabc4081e737eb8fc469ee16ed44a04e433eb2a0bbe4a,
    0x202b590dbf92bd616c2bfbf2d84a1be3abccebdb6cfa71901782c8d110434215,
    0x0e79f55405d7bfb26e6c84ad7784304942a0a26bd3056e878f52486cf45a8c2c,
    0x0f83c539e7496ffbe170e2bc254eb0e62b4d98a8504927e0316593fff40678fa,
    0x1d862fc5fad1aeec583c4e350c19ded51d7dcf194c8da2b724fcab79de098360,
    0x0292382b968736d121a1639b0eac64129a701c479b1640ff6df89137ec4dbd5a,
    0x1b747a5d3232584b259ec00aec7f2e4cb4adddc9c985eea4773c00fe800252ff,
    0x2f199160909aec78e4529c1607a481d8c061f255a5481b52b967cccf17f2d3d6,
    0x239e7dfabd9c6c5bc6c6d7029f7811482e41565b709d4a20c6be6ddc032d78ca,
    0x2db0a6bcc25efc60757ea8db0f1dc9f510f14c28c6e326ad5bb1837ff1e67169,
    0x1352de894b7564b0551c1154dc868f21ecc7bb096674ccce67dcd5f204b82ce2,
    0x1599a3dd2b1cf5adaea5a837d73cd4e53dd4706da985cb71c54336e5a709b9ef,
    0x172da7d07f5d2d670162d44cf67e0d92e8f7b385af1aca50a7bb204885c84f56,
    0x151563bb489d84eb8b358f57dba728a8dc7ada6316b5ed396619717d0d4d5181,
    0x1bbffd01b76151d46dc89a1d5fd2654a8ea3ec0272b71be6cff233e9f5685e8d,
    0x0468bad329036d20bee67ab3496db1d03ccef12a4da202cf976170026cf3607f,
    0x1dc4d6c5ef58e7ae8fbcea1dd303064c34e1b93285a5b20cf0ef2c74ba6da963,
    0x247580657e42407c62670538ecc6559353dfdf59404494961a4be4e1c26220a5,
    0x24cf6cf8cad6c0798f484922678a9f20727d94953118912bdaaae1930f265c3f,
    0x2f480438e8ab05f58d8406ac9ddbf0c1594fe7a7d7d0b740d758162059eb963b,
    0x30631ea8df3d189ae0045ae4b0459082a93020933bd2aa10f899cc5177eb28e6]

/-- The values of Poseidon on the inputs that a tree of this route hashes. -/
def samplePoseidon (inputs : List Nat) : Nat :=
  let zero (level : Nat) : Nat := (routeZeroHash level).toNat
  let above (level : Nat) : Nat := (sampleNodes.getD level 0).toNat
  if inputs = [1, 2, 3, 4, 5] then above 0
  else
    match (List.range 32).find? fun level => inputs = [zero level, zero level] with
    | some level => zero (level + 1)
    | none =>
        match (List.range 32).find? fun level => inputs = [above level, zero level] with
        | some level => above (level + 1)
        | none => 0

def sampleRuntime : Runtime where
  bump _ := 255
  sha256 _ := 0
  poseidon inputs :=
    if inputs.all (fun input => input.toNat < bn254ScalarOrder) then
      some (BitVec.ofNat 256 (samplePoseidon (inputs.map BitVec.toNat) % bn254ScalarOrder))
    else none

def sampleCircomlib : Circomlib :=
  circomlibOf fun inputs => (samplePoseidon (inputs.map ZMod.val) : Fr)

theorem poseidonAgrees_sample : PoseidonAgrees sampleRuntime sampleCircomlib := by
  intro inputs _
  have hall : (inputs.map fieldBytes).all (fun input => input.toNat < bn254ScalarOrder) = true := by
    rw [List.all_map, List.all_eq_true]
    intro input _
    rw [Function.comp_apply, decide_eq_true_iff, toNat_fieldBytes]
    exact ZMod.val_lt input
  have hvalues : (inputs.map fieldBytes).map BitVec.toNat = inputs.map ZMod.val := by
    rw [List.map_map]
    exact List.map_congr_left fun input _ => toNat_fieldBytes input
  simp only [sampleRuntime, hall, if_true, hvalues]
  rw [fieldBytes, sampleCircomlib, circomlibOf, ZMod.val_natCast]

theorem zeroLadder_sample : ZeroLadder sampleRuntime := by
  have hladder : ∀ level < 32, sampleRuntime.poseidon
      [canonicalFieldBytes (routeZeroHash level), canonicalFieldBytes (routeZeroHash level)] =
        some (routeZeroHash (level + 1)) := by
    decide +kernel
  intro level hlevel
  rw [poseidon2, hladder level hlevel]
  rfl

/-- The first route of a tree opens against the root that the program stores for it. -/
theorem opens_sampleEntry :
    ∃ next root, appendRoutes sampleRuntime (fun _ => none) [sampleEntry] = .ok next ∧
      next tipRouteRootAddress = some (.routeRoot root) ∧
      SparsePath32 sampleCircomlib (leavesOf sampleCircomlib [sampleEntry] 0) 0
        (leafSiblings sampleCircomlib (leavesOf sampleCircomlib [sampleEntry]) 0)
        (fieldOf root.root) := by
  obtain ⟨next, root, happend, hstored, -, -, hopens⟩ :=
    @appendRoutes_opens sampleRuntime sampleCircomlib (fun _ => none) poseidonAgrees_sample
      zeroLadder_sample rfl [sampleEntry] (by decide)
  exact ⟨next, root, happend, hstored (List.cons_ne_nil _ _), (hopens 0 sampleEntry rfl).2⟩

end Sample

end TsnProtocol.Tip.RouteTree
