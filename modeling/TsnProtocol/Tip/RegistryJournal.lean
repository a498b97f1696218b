import TsnProtocol.Tip.RouteTree
import TsnProtocol.Tip.StagedCreation

/-!
The creations of a run of the TIP program, direct and staged ones together, against what its
accounts hold: registries and owner recoveries are written once, and the route root is the
tree of all creations in their order.
-/

namespace TsnProtocol.Tip.RegistryJournal

open Gpru.Verifier (tipRouteRootAddress)
open HiddenHead.Circuit
open Lib.Checked
open Lib.SparseMerkle
open Lib.Transition
open Solana.Address
open Tip.Creation
open Tip.OwnerApproval
open Tip.Registrar
open Tip.RegistryReaders (sampleWorld)
open Tip.RouteTree
open Tip.StagedCreation (Step step finalize_eq_ok stage_eq_ok appendChunk_eq_ok
  addresses_of_apply)
open Tip.State

variable {runtime : Runtime} {lib : Circomlib} {call : Call} {world next start : World}
  {accounts : CreateTinV1Accounts}

section Effects

/-- A creation: the transaction it was made in, and the request. -/
abbrev Made := Call × CreateTinV1Params

/-- The creation an instruction makes. -/
def creation (world : World) (input : Step) : Option Made :=
  match input.instruction with
  | .createTinV1 _ params => some (input.call, params)
  | .tinV1CreationFinalize _ staging _ =>
      match world staging with
      | some (.staging state) => some (input.call, stagedParams state)
      | _ => none
  | _ => none

/-- The creations of a run in their order. -/
def creations : List (World × Step) → List Made
  | [] => []
  | (world, input) :: history => creations history ++ (creation world input).toList

def ownerRecovery (runtime : Runtime) (params : CreateTinV1Params) :
    TinV1OwnerRecoveryAccount where
  version := ownerRecoveryVersion
  bump := runtime.bump (tinV1OwnerRecoveryPda params.ownerPubkey)
  ownerPubkey := params.ownerPubkey
  encryptedTin := params.encryptedTinRecovery

/-- An account that neither the start of the program nor an upload is written to. -/
structure Recorded (key : Pubkey) : Prop where
  ne_global : key ≠ globalStatePda
  ne_staging : ∀ owner intentHash, key ≠ tinV1CreationStagingPda owner intentHash

theorem recorded_routeRoot : Recorded tipRouteRootAddress :=
  ⟨nofun, nofun⟩

theorem recorded_tinV1Pda (lookupCommitment : Bytes32) : Recorded (tinV1Pda lookupCommitment) :=
  ⟨nofun, by simp [tinV1CreationStagingPda, tinV1Pda, findProgramAddress]⟩

theorem recorded_recovery (owner : Bytes32) : Recorded (tinV1OwnerRecoveryPda owner) :=
  ⟨nofun, by simp [tinV1CreationStagingPda, tinV1OwnerRecoveryPda, findProgramAddress]⟩

theorem recovery_of_apply {params : CreateTinV1Params}
    (hstep : apply runtime call accounts params world = .ok next) :
    next (tinV1OwnerRecoveryPda params.ownerPubkey) =
      some (.recovery (ownerRecovery runtime params)) := by
  have hfresh := (created_of_apply hstep).recovery_fresh
  rcases addresses_of_apply hstep with ⟨⟨global, hglobal⟩, -, -, hrecovery⟩
  simp only [apply, writeCreation, bind_eq_ok, pure_eq_ok] at hstep
  rcases hstep with ⟨_, -, _, -, _, -, stored, hstored, appended, happended, _, -, rfl⟩
  rcases createPdaAccount_eq_ok.mp hstored with ⟨-, -, rfl⟩
  rw [← hrecovery] at hfresh ⊢
  have hneGlobal : accounts.ownerRecovery ≠ accounts.globalState := by
    intro hsame
    rw [← hsame, hfresh] at hglobal
    cases hglobal
  rw [Function.update_of_ne hneGlobal, (appendRoute_eq_ok happended).2, Function.update_self]
  · rfl
  · rw [hrecovery]
    nofun

theorem placed_of_finalize {key : Pubkey} {intent : Bytes32}
    (hstep : finalize runtime call accounts key intent world = .ok next) :
    ∃ owner intentHash, key = tinV1CreationStagingPda owner intentHash := by
  simp only [finalize, assertPda, bind_eq_ok, require_eq_ok] at hstep
  rcases hstep with ⟨_, -, _, -, state, -, _, -, _, hkey, -⟩
  exact ⟨_, _, hkey⟩

theorem closeExpired_elsewhere {key other : Pubkey} {intent : Bytes32}
    (hother : Recorded other) (hstep : closeExpired call key intent world = .ok next) :
    next other = world other := by
  simp only [closeExpired, assertPda, bind_eq_ok, require_eq_ok, pure_eq_ok] at hstep
  rcases hstep with ⟨_, -, _, -, state, -, _, -, _, rfl, rfl⟩
  exact Function.update_of_ne (hother.ne_staging _ _) _ _

/-- Every other instruction leaves the recorded accounts as they are. -/
theorem same_of_step {input : Step} {key : Pubkey} (hkey : Recorded key)
    (hnone : creation world input = none) (hstep : step runtime world input = .ok next) :
    next key = world key := by
  rcases input with ⟨call, instruction⟩
  cases instruction with
  | initializeProgram globalState params =>
      simp only [step, processInstruction, initializeProgram, assertPda, bind_eq_ok,
        require_eq_ok, createPdaAccount_eq_ok] at hstep
      rcases hstep with ⟨_, -, _, -, _, -, _, rfl, -, -, rfl⟩
      exact Function.update_of_ne hkey.ne_global _ _
  | createTinV1 accounts params => cases hnone
  | tinV1CreationStage staging params =>
      rcases stage_eq_ok hstep with ⟨rfl, ⟨-, rfl⟩ | ⟨-, rfl⟩⟩
      · exact Function.update_of_ne (hkey.ne_staging _ _) _ _
      · rfl
  | tinV1CreationChunk staging chunk =>
      rcases appendChunk_eq_ok.mp hstep with ⟨-, state, after, -, -, rfl, -, rfl⟩
      exact Function.update_of_ne (hkey.ne_staging _ _) _ _
  | tinV1CreationFinalize accounts staging intent =>
      rcases finalize_eq_ok hstep with ⟨state, -, hstored, -⟩
      simp only [creation, hstored] at hnone
      cases hnone
  | tinV1CreationClose staging intent => exact closeExpired_elsewhere hkey hstep

/-- A creation is the direct one of its request, up to a staging account that it closes. -/
theorem apply_of_step {input : Step} {made : Made}
    (hsome : creation world input = some made) (hstep : step runtime world input = .ok next) :
    ∃ accounts direct, apply runtime made.1 accounts made.2 world = .ok direct ∧
      ∀ key, Recorded key → next key = direct key := by
  rcases input with ⟨call, instruction⟩
  cases instruction with
  | createTinV1 accounts params =>
      cases hsome
      exact ⟨accounts, next, hstep, fun _ _ => rfl⟩
  | tinV1CreationFinalize accounts staging intent =>
      rcases placed_of_finalize hstep with ⟨owner, intentHash, rfl⟩
      rcases finalize_eq_ok hstep with ⟨state, direct, hstored, -, -, -, happly, rfl⟩
      simp only [creation, hstored, Option.some.injEq] at hsome
      subst hsome
      refine ⟨accounts, direct, happly, ?_⟩
      intro key hkey
      exact Function.update_of_ne (hkey.ne_staging _ _) _ _
  | initializeProgram _ _ | tinV1CreationStage _ _ | tinV1CreationChunk _ _
  | tinV1CreationClose _ _ => cases hsome

end Effects

section Journals

/-- The routes of creations, as the tree takes them. -/
def routesOf (created : List Made) : List (Bytes32 × TipRoute) :=
  created.map fun made => (made.2.lookupCommitment, made.2.route)

/-- What the accounts hold after some creations. -/
structure Journal (runtime : Runtime) (lib : Circomlib) (created : List Made)
    (world : World) : Prop where
  approved : ∀ made ∈ created, verifyOwnerIntent made.1.instructionsSysvar made.2.ownerPubkey
    (ownerIntentHash runtime made.2) = some true
  lookups : (created.map fun made => made.2.lookupCommitment).Nodup
  owners : (created.map fun made => made.2.ownerPubkey).Nodup
  registries : ∀ made ∈ created, world (tinV1Pda made.2.lookupCommitment) =
    some (.registry (registryAccount runtime made.1 made.2).serialize)
  recoveries : ∀ made ∈ created, world (tinV1OwnerRecoveryPda made.2.ownerPubkey) =
    some (.recovery (ownerRecovery runtime made.2))
  only : ∀ lookupCommitment, world (tinV1Pda lookupCommitment) ≠ none →
    ∃ made ∈ created, made.2.lookupCommitment = lookupCommitment
  length_lt : created.length < 2 ^ 32
  routes : ∃ root, routeRootIn runtime world = some root ∧
    Holds runtime lib (routesOf created) root

theorem Journal.of_same {created : List Made} (hjournal : Journal runtime lib created world)
    (hsame : ∀ key, Recorded key → next key = world key) :
    Journal runtime lib created next where
  approved := hjournal.approved
  lookups := hjournal.lookups
  owners := hjournal.owners
  registries made hmade := by
    rw [hsame _ (recorded_tinV1Pda _), hjournal.registries made hmade]
  recoveries made hmade := by
    rw [hsame _ (recorded_recovery _), hjournal.recoveries made hmade]
  only lookupCommitment := by
    rw [hsame _ (recorded_tinV1Pda _)]
    exact hjournal.only lookupCommitment
  length_lt := hjournal.length_lt
  routes := by
    rw [routeRootIn_congr (hsame _ recorded_routeRoot)]
    exact hjournal.routes

theorem nodup_map_concat {Item Key : Type} {key : Item → Key} {items : List Item} {item : Item}
    (hnodup : (items.map key).Nodup) (hnew : ∀ other ∈ items, key other ≠ key item) :
    ((items ++ [item]).map key).Nodup := by
  rw [List.map_append, List.nodup_append]
  refine ⟨hnodup, List.nodup_singleton _, ?_⟩
  intro found hfound last hlast
  rcases List.mem_map.mp hfound with ⟨other, hother, rfl⟩
  rw [List.mem_singleton.mp hlast]
  exact hnew other hother

end Journals

section Steps

variable (hagrees : PoseidonAgrees runtime lib) (hladder : ZeroLadder runtime)

include hagrees hladder

/-- The tree after a creation. -/
theorem holds_of_routeAppended {entries : List (Bytes32 × TipRoute)}
    {before after : TipRouteMerkleRootV1} (entry : Bytes32 × TipRoute)
    (hholds : Holds runtime lib entries before)
    (happended : RouteAppended runtime entry.1 entry.2 before after) :
    Holds runtime lib (entries ++ [entry]) after := by
  have hcount := happended.leafCount_lt
  rw [hholds.leafCount] at hcount
  rcases happended.leaf with ⟨leaf, hleaf, happend⟩
  obtain rfl := Except.ok.inj ((routeLeaf_eq_ok hagrees entry).symm.trans hleaf)
  rcases appendLeaf_eq_ok hagrees hladder hholds (by omega) entry with
    ⟨reached, hreached, hnext⟩
  obtain rfl := Except.ok.inj (hreached.symm.trans happend)
  exact hnext

theorem journal_apply {created : List Made} {made : Made}
    (hjournal : Journal runtime lib created world)
    (hstep : apply runtime made.1 accounts made.2 world = .ok next) :
    Journal runtime lib (created ++ [made]) next := by
  have hcreated := created_of_apply hstep
  rcases hcreated.global with ⟨global, _, hglobal, -⟩
  rcases hjournal.routes with ⟨root, hroot, hholds⟩
  rcases hcreated.routes with ⟨before, after, hbefore, happended, hafter⟩
  obtain rfl := Option.some.inj (hroot.symm.trans hbefore)
  -- the global state may be any account of its kind, hence none of those recorded
  have hnewLookup : ∀ earlier ∈ created,
      earlier.2.lookupCommitment ≠ made.2.lookupCommitment := by
    intro earlier hearlier hsame
    have hregistry := hjournal.registries earlier hearlier
    rw [hsame, hcreated.registry_fresh] at hregistry
    cases hregistry
  have hnewOwner : ∀ earlier ∈ created, earlier.2.ownerPubkey ≠ made.2.ownerPubkey := by
    intro earlier hearlier hsame
    have hrecovery := hjournal.recoveries earlier hearlier
    rw [hsame, hcreated.recovery_fresh] at hrecovery
    cases hrecovery
  have hregistry : ∀ lookupCommitment, lookupCommitment ≠ made.2.lookupCommitment →
      next (tinV1Pda lookupCommitment) = world (tinV1Pda lookupCommitment) := by
    intro lookupCommitment hne
    refine hcreated.untouched _ ?_ (by rintro ⟨⟩) ?_ (tinV1Pda_ne_recovery _ _)
    · intro hsame
      rw [← hsame] at hglobal
      rcases hjournal.only lookupCommitment (by simp [hglobal]) with ⟨earlier, hearlier, rfl⟩
      rw [hjournal.registries earlier hearlier] at hglobal
      cases hglobal
    · simpa [tinV1Pda, findProgramAddress] using hne
  have hrecovery : ∀ earlier ∈ created,
      next (tinV1OwnerRecoveryPda earlier.2.ownerPubkey) =
        world (tinV1OwnerRecoveryPda earlier.2.ownerPubkey) := by
    intro earlier hearlier
    refine hcreated.untouched _ ?_ (by rintro ⟨⟩) (tinV1Pda_ne_recovery _ _).symm ?_
    · intro hsame
      rw [← hsame, hjournal.recoveries earlier hearlier] at hglobal
      cases hglobal
    · simpa [tinV1OwnerRecoveryPda, findProgramAddress] using hnewOwner earlier hearlier
  constructor
  · rw [List.forall_mem_append, List.forall_mem_singleton]
    exact ⟨hjournal.approved, hcreated.approved⟩
  · exact nodup_map_concat hjournal.lookups hnewLookup
  · exact nodup_map_concat hjournal.owners hnewOwner
  · rw [List.forall_mem_append, List.forall_mem_singleton]
    refine ⟨?_, hcreated.registry⟩
    intro earlier hearlier
    rw [hregistry _ (hnewLookup earlier hearlier), hjournal.registries earlier hearlier]
  · rw [List.forall_mem_append, List.forall_mem_singleton]
    refine ⟨?_, recovery_of_apply hstep⟩
    intro earlier hearlier
    rw [hrecovery earlier hearlier, hjournal.recoveries earlier hearlier]
  · intro lookupCommitment hne
    by_cases hsame : lookupCommitment = made.2.lookupCommitment
    · exact ⟨made, by simp, hsame.symm⟩
    · rw [hregistry lookupCommitment hsame] at hne
      rcases hjournal.only lookupCommitment hne with ⟨earlier, hearlier, hlookup⟩
      exact ⟨earlier, List.mem_append_left _ hearlier, hlookup⟩
  · have hcount := happended.leafCount_lt
    rw [hholds.leafCount, routesOf, List.length_map] at hcount
    rw [List.length_append, List.length_singleton]
    omega
  · refine ⟨after, by rw [routeRootIn, hafter], ?_⟩
    rw [routesOf, List.map_append]
    exact holds_of_routeAppended hagrees hladder (made.2.lookupCommitment, made.2.route)
      hholds happended

theorem journal_step {created : List Made} {input : Step}
    (hjournal : Journal runtime lib created world)
    (hstep : step runtime world input = .ok next) :
    Journal runtime lib (created ++ (creation world input).toList) next := by
  cases hmade : creation world input with
  | none =>
      rw [Option.toList_none, List.append_nil]
      exact hjournal.of_same fun key hkey => same_of_step hkey hmade hstep
  | some made =>
      rcases apply_of_step hmade hstep with ⟨accounts, direct, happly, hsame⟩
      exact (journal_apply hagrees hladder hjournal happly).of_same hsame

end Steps

section Results

variable {history : List (World × Step)}

theorem creations_append (later history : List (World × Step)) :
    creations (later ++ history) = creations history ++ creations later := by
  induction later with
  | nil => exact (List.append_nil _).symm
  | cons entry later ih => rw [List.cons_append, creations, ih, creations, List.append_assoc]

variable (hagrees : PoseidonAgrees runtime lib) (hladder : ZeroLadder runtime)
  (hroot : start tipRouteRootAddress = none)
  (hregistries : ∀ lookupCommitment, start (tinV1Pda lookupCommitment) = none)

include hagrees hladder hroot hregistries

theorem journal_empty : Journal runtime lib [] start where
  approved := nofun
  lookups := List.nodup_nil
  owners := List.nodup_nil
  registries := nofun
  recoveries := nofun
  only lookupCommitment hne := absurd (hregistries lookupCommitment) hne
  length_lt := by simp
  routes := ⟨emptyRouteRoot runtime, by rw [routeRootIn, hroot],
    holds_emptyRouteRoot hagrees hladder⟩

theorem recorded_of_run (hrun : Run (step runtime) start history world) :
    Journal runtime lib (creations history) world :=
  hrun.induct_on (fun history world => Journal runtime lib (creations history) world)
    (journal_empty hagrees hladder hroot hregistries)
    fun _ _ _ _ _ hjournal hstep => journal_step hagrees hladder hjournal hstep

end Results

section Sample

/-- The runtime of a tree of one route, with a hash that accepts that route. -/
def journalRuntime : Runtime :=
  { RouteTree.sampleRuntime with sha256 := fun _ => 2 }

def sampleMade : Made :=
  let params := request journalRuntime 11 sampleEntry.1 sampleEntry.2
  (approvedCall 11 params.intentHash, params)

def sampleStep : Step :=
  ⟨sampleMade.1, .createTinV1 (canonicalAccounts sampleMade.2) sampleMade.2⟩

end Sample

end TsnProtocol.Tip.RegistryJournal
