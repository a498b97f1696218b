import TsnProtocol.Tip.Registrar

/-!
What a successful TIN creation has checked and what it leaves behind.
-/

namespace TsnProtocol.Tip.Creation

open Gpru.Verifier (asciiBytes tipProgram tipRouteRootAddress)
open Lib.ByteReader
open Lib.Checked
open Solana.Address
open Solana.Ed25519
open Tip.OwnerApproval
open Tip.State
open Tip.Registrar

variable {runtime : Runtime} {call : Call} {accounts : CreateTinV1Accounts}
  {params : CreateTinV1Params} {world next : World}

/-- The route root a creation appends to. -/
def routeRootIn (runtime : Runtime) (world : World) : Option TipRouteMerkleRootV1 :=
  match world tipRouteRootAddress with
  | none => some (emptyRouteRoot runtime)
  | some (.routeRoot root) => some root
  | some _ => none

/-- The effect of a creation on the tree of routes. -/
structure RouteAppended (runtime : Runtime) (lookupCommitment : Bytes32) (route : TipRoute)
    (before after : TipRouteMerkleRootV1) : Prop where
  leafCount_lt : before.leafCount < 2 ^ 32 - 1
  leaf : ∃ leaf, routeLeaf runtime lookupCommitment route = .ok leaf ∧
    appendLeaf runtime before leaf = .ok after

/-- The effect of a creation. -/
structure Created (runtime : Runtime) (call : Call) (accounts : CreateTinV1Accounts)
    (params : CreateTinV1Params) (world next : World) : Prop where
  lookup_ne : params.lookupCommitment ≠ 0
  routeVersion_ne : params.routeVersion ≠ 0
  route_valid : validateTipRoute runtime params.route = true
  approved : verifyOwnerIntent call.instructionsSysvar params.ownerPubkey
    (ownerIntentHash runtime params) = some true
  registry_fresh : world (tinV1Pda params.lookupCommitment) = none
  recovery_fresh : world (tinV1OwnerRecoveryPda params.ownerPubkey) = none
  identity_lt : params.encryptedIdentityEnvelope.length < 2 ^ 32
  seed_lt : params.encryptedMasterSeed.length < 2 ^ 32
  global : ∃ before after, world accounts.globalState = some (.global before) ∧
    next accounts.globalState = some (.global after)
  registry : next (tinV1Pda params.lookupCommitment) =
    some (.registry (registryAccount runtime call params).serialize)
  routes : ∃ before after, routeRootIn runtime world = some before ∧
    RouteAppended runtime params.lookupCommitment params.route before after ∧
      next tipRouteRootAddress = some (.routeRoot after)
  untouched : ∀ key, key ≠ accounts.globalState → key ≠ tipRouteRootAddress →
    key ≠ tinV1Pda params.lookupCommitment → key ≠ tinV1OwnerRecoveryPda params.ownerPubkey →
      next key = world key

theorem createPdaAccount_eq_ok {key : Pubkey} {space : Nat} {account : Account} :
    createPdaAccount world key space account = .ok next ↔
      world key = none ∧ space ≤ maxPermittedDataLength ∧
        Function.update world key (some account) = next := by
  simp [createPdaAccount, dataIsEmpty, Option.isNone_iff_eq_none]

theorem storeBorsh_serialize (account : TinV1Account) :
    storeBorsh (TinV1Account.space account.encryptedIdentityEnvelope.length
      account.encryptedMasterSeed.length) account.serialize = .ok account.serialize := by
  simp [storeBorsh, ← length_serialize, require, bind, Except.bind, pure, Except.pure]

theorem assertProgramOwned_eq_ok {key : Pubkey} {account : Account} :
    assertProgramOwned world key = .ok account ↔
      world key = some account ∧ account ≠ .foreign := by
  simp only [assertProgramOwned, bind_eq_ok, okOr_eq_ok, require_eq_ok, pure_eq_ok]
  constructor
  · rintro ⟨account, hget, _, hforeign, rfl⟩
    exact ⟨hget, hforeign⟩
  · rintro ⟨hget, hforeign⟩
    exact ⟨account, hget, (), hforeign, rfl⟩

theorem loadGlobalState_eq_ok {account : Account} {state : GlobalState} :
    loadGlobalState account = .ok state ↔ account = .global state := by
  cases account <;> simp [loadGlobalState]

theorem loadRouteRoot_eq_ok {account : Account} {state : TipRouteMerkleRootV1} :
    loadRouteRoot account = .ok state ↔ account = .routeRoot state := by
  cases account <;> simp [loadRouteRoot]

theorem loadStaging_eq_ok {account : Account} {state : TinV1CreationStaging} :
    loadStaging account = .ok state ↔ account = .staging state := by
  cases account <;> simp [loadStaging]

theorem openRouteRoot_eq_ok {account : Pubkey} {root : TipRouteMerkleRootV1}
    (hok : openRouteRoot runtime world account = .ok (next, root)) :
    account = tipRouteRootAddress ∧ routeRootIn runtime world = some root ∧
      ∀ key, key ≠ tipRouteRootAddress → next key = world key := by
  simp only [openRouteRoot, assertPda, bind_eq_ok, require_eq_ok] at hok
  obtain ⟨_, rfl, hok⟩ := hok
  refine ⟨rfl, ?_⟩
  split at hok
  · simp only [bind_eq_ok, createPdaAccount_eq_ok, pure_eq_ok, Prod.mk.injEq] at hok
    obtain ⟨_, ⟨hnone, _, rfl⟩, rfl, rfl⟩ := hok
    exact ⟨by simp [routeRootIn, hnone], fun key hkey => Function.update_of_ne hkey _ _⟩
  · simp only [bind_eq_ok, assertProgramOwned_eq_ok, loadRouteRoot_eq_ok, pure_eq_ok,
      Prod.mk.injEq] at hok
    obtain ⟨_, ⟨hsome, _⟩, _, rfl, rfl, rfl⟩ := hok
    exact ⟨by simp [routeRootIn, hsome], fun _ _ => rfl⟩

theorem appendRoute_eq_ok {account : Pubkey} {lookupCommitment : Bytes32} {route : TipRoute}
    (hok : appendRoute runtime world account lookupCommitment route = .ok next) :
    (∃ before after, routeRootIn runtime world = some before ∧
      RouteAppended runtime lookupCommitment route before after ∧
        next tipRouteRootAddress = some (.routeRoot after)) ∧
      ∀ key, key ≠ tipRouteRootAddress → next key = world key := by
  simp only [appendRoute, bind_eq_ok, require_eq_ok, pure_eq_ok] at hok
  obtain ⟨⟨opened, before⟩, hopen, _, hroot, leaf, hleaf, after, hafter, rfl⟩ := hok
  obtain ⟨rfl, hbefore, hframe⟩ := openRouteRoot_eq_ok hopen
  refine ⟨⟨before, after, hbefore, ⟨hroot.2.2, leaf, hleaf, hafter⟩, Function.update_self ..⟩,
    fun key hkey => ?_⟩
  rw [Function.update_of_ne hkey]
  exact hframe key hkey

theorem length_lt_of_space {identityLen seedLen : Nat}
    (hspace : TinV1Account.space identityLen seedLen ≤ maxPermittedDataLength) :
    identityLen < 2 ^ 32 ∧ seedLen < 2 ^ 32 := by
  simp only [TinV1Account.space, maxPermittedDataLength] at hspace
  omega

theorem routeRootIn_congr {other : World}
    (hroot : world tipRouteRootAddress = other tipRouteRootAddress) :
    routeRootIn runtime world = routeRootIn runtime other := by
  simp only [routeRootIn, hroot]

theorem tinV1Pda_ne_recovery (lookupCommitment owner : Bytes32) :
    tinV1Pda lookupCommitment ≠ tinV1OwnerRecoveryPda owner := by
  simp [tinV1Pda, tinV1OwnerRecoveryPda, findProgramAddress]

/-- The first writes of a creation, to two new accounts. -/
theorem created_of_writes {lookupCommitment owner : Bytes32} {stored : World}
    {registry zero recovery : Account}
    (hstored : Function.update (Function.update (Function.update world
      (tinV1Pda lookupCommitment) (some zero)) (tinV1Pda lookupCommitment) (some registry))
      (tinV1OwnerRecoveryPda owner) (some recovery) = stored) :
    stored (tinV1Pda lookupCommitment) = some registry ∧
      ∀ key, key ≠ tinV1Pda lookupCommitment → key ≠ tinV1OwnerRecoveryPda owner →
        stored key = world key := by
  subst hstored
  refine ⟨?_, fun key hregistry hrecovery => ?_⟩
  · rw [Function.update_of_ne (tinV1Pda_ne_recovery lookupCommitment owner), Function.update_self]
  · rw [Function.update_of_ne hrecovery, Function.update_of_ne hregistry,
      Function.update_of_ne hregistry]

theorem created_of_apply (hok : apply runtime call accounts params world = .ok next) :
    Created runtime call accounts params world next := by
  simp only [apply, writeCreation, bind_eq_ok, pure_eq_ok, createPdaAccount_eq_ok] at hok
  obtain ⟨global, hcheck, created, ⟨hregistry, hspace, rfl⟩, data, hdata, stored,
    ⟨hrecovery, _, hstored⟩, appended, happend, nextSequence, _, rfl⟩ := hok
  simp only [checkCreation, assertPda, bind_eq_ok, require_eq_ok, okOr_eq_ok,
    assertProgramOwned_eq_ok, loadGlobalState_eq_ok] at hcheck
  obtain ⟨_, _, _, hfields, _, hvalid, _, ⟨hglobal, _⟩, _, _, _, _, approved, happroved, _,
    rfl, _, hregistryKey, _, hrecoveryKey, _, hrecoveryFresh, rfl⟩ := hcheck
  rw [storeBorsh_serialize] at hdata
  obtain rfl := Except.ok.inj hdata
  rw [hregistryKey] at hregistry
  rw [hregistryKey, hrecoveryKey] at hstored
  obtain ⟨hstoredRegistry, hstoredFrame⟩ := created_of_writes hstored
  obtain ⟨⟨before, after, hbefore, hroutes, hroot⟩, hframe⟩ := appendRoute_eq_ok happend
  obtain ⟨hidentity, hseed⟩ := length_lt_of_space hspace
  have hneRoot : tinV1Pda params.lookupCommitment ≠ tipRouteRootAddress := by
    rintro ⟨⟩
  rw [routeRootIn_congr (hstoredFrame tipRouteRootAddress (by rintro ⟨⟩) (by rintro ⟨⟩))] at hbefore
  have hneGlobal : tinV1Pda params.lookupCommitment ≠ accounts.globalState := by
    intro heq
    rw [← heq, hregistry] at hglobal
    cases hglobal
  have hneGlobalRoot : tipRouteRootAddress ≠ accounts.globalState := by
    intro heq
    rw [routeRootIn, heq, hglobal] at hbefore
    cases hbefore
  refine ⟨hfields.1, hfields.2.2.2.2.1, hvalid, happroved, hregistry, ?_, hidentity, hseed,
    ⟨global, _, hglobal, Function.update_self ..⟩, ?_, ⟨before, after, hbefore, hroutes, ?_⟩,
    fun key hkeyGlobal hkeyRoot hkeyRegistry hkeyRecovery => ?_⟩
  · rw [dataIsEmpty, hrecoveryKey] at hrecoveryFresh
    exact Option.isNone_iff_eq_none.mp hrecoveryFresh
  · rw [Function.update_of_ne hneGlobal, hframe _ hneRoot, hstoredRegistry]
  · rw [Function.update_of_ne hneGlobalRoot, hroot]
  · rw [Function.update_of_ne hkeyGlobal, hframe key hkeyRoot,
      hstoredFrame key hkeyRegistry hkeyRecovery]

section Sample

def approvalHeader : List Byte :=
  [1, 0, 48, 0, 255, 255, 16, 0, 255, 255, 112, 0, 109, 1, 255, 255]

/-- Data of an instruction in which an owner approves an intent, the signature left out. -/
def ownerApproval (owner intentHash : Bytes32) : List Byte :=
  approvalHeader ++ (wordBytes owner ++
    (wordBytes 0 ++ wordBytes 0 ++ canonicalOwnerIntentMessage intentHash))

/-- A transaction with the approval of the owner in front. -/
def approvedCall (owner intentHash : Bytes32) : Call where
  payerIsSigner := true
  unixTimestamp := 100
  instructionsSysvar := ⟨instructionsId,
    ⟨[⟨ed25519Program, [], ownerApproval owner intentHash⟩, ⟨tipProgram, [], []⟩], 1⟩⟩

/-- The accounts a creation is meant to be given. -/
def canonicalAccounts (params : CreateTinV1Params) : CreateTinV1Accounts where
  globalState := globalStatePda
  routeRoot := tipRouteRootAddress
  registry := tinV1Pda params.lookupCommitment
  ownerRecovery := tinV1OwnerRecoveryPda params.ownerPubkey

/-- A request with small envelopes. -/
def request (runtime : Runtime) (owner lookupCommitment : Bytes32) (route : TipRoute) :
    CreateTinV1Params :=
  let params : CreateTinV1Params :=
    ⟨owner, lookupCommitment, List.replicate 28 7, [1], [2], 3, 1, 4, route, 0, 200⟩
  { params with intentHash := ownerIntentHash runtime params }

theorem length_hexBytes (bytes : List Byte) : (hexBytes bytes).length = 2 * bytes.length := by
  induction bytes with
  | nil => rfl
  | cons byte bytes ih =>
      simp only [hexBytes, List.flatMap_cons, List.length_append, List.length_cons] at ih ⊢
      simp only [ih, List.length_nil]
      omega

theorem length_canonicalOwnerIntentMessage (intentHash : Bytes32) :
    (canonicalOwnerIntentMessage intentHash).length = 365 := by
  simp only [canonicalOwnerIntentMessage, asciiBytes, List.length_append, List.length_map,
    String.length_toList, String.length_append, length_hexBytes, length_wordBytes]
  -- the texts are counted by a lemma: evaluated, they are costly to take apart
  conv_lhs => enter [1, 1, 1]; rw [String.length_ofList]
  conv_lhs => enter [1, 1, 2]; rw [String.length_ofList]
  conv_lhs => enter [2, 1, 1]; rw [String.length_ofList]
  conv_lhs => enter [2, 1, 2]; rw [String.length_ofList]
  conv_lhs => enter [2, 2]; rw [String.length_ofList]
  rfl

theorem carries_ownerApproval (owner intentHash : Bytes32) :
    Carries (ownerApproval owner intentHash) (wordBytes owner)
      (canonicalOwnerIntentMessage intentHash) := by
  have hlength := length_canonicalOwnerIntentMessage intentHash
  have hsplit : ownerApproval owner intentHash =
      (approvalHeader ++ (wordBytes owner ++ (wordBytes 0 ++ wordBytes 0))) ++
        (canonicalOwnerIntentMessage intentHash ++ []) := by
    simp only [ownerApproval, List.append_assoc, List.append_nil]
  have hoffsets : signatureOffsets (ownerApproval owner intentHash) 0 =
      some ⟨48, 65535, 16, 65535, 112, 365, 65535⟩ := by
    have hheader {offset : Nat} (hoffset : offset ≤ 14) :
        u16At (ownerApproval owner intentHash) offset = u16At approvalHeader offset :=
      u16At_append_left (by simpa [approvalHeader] using hoffset) _
    simp only [signatureOffsets, hheader (show 2 ≤ 14 by decide),
      hheader (show 4 ≤ 14 by decide), hheader (show 6 ≤ 14 by decide),
      hheader (show 8 ≤ 14 by decide), hheader (show 10 ≤ 14 by decide),
      hheader (show 12 ≤ 14 by decide), hheader (show 14 ≤ 14 by decide)]
    decide
  refine ⟨?_, rfl, _, hoffsets, slice_field rfl ?_, ?_⟩
  · simp only [ownerApproval, approvalHeader, List.length_append, List.length_cons,
      List.length_nil, length_wordBytes, hlength]
    decide
  · exact length_wordBytes owner
  · rw [hsplit]
    exact slice_field (by simp [approvalHeader]) hlength

theorem approved_approvedCall (owner intentHash : Bytes32) :
    verifyOwnerIntent (approvedCall owner intentHash).instructionsSysvar owner intentHash =
      some true :=
  verifyOwnerIntent_iff.mpr ⟨rfl, 0, Nat.one_pos, _, rfl, rfl, carries_ownerApproval ..⟩

/-- The creation an owner requests and approves. -/
def create (runtime : Runtime) (owner lookupCommitment : Bytes32) (route : TipRoute)
    (world : World) : Result World :=
  let params := request runtime owner lookupCommitment route
  apply runtime (approvedCall owner params.intentHash) (canonicalAccounts params) params world

/-- A request with a valid route, approved by its owner, passes all checks where its
accounts are new. -/
theorem create_eq {owner lookupCommitment : Bytes32} {route : TipRoute}
    (hlookup : lookupCommitment ≠ 0) (hroute : validateTipRoute runtime route = true)
    {global : GlobalState} (hglobal : world globalStatePda = some (.global global))
    (hregistry : world (tinV1Pda lookupCommitment) = none)
    (hrecovery : world (tinV1OwnerRecoveryPda owner) = none) :
    create runtime owner lookupCommitment route world =
      writeCreation runtime
        (approvedCall owner (request runtime owner lookupCommitment route).intentHash)
        (canonicalAccounts (request runtime owner lookupCommitment route))
        (request runtime owner lookupCommitment route) world global := by
  suffices checkCreation runtime
      (approvedCall owner (request runtime owner lookupCommitment route).intentHash)
      (canonicalAccounts (request runtime owner lookupCommitment route))
      (request runtime owner lookupCommitment route) world = .ok global by
    rw [create, apply, this]
    rfl
  let params := request runtime owner lookupCommitment route
  simp only [checkCreation, bind_eq_ok, require_eq_ok, okOr_eq_ok, assertPda,
    assertProgramOwned_eq_ok, loadGlobalState_eq_ok]
  refine ⟨(), ⟨rfl, rfl⟩, (), ⟨hlookup, by simp [request], by simp [request],
    by simp [request], by simp [request], rfl⟩, (), hroute, .global global,
    ⟨hglobal, by rintro ⟨⟩⟩, (), ?_, (), rfl, true, ?_, (), rfl, (), rfl, (), rfl, (), ?_, rfl⟩
  · exact Option.isNone_iff_eq_none.mpr hregistry
  · exact approved_approvedCall owner params.intentHash
  · exact Option.isNone_iff_eq_none.mpr hrecovery

end Sample

end TsnProtocol.Tip.Creation
