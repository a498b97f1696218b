import TsnProtocol.Tip.RegistryReaders

/-!
Staged creation of TINs. A staging account holds a request and the prefixes received of
its three parts; a run fixes what it holds, and finalizing it is the direct creation with
the chunks put together.
-/

namespace TsnProtocol.Tip.StagedCreation

open Gpru.Verifier (tipProgram tipRouteRootAddress)
open Lib.ByteReader
open Lib.Checked
open Lib.Transition
open Solana.Address
open Tip.State
open Tip.Registrar
open Tip.Creation
open Tip.RegistryReaders (sampleRuntime sampleRoute sampleWorld)

variable {runtime : Runtime} {call : Call} {world next start : World} {staging : Pubkey}

/-- An instruction with the transaction it runs in. -/
structure Step where
  call : Call
  instruction : ProgramInstruction

def step (runtime : Runtime) (world : World) (input : Step) : Result World :=
  processInstruction runtime input.call world input.instruction

section Parts

/-- The parts of a request that are uploaded in chunks. -/
inductive Part where
  | identity | masterSeed | recovery
  deriving DecidableEq

def partOf (kind : Byte) : Option Part :=
  match kind.toNat with
  | 0 => some .identity
  | 1 => some .masterSeed
  | 3 => some .recovery
  | _ => none

def blob (state : TinV1CreationStaging) : Part → List Byte
  | .identity => state.encryptedIdentityEnvelope
  | .masterSeed => state.encryptedMasterSeed
  | .recovery => state.encryptedTinRecovery

def written (state : TinV1CreationStaging) : Part → Nat
  | .identity => state.identityWritten
  | .masterSeed => state.masterSeedWritten
  | .recovery => state.recoveryWritten

def withPart (state : TinV1CreationStaging) (part : Part) (target : List Byte)
    (stop : Nat) : TinV1CreationStaging :=
  match part with
  | .identity => { state with encryptedIdentityEnvelope := target, identityWritten := stop }
  | .masterSeed => { state with encryptedMasterSeed := target, masterSeedWritten := stop }
  | .recovery => { state with encryptedTinRecovery := target, recoveryWritten := stop }

theorem writePart_eq_ok {state after : TinV1CreationStaging}
    {chunk : TinV1CreationChunkParams} :
    writePart state chunk = .ok after ↔ ∃ part target stop, partOf chunk.kind = some part ∧
      writeChunk (blob state part) (written state part) chunk = .ok (target, stop) ∧
        withPart state part target stop = after := by
  simp only [writePart, partOf]
  constructor
  · intro hwrite
    split at hwrite
    · rename_i hkind
      simp only [bind_eq_ok, pure_eq_ok] at hwrite
      rcases hwrite with ⟨⟨target, stop⟩, hchunk, hafter⟩
      exact ⟨.identity, target, stop, by simp [hkind], hchunk, hafter⟩
    · rename_i hkind
      simp only [bind_eq_ok, pure_eq_ok] at hwrite
      rcases hwrite with ⟨⟨target, stop⟩, hchunk, hafter⟩
      exact ⟨.masterSeed, target, stop, by simp [hkind], hchunk, hafter⟩
    · rename_i hkind
      simp only [bind_eq_ok, pure_eq_ok] at hwrite
      rcases hwrite with ⟨⟨target, stop⟩, hchunk, hafter⟩
      exact ⟨.recovery, target, stop, by simp [hkind], hchunk, hafter⟩
    · cases hwrite
  · rintro ⟨part, target, stop, hpart, hchunk, hafter⟩
    split at hpart <;> cases hpart
    · rename_i hkind
      simp only [hkind, bind_eq_ok, pure_eq_ok]
      exact ⟨⟨target, stop⟩, hchunk, hafter⟩
    · rename_i hkind
      simp only [hkind, bind_eq_ok, pure_eq_ok]
      exact ⟨⟨target, stop⟩, hchunk, hafter⟩
    · rename_i hkind
      simp only [hkind, bind_eq_ok, pure_eq_ok]
      exact ⟨⟨target, stop⟩, hchunk, hafter⟩

end Parts

section Uploads

/-- A request, and what has been received of its parts. -/
structure Upload where
  params : StageTinV1CreationParams
  received : Part → List Byte

def announced (params : StageTinV1CreationParams) : Part → Nat
  | .identity => params.encryptedIdentityEnvelopeLen
  | .masterSeed => params.encryptedMasterSeedLen
  | .recovery => params.encryptedTinRecoveryLen

/-- The bytes received, and zeros for those that are missing. -/
def padded (size : Nat) (received : List Byte) : List Byte :=
  received ++ List.replicate (size - received.length) 0

/-- The staging account of an upload. -/
def Upload.account (runtime : Runtime) (upload : Upload) : TinV1CreationStaging :=
  { newStaging runtime upload.params with
    encryptedIdentityEnvelope :=
      padded upload.params.encryptedIdentityEnvelopeLen (upload.received .identity)
    identityWritten := (upload.received .identity).length
    encryptedTinRecovery :=
      padded upload.params.encryptedTinRecoveryLen (upload.received .recovery)
    recoveryWritten := (upload.received .recovery).length
    encryptedMasterSeed :=
      padded upload.params.encryptedMasterSeedLen (upload.received .masterSeed)
    masterSeedWritten := (upload.received .masterSeed).length }

/-- What a chunk adds to the bytes received: itself where it continues them, nothing where
it repeats some. -/
def continued (received : List Byte) (chunk : TinV1CreationChunkParams) : List Byte :=
  if chunk.offset = received.length then received ++ chunk.bytes else received

def Upload.extend (upload : Upload) (chunk : TinV1CreationChunkParams) : Upload :=
  { upload with
    received := fun part =>
      if partOf chunk.kind = some part then continued (upload.received part) chunk
      else upload.received part }

/-- What an accepted step makes of the upload at an address. -/
def uploadStep (staging : Pubkey) (upload : Option Upload) (input : Step) : Option Upload :=
  match input.instruction with
  | .tinV1CreationStage key params =>
      if key = staging ∧ upload.isNone then some ⟨params, fun _ => []⟩ else upload
  | .tinV1CreationChunk key chunk =>
      if key = staging then upload.map fun found => found.extend chunk else upload
  | .tinV1CreationFinalize _ key _ => if key = staging then none else upload
  | .tinV1CreationClose key _ => if key = staging then none else upload
  | .initializeProgram _ _ | .createTinV1 _ _ => upload

/-- The upload at an address after the steps of a run. -/
def uploadAfter (staging : Pubkey) : List (World × Step) → Option Upload
  | [] => none
  | (_, input) :: earlier => uploadStep staging (uploadAfter staging earlier) input

theorem blob_account (upload : Upload) (part : Part) :
    blob (upload.account runtime) part =
      padded (announced upload.params part) (upload.received part) := by
  cases part <;> rfl

theorem written_account (upload : Upload) (part : Part) :
    written (upload.account runtime) part = (upload.received part).length := by
  cases part <;> rfl

theorem writeChunk_padded {size : Nat} {received : List Byte}
    {chunk : TinV1CreationChunkParams} {target : List Byte} {stop : Nat}
    (hsize : received.length ≤ size)
    (hwrite : writeChunk (padded size received) received.length chunk = .ok (target, stop)) :
    target = padded size (continued received chunk) ∧
      stop = (continued received chunk).length ∧ (continued received chunk).length ≤ size := by
  have hlength : (padded size received).length = size := by
    simp only [padded, List.length_append, List.length_replicate]
    omega
  simp only [writeChunk, bind_eq_ok, require_eq_ok, hlength] at hwrite
  rcases hwrite with ⟨_, ⟨hfits, hoffset⟩, hwrite⟩
  split at hwrite
  · rename_i hbefore
    simp only [bind_eq_ok, require_eq_ok, pure_eq_ok, Prod.mk.injEq] at hwrite
    rcases hwrite with ⟨_, -, rfl, rfl⟩
    rw [continued, if_neg (by omega)]
    exact ⟨rfl, rfl, hsize⟩
  · rename_i hbefore
    have heq : chunk.offset = received.length := by omega
    simp only [pure_eq_ok, Prod.mk.injEq] at hwrite
    rcases hwrite with ⟨rfl, rfl⟩
    rw [continued, if_pos heq, heq, List.length_append]
    rw [heq] at hfits
    refine ⟨?_, rfl, hfits⟩
    have hrest : (padded size received).drop (received.length + chunk.bytes.length) =
        List.replicate (size - (received ++ chunk.bytes).length) 0 := by
      rw [padded, ← List.drop_drop, List.drop_left, List.drop_replicate, List.length_append]
      congr 1
      omega
    rw [hrest, padded, List.take_left, padded]

end Uploads

section Effects

theorem stage_eq_ok {params : StageTinV1CreationParams} {key : Pubkey}
    (hstep : stage runtime call key params world = .ok next) :
    key = tinV1CreationStagingPda params.ownerPubkey params.intentHash ∧
      (world key = none ∧
          next = Function.update world key (some (.staging (newStaging runtime params))) ∨
        world key ≠ none ∧ next = world) := by
  simp only [stage, assertPda, bind_eq_ok, require_eq_ok] at hstep
  rcases hstep with ⟨_, -, _, -, _, hkey, hstep⟩
  refine ⟨hkey, ?_⟩
  split at hstep
  · rcases createPdaAccount_eq_ok.mp hstep with ⟨hnone, -, rfl⟩
    exact .inl ⟨hnone, rfl⟩
  · rename_i hsome
    simp only [bind_eq_ok, require_eq_ok, pure_eq_ok] at hstep
    rcases hstep with ⟨_, -, _, -, _, -, rfl⟩
    refine .inr ⟨?_, rfl⟩
    intro hnone
    exact hsome (Option.isNone_iff_eq_none.mpr hnone)

theorem appendChunk_eq_ok {key : Pubkey} {chunk : TinV1CreationChunkParams} :
    appendChunk call key chunk world = .ok next ↔
      ((call.payerIsSigner = true ∧ chunk.bytes ≠ [] ∧ chunk.bytes.length ≤ 700) ∧
        ∃ state after, world key = some (.staging state) ∧
          (state.version = stagingVersion ∧ expired call state.expiryTs = false) ∧
          key = tinV1CreationStagingPda state.ownerPubkey state.intentHash ∧
          writePart state chunk = .ok after ∧
            Function.update world key (some (.staging after)) = next) := by
  simp only [appendChunk, assertPda, bind_eq_ok, require_eq_ok, assertProgramOwned_eq_ok,
    loadStaging_eq_ok, pure_eq_ok]
  constructor
  · rintro ⟨_, hcall, _, ⟨hstored, -⟩, state, rfl, _, hstate, _, hkey, after, hwrite, hnext⟩
    exact ⟨hcall, state, after, hstored, hstate, hkey, hwrite, hnext⟩
  · rintro ⟨hcall, state, after, hstored, hstate, hkey, hwrite, hnext⟩
    exact ⟨(), hcall, _, ⟨hstored, by rintro ⟨⟩⟩, state, rfl, (), hstate, (), hkey, after, hwrite,
      hnext⟩

theorem finalize_eq_ok {accounts : CreateTinV1Accounts} {key : Pubkey} {intentHash : Bytes32}
    (hstep : finalize runtime call accounts key intentHash world = .ok next) :
    ∃ state direct, world key = some (.staging state) ∧ state.intentHash = intentHash ∧
      expired call state.expiryTs = false ∧
      (∀ part, written state part = (blob state part).length) ∧
      apply runtime call accounts (stagedParams state) world = .ok direct ∧
        next = Function.update direct key none := by
  simp only [finalize, assertPda, bind_eq_ok, require_eq_ok, assertProgramOwned_eq_ok,
    loadStaging_eq_ok, pure_eq_ok] at hstep
  rcases hstep with ⟨_, -, _, ⟨hstored, -⟩, state, rfl, _,
    ⟨-, hintent, hexpiry, hidentity, hrecovery, hseed⟩, _, -, direct, happly, rfl⟩
  refine ⟨state, direct, hstored, hintent, hexpiry, ?_, happly, rfl⟩
  intro part
  cases part
  · exact hidentity
  · exact hseed
  · exact hrecovery

theorem closeExpired_eq_ok {key : Pubkey} {intentHash : Bytes32}
    (hstep : closeExpired call key intentHash world = .ok next) :
    ∃ state, world key = some (.staging state) ∧ expired call state.expiryTs = true ∧
      next = Function.update world key none := by
  simp only [closeExpired, assertPda, bind_eq_ok, require_eq_ok, assertProgramOwned_eq_ok,
    loadStaging_eq_ok, pure_eq_ok] at hstep
  rcases hstep with ⟨_, -, _, ⟨hstored, -⟩, state, rfl, _, ⟨-, hexpiry⟩, _, -, rfl⟩
  exact ⟨state, hstored, hexpiry, rfl⟩

/-- A creation leaves staging accounts alone. -/
theorem staging_of_apply {accounts : CreateTinV1Accounts} {params : CreateTinV1Params}
    {owner intentHash : Bytes32}
    (hstaging : ∀ state, world (tinV1CreationStagingPda owner intentHash) ≠
      some (.global state))
    (hstep : apply runtime call accounts params world = .ok next) :
    next (tinV1CreationStagingPda owner intentHash) =
      world (tinV1CreationStagingPda owner intentHash) := by
  have hcreated := created_of_apply hstep
  refine hcreated.untouched _ ?_ nofun ?_ ?_
  · intro hsame
    rcases hcreated.global with ⟨before, _, hbefore, -⟩
    exact hstaging before (hsame ▸ hbefore)
  · simp [tinV1CreationStagingPda, tinV1Pda, findProgramAddress]
  · simp [tinV1CreationStagingPda, tinV1OwnerRecoveryPda, findProgramAddress]

end Effects

section Frame

variable {key : Pubkey} {value : Option Account}

theorem dataIsEmpty_update {other : Pubkey} (hother : other ≠ key) :
    dataIsEmpty (Function.update world key value) other = dataIsEmpty world other := by
  rw [dataIsEmpty, Function.update_of_ne hother, dataIsEmpty]

/-- What an account elsewhere holds makes no difference. -/
theorem createPdaAccount_update {other : Pubkey} {space : Nat} {account : Account}
    (hother : other ≠ key) (hstep : createPdaAccount world other space account = .ok next) :
    createPdaAccount (Function.update world key value) other space account =
      .ok (Function.update next key value) := by
  rcases createPdaAccount_eq_ok.mp hstep with ⟨hnone, hspace, rfl⟩
  refine createPdaAccount_eq_ok.mpr ⟨?_, hspace, Function.update_comm hother.symm _ _ _⟩
  rw [Function.update_of_ne hother, hnone]

theorem openRouteRoot_update {other : Pubkey} {root : TipRouteMerkleRootV1}
    (hother : other ≠ key) (hstep : openRouteRoot runtime world other = .ok (next, root)) :
    openRouteRoot runtime (Function.update world key value) other =
      .ok (Function.update next key value, root) := by
  simp only [openRouteRoot, assertPda, bind_eq_ok, require_eq_ok] at hstep ⊢
  rcases hstep with ⟨_, hkey, hstep⟩
  refine ⟨(), hkey, ?_⟩
  rw [dataIsEmpty_update hother]
  split at hstep
  · rename_i hnew
    rw [if_pos hnew]
    simp only [bind_eq_ok, pure_eq_ok, Prod.mk.injEq] at hstep ⊢
    rcases hstep with ⟨made, hmade, rfl, rfl⟩
    exact ⟨_, createPdaAccount_update hother hmade, rfl, rfl⟩
  · rename_i hold
    rw [if_neg hold]
    simp only [bind_eq_ok, pure_eq_ok, Prod.mk.injEq, assertProgramOwned_eq_ok,
      Function.update_of_ne hother] at hstep ⊢
    rcases hstep with ⟨account, howned, state, hstate, rfl, rfl⟩
    exact ⟨account, howned, state, hstate, rfl, rfl⟩

theorem appendRoute_update {other : Pubkey} {lookupCommitment : Bytes32} {route : TipRoute}
    (hother : other ≠ key)
    (hstep : appendRoute runtime world other lookupCommitment route = .ok next) :
    appendRoute runtime (Function.update world key value) other lookupCommitment route =
      .ok (Function.update next key value) := by
  simp only [appendRoute, bind_eq_ok, require_eq_ok, pure_eq_ok] at hstep ⊢
  rcases hstep with ⟨⟨opened, before⟩, hopen, _, hroot, leaf, hleaf, after, hafter, rfl⟩
  exact ⟨_, openRouteRoot_update hother hopen, (), hroot, leaf, hleaf, after, hafter,
    Function.update_comm hother.symm _ _ _⟩

theorem checkCreation_update {accounts : CreateTinV1Accounts} {params : CreateTinV1Params}
    {global : GlobalState} (hglobal : accounts.globalState ≠ key)
    (hregistry : accounts.registry ≠ key) (hrecovery : accounts.ownerRecovery ≠ key)
    (hstep : checkCreation runtime call accounts params world = .ok global) :
    checkCreation runtime call accounts params (Function.update world key value) =
      .ok global := by
  simp only [checkCreation, bind_eq_ok, require_eq_ok, assertProgramOwned_eq_ok,
    Function.update_of_ne hglobal, dataIsEmpty_update hregistry,
    dataIsEmpty_update hrecovery] at hstep ⊢
  exact hstep

theorem apply_update {accounts : CreateTinV1Accounts} {params : CreateTinV1Params}
    (hglobal : accounts.globalState ≠ key) (hroute : accounts.routeRoot ≠ key)
    (hregistry : accounts.registry ≠ key) (hrecovery : accounts.ownerRecovery ≠ key)
    (hstep : apply runtime call accounts params world = .ok next) :
    apply runtime call accounts params (Function.update world key value) =
      .ok (Function.update next key value) := by
  simp only [apply, writeCreation, bind_eq_ok, pure_eq_ok] at hstep ⊢
  rcases hstep with ⟨global, hcheck, created, hcreated, data, hdata, stored, hstored, appended,
    happended, sequence, hsequence, rfl⟩
  refine ⟨global, checkCreation_update hglobal hregistry hrecovery hcheck, _,
    createPdaAccount_update hregistry hcreated, data, hdata,
    Function.update stored key value, ?_, _, appendRoute_update hroute happended, sequence,
    hsequence, Function.update_comm hglobal.symm _ _ _⟩
  rw [Function.update_comm hregistry.symm]
  exact createPdaAccount_update hrecovery hstored

theorem addresses_of_apply {accounts : CreateTinV1Accounts} {params : CreateTinV1Params}
    (hstep : apply runtime call accounts params world = .ok next) :
    (∃ global, world accounts.globalState = some (.global global)) ∧
      accounts.routeRoot = tipRouteRootAddress ∧
      accounts.registry = tinV1Pda params.lookupCommitment ∧
      accounts.ownerRecovery = tinV1OwnerRecoveryPda params.ownerPubkey := by
  simp only [apply, writeCreation, bind_eq_ok] at hstep
  rcases hstep with ⟨global, hcheck, _, -, _, -, _, -, _, happended, -⟩
  simp only [appendRoute, bind_eq_ok] at happended
  rcases happended with ⟨⟨opened, before⟩, hopen, -⟩
  simp only [checkCreation, assertPda, bind_eq_ok, require_eq_ok, assertProgramOwned_eq_ok,
    loadGlobalState_eq_ok] at hcheck
  rcases hcheck with ⟨_, -, _, -, _, -, _, ⟨hglobal, -⟩, _, -, _, -, _, -, _, -, _, hregistry,
    _, hrecovery, _, -, rfl⟩
  exact ⟨⟨global, hglobal⟩, (openRouteRoot_eq_ok hopen).1, hregistry, hrecovery⟩

/-- A direct creation does not depend on a staging account. -/
theorem apply_elsewhere {accounts : CreateTinV1Accounts} {params : CreateTinV1Params}
    {owner intentHash : Bytes32} (hkey : key = tinV1CreationStagingPda owner intentHash)
    (hstored : ∀ state, world key ≠ some (.global state))
    (hstep : apply runtime call accounts params world = .ok next) :
    apply runtime call accounts params (Function.update world key value) =
      .ok (Function.update next key value) := by
  rcases addresses_of_apply hstep with ⟨⟨global, hglobal⟩, hroute, hregistry, hrecovery⟩
  refine apply_update ?_ ?_ ?_ ?_ hstep
  · rintro rfl
    exact hstored global hglobal
  · rw [hroute, hkey]
    nofun
  · rw [hregistry, hkey]
    simp [tinV1CreationStagingPda, tinV1Pda, findProgramAddress]
  · rw [hrecovery, hkey]
    simp [tinV1CreationStagingPda, tinV1OwnerRecoveryPda, findProgramAddress]

theorem stage_update {other : Pubkey} {params : StageTinV1CreationParams}
    (hother : other ≠ key) (hstep : stage runtime call other params world = .ok next) :
    stage runtime call other params (Function.update world key value) =
      .ok (Function.update next key value) := by
  simp only [stage, bind_eq_ok] at hstep ⊢
  rcases hstep with ⟨_, hsigned, _, hparams, _, hkey, hstep⟩
  refine ⟨_, hsigned, _, hparams, _, hkey, ?_⟩
  rw [dataIsEmpty_update hother]
  split at hstep
  · rename_i hnew
    rw [if_pos hnew]
    exact createPdaAccount_update hother hstep
  · rename_i hold
    rw [if_neg hold]
    simp only [bind_eq_ok, assertProgramOwned_eq_ok, Function.update_of_ne hother,
      pure_eq_ok] at hstep ⊢
    rcases hstep with ⟨account, howned, state, hstate, _, hsame, rfl⟩
    exact ⟨account, howned, state, hstate, _, hsame, rfl⟩

theorem appendChunk_update {other : Pubkey} {chunk : TinV1CreationChunkParams}
    (hother : other ≠ key) (hstep : appendChunk call other chunk world = .ok next) :
    appendChunk call other chunk (Function.update world key value) =
      .ok (Function.update next key value) := by
  rw [appendChunk_eq_ok] at hstep ⊢
  rcases hstep with ⟨hcall, state, after, hstored, hstate, hplaced, hwrite, rfl⟩
  refine ⟨hcall, state, after, ?_, hstate, hplaced, hwrite,
    Function.update_comm hother.symm _ _ _⟩
  rw [Function.update_of_ne hother]
  exact hstored

theorem finalize_update {accounts : CreateTinV1Accounts} {other : Pubkey}
    {intent owner intentHash : Bytes32}
    (hkey : key = tinV1CreationStagingPda owner intentHash)
    (hstored : ∀ state, world key ≠ some (.global state)) (hother : other ≠ key)
    (hstep : finalize runtime call accounts other intent world = .ok next) :
    finalize runtime call accounts other intent (Function.update world key value) =
      .ok (Function.update next key value) := by
  simp only [finalize, bind_eq_ok, pure_eq_ok, assertProgramOwned_eq_ok,
    Function.update_of_ne hother] at hstep ⊢
  rcases hstep with ⟨_, hsigned, account, howned, state, hstate, _, hready, _, hplaced, direct,
    happly, rfl⟩
  exact ⟨_, hsigned, account, howned, state, hstate, _, hready, _, hplaced, _,
    apply_elsewhere hkey hstored happly, Function.update_comm hother.symm _ _ _⟩

theorem closeExpired_update {other : Pubkey} {intent : Bytes32} (hother : other ≠ key)
    (hstep : closeExpired call other intent world = .ok next) :
    closeExpired call other intent (Function.update world key value) =
      .ok (Function.update next key value) := by
  simp only [closeExpired, bind_eq_ok, pure_eq_ok, assertProgramOwned_eq_ok,
    Function.update_of_ne hother] at hstep ⊢
  rcases hstep with ⟨_, hsigned, account, howned, state, hstate, _, hready, _, hplaced, rfl⟩
  exact ⟨_, hsigned, account, howned, state, hstate, _, hready, _, hplaced,
    Function.update_comm hother.symm _ _ _⟩

end Frame

section Books

variable {owner intentHash : Bytes32} {history : List (World × Step)}

/-- The staging account holds what the run uploaded to it. -/
structure Books (runtime : Runtime) (staging : Pubkey) (upload : Option Upload)
    (world : World) : Prop where
  stored : world staging = upload.map fun found => .staging (found.account runtime)
  placed : ∀ found ∈ upload,
    staging = tinV1CreationStagingPda found.params.ownerPubkey found.params.intentHash
  fits : ∀ found ∈ upload, ∀ part,
    (found.received part).length ≤ announced found.params part

theorem Books.ne_global {upload : Option Upload} (hbooks : Books runtime staging upload world)
    (state : GlobalState) : world staging ≠ some (.global state) := by
  rw [hbooks.stored]
  cases upload <;> simp

theorem Books.of_same {upload : Option Upload} (hbooks : Books runtime staging upload world)
    (hsame : next staging = world staging) : Books runtime staging upload next where
  stored := hsame.trans hbooks.stored
  placed := hbooks.placed
  fits := hbooks.fits

theorem books_none (hnone : world staging = none) : Books runtime staging none world where
  stored := hnone
  placed := nofun
  fits := nofun

theorem account_extend {upload : Upload} {chunk : TinV1CreationChunkParams} {part : Part}
    (hpart : partOf chunk.kind = some part) :
    (upload.extend chunk).account runtime =
      withPart (upload.account runtime) part
        (padded (announced upload.params part) (continued (upload.received part) chunk))
        (continued (upload.received part) chunk).length := by
  cases part <;> simp [Upload.account, Upload.extend, withPart, announced, hpart]

/-- What a chunk does to the books. -/
theorem books_chunk {upload : Upload} {chunk : TinV1CreationChunkParams}
    (hbooks : Books runtime staging (some upload) world)
    (hstep : appendChunk call staging chunk world = .ok next) :
    Books runtime staging (some (upload.extend chunk)) next ∧
      next = Function.update world staging
        (some (.staging ((upload.extend chunk).account runtime))) := by
  rcases appendChunk_eq_ok.mp hstep with ⟨-, state, after, hstate, -, -, hwrite, rfl⟩
  have hsame : upload.account runtime = state := by
    simpa using hbooks.stored.symm.trans hstate
  subst hsame
  rcases writePart_eq_ok.mp hwrite with ⟨part, target, stop, hpart, hchunk, rfl⟩
  rw [blob_account, written_account] at hchunk
  rcases writeChunk_padded (hbooks.fits upload rfl part) hchunk with ⟨rfl, rfl, hfits⟩
  rw [← account_extend hpart]
  refine ⟨⟨Function.update_self .., ?_, ?_⟩, rfl⟩
  · rintro found hfound
    cases hfound
    exact hbooks.placed upload rfl
  · rintro found hfound other
    cases hfound
    simp only [Upload.extend]
    split_ifs with hother
    · rw [hpart, Option.some.injEq] at hother
      subst hother
      exact hfits
    · exact hbooks.fits upload rfl other

theorem books_step {upload : Option Upload} {input : Step}
    (hstaging : staging = tinV1CreationStagingPda owner intentHash)
    (hbooks : Books runtime staging upload world)
    (hstep : step runtime world input = .ok next) :
    Books runtime staging (uploadStep staging upload input) next := by
  rcases input with ⟨call, instruction⟩
  cases instruction with
  | initializeProgram globalState params =>
      simp only [step, processInstruction, initializeProgram, assertPda, bind_eq_ok,
        require_eq_ok, createPdaAccount_eq_ok] at hstep
      rcases hstep with ⟨_, -, _, -, _, -, _, rfl, -, -, rfl⟩
      refine hbooks.of_same (Function.update_of_ne ?_ _ _)
      rw [hstaging]
      nofun
  | createTinV1 accounts params =>
      subst hstaging
      exact hbooks.of_same (staging_of_apply hbooks.ne_global hstep)
  | tinV1CreationStage key params =>
      rcases stage_eq_ok hstep with ⟨hkey, ⟨hnone, rfl⟩ | ⟨hsome, rfl⟩⟩
      · by_cases hsame : key = staging
        · subst hsame
          have hempty : upload = none := by
            simpa [hnone] using hbooks.stored.symm
          simp only [uploadStep, hempty, Option.isNone_none, and_self, if_true]
          refine ⟨Function.update_self .., ?_, ?_⟩
          · rintro found hfound
            cases hfound
            exact hkey
          · rintro found hfound part
            cases hfound
            exact Nat.zero_le _
        · simp only [uploadStep, hsame, false_and, if_false]
          exact hbooks.of_same (Function.update_of_ne (Ne.symm hsame) _ _)
      · have hkept : ¬ (key = staging ∧ upload.isNone = true) := by
          rintro ⟨rfl, hempty⟩
          rw [Option.isNone_iff_eq_none.mp hempty] at hbooks
          exact hsome hbooks.stored
        simp only [uploadStep, if_neg hkept]
        exact hbooks
  | tinV1CreationChunk key chunk =>
      by_cases hsame : key = staging
      · subst hsame
        simp only [uploadStep, if_true]
        cases upload with
        | none =>
            rcases appendChunk_eq_ok.mp hstep with ⟨-, state, _, hstate, -⟩
            rw [hbooks.stored] at hstate
            cases hstate
        | some upload =>
            exact (books_chunk hbooks hstep).1
      · simp only [uploadStep, hsame, if_false]
        rcases appendChunk_eq_ok.mp hstep with ⟨-, _, _, -, -, -, -, rfl⟩
        exact hbooks.of_same (Function.update_of_ne (Ne.symm hsame) _ _)
  | tinV1CreationFinalize accounts key intent =>
      rcases finalize_eq_ok hstep with ⟨state, direct, -, -, -, -, happly, rfl⟩
      by_cases hsame : key = staging
      · subst hsame
        simp only [uploadStep, if_true]
        exact books_none (Function.update_self ..)
      · simp only [uploadStep, hsame, if_false]
        refine hbooks.of_same ?_
        rw [Function.update_of_ne (Ne.symm hsame)]
        subst hstaging
        exact staging_of_apply hbooks.ne_global happly
  | tinV1CreationClose key intent =>
      rcases closeExpired_eq_ok hstep with ⟨state, -, -, rfl⟩
      by_cases hsame : key = staging
      · subst hsame
        simp only [uploadStep, if_true]
        exact books_none (Function.update_self ..)
      · simp only [uploadStep, hsame, if_false]
        exact hbooks.of_same (Function.update_of_ne (Ne.symm hsame) _ _)

/-- Along every run from a vacant address the account holds what was uploaded. -/
theorem books_of_run (hstaging : staging = tinV1CreationStagingPda owner intentHash)
    (hstart : start staging = none) (hrun : Run (step runtime) start history world) :
    Books runtime staging (uploadAfter staging history) world :=
  hrun.induct_on (fun history world => Books runtime staging (uploadAfter staging history) world)
    (books_none hstart) fun _ _ _ _ _ hbooks hstep => books_step hstaging hbooks hstep

end Books

section Refinement

variable {owner intentHash : Bytes32} {history later : List (World × Step)}

/-- The direct request for the parts of an upload, each with its chunks put together. -/
def Upload.request (upload : Upload) : CreateTinV1Params where
  ownerPubkey := upload.params.ownerPubkey
  lookupCommitment := upload.params.lookupCommitment
  encryptedTinRecovery := upload.received .recovery
  encryptedIdentityEnvelope := upload.received .identity
  encryptedMasterSeed := upload.received .masterSeed
  encryptedMetadataHash := upload.params.encryptedMetadataHash
  routeVersion := upload.params.routeVersion
  routeNonce := upload.params.routeNonce
  route := upload.params.route
  intentHash := upload.params.intentHash
  expiryTs := upload.params.expiryTs

theorem padded_eq {size : Nat} {received : List Byte}
    (hcomplete : received.length = (padded size received).length) :
    padded size received = received := by
  rw [padded, List.length_append, List.length_replicate] at hcomplete
  have hnone : size - received.length = 0 := by omega
  rw [padded, hnone, List.replicate_zero, List.append_nil]

theorem stagedParams_account {upload : Upload}
    (hcomplete : ∀ part, written (upload.account runtime) part =
      (blob (upload.account runtime) part).length) :
    stagedParams (upload.account runtime) = upload.request := by
  simp only [blob_account, written_account] at hcomplete
  have hidentity := padded_eq (hcomplete .identity)
  have hseed := padded_eq (hcomplete .masterSeed)
  have hrecovery := padded_eq (hcomplete .recovery)
  simp only [announced] at hidentity hseed hrecovery
  simp only [stagedParams, Upload.account, Upload.request, hidentity, hseed, hrecovery,
    newStaging]

/-- Finalizing is the direct creation with what was uploaded, and removes the staging
account. -/
theorem direct_of_finalize {upload : Option Upload} {accounts : CreateTinV1Accounts}
    {intent : Bytes32} (hstaging : staging = tinV1CreationStagingPda owner intentHash)
    (hbooks : Books runtime staging upload world)
    (hstep : finalize runtime call accounts staging intent world = .ok next) :
    ∃ found ∈ upload,
      apply runtime call accounts found.request (Function.update world staging none) =
        .ok next := by
  rcases finalize_eq_ok hstep with ⟨state, direct, hstored, -, -, hcomplete, happly, rfl⟩
  cases upload with
  | none =>
      rw [hbooks.stored] at hstored
      cases hstored
  | some found =>
      have hsame : found.account runtime = state := by
        simpa using hbooks.stored.symm.trans hstored
      subst hsame
      rw [stagedParams_account hcomplete] at happly
      exact ⟨found, rfl, apply_elsewhere hstaging hbooks.ne_global happly⟩

/-- The step a direct registrar takes for a step: none while a request is uploaded, and
the creation of all of it for the last. -/
def directly (staging : Pubkey) (upload : Option Upload) (input : Step) : Option Step :=
  match input.instruction with
  | .tinV1CreationFinalize accounts key _ =>
      if key = staging then
        upload.map fun found => ⟨input.call, .createTinV1 accounts found.request⟩
      else some input
  | .tinV1CreationStage key _ | .tinV1CreationChunk key _ | .tinV1CreationClose key _ =>
      if key = staging then none else some input
  | .initializeProgram _ _ | .createTinV1 _ _ => some input

/-- The run without the staging account. -/
def directRun (staging : Pubkey) : List (World × Step) → List (World × Step)
  | [] => []
  | (state, input) :: earlier =>
      match directly staging (uploadAfter staging earlier) input with
      | none => directRun staging earlier
      | some made => (Function.update state staging none, made) :: directRun staging earlier

/-- A step changes only its staging account, or a direct step is the same step. -/
theorem directly_step {upload : Option Upload} {input : Step}
    (hstaging : staging = tinV1CreationStagingPda owner intentHash)
    (hbooks : Books runtime staging upload world)
    (hstep : step runtime world input = .ok next) :
    match directly staging upload input with
    | none => Function.update next staging none = Function.update world staging none
    | some made => step runtime (Function.update world staging none) made =
        .ok (Function.update next staging none) := by
  rcases input with ⟨call, instruction⟩
  cases instruction with
  | initializeProgram globalState params =>
      have hother : globalStatePda ≠ staging := by
        rw [hstaging]
        nofun
      simp only [directly, step, processInstruction, initializeProgram, assertPda, bind_eq_ok,
        require_eq_ok] at hstep ⊢
      rcases hstep with ⟨_, hsigned, _, hempty, _, hstart, _, rfl, hcreated⟩
      rw [dataIsEmpty_update hother]
      exact ⟨(), hsigned, (), hempty, (), hstart, (), rfl,
        createPdaAccount_update hother hcreated⟩
  | createTinV1 accounts params =>
      exact apply_elsewhere hstaging hbooks.ne_global hstep
  | tinV1CreationStage key params =>
      by_cases hsame : key = staging
      · subst hsame
        simp only [directly, if_true]
        rcases stage_eq_ok hstep with ⟨-, ⟨-, rfl⟩ | ⟨-, rfl⟩⟩
        · exact Function.update_idem ..
        · rfl
      · simp only [directly, if_neg hsame]
        exact stage_update hsame hstep
  | tinV1CreationChunk key chunk =>
      by_cases hsame : key = staging
      · subst hsame
        simp only [directly, if_true]
        rcases appendChunk_eq_ok.mp hstep with ⟨-, _, _, -, -, -, -, rfl⟩
        exact Function.update_idem ..
      · simp only [directly, if_neg hsame]
        exact appendChunk_update hsame hstep
  | tinV1CreationFinalize accounts key intent =>
      by_cases hsame : key = staging
      · subst hsame
        rcases direct_of_finalize hstaging hbooks hstep with ⟨found, hfound, happly⟩
        rcases finalize_eq_ok hstep with ⟨_, _, -, -, -, -, -, rfl⟩
        simp only [directly, if_true, Option.mem_def.mp hfound, Option.map_some]
        rw [Function.update_idem]
        exact happly
      · simp only [directly, if_neg hsame]
        exact finalize_update hstaging hbooks.ne_global hsame hstep
  | tinV1CreationClose key intent =>
      by_cases hsame : key = staging
      · subst hsame
        simp only [directly, if_true]
        rcases closeExpired_eq_ok hstep with ⟨_, -, -, rfl⟩
        exact Function.update_idem ..
      · simp only [directly, if_neg hsame]
        exact closeExpired_update hsame hstep

/-- A run with staged creations is, staging account apart, the run with direct ones. -/
theorem run_directly (hstaging : staging = tinV1CreationStagingPda owner intentHash)
    (hstart : start staging = none) (hrun : Run (step runtime) start history world) :
    Run (step runtime) start (directRun staging history)
      (Function.update world staging none) := by
  refine hrun.induct_on (fun history world => Run (step runtime) start
    (directRun staging history) (Function.update world staging none)) ?_ ?_
  · rw [Function.update_eq_self_iff.mpr hstart.symm]
    exact .start
  · intro history world input next hprefix hdirect hstep
    have hmade := directly_step hstaging (books_of_run hstaging hstart hprefix) hstep
    rw [directRun]
    cases hinput : directly staging (uploadAfter staging history) input with
    | none =>
        rw [hinput] at hmade
        rw [hmade]
        exact hdirect
    | some made =>
        rw [hinput] at hmade
        exact hdirect.step hmade

/-- One upload has everything another has received. -/
def Extends (before after : Upload) : Prop :=
  after.params = before.params ∧ ∀ part, before.received part <+: after.received part

theorem Extends.trans {first second third : Upload} (hfirst : Extends first second)
    (hsecond : Extends second third) : Extends first third :=
  ⟨hsecond.1.trans hfirst.1, fun part => (hfirst.2 part).trans (hsecond.2 part)⟩

theorem extends_refl (upload : Upload) : Extends upload upload :=
  ⟨rfl, fun _ => List.prefix_rfl⟩

theorem extends_extend (upload : Upload) (chunk : TinV1CreationChunkParams) :
    Extends upload (upload.extend chunk) := by
  refine ⟨rfl, ?_⟩
  intro part
  simp only [Upload.extend, continued]
  split_ifs
  · exact List.prefix_append ..
  · exact List.prefix_rfl
  · exact List.prefix_rfl

theorem extends_uploadStep {upload after : Upload} {input : Step}
    (hafter : uploadStep staging (some upload) input = some after) : Extends upload after := by
  rcases input with ⟨call, instruction⟩
  cases instruction with
  | initializeProgram | createTinV1 =>
      cases hafter
      exact extends_refl upload
  | tinV1CreationStage key params =>
      simp only [uploadStep, Option.isNone_some, Bool.false_eq_true, and_false,
        if_false, Option.some.injEq] at hafter
      rw [← hafter]
      exact extends_refl upload
  | tinV1CreationChunk key chunk =>
      simp only [uploadStep, Option.map_some] at hafter
      split_ifs at hafter <;> cases hafter
      · exact extends_extend upload chunk
      · exact extends_refl upload
  | tinV1CreationFinalize accounts key intent =>
      simp only [uploadStep] at hafter
      split_ifs at hafter
      cases hafter
      exact extends_refl upload
  | tinV1CreationClose key intent =>
      simp only [uploadStep] at hafter
      split_ifs at hafter
      cases hafter
      exact extends_refl upload

/-- The account was there before every step. -/
def Alive (staging : Pubkey) (later : List (World × Step)) : Prop :=
  ∀ entry ∈ later, entry.1 staging ≠ none

/-- While its account is there, an upload only receives more. -/
theorem extends_of_run {upload : Upload} {final : World}
    (hstaging : staging = tinV1CreationStagingPda owner intentHash)
    (hbooks : Books runtime staging (some upload) world)
    (hrun : Run (step runtime) world later final) (halive : Alive staging later)
    (hthere : final staging ≠ none) :
    ∃ after, Books runtime staging (some after) final ∧ Extends upload after := by
  refine @Run.induct_of_forall _ _ _ (step runtime) world
    (fun state _ => state staging ≠ none)
    (fun _ state => state staging ≠ none →
      ∃ after, Books runtime staging (some after) state ∧ Extends upload after)
    later final hrun halive (fun _ => ⟨upload, hbooks, extends_refl upload⟩) ?_ hthere
  intro history state input next hpresent hinduct hstep hnext
  rcases hinduct hpresent with ⟨after, hafter, hextends⟩
  have hbooks' := books_step hstaging hafter hstep
  cases hupload : uploadStep staging (some after) input with
  | none =>
      rw [hupload] at hbooks'
      exact absurd hbooks'.stored hnext
  | some received =>
      rw [hupload] at hbooks'
      exact ⟨received, hbooks', hextends.trans (extends_uploadStep hupload)⟩

/-- A later state of an account has every byte written before. -/
def Grows (before after : TinV1CreationStaging) : Prop :=
  ∀ part, written before part ≤ written after part ∧
    (blob after part).take (written before part) = (blob before part).take (written before part)

theorem grows_of_extends {before after : Upload} (hextends : Extends before after) :
    Grows (before.account runtime) (after.account runtime) := by
  intro part
  rcases hextends.2 part with ⟨more, hmore⟩
  simp only [written_account, blob_account, padded, ← hmore, List.append_assoc,
    List.take_left, List.length_append]
  exact ⟨Nat.le_add_right .., trivial⟩

theorem grows_of_run {final : World} {before after : TinV1CreationStaging}
    (hstaging : staging = tinV1CreationStagingPda owner intentHash)
    {upload : Option Upload} (hbooks : Books runtime staging upload world)
    (hrun : Run (step runtime) world later final) (halive : Alive staging later)
    (hbefore : world staging = some (.staging before))
    (hafter : final staging = some (.staging after)) : Grows before after := by
  cases upload with
  | none =>
      rw [hbooks.stored] at hbefore
      cases hbefore
  | some found =>
      have hfound : found.account runtime = before := by
        simpa using hbooks.stored.symm.trans hbefore
      rcases extends_of_run hstaging hbooks hrun halive (by simp [hafter]) with
        ⟨received, hbooks', hextends⟩
      have hreceived : received.account runtime = after := by
        simpa using hbooks'.stored.symm.trans hafter
      rw [← hfound, ← hreceived]
      exact grows_of_extends hextends

end Refinement

section Repetition

variable {owner intentHash : Bytes32} {later : List (World × Step)}
  {chunk : TinV1CreationChunkParams}

/-- The bytes of a chunk have been received. -/
def Has (upload : Upload) (chunk : TinV1CreationChunkParams) : Prop :=
  ∃ part before after, partOf chunk.kind = some part ∧
    upload.received part = before ++ (chunk.bytes ++ after) ∧ before.length = chunk.offset

theorem Has.extends {upload after : Upload} (hhas : Has upload chunk)
    (hextends : Extends upload after) : Has after chunk := by
  rcases hhas with ⟨part, before, rest, hpart, hreceived, hoffset⟩
  rcases hextends.2 part with ⟨more, hmore⟩
  refine ⟨part, before, rest ++ more, hpart, ?_, hoffset⟩
  rw [← hmore, hreceived]
  simp only [List.append_assoc]

/-- A list around one of its slices. -/
theorem take_append_slice {list slice : List Byte} {start : Nat}
    (hslice : (list.drop start).take slice.length = slice) :
    list.take start ++ (slice ++ list.drop (start + slice.length)) = list := by
  have hrest := List.take_append_drop slice.length (list.drop start)
  rw [hslice, List.drop_drop] at hrest
  rw [hrest, List.take_append_drop]

/-- A chunk that is accepted has been received afterwards. -/
theorem has_extend {upload : Upload}
    (hbooks : Books runtime staging (some upload) world)
    (hstep : appendChunk call staging chunk world = .ok next) :
    Has (upload.extend chunk) chunk := by
  rcases appendChunk_eq_ok.mp hstep with ⟨-, state, after, hstate, -, -, hwrite, -⟩
  have hsame : upload.account runtime = state := by
    simpa using hbooks.stored.symm.trans hstate
  subst hsame
  rcases writePart_eq_ok.mp hwrite with ⟨part, target, stop, hpart, hchunk, -⟩
  rw [blob_account, written_account] at hchunk
  simp only [writeChunk, bind_eq_ok, require_eq_ok] at hchunk
  rcases hchunk with ⟨_, ⟨-, hoffset⟩, hchunk⟩
  by_cases hnext : chunk.offset = (upload.received part).length
  · refine ⟨part, upload.received part, [], hpart, ?_, hnext.symm⟩
    simp only [Upload.extend, hpart, if_true, continued, if_pos hnext, List.append_nil]
  · rw [if_pos (by omega)] at hchunk
    simp only [bind_eq_ok, require_eq_ok] at hchunk
    rcases hchunk with ⟨_, ⟨hstop, hbytes⟩, -⟩
    refine ⟨part, (upload.received part).take chunk.offset,
      (upload.received part).drop (chunk.offset + chunk.bytes.length), hpart, ?_, ?_⟩
    · have hslice : ((upload.received part).drop chunk.offset).take chunk.bytes.length =
          chunk.bytes := by
        rw [padded, List.drop_append_of_le_length (by omega),
          List.take_append_of_le_length (by rw [List.length_drop]; omega)] at hbytes
        exact hbytes
      simp only [Upload.extend, hpart, if_true, continued, if_neg hnext]
      exact (take_append_slice hslice).symm
    · rw [List.length_take]
      omega

theorem writeChunk_again {size : Nat} {received before after : List Byte}
    (hreceived : received = before ++ (chunk.bytes ++ after))
    (hoffset : before.length = chunk.offset) (hbytes : chunk.bytes ≠ []) :
    writeChunk (padded size received) received.length chunk =
      .ok (padded size received, received.length) := by
  have hsome := List.length_pos_iff.mpr hbytes
  have hlength : received.length = chunk.offset + (chunk.bytes.length + after.length) := by
    rw [hreceived, List.length_append, List.length_append, hoffset]
  have hslice : ((padded size received).drop chunk.offset).take chunk.bytes.length =
      chunk.bytes := by
    rw [padded, hreceived, List.append_assoc, List.append_assoc, ← hoffset, List.drop_left,
      List.take_left]
  simp only [writeChunk, bind_eq_ok, require_eq_ok]
  refine ⟨(), ⟨?_, by omega⟩, ?_⟩
  · rw [padded, List.length_append, List.length_replicate]
    omega
  · rw [if_pos (by omega)]
    simp only [bind_eq_ok, require_eq_ok, pure_eq_ok]
    exact ⟨(), ⟨by omega, hslice⟩, trivial⟩

theorem withPart_same (state : TinV1CreationStaging) (part : Part) :
    withPart state part (blob state part) (written state part) = state := by
  cases part <;> rfl

/-- What has been received may be sent again, by anybody, and changes nothing. -/
theorem appendChunk_again {upload : Upload}
    (hbooks : Books runtime staging (some upload) world) (hhas : Has upload chunk)
    (hbytes : chunk.bytes ≠ [] ∧ chunk.bytes.length ≤ 700)
    (hsigned : call.payerIsSigner = true)
    (hfresh : expired call upload.params.expiryTs = false) :
    appendChunk call staging chunk world = .ok world := by
  rcases hhas with ⟨part, before, after, hpart, hreceived, hoffset⟩
  refine appendChunk_eq_ok.mpr ⟨⟨hsigned, hbytes⟩, upload.account runtime,
    upload.account runtime, hbooks.stored, ⟨rfl, hfresh⟩, hbooks.placed upload rfl, ?_, ?_⟩
  · refine writePart_eq_ok.mpr ⟨part, _, _, hpart, ?_, withPart_same _ part⟩
    rw [blob_account, written_account]
    exact writeChunk_again hreceived hoffset hbytes.1
  · exact Function.update_eq_self_iff.mpr hbooks.stored.symm

/-- A repeated chunk that is accepted changes nothing. -/
theorem eq_of_appendChunk_again {upload : Upload}
    (hbooks : Books runtime staging (some upload) world) (hhas : Has upload chunk)
    (hstep : appendChunk call staging chunk world = .ok next) : next = world := by
  rcases appendChunk_eq_ok.mp hstep with ⟨⟨hsigned, hbytes⟩, state, -, hstate, ⟨-, hfresh⟩, -⟩
  have hsame : upload.account runtime = state := by
    simpa using hbooks.stored.symm.trans hstate
  subst hsame
  have hagain := appendChunk_again hbooks hhas hbytes hsigned hfresh
  rw [hstep, Except.ok.injEq] at hagain
  exact hagain

/-- As long as the account is there, a chunk it once accepted changes nothing, and is
accepted until the request expires. -/
theorem again_of_run {upload : Option Upload} {final : World} {state : TinV1CreationStaging}
    {again : Call} (hstaging : staging = tinV1CreationStagingPda owner intentHash)
    (hbooks : Books runtime staging upload world)
    (hstep : appendChunk call staging chunk world = .ok next)
    (hrun : Run (step runtime) next later final) (halive : Alive staging later)
    (hthere : final staging = some (.staging state)) :
    (∀ after, appendChunk again staging chunk final = .ok after → after = final) ∧
      (again.payerIsSigner = true → expired again state.expiryTs = false →
        appendChunk again staging chunk final = .ok final) := by
  rcases appendChunk_eq_ok.mp hstep with ⟨⟨-, hbytes⟩, _, _, hstate, -⟩
  cases upload with
  | none =>
      rw [hbooks.stored] at hstate
      cases hstate
  | some upload =>
      rcases extends_of_run hstaging (books_chunk hbooks hstep).1 hrun halive
        (by simp [hthere]) with ⟨received, hfinal, hextends⟩
      have hhas := (has_extend hbooks hstep).extends hextends
      have hsame : received.account runtime = state := by
        simpa using hfinal.stored.symm.trans hthere
      subst hsame
      constructor
      · intro after hafter
        exact eq_of_appendChunk_again hfinal hhas hafter
      · intro hsigned hfresh
        exact appendChunk_again hfinal hhas hbytes hsigned hfresh

end Repetition

section Results

variable {owner intentHash : Bytes32} {history : List (World × Step)}

/-- Finalizing needs a request that has not expired, and closing one that has. -/
theorem not_closeExpired_of_finalize {other : Call} {accounts : CreateTinV1Accounts}
    {intent otherIntent : Bytes32} {closed : World}
    (htime : other.unixTimestamp = call.unixTimestamp)
    (hfinalize : finalize runtime call accounts staging intent world = .ok next) :
    closeExpired other staging otherIntent world ≠ .ok closed := by
  intro hclose
  rcases finalize_eq_ok hfinalize with ⟨state, _, hstored, -, hfresh, -⟩
  rcases closeExpired_eq_ok hclose with ⟨found, hfound, hexpired, -⟩
  have hsame : state = found := by
    simpa using hstored.symm.trans hfound
  rw [← hsame, expired, htime] at hexpired
  rw [expired, hexpired] at hfresh
  cases hfresh

/-- Staged creation refines direct creation. What a run does besides uploading, the run
with direct creations does; a finalization creates at once what was uploaded; what is
written stays and is only added to; repeated chunks change nothing; and a staging account
is never both ready and expired. -/
theorem staged_refines_direct (hstaging : staging = tinV1CreationStagingPda owner intentHash)
    (hstart : start staging = none) (hrun : Run (step runtime) start history world) :
    Run (step runtime) start (directRun staging history)
        (Function.update world staging none) ∧
      (∀ call accounts intent next,
        step runtime world ⟨call, .tinV1CreationFinalize accounts staging intent⟩ = .ok next →
          ∃ found ∈ uploadAfter staging history,
            step runtime (Function.update world staging none)
              ⟨call, .createTinV1 accounts found.request⟩ = .ok next) ∧
      (∀ later final before after, Run (step runtime) world later final →
        Alive staging later → world staging = some (.staging before) →
          final staging = some (.staging after) → Grows before after) ∧
      (∀ call chunk next later final state,
        step runtime world ⟨call, .tinV1CreationChunk staging chunk⟩ = .ok next →
          Run (step runtime) next later final → Alive staging later →
            final staging = some (.staging state) → ∀ again,
              (∀ after, step runtime final ⟨again, .tinV1CreationChunk staging chunk⟩ =
                .ok after → after = final) ∧
              (again.payerIsSigner = true → expired again state.expiryTs = false →
                step runtime final ⟨again, .tinV1CreationChunk staging chunk⟩ = .ok final)) ∧
      ∀ call other accounts intent otherIntent next closed,
        other.unixTimestamp = call.unixTimestamp →
          step runtime world ⟨call, .tinV1CreationFinalize accounts staging intent⟩ = .ok next →
            step runtime world ⟨other, .tinV1CreationClose staging otherIntent⟩ ≠ .ok closed := by
  have hbooks := books_of_run hstaging hstart hrun
  refine ⟨run_directly hstaging hstart hrun, ?_, ?_, ?_, ?_⟩
  · intro call accounts intent next hstep
    exact direct_of_finalize hstaging hbooks hstep
  · intro later final before after hlater halive hbefore hafter
    exact grows_of_run hstaging hbooks hlater halive hbefore hafter
  · intro call chunk next later final state hstep hlater halive hthere again
    exact again_of_run hstaging hbooks hstep hlater halive hthere
  · intro call other accounts intent otherIntent next closed htime hfinalize
    exact not_closeExpired_of_finalize htime hfinalize

end Results

section Sample

def sampleRequest : CreateTinV1Params :=
  request sampleRuntime 11 12 sampleRoute

def sampleStaging : Pubkey :=
  tinV1CreationStagingPda 11 sampleRequest.intentHash

def sampleCall : Call :=
  approvedCall 11 sampleRequest.intentHash

/-- Another caller, a little later. -/
def otherCall : Call :=
  { sampleCall with unixTimestamp := 150 }

/-- An upload, latest step first. The recovery envelope comes in two chunks around the
other parts, the first of them twice. -/
def sampleUpload : List Step :=
  [⟨otherCall, .tinV1CreationChunk sampleStaging ⟨3, 20, List.replicate 8 7⟩⟩,
    ⟨sampleCall, .tinV1CreationChunk sampleStaging ⟨0, 0, [1]⟩⟩,
    ⟨otherCall, .tinV1CreationChunk sampleStaging ⟨3, 0, List.replicate 20 7⟩⟩,
    ⟨otherCall, .tinV1CreationChunk sampleStaging ⟨1, 0, [2]⟩⟩,
    ⟨sampleCall, .tinV1CreationChunk sampleStaging ⟨3, 0, List.replicate 20 7⟩⟩,
    ⟨sampleCall, .tinV1CreationStage sampleStaging
      ⟨11, 12, sampleRequest.intentHash, 1, 28, 1, 3, 1, 4, sampleRoute, 200⟩⟩]

def sampleFinalize : Step :=
  ⟨sampleCall, .tinV1CreationFinalize (canonicalAccounts sampleRequest) sampleStaging
    sampleRequest.intentHash⟩

example : sampleUpload.length = 6 := by
  decide +kernel

/-- The staging account after the upload. -/
def sampleAccount : TinV1CreationStaging where
  version := stagingVersion
  bump := 255
  ownerPubkey := 11
  lookupCommitment := 12
  intentHash := sampleRequest.intentHash
  encryptedIdentityEnvelope := [1]
  identityWritten := 1
  encryptedTinRecovery := List.replicate 28 7
  recoveryWritten := 28
  encryptedMasterSeed := [2]
  masterSeedWritten := 1
  encryptedMetadataHash := 3
  routeVersion := 1
  routeNonce := 4
  route := sampleRoute
  expiryTs := 200

/-- A complete account is finalized where the creation it requests is written. -/
theorem finalize_sampleAccount {world direct : World} {global : GlobalState}
    (hstored : world sampleStaging = some (.staging sampleAccount))
    (hglobal : world globalStatePda = some (.global global))
    (hregistry : world (tinV1Pda 12) = none)
    (hrecovery : world (tinV1OwnerRecoveryPda 11) = none)
    (hwrite : writeCreation sampleRuntime sampleCall (canonicalAccounts sampleRequest)
      sampleRequest world global = .ok direct) :
    step sampleRuntime world sampleFinalize =
      .ok (Function.update direct sampleStaging none) := by
  have hroute : validateTipRoute sampleRuntime sampleRoute = true := by
    decide +kernel
  have hcreate : create sampleRuntime 11 12 sampleRoute world = .ok direct :=
    (create_eq (by decide) hroute hglobal hregistry hrecovery).trans hwrite
  show finalize _ _ _ _ _ _ = _
  simp only [finalize, assertPda, bind_eq_ok, require_eq_ok, assertProgramOwned_eq_ok,
    loadStaging_eq_ok, pure_eq_ok]
  exact ⟨(), ⟨rfl, rfl⟩, _, ⟨hstored, by rintro ⟨⟩⟩, sampleAccount, rfl, (),
    ⟨rfl, rfl, rfl, rfl, rfl, rfl⟩, (), rfl, direct, hcreate, rfl⟩

/-- The upload runs, its account can be finalized, and this is the creation requested. -/
theorem staged_refines_direct_sample : ∃ history world next,
    Run (step sampleRuntime) sampleWorld history world ∧
      step sampleRuntime world sampleFinalize = .ok next ∧
      ∃ found ∈ uploadAfter sampleStaging history,
        step sampleRuntime (Function.update world sampleStaging none)
          ⟨sampleCall, .createTinV1 (canonicalAccounts sampleRequest) found.request⟩ =
            .ok next := by
  have hreaches : reaches (step sampleRuntime) sampleWorld sampleUpload (fun _ world =>
      decide (world sampleStaging = some (.staging sampleAccount) ∧
        world globalStatePda = some (.global ⟨currentVersion, 255, 0⟩) ∧
        world (tinV1Pda 12) = none ∧ world (tinV1OwnerRecoveryPda 11) = none) &&
      (writeCreation sampleRuntime sampleCall (canonicalAccounts sampleRequest) sampleRequest
        world ⟨currentVersion, 255, 0⟩).isOk) = true := by
    decide +kernel
  rcases exists_run_of_reaches hreaches with ⟨history, world, hrun, hholds⟩
  rcases Bool.and_eq_true_iff.mp hholds with ⟨hstate, hok⟩
  rcases of_decide_eq_true hstate with ⟨hstored, hglobal, hregistry, hrecovery⟩
  rcases exists_ok_of_isOk hok with ⟨direct, hwrite⟩
  have hnext := finalize_sampleAccount hstored hglobal hregistry hrecovery hwrite
  have hstart : sampleWorld sampleStaging = none := by
    decide +kernel
  rcases staged_refines_direct rfl hstart hrun with ⟨-, hdirect, -⟩
  exact ⟨history, world, _, hrun, hnext, hdirect _ _ _ _ hnext⟩

end Sample

end TsnProtocol.Tip.StagedCreation
