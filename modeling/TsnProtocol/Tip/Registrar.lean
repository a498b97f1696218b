import TsnProtocol.Lib.Transition
import TsnProtocol.Tip.OwnerApproval
import TsnProtocol.Tip.State

/-!
The TIP program: creation of TINs, in one transaction or from a staged request, and the
append-only tree of their routes.
-/

namespace TsnProtocol.Tip.Registrar

open Bn254.Scalar
open Gpru.Verifier (asciiBytes tipProgram tipRouteRootAddress)
open Lib.ByteReader
open Lib.Checked
open Solana.Address
open Solana.Ed25519
open Tip.OwnerApproval
open Tip.State

inductive TipError where
  | missingRequiredSignature | invalidArgument | invalidAccountData | invalidInstructionData
  | unsupportedSysvar | accountAlreadyInUse | invalidAccountDataLength
  | invalidInstruction | overflow | globalStateAlreadyInitialized
  | registryAlreadyInitialized | invalidPda | tinExhausted | invalidAccountOwner
  | signatureVerificationFailed
  deriving DecidableEq

abbrev Result := Except TipError

/-- The transaction an instruction runs in: whether the payer signed, the clock, and the
account passed as instructions sysvar. -/
structure Call where
  payerIsSigner : Bool
  unixTimestamp : BitVec 64
  instructionsSysvar : SysvarAccount
  deriving DecidableEq

def expired (call : Call) (expiryTs : BitVec 64) : Bool :=
  expiryTs.slt call.unixTimestamp

section Accounts

/-- Largest account the system program allocates. -/
def maxPermittedDataLength : Nat := 10 * 1024 * 1024

def dataIsEmpty (world : World) (key : Pubkey) : Bool :=
  (world key).isNone

/-- A new account at a program address, with what it holds then. -/
def createPdaAccount (world : World) (key : Pubkey) (space : Nat) (account : Account) :
    Result World := do
  require (dataIsEmpty world key = true) .accountAlreadyInUse
  require (space ≤ maxPermittedDataLength) .invalidAccountDataLength
  return Function.update world key (some account)

/-- Serialised bytes at the start of an account that is all zero. -/
def storeBorsh (space : Nat) (bytes : List Byte) : Result (List Byte) := do
  require (bytes.length ≤ space) .invalidAccountData
  return bytes ++ List.replicate (space - bytes.length) 0

def assertProgramOwned (world : World) (key : Pubkey) : Result Account := do
  let account ← okOr (world key) .invalidAccountOwner
  require (account ≠ .foreign) .invalidAccountOwner
  return account

def assertPda (key expected : Pubkey) : Result Unit :=
  require (key = expected) .invalidPda

def loadGlobalState : Account → Result GlobalState
  | .global state => .ok state
  | _ => .error .invalidAccountData

def loadStaging : Account → Result TinV1CreationStaging
  | .staging state => .ok state
  | _ => .error .invalidAccountData

def loadRouteRoot : Account → Result TipRouteMerkleRootV1
  | .routeRoot state => .ok state
  | _ => .error .invalidAccountData

end Accounts

structure InitializeProgramParams where
  startingSequence : Nat

def maxTinSequence : Nat := 999999999

def currentVersion : Byte := 3

def initializeProgram (runtime : Runtime) (call : Call) (globalState : Pubkey)
    (params : InitializeProgramParams) (world : World) : Result World := do
  require (call.payerIsSigner = true) .missingRequiredSignature
  require (dataIsEmpty world globalState = true) .globalStateAlreadyInitialized
  require (params.startingSequence ≤ maxTinSequence) .tinExhausted
  assertPda globalState globalStatePda
  createPdaAccount world globalState 16
    (.global ⟨currentVersion, runtime.bump globalStatePda, params.startingSequence⟩)

section RouteTree

/-- Reduction into the scalar field. -/
def canonicalFieldBytes (value : Bytes32) : Bytes32 :=
  BitVec.ofNat 256 (value.toNat % bn254ScalarOrder)

def poseidon2 (runtime : Runtime) (left right : Bytes32) : Result Bytes32 :=
  okOr (runtime.poseidon [canonicalFieldBytes left, canonicalFieldBytes right])
    .invalidInstructionData

def routeLeafInputs (lookupCommitment : Bytes32) (route : TipRoute) : List Bytes32 :=
  [lookupCommitment, route.gpruElgamalKeyCommitment, route.gpruBalanceScanPublicKeyX,
    route.gpruBalanceScanPublicKeyY, route.policyCommitment].map canonicalFieldBytes

def routeLeaf (runtime : Runtime) (lookupCommitment : Bytes32) (route : TipRoute) :
    Result Bytes32 :=
  okOr (runtime.poseidon (routeLeafInputs lookupCommitment route)) .invalidInstructionData

/-- One level of the append: a left node waits in the frontier, a right node completes the
one that waits there. -/
def appendLevel (runtime : Runtime) (leafCount : Nat)
    (state : (Fin 32 → Bytes32) × Bytes32) (level : Fin 32) :
    Result ((Fin 32 → Bytes32) × Bytes32) := do
  let (frontier, node) := state
  if leafCount >>> level.val % 2 = 0 then
    let parent ← poseidon2 runtime node (routeZeroHash level)
    return (Function.update frontier level node, parent)
  else
    let parent ← poseidon2 runtime (frontier level) node
    return (frontier, parent)

/-- Append a leaf to the tree of routes. -/
def appendLeaf (runtime : Runtime) (root : TipRouteMerkleRootV1) (leaf : Bytes32) :
    Result TipRouteMerkleRootV1 := do
  let (frontier, node) ←
    (List.finRange 32).foldlM (appendLevel runtime root.leafCount) (root.frontier, leaf)
  let leafCount ← okOr (checkedAdd 64 root.leafCount 1) .overflow
  return { root with root := node, leafCount := leafCount, frontier := frontier }

def emptyRouteRoot (runtime : Runtime) : TipRouteMerkleRootV1 where
  version := routeRootVersion
  bump := runtime.bump tipRouteRootAddress
  root := routeZeroHash routeRootDepth
  leafCount := 0
  frontier := fun _ => 0

/-- Bytes of the route root account. -/
def routeRootLen : Nat := 2 + 32 + 8 + 32 * 32

/-- The route root account, created where there is none. -/
def openRouteRoot (runtime : Runtime) (world : World) (account : Pubkey) :
    Result (World × TipRouteMerkleRootV1) := do
  assertPda account tipRouteRootAddress
  if dataIsEmpty world account then
    let world ← createPdaAccount world account routeRootLen
      (.routeRoot (emptyRouteRoot runtime))
    return (world, emptyRouteRoot runtime)
  else
    let state ← loadRouteRoot (← assertProgramOwned world account)
    return (world, state)

def appendRoute (runtime : Runtime) (world : World) (account : Pubkey)
    (lookupCommitment : Bytes32) (route : TipRoute) : Result World := do
  let (world, root) ← openRouteRoot runtime world account
  require (root.version = routeRootVersion ∧
    root.bump = runtime.bump tipRouteRootAddress ∧ root.leafCount < 2 ^ 32 - 1)
    .invalidInstruction
  let leaf ← routeLeaf runtime lookupCommitment route
  let root ← appendLeaf runtime root leaf
  return Function.update world account (some (.routeRoot root))

end RouteTree

structure CreateTinV1Params where
  (ownerPubkey lookupCommitment : Bytes32)
  (encryptedTinRecovery encryptedIdentityEnvelope encryptedMasterSeed : List Byte)
  encryptedMetadataHash : Bytes32
  routeVersion : BitVec 64
  routeNonce : Bytes32
  route : TipRoute
  intentHash : Bytes32
  expiryTs : BitVec 64
  deriving DecidableEq

structure CreateTinV1Accounts where
  (globalState routeRoot registry ownerRecovery : Pubkey)
  deriving DecidableEq

/-- The bytes the owner's intent hashes. -/
def ownerIntentPreimage (params : CreateTinV1Params) : List Byte :=
  asciiBytes "TSN_TIN_V1_CREATE" ++ wordBytes params.ownerPubkey ++
    wordBytes params.lookupCommitment ++ vecBytes params.encryptedTinRecovery ++
    vecBytes params.encryptedIdentityEnvelope ++ vecBytes params.encryptedMasterSeed ++
    wordBytes params.encryptedMetadataHash ++ leBytes 8 params.routeVersion.toNat ++
    wordBytes params.routeNonce ++ params.route.fields.flatten ++
    leBytes 8 params.expiryTs.toNat

def ownerIntentHash (runtime : Runtime) (params : CreateTinV1Params) : Bytes32 :=
  runtime.sha256 (ownerIntentPreimage params)

/-- The registry account a creation request describes. -/
def registryAccount (runtime : Runtime) (call : Call) (params : CreateTinV1Params) :
    TinV1Account where
  version := tinVersion
  bump := runtime.bump (tinV1Pda params.lookupCommitment)
  status := tinStatusActive
  reserved := Vector.replicate 5 0
  lookupCommitment := params.lookupCommitment
  ownerCommitment := runtime.sha256 (wordBytes params.ownerPubkey)
  encryptedIdentityEnvelope := params.encryptedIdentityEnvelope
  encryptedMasterSeed := params.encryptedMasterSeed
  createdAt := call.unixTimestamp
  encryptedMetadataHash := params.encryptedMetadataHash
  routeVersion := params.routeVersion
  routeNonce := params.routeNonce
  route := params.route

/-- The checks of a creation before anything is written. -/
def checkCreation (runtime : Runtime) (call : Call) (accounts : CreateTinV1Accounts)
    (params : CreateTinV1Params) (world : World) : Result GlobalState := do
  require (call.payerIsSigner = true ∧ call.instructionsSysvar.address = instructionsId)
    .missingRequiredSignature
  require (params.lookupCommitment ≠ 0 ∧ params.encryptedIdentityEnvelope ≠ [] ∧
    28 ≤ params.encryptedTinRecovery.length ∧ params.encryptedMasterSeed ≠ [] ∧
    params.routeVersion ≠ 0 ∧ expired call params.expiryTs = false) .invalidInstruction
  require (validateTipRoute runtime params.route = true) .invalidInstruction
  let global ← assertProgramOwned world accounts.globalState
  require (dataIsEmpty world accounts.registry = true) .registryAlreadyInitialized
  let expected := ownerIntentHash runtime params
  require (params.intentHash = expected) .invalidInstruction
  let approved ← okOr
    (verifyOwnerIntent call.instructionsSysvar params.ownerPubkey expected)
    .unsupportedSysvar
  require (approved = true) .signatureVerificationFailed
  assertPda accounts.registry (tinV1Pda params.lookupCommitment)
  assertPda accounts.ownerRecovery (tinV1OwnerRecoveryPda params.ownerPubkey)
  require (dataIsEmpty world accounts.ownerRecovery = true) .registryAlreadyInitialized
  loadGlobalState global

/-- The writes of a creation: registry, owner recovery, route and sequence. -/
def writeCreation (runtime : Runtime) (call : Call) (accounts : CreateTinV1Accounts)
    (params : CreateTinV1Params) (world : World) (global : GlobalState) : Result World := do
  let account := registryAccount runtime call params
  let space := TinV1Account.space account.encryptedIdentityEnvelope.length
    account.encryptedMasterSeed.length
  let world ← createPdaAccount world accounts.registry space
    (.registry (List.replicate space 0))
  let data ← storeBorsh space account.serialize
  let world := Function.update world accounts.registry (some (.registry data))
  let world ← createPdaAccount world accounts.ownerRecovery
    (TinV1OwnerRecoveryAccount.space params.encryptedTinRecovery.length)
    (.recovery ⟨ownerRecoveryVersion, runtime.bump (tinV1OwnerRecoveryPda params.ownerPubkey),
      params.ownerPubkey, params.encryptedTinRecovery⟩)
  let world ← appendRoute runtime world accounts.routeRoot params.lookupCommitment params.route
  let nextSequence ← okOr (checkedAdd 64 global.nextSequence 1) .overflow
  return Function.update world accounts.globalState
    (some (.global { global with nextSequence := nextSequence }))

def apply (runtime : Runtime) (call : Call) (accounts : CreateTinV1Accounts)
    (params : CreateTinV1Params) (world : World) : Result World := do
  let global ← checkCreation runtime call accounts params world
  writeCreation runtime call accounts params world global

section Staging

structure StageTinV1CreationParams where
  (ownerPubkey lookupCommitment intentHash : Bytes32)
  (encryptedIdentityEnvelopeLen encryptedTinRecoveryLen encryptedMasterSeedLen : Nat)
  encryptedMetadataHash : Bytes32
  routeVersion : BitVec 64
  routeNonce : Bytes32
  route : TipRoute
  expiryTs : BitVec 64
  deriving DecidableEq

/-- The staging account of a request before any of its parts is uploaded. -/
def newStaging (runtime : Runtime) (params : StageTinV1CreationParams) :
    TinV1CreationStaging where
  version := stagingVersion
  bump := runtime.bump (tinV1CreationStagingPda params.ownerPubkey params.intentHash)
  ownerPubkey := params.ownerPubkey
  lookupCommitment := params.lookupCommitment
  intentHash := params.intentHash
  encryptedIdentityEnvelope := List.replicate params.encryptedIdentityEnvelopeLen 0
  identityWritten := 0
  encryptedTinRecovery := List.replicate params.encryptedTinRecoveryLen 0
  recoveryWritten := 0
  encryptedMasterSeed := List.replicate params.encryptedMasterSeedLen 0
  masterSeedWritten := 0
  encryptedMetadataHash := params.encryptedMetadataHash
  routeVersion := params.routeVersion
  routeNonce := params.routeNonce
  route := params.route
  expiryTs := params.expiryTs

/-- A staging account of the same request, whatever has been uploaded to it. -/
def sameRequest (existing fresh : TinV1CreationStaging) : Bool :=
  existing.version = fresh.version ∧ existing.bump = fresh.bump ∧
    existing.ownerPubkey = fresh.ownerPubkey ∧
    existing.lookupCommitment = fresh.lookupCommitment ∧
    existing.intentHash = fresh.intentHash ∧
    existing.encryptedIdentityEnvelope.length = fresh.encryptedIdentityEnvelope.length ∧
    existing.encryptedTinRecovery.length = fresh.encryptedTinRecovery.length ∧
    existing.encryptedMasterSeed.length = fresh.encryptedMasterSeed.length ∧
    existing.encryptedMetadataHash = fresh.encryptedMetadataHash ∧
    existing.routeVersion = fresh.routeVersion ∧ existing.routeNonce = fresh.routeNonce ∧
    existing.route = fresh.route ∧ existing.expiryTs = fresh.expiryTs

def stage (runtime : Runtime) (call : Call) (staging : Pubkey)
    (params : StageTinV1CreationParams) (world : World) : Result World := do
  let identityLen := params.encryptedIdentityEnvelopeLen
  let recoveryLen := params.encryptedTinRecoveryLen
  let seedLen := params.encryptedMasterSeedLen
  require (call.payerIsSigner = true) .missingRequiredSignature
  require (params.lookupCommitment ≠ 0 ∧ params.intentHash ≠ 0 ∧ params.routeVersion ≠ 0 ∧
    expired call params.expiryTs = false ∧ identityLen ≠ 0 ∧ 28 ≤ recoveryLen ∧
    seedLen ≠ 0 ∧ identityLen ≤ maxBlobLen ∧ seedLen ≤ maxBlobLen ∧
    identityLen + recoveryLen + seedLen ≤ maxBlobLen ∧
    validateTipRoute runtime params.route = true) .invalidInstruction
  assertPda staging (tinV1CreationStagingPda params.ownerPubkey params.intentHash)
  if dataIsEmpty world staging then
    createPdaAccount world staging
      (TinV1CreationStaging.space identityLen recoveryLen seedLen)
      (.staging (newStaging runtime params))
  else
    let existing ← loadStaging (← assertProgramOwned world staging)
    require (sameRequest existing (newStaging runtime params) = true) .invalidInstruction
    return world

structure TinV1CreationChunkParams where
  kind : Byte
  offset : Nat
  bytes : List Byte
  deriving DecidableEq

/-- Bytes written so far to one part of a request, and the part. A chunk continues it or
repeats bytes it already has. -/
def writeChunk (target : List Byte) (written : Nat) (params : TinV1CreationChunkParams) :
    Result (List Byte × Nat) := do
  let stop := params.offset + params.bytes.length
  require (stop ≤ target.length ∧ params.offset ≤ written) .invalidInstruction
  if params.offset < written then
    require (stop ≤ written ∧
      (target.drop params.offset).take params.bytes.length = params.bytes)
      .invalidInstruction
    return (target, written)
  else
    return (target.take params.offset ++ params.bytes ++ target.drop stop, stop)

/-- The part of a request a chunk is for. -/
def writePart (state : TinV1CreationStaging) (params : TinV1CreationChunkParams) :
    Result TinV1CreationStaging :=
  match params.kind.toNat with
  | 0 => do
      let (target, written) ←
        writeChunk state.encryptedIdentityEnvelope state.identityWritten params
      return { state with encryptedIdentityEnvelope := target, identityWritten := written }
  | 1 => do
      let (target, written) ←
        writeChunk state.encryptedMasterSeed state.masterSeedWritten params
      return { state with encryptedMasterSeed := target, masterSeedWritten := written }
  | 3 => do
      let (target, written) ←
        writeChunk state.encryptedTinRecovery state.recoveryWritten params
      return { state with encryptedTinRecovery := target, recoveryWritten := written }
  | _ => .error .invalidArgument

def appendChunk (call : Call) (staging : Pubkey) (params : TinV1CreationChunkParams)
    (world : World) : Result World := do
  require (call.payerIsSigner = true ∧ params.bytes ≠ [] ∧ params.bytes.length ≤ 700)
    .invalidArgument
  let state ← loadStaging (← assertProgramOwned world staging)
  require (state.version = stagingVersion ∧ expired call state.expiryTs = false)
    .invalidInstruction
  assertPda staging (tinV1CreationStagingPda state.ownerPubkey state.intentHash)
  let state ← writePart state params
  return Function.update world staging (some (.staging state))

/-- The creation request a complete staging account holds. -/
def stagedParams (state : TinV1CreationStaging) : CreateTinV1Params where
  ownerPubkey := state.ownerPubkey
  lookupCommitment := state.lookupCommitment
  encryptedTinRecovery := state.encryptedTinRecovery
  encryptedIdentityEnvelope := state.encryptedIdentityEnvelope
  encryptedMasterSeed := state.encryptedMasterSeed
  encryptedMetadataHash := state.encryptedMetadataHash
  routeVersion := state.routeVersion
  routeNonce := state.routeNonce
  route := state.route
  intentHash := state.intentHash
  expiryTs := state.expiryTs

def finalize (runtime : Runtime) (call : Call) (accounts : CreateTinV1Accounts)
    (staging : Pubkey) (intentHash : Bytes32) (world : World) : Result World := do
  require (call.payerIsSigner = true ∧ call.instructionsSysvar.address = instructionsId)
    .missingRequiredSignature
  let state ← loadStaging (← assertProgramOwned world staging)
  require (state.version = stagingVersion ∧ state.intentHash = intentHash ∧
    expired call state.expiryTs = false ∧
    state.identityWritten = state.encryptedIdentityEnvelope.length ∧
    state.recoveryWritten = state.encryptedTinRecovery.length ∧
    state.masterSeedWritten = state.encryptedMasterSeed.length) .invalidInstruction
  assertPda staging (tinV1CreationStagingPda state.ownerPubkey state.intentHash)
  let world ← apply runtime call accounts (stagedParams state) world
  return Function.update world staging none

def closeExpired (call : Call) (staging : Pubkey) (intentHash : Bytes32) (world : World) :
    Result World := do
  require (call.payerIsSigner = true) .missingRequiredSignature
  let state ← loadStaging (← assertProgramOwned world staging)
  require (state.intentHash = intentHash ∧ expired call state.expiryTs = true)
    .invalidInstruction
  assertPda staging (tinV1CreationStagingPda state.ownerPubkey state.intentHash)
  return Function.update world staging none

end Staging

inductive ProgramInstruction where
  | initializeProgram (globalState : Pubkey) (params : InitializeProgramParams)
  | createTinV1 (accounts : CreateTinV1Accounts) (params : CreateTinV1Params)
  | tinV1CreationStage (staging : Pubkey) (params : StageTinV1CreationParams)
  | tinV1CreationChunk (staging : Pubkey) (params : TinV1CreationChunkParams)
  | tinV1CreationFinalize (accounts : CreateTinV1Accounts) (staging : Pubkey)
      (intentHash : Bytes32)
  | tinV1CreationClose (staging : Pubkey) (intentHash : Bytes32)

def processInstruction (runtime : Runtime) (call : Call) (world : World) :
    ProgramInstruction → Result World
  | .initializeProgram globalState params =>
      initializeProgram runtime call globalState params world
  | .createTinV1 accounts params => apply runtime call accounts params world
  | .tinV1CreationStage staging params => stage runtime call staging params world
  | .tinV1CreationChunk staging params => appendChunk call staging params world
  | .tinV1CreationFinalize accounts staging intentHash =>
      finalize runtime call accounts staging intentHash world
  | .tinV1CreationClose staging intentHash => closeExpired call staging intentHash world

end TsnProtocol.Tip.Registrar
