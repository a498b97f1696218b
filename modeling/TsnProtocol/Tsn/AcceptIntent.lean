import TsnProtocol.Gpru.Verifier
import TsnProtocol.Lib.MessageFields
import TsnProtocol.Lib.Transition

/-!
Settlement intents that the mother authority accepts, and what the commitments and the
nullifier derived from an intent bind.
-/

namespace TsnProtocol.Tsn.AcceptIntent

open Gpru.Verifier (asciiBytes)
open Lib.ByteReader
open Lib.Checked
open Lib.MessageFields
open Lib.Transition

abbrev Bytes32 := BitVec 256

structure AcceptIntentArgs where
  epochId : BitVec 64
  intentCommitment : Bytes32
  amount : BitVec 64
  tokenId : BitVec 32
  (tipRootCommitment settlementCommitment assetCommitment policyCommitment gpruScopeCommitment
    replayNonce nullifier : Bytes32)
  (validAfterSlot expiresAtSlot : BitVec 64)
  deriving DecidableEq

inductive AcceptedIntentStatus where
  | accepted | consumed
  deriving DecidableEq

structure AcceptedIntentV1 where
  version : Nat
  args : AcceptIntentArgs
  acceptedIntentRoot : Bytes32
  status : AcceptedIntentStatus
  motherEscrow : Bytes32
  bump : Byte
  deriving DecidableEq

inductive TsnError where
  | unauthorized | accountInUse
  deriving DecidableEq

section Derivations

def scopePreimage (args : AcceptIntentArgs) : List Byte :=
  [asciiBytes "TSN_CONFIDENTIAL_SETTLEMENT_GPRU_SCOPE_V1", numberBytes args.epochId,
    wordBytes args.intentCommitment, numberBytes args.amount, numberBytes args.tokenId,
    wordBytes args.tipRootCommitment, wordBytes args.policyCommitment,
    wordBytes args.replayNonce, numberBytes args.validAfterSlot,
    numberBytes args.expiresAtSlot].flatten

def nullifierPreimage (args : AcceptIntentArgs) : List Byte :=
  [asciiBytes "TSN_CONFIDENTIAL_SETTLEMENT_NULLIFIER_V1", numberBytes args.epochId,
    wordBytes args.intentCommitment, wordBytes args.tipRootCommitment,
    wordBytes args.replayNonce].flatten

def settlementPreimage (args : AcceptIntentArgs) : List Byte :=
  [asciiBytes "TSN_CONFIDENTIAL_SETTLEMENT_COMMITMENT_V1", numberBytes args.epochId,
    wordBytes args.intentCommitment, numberBytes args.amount, numberBytes args.tokenId,
    wordBytes args.tipRootCommitment, wordBytes args.assetCommitment,
    wordBytes args.policyCommitment, wordBytes args.gpruScopeCommitment,
    wordBytes args.replayNonce, wordBytes args.nullifier, numberBytes args.validAfterSlot,
    numberBytes args.expiresAtSlot].flatten

def rootPreimage (args : AcceptIntentArgs) : List Byte :=
  [asciiBytes "TSN_ACCEPTED_INTENT_ROOT_V1", numberBytes args.epochId,
    wordBytes args.intentCommitment, numberBytes args.amount, numberBytes args.tokenId,
    wordBytes args.tipRootCommitment, wordBytes args.settlementCommitment,
    wordBytes args.assetCommitment, wordBytes args.policyCommitment,
    wordBytes args.gpruScopeCommitment, wordBytes args.replayNonce, wordBytes args.nullifier,
    numberBytes args.validAfterSlot, numberBytes args.expiresAtSlot].flatten

variable (sha256 : List Byte → Bytes32)

def deriveGpruScopeCommitment (args : AcceptIntentArgs) : Bytes32 :=
  sha256 (scopePreimage args)

def deriveSettlementNullifier (args : AcceptIntentArgs) : Bytes32 :=
  sha256 (nullifierPreimage args)

def deriveSettlementCommitment (args : AcceptIntentArgs) : Bytes32 :=
  sha256 (settlementPreimage args)

def deriveAcceptedIntentRoot (args : AcceptIntentArgs) : Bytes32 :=
  sha256 (rootPreimage args)

end Derivations

section Handler

/-- What the chain provides: the hash, the address of the mother escrow, and the bumps of
the accounts of accepted intents. -/
structure Runtime where
  sha256 : List Byte → Bytes32
  motherEscrow : Bytes32
  bump : BitVec 64 × Bytes32 → Byte

/-- The mother escrow's fields that the instruction reads, and the accounts of accepted
intents by the seeds of their addresses. -/
structure World where
  authority : Bytes32
  epochId : BitVec 64
  acceptedIntents : BitVec 64 × Bytes32 → Option AcceptedIntentV1

variable (runtime : Runtime)

/-- The record the handler writes. -/
def acceptedIntent (args : AcceptIntentArgs) : AcceptedIntentV1 where
  version := 1
  args := args
  acceptedIntentRoot := deriveAcceptedIntentRoot runtime.sha256 args
  status := .accepted
  motherEscrow := runtime.motherEscrow
  bump := runtime.bump (args.epochId, args.intentCommitment)

def acceptIntent (authority : Bytes32) (args : AcceptIntentArgs) (world : World) :
    Except TsnError World := do
  require (world.authority = authority) .unauthorized
  require ((world.acceptedIntents (args.epochId, args.intentCommitment)).isNone = true)
    .accountInUse
  require (args.epochId = world.epochId) .unauthorized
  require (0 < args.amount.toNat ∧ 0 < args.tokenId.toNat ∧
    args.validAfterSlot.toNat ≤ args.expiresAtSlot.toNat) .unauthorized
  require (args.intentCommitment ≠ 0 ∧ args.tipRootCommitment ≠ 0) .unauthorized
  require (args.replayNonce ≠ 0) .unauthorized
  require (args.gpruScopeCommitment = deriveGpruScopeCommitment runtime.sha256 args)
    .unauthorized
  require (args.nullifier = deriveSettlementNullifier runtime.sha256 args) .unauthorized
  require (args.settlementCommitment = deriveSettlementCommitment runtime.sha256 args)
    .unauthorized
  return { world with
    acceptedIntents := Function.update world.acceptedIntents
      (args.epochId, args.intentCommitment) (some (acceptedIntent runtime args)) }

/-- A call on the chain: an intent is accepted, its credit is registered, or the mother
escrow gets another authority or epoch. -/
inductive Step where
  | acceptIntent (authority : Bytes32) (args : AcceptIntentArgs)
  | consume (key : BitVec 64 × Bytes32)
  | motherEscrow (authority : Bytes32) (epochId : BitVec 64)

def step (world : World) : Step → Except TsnError World
  | .acceptIntent authority args => acceptIntent runtime authority args world
  | .consume key => .ok { world with
      acceptedIntents := Function.update world.acceptedIntents key
        ((world.acceptedIntents key).map fun intent => { intent with status := .consumed }) }
  | .motherEscrow authority epochId => .ok { world with
      authority := authority
      epochId := epochId }

end Handler

section Binding

/-- What an intent is about: its fields that are not derived from the others. -/
structure IntentTerms where
  epochId : BitVec 64
  intentCommitment : Bytes32
  amount : BitVec 64
  tokenId : BitVec 32
  (tipRootCommitment assetCommitment policyCommitment replayNonce : Bytes32)
  (validAfterSlot expiresAtSlot : BitVec 64)
  deriving DecidableEq

def AcceptIntentArgs.terms (args : AcceptIntentArgs) : IntentTerms where
  epochId := args.epochId
  intentCommitment := args.intentCommitment
  amount := args.amount
  tokenId := args.tokenId
  tipRootCommitment := args.tipRootCommitment
  assetCommitment := args.assetCommitment
  policyCommitment := args.policyCommitment
  replayNonce := args.replayNonce
  validAfterSlot := args.validAfterSlot
  expiresAtSlot := args.expiresAtSlot

def preimagesOf (left right : AcceptIntentArgs) : List (List Byte) :=
  [scopePreimage left, nullifierPreimage left, settlementPreimage left, rootPreimage left,
    scopePreimage right, nullifierPreimage right, settlementPreimage right, rootPreimage right]

/-- The terms that the nullifier's preimage has. -/
def NullifierTermsDiffer (left right : AcceptIntentArgs) : Prop :=
  left.epochId ≠ right.epochId ∨ left.intentCommitment ≠ right.intentCommitment ∨
    left.tipRootCommitment ≠ right.tipRootCommitment ∨ left.replayNonce ≠ right.replayNonce

structure AllDiffer (sha256 : List Byte → Bytes32) (left right : AcceptIntentArgs) : Prop where
  scope : deriveGpruScopeCommitment sha256 left ≠ deriveGpruScopeCommitment sha256 right
  nullifier : deriveSettlementNullifier sha256 left ≠ deriveSettlementNullifier sha256 right
  settlement : deriveSettlementCommitment sha256 left ≠ deriveSettlementCommitment sha256 right
  root : deriveAcceptedIntentRoot sha256 left ≠ deriveAcceptedIntentRoot sha256 right

variable {left right : AcceptIntentArgs} {sha256 : List Byte → Bytes32}

theorem nullifierPreimage_eq_iff :
    nullifierPreimage left = nullifierPreimage right ↔ ¬ NullifierTermsDiffer left right := by
  rw [nullifierPreimage, nullifierPreimage, flatten_inj (by simp)]
  simp only [List.cons.injEq, wordBytes_inj, numberBytes_inj_u64, true_and, and_true,
    NullifierTermsDiffer, not_or, not_not]

theorem terms_of_scopePreimage_eq (heq : scopePreimage left = scopePreimage right) :
    ¬ NullifierTermsDiffer left right := by
  rw [scopePreimage, scopePreimage, flatten_inj (by simp)] at heq
  simp only [List.cons.injEq, wordBytes_inj, numberBytes_inj_u64, numberBytes_inj_u32] at heq
  simp only [NullifierTermsDiffer, not_or, not_not]
  tauto

theorem terms_of_settlementPreimage_eq
    (heq : settlementPreimage left = settlementPreimage right) : left.terms = right.terms := by
  rw [settlementPreimage, settlementPreimage, flatten_inj (by simp)] at heq
  simp only [List.cons.injEq, wordBytes_inj, numberBytes_inj_u64, numberBytes_inj_u32] at heq
  simp only [AcceptIntentArgs.terms, IntentTerms.mk.injEq]
  tauto

theorem terms_of_rootPreimage_eq (heq : rootPreimage left = rootPreimage right) :
    left.terms = right.terms := by
  rw [rootPreimage, rootPreimage, flatten_inj (by simp)] at heq
  simp only [List.cons.injEq, wordBytes_inj, numberBytes_inj_u64, numberBytes_inj_u32] at heq
  simp only [AcceptIntentArgs.terms, IntentTerms.mk.injEq]
  tauto

/-- Where the nullifier's terms differ, everything derived does. -/
theorem allDiffer_of_nullifierTerms
    (hinjective : Set.InjOn sha256 {bytes | bytes ∈ preimagesOf left right})
    (hterms : left.terms ≠ right.terms) (hdiffer : NullifierTermsDiffer left right) :
    AllDiffer sha256 left right := by
  refine ⟨?_, ?_, ?_, ?_⟩
  · intro heq
    exact terms_of_scopePreimage_eq
      (hinjective (by simp [preimagesOf]) (by simp [preimagesOf]) heq) hdiffer
  · intro heq
    exact nullifierPreimage_eq_iff.mp
      (hinjective (by simp [preimagesOf]) (by simp [preimagesOf]) heq) hdiffer
  · intro heq
    exact hterms (terms_of_settlementPreimage_eq
      (hinjective (by simp [preimagesOf]) (by simp [preimagesOf]) heq))
  · intro heq
    exact hterms (terms_of_rootPreimage_eq
      (hinjective (by simp [preimagesOf]) (by simp [preimagesOf]) heq))

/-- The nullifier leaves out the amount, the token, the asset, the policy and the slots, so
that two intents are told apart by all derived values exactly when its own terms differ. -/
theorem allDiffer_iff (left right : AcceptIntentArgs)
    (hinjective : Set.InjOn sha256 {bytes | bytes ∈ preimagesOf left right}) :
    (left.terms ≠ right.terms → AllDiffer sha256 left right) ↔
      (left.terms ≠ right.terms → NullifierTermsDiffer left right) := by
  constructor
  · intro hall hterms
    by_contra hsame
    exact (hall hterms).nullifier (congrArg sha256 (nullifierPreimage_eq_iff.mpr hsame))
  · intro hdiffer hterms
    exact allDiffer_of_nullifierTerms hinjective hterms (hdiffer hterms)

end Binding

section Runs

/-- Every stored intent lies at the address of its epoch and commitment, with the nullifier
derived from it. -/
def Filed (sha256 : List Byte → Bytes32) (world : World) : Prop :=
  ∀ key intent, world.acceptedIntents key = some intent →
    key = (intent.args.epochId, intent.args.intentCommitment) ∧
      intent.args.nullifier = deriveSettlementNullifier sha256 intent.args

variable {runtime : Runtime} {world next start : World} {history : List (World × Step)}

theorem filed_step {input : Step} (hfiled : Filed runtime.sha256 world)
    (hstep : step runtime world input = .ok next) : Filed runtime.sha256 next := by
  rcases input with ⟨authority, args⟩ | key | ⟨authority, epochId⟩
  · simp only [step, acceptIntent, bind_eq_ok, require_eq_ok, pure_eq_ok] at hstep
    obtain ⟨_, -, _, -, _, -, _, -, _, -, _, -, _, -, _, hnullifier, _, -, rfl⟩ := hstep
    intro key intent hintent
    by_cases hkey : key = (args.epochId, args.intentCommitment)
    · subst hkey
      simp only [Function.update_self, Option.some.injEq] at hintent
      subst hintent
      exact ⟨rfl, hnullifier⟩
    · simp only [Function.update_of_ne hkey] at hintent
      exact hfiled key intent hintent
  · obtain rfl := Except.ok.inj hstep
    intro other intent hintent
    by_cases hkey : other = key
    · subst hkey
      simp only [Function.update_self, Option.map_eq_some_iff] at hintent
      obtain ⟨before, hbefore, rfl⟩ := hintent
      exact hfiled other before hbefore
    · simp only [Function.update_of_ne hkey] at hintent
      exact hfiled other intent hintent
  · obtain rfl := Except.ok.inj hstep
    exact hfiled

theorem filed_of_run (hstart : Filed runtime.sha256 start)
    (hrun : Run (step runtime) start history world) : Filed runtime.sha256 world := by
  refine hrun.induct_on (fun _ world => Filed runtime.sha256 world) hstart ?_
  intro _ _ _ _ _ hfiled hstep
  exact filed_step hfiled hstep

/-- On one chain an epoch and an intent commitment are accepted once, so that the nullifiers
of the stored intents do differ. -/
theorem nullifier_ne_of_run (hstart : Filed runtime.sha256 start)
    (hrun : Run (step runtime) start history world)
    {key key' : BitVec 64 × Bytes32} {intent intent' : AcceptedIntentV1}
    (hintent : world.acceptedIntents key = some intent)
    (hintent' : world.acceptedIntents key' = some intent') (hne : key ≠ key')
    (hinjective : Set.InjOn runtime.sha256
      {bytes | bytes ∈ preimagesOf intent.args intent'.args}) :
    intent.args.nullifier ≠ intent'.args.nullifier := by
  obtain ⟨hkey, hnullifier⟩ := filed_of_run hstart hrun key intent hintent
  obtain ⟨hkey', hnullifier'⟩ := filed_of_run hstart hrun key' intent' hintent'
  intro heq
  rw [hnullifier, hnullifier'] at heq
  have hpreimages := hinjective (by simp [preimagesOf]) (by simp [preimagesOf]) heq
  apply nullifierPreimage_eq_iff.mp hpreimages
  by_contra hsame
  simp only [NullifierTermsDiffer, not_or, not_not] at hsame
  exact hne (hkey.trans ((Prod.ext hsame.1 hsame.2.1).trans hkey'.symm))

end Runs

section Sample

/-- An intent with its derived values as SHA-256 gives them. -/
def sampleArgs : AcceptIntentArgs where
  epochId := 7
  intentCommitment := 0x0101010101010101010101010101010101010101010101010101010101010101
  amount := 100
  tokenId := 2
  tipRootCommitment := 0x0303030303030303030303030303030303030303030303030303030303030303
  settlementCommitment := 0x47b73c0ab66b6bfbafb2d09a508198ae5f8ccfd9ab34563ec2d713a42ff49152
  assetCommitment := 0x0404040404040404040404040404040404040404040404040404040404040404
  policyCommitment := 0x0505050505050505050505050505050505050505050505050505050505050505
  gpruScopeCommitment := 0x4f43faca1dde3657cdd736c5da9a12eb446f8d778f2682cdbf78d86eb7aa7124
  replayNonce := 0x0606060606060606060606060606060606060606060606060606060606060606
  nullifier := 0x0e69c563bcf272ff43bf5835533139b8bd6feaf46e1265e8708bbb54504e89cf
  validAfterSlot := 10
  expiresAtSlot := 20

/-- The same intent over one unit more. -/
def changedArgs : AcceptIntentArgs :=
  { sampleArgs with
    amount := 101
    settlementCommitment := 0xd114471efd3395540bce7e1ae58ab18bb094c9d4c4a7c1df9290051e3eb87287
    gpruScopeCommitment :=
      0x995257f2584d846290583501840d7d2e91662759f982131f55b3f9781c09494c }

/-- SHA-256 on the preimages of the two intents. -/
def sampleSha256 (bytes : List Byte) : Bytes32 :=
  if bytes = scopePreimage sampleArgs then sampleArgs.gpruScopeCommitment
  else if bytes = nullifierPreimage sampleArgs then sampleArgs.nullifier
  else if bytes = settlementPreimage sampleArgs then sampleArgs.settlementCommitment
  else if bytes = rootPreimage sampleArgs then
    0x1e17e82bb51991449eff6afc890875532faea41ec35f7189103933f5cd85239c
  else if bytes = scopePreimage changedArgs then changedArgs.gpruScopeCommitment
  else if bytes = settlementPreimage changedArgs then changedArgs.settlementCommitment
  else if bytes = rootPreimage changedArgs then
    0x9eb9283d4e620f0fbb076e28bd3fc76c91911c94ccff209720535ca9c22a0f4d
  else 0

def sampleRuntime : Runtime where
  sha256 := sampleSha256
  motherEscrow := 21
  bump := fun _ => 255

def sampleWorld : World where
  authority := 22
  epochId := 7
  acceptedIntents := fun _ => none

theorem sampleSha256_injOn :
    Set.InjOn sampleSha256 {bytes | bytes ∈ preimagesOf sampleArgs changedArgs} := by
  have hpairs : ∀ left ∈ preimagesOf sampleArgs changedArgs,
      ∀ right ∈ preimagesOf sampleArgs changedArgs,
        sampleSha256 left = sampleSha256 right → left = right := by
    decide +kernel
  exact fun left hleft right hright heq => hpairs left hleft right hright heq

/-- Both intents are accepted, each by itself, with one nullifier. -/
theorem amount_not_in_nullifier :
    Set.InjOn sampleRuntime.sha256 {bytes | bytes ∈ preimagesOf sampleArgs changedArgs} ∧
      (acceptIntent sampleRuntime 22 sampleArgs sampleWorld).isOk = true ∧
      (acceptIntent sampleRuntime 22 changedArgs sampleWorld).isOk = true ∧
      sampleArgs.amount ≠ changedArgs.amount ∧
      deriveSettlementNullifier sampleRuntime.sha256 sampleArgs =
        deriveSettlementNullifier sampleRuntime.sha256 changedArgs :=
  ⟨sampleSha256_injOn, by decide +kernel, by decide +kernel, by decide, by decide +kernel⟩

theorem allDiffer_iff_sample :
    (sampleArgs.terms ≠ changedArgs.terms → AllDiffer sampleSha256 sampleArgs changedArgs) ↔
      (sampleArgs.terms ≠ changedArgs.terms → NullifierTermsDiffer sampleArgs changedArgs) :=
  allDiffer_iff sampleArgs changedArgs sampleSha256_injOn

end Sample

end TsnProtocol.Tsn.AcceptIntent
