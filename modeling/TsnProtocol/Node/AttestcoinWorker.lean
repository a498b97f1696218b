import Mathlib
import TsnProtocol.Lib.PythonText

/-!
The worker that has the exit of a settlement attested: its calls run side by side over one
tracker, and each of their awaits may fail.
-/

namespace TsnProtocol.Node.AttestcoinWorker

open Lib.Checked
open Lib.PythonText (Unicode intOf)

inductive AttestationState
  | pending
  | anchorSubmitted
  | anchorConfirmed
  | proofWaiting
  | proofVerified
  | ascSubmitted
  | attested
  deriving DecidableEq

/-- The place of a state in the workflow; no record is at place zero. -/
def AttestationState.place : AttestationState → Nat
  | .pending => 1
  | .anchorSubmitted => 2
  | .anchorConfirmed => 3
  | .proofWaiting => 4
  | .proofVerified => 5
  | .ascSubmitted => 6
  | .attested => 7

structure TinExitAttestationJob where
  (settlementId anchorTxHash sealedTipHeadHash amount tinHash exitCommitment : String)
  merchantOverride : Bool
  deriving DecidableEq

structure AttestationResult where
  settlementId : String
  state : AttestationState
  anchorTxHash : String
  creditcoinTxHash : Option String
  deriving DecidableEq

/-- The record of a settlement in the tracker. -/
structure Record where
  state : AttestationState
  job : TinExitAttestationJob
  anchorTxHash : Option String
  proofReady : Bool
  creditcoinTxHash : Option String
  deriving DecidableEq

/-- What a write puts into a record besides the state and the job. -/
structure Patch where
  anchorTxHash : Option String
  proofReady : Bool
  creditcoinTxHash : Option String

def noPatch : Patch :=
  ⟨none, false, none⟩

structure Payload where
  (idempotencyKey settlementId : String)
  sourceChainKey : Nat
  (anchorTxHash sealedTipHeadHash amount tinHash exitCommitment proof : String)
  deriving DecidableEq

/-- Where a call of `run` waits. -/
inductive Phase
  | reading
  | writingPending
  | writingAnchorSubmitted
  | writingAnchorConfirmed
  | writingProofWaiting
  | proving
  | writingProofVerified (proof : String)
  | submitting (proof : String) (attempt : Nat)
  | sleeping (proof : String) (attempt : Nat)
  | writingAscSubmitted (txHash : String)
  | writingAttested (txHash : String)
  deriving DecidableEq

structure ActiveRun where
  job : TinExitAttestationJob
  phase : Phase
  deriving DecidableEq

/-- A submission that the Cranker has carried out, and whether its answer has arrived. -/
structure Submission where
  payload : Payload
  txHash : String
  answered : Bool
  deriving DecidableEq

/-- The tracker, the calls under way, the submissions, latest first, and what the finished
calls have returned or raised. -/
structure World where
  records : String → Option Record
  runs : Nat → Option ActiveRun
  started : Nat
  submissions : List Submission
  outcomes : List (Nat × Except String AttestationResult)

def initial : World where
  records := fun _ => none
  runs := fun _ => none
  started := 0
  submissions := []
  outcomes := []

inductive Problem
  | invalid (message : String)
  | noSuchRun
  | notAwaited
  deriving DecidableEq

structure Config where
  unicode : Unicode
  maxRetries : Nat

def validateHash (name value : String) : Except Problem Unit :=
  require (value.toList.take 2 = ['0', 'x'] ∧ value.toList.length = 66)
    (.invalid (name ++ " must be a 32-byte 0x hash"))

def validate (unicode : Unicode) (job : TinExitAttestationJob) : Except Problem Unit := do
  require (job.merchantOverride = true)
    (.invalid "TinExitAttested must be explicitly requested by policy")
  require (job.settlementId ≠ "" ∧ job.anchorTxHash ≠ "")
    (.invalid "settlement_id and anchor_tx_hash are required")
  validateHash "sealed_tip_head_hash" job.sealedTipHeadHash
  validateHash "tin_hash" job.tinHash
  validateHash "exit_commitment" job.exitCommitment
  let amount ← okOr (intOf unicode job.amount) (.invalid "invalid literal for int()")
  require (¬ amount ≤ 0) (.invalid "amount must be positive")

def idempotencyKey (job : TinExitAttestationJob) : String :=
  job.settlementId ++ ":" ++ job.exitCommitment

def payloadOf (job : TinExitAttestationJob) (proof : String) : Payload where
  idempotencyKey := idempotencyKey job
  settlementId := job.settlementId
  sourceChainKey := 1
  anchorTxHash := job.anchorTxHash
  sealedTipHeadHash := job.sealedTipHeadHash
  amount := job.amount
  tinHash := job.tinHash
  exitCommitment := job.exitCommitment
  proof := proof

/-- `tracker.write`: the patch goes over what is there. -/
def patched (current : Option Record) (job : TinExitAttestationJob) (state : AttestationState)
    (patch : Patch) : Record where
  state := state
  job := job
  anchorTxHash := patch.anchorTxHash.or (current.bind Record.anchorTxHash)
  proofReady := patch.proofReady || current.any Record.proofReady
  creditcoinTxHash := patch.creditcoinTxHash.or (current.bind Record.creditcoinTxHash)

/-- How a call goes on: it waits again, raises, or returns. -/
inductive After
  | wait (phase : Phase)
  | raise (message : String)
  | answer (result : AttestationResult)

def retriesExhausted : String :=
  "Creditcoin ASC submission failed after retries"

/-- The answer of a call that finds the attestation on its way. -/
def existingResult (job : TinExitAttestationJob) (existing : Option Record) :
    Option AttestationResult :=
  existing.bind fun record =>
    if record.state = .ascSubmitted ∨ record.state = .attested then
      some ⟨job.settlementId, record.state, job.anchorTxHash, record.creditcoinTxHash⟩
    else none

/-- What is written in a phase, and what follows the write. -/
def writeOf (config : Config) (job : TinExitAttestationJob) :
    Phase → Option (AttestationState × Patch × After)
  | .writingPending =>
      some (.pending, ⟨some job.anchorTxHash, false, none⟩, .wait .writingAnchorSubmitted)
  | .writingAnchorSubmitted =>
      some (.anchorSubmitted, noPatch, .wait .writingAnchorConfirmed)
  | .writingAnchorConfirmed => some (.anchorConfirmed, noPatch, .wait .writingProofWaiting)
  | .writingProofWaiting => some (.proofWaiting, noPatch, .wait .proving)
  | .writingProofVerified proof =>
      some (.proofVerified, ⟨none, true, none⟩,
        if config.maxRetries = 0 then .raise retriesExhausted else .wait (.submitting proof 0))
  | .writingAscSubmitted txHash =>
      some (.ascSubmitted, ⟨none, false, some txHash⟩, .wait (.writingAttested txHash))
  | .writingAttested txHash =>
      some (.attested, ⟨none, false, some txHash⟩,
        .answer ⟨job.settlementId, .attested, job.anchorTxHash, some txHash⟩)
  | _ => none

/-- What becomes of a submission: its transaction, or an exception of the call or a
cancellation, where the Cranker may have made the transaction all the same. -/
inductive Answer
  | confirmed (txHash : String)
  | failed (landed : Option String)
  | aborted (landed : Option String)
  deriving DecidableEq

inductive Input
  | start (job : TinExitAttestationJob)
  | proceed (id : Nat)
  | prove (id : Nat) (proof : String)
  | submit (id : Nat) (answer : Answer)
  | fail (id : Nat) (message : String)
  deriving DecidableEq

def proceedTo (world : World) (id : Nat) (run : ActiveRun) : After → World
  | .wait phase => { world with
      runs := Function.update world.runs id (some { run with phase := phase }) }
  | .raise message => { world with
      runs := Function.update world.runs id none
      outcomes := (id, .error message) :: world.outcomes }
  | .answer result => { world with
      runs := Function.update world.runs id none
      outcomes := (id, .ok result) :: world.outcomes }

/-- The submissions after one that the Cranker may have carried out unheard. -/
def withLanded (world : World) (payload : Payload) : Option String → World
  | none => world
  | some txHash => { world with
      submissions := ⟨payload, txHash, false⟩ :: world.submissions }

def submitStep (config : Config) (world : World) (id : Nat) (run : ActiveRun) (proof : String)
    (attempt : Nat) : Answer → World
  | .confirmed txHash =>
      proceedTo { world with
        submissions := ⟨payloadOf run.job proof, txHash, true⟩ :: world.submissions }
        id run (.wait (.writingAscSubmitted txHash))
  | .failed landed =>
      proceedTo (withLanded world (payloadOf run.job proof) landed) id run
        (if attempt + 1 < config.maxRetries then .wait (.sleeping proof (attempt + 1))
          else .raise retriesExhausted)
  | .aborted landed =>
      proceedTo (withLanded world (payloadOf run.job proof) landed) id run (.raise "cancelled")

/-- The await of a tracker call or of a pause is over. -/
def proceedStep (config : Config) (world : World) (id : Nat) (run : ActiveRun) :
    Except Problem World :=
  match run.phase with
  | .reading =>
      .ok (proceedTo world id run
        (match existingResult run.job (world.records run.job.settlementId) with
          | some result => .answer result
          | none => .wait .writingPending))
  | .sleeping proof attempt => .ok (proceedTo world id run (.wait (.submitting proof attempt)))
  | phase => do
      let (state, patch, after) ← okOr (writeOf config run.job phase) .notAwaited
      let record := patched (world.records run.job.settlementId) run.job state patch
      return proceedTo { world with
        records := Function.update world.records run.job.settlementId (some record) }
        id run after

def step (config : Config) (world : World) : Input → Except Problem World
  | .start job => do
      validate config.unicode job
      return { world with
        runs := Function.update world.runs world.started (some ⟨job, .reading⟩)
        started := world.started + 1 }
  | .proceed id => do
      let run ← okOr (world.runs id) .noSuchRun
      proceedStep config world id run
  | .prove id proof => do
      let run ← okOr (world.runs id) .noSuchRun
      require (run.phase = .proving) .notAwaited
      return proceedTo world id run (.wait (.writingProofVerified proof))
  | .submit id answer => do
      let run ← okOr (world.runs id) .noSuchRun
      match run.phase with
      | .submitting proof attempt => return submitStep config world id run proof attempt answer
      | _ => .error .notAwaited
  | .fail id message => do
      let run ← okOr (world.runs id) .noSuchRun
      match run.phase with
      | .submitting _ _ => .error .notAwaited
      | _ => return proceedTo world id run (.raise message)

section Changes

variable {config : Config} {world next : World} {id other : Nat} {run : ActiveRun}
  {after : After}

@[simp] theorem records_proceedTo : (proceedTo world id run after).records = world.records := by
  cases after <;> rfl

@[simp] theorem submissions_proceedTo :
    (proceedTo world id run after).submissions = world.submissions := by
  cases after <;> rfl

@[simp] theorem started_proceedTo : (proceedTo world id run after).started = world.started := by
  cases after <;> rfl

theorem runs_proceedTo_of_ne (hother : other ≠ id) :
    (proceedTo world id run after).runs other = world.runs other := by
  cases after with
  | wait phase => exact Function.update_of_ne hother _ _
  | raise message => exact Function.update_of_ne hother _ _
  | answer result => exact Function.update_of_ne hother _ _

/-- A call that goes on is the same call in its next phase. -/
theorem phase_of_proceedTo {changed : ActiveRun}
    (hchanged : (proceedTo world id run after).runs id = some changed) :
    changed.job = run.job ∧ after = .wait changed.phase := by
  cases after with
  | wait phase =>
      have hsome : Function.update world.runs id (some { run with phase := phase }) id =
          some changed := hchanged
      rw [Function.update_self, Option.some.injEq] at hsome
      subst hsome
      exact ⟨rfl, rfl⟩
  | raise message =>
      have hnone : Function.update world.runs id none id = some changed := hchanged
      rw [Function.update_self] at hnone
      cases hnone
  | answer result =>
      have hnone : Function.update world.runs id none id = some changed := hchanged
      rw [Function.update_self] at hnone
      cases hnone

/-- What a step on a call can do. -/
inductive Effect (config : Config) (world : World) (input : Input) (id : Nat)
    (run : ActiveRun) : World → Prop
  | gone (message : String) :
      Effect config world input id run (proceedTo world id run (.raise message))
  | found (result : AttestationResult) (hphase : run.phase = .reading)
      (hresult : existingResult run.job (world.records run.job.settlementId) = some result) :
      Effect config world input id run (proceedTo world id run (.answer result))
  | fresh (hphase : run.phase = .reading)
      (hresult : existingResult run.job (world.records run.job.settlementId) = none) :
      Effect config world input id run (proceedTo world id run (.wait .writingPending))
  | rested (proof : String) (attempt : Nat) (hphase : run.phase = .sleeping proof attempt) :
      Effect config world input id run (proceedTo world id run (.wait (.submitting proof attempt)))
  | proved (proof : String) (hphase : run.phase = .proving) :
      Effect config world input id run (proceedTo world id run (.wait (.writingProofVerified proof)))
  | written (state : AttestationState) (patch : Patch) (after : After)
      (hwrite : writeOf config run.job run.phase = some (state, patch, after)) :
      Effect config world input id run (proceedTo { world with
        records := Function.update world.records run.job.settlementId (some
          (patched (world.records run.job.settlementId) run.job state patch)) } id run after)
  | submitted (proof : String) (attempt : Nat) (answer : Answer)
      (hinput : input = .submit id answer) (hphase : run.phase = .submitting proof attempt) :
      Effect config world input id run (submitStep config world id run proof attempt answer)

theorem effect_of_proceedStep {input : Input} (hstep : proceedStep config world id run = .ok next) :
    Effect config world input id run next := by
  rw [proceedStep] at hstep
  split at hstep
  · rename_i hphase
    rw [Except.ok.injEq] at hstep
    subst hstep
    cases hresult : existingResult run.job (world.records run.job.settlementId) with
    | some result => exact .found result hphase hresult
    | none => exact .fresh hphase hresult
  · rename_i proof attempt hphase
    rw [Except.ok.injEq] at hstep
    subst hstep
    exact .rested proof attempt hphase
  · simp only [bind_eq_ok, okOr_eq_ok, pure_eq_ok] at hstep
    obtain ⟨⟨state, patch, after⟩, hwrite, rfl⟩ := hstep
    exact .written state patch after hwrite

/-- The call that an input is about. -/
def Input.callId : Input → Option Nat
  | .start _ => none
  | .proceed id | .prove id _ | .submit id _ | .fail id _ => some id

theorem effect_of_step {input : Input} (hid : input.callId = some id)
    (hstep : step config world input = .ok next) :
    ∃ run, world.runs id = some run ∧ Effect config world input id run next := by
  cases input with
  | start job => cases hid
  | proceed called =>
      obtain rfl := Option.some.inj hid
      simp only [step, bind_eq_ok, okOr_eq_ok] at hstep
      obtain ⟨run, hrun, hstep⟩ := hstep
      exact ⟨run, hrun, effect_of_proceedStep hstep⟩
  | prove called proof =>
      obtain rfl := Option.some.inj hid
      simp only [step, bind_eq_ok, okOr_eq_ok, require_eq_ok, pure_eq_ok] at hstep
      obtain ⟨run, hrun, _, hphase, rfl⟩ := hstep
      exact ⟨run, hrun, .proved proof hphase⟩
  | submit called answer =>
      obtain rfl := Option.some.inj hid
      simp only [step, bind_eq_ok, okOr_eq_ok] at hstep
      obtain ⟨run, hrun, hstep⟩ := hstep
      split at hstep
      · rename_i proof attempt hphase
        rw [pure_eq_ok] at hstep
        subst hstep
        exact ⟨run, hrun, .submitted proof attempt answer rfl hphase⟩
      · cases hstep
  | fail called message =>
      obtain rfl := Option.some.inj hid
      simp only [step, bind_eq_ok, okOr_eq_ok] at hstep
      obtain ⟨run, hrun, hstep⟩ := hstep
      split at hstep
      · cases hstep
      · rw [pure_eq_ok] at hstep
        subst hstep
        exact ⟨run, hrun, .gone message⟩

end Changes

end TsnProtocol.Node.AttestcoinWorker
