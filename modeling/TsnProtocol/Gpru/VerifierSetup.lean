import TsnProtocol.Gpru.Verifier
import TsnProtocol.Lib.ByteReader
import TsnProtocol.Lib.Transition

/-!
Setup of the verifying key of the hidden-head circuit: its header is installed under the
mother authority, the IC points arrive in chunks, and the key is enabled when it hashes to
the declared commitment.
-/

namespace TsnProtocol.Gpru.VerifierSetup

open Gpru.Verifier (GpruHiddenHeadVerifierV1 HiddenHeadError asciiBytes
  hiddenHeadVerifierAddress verifierVersion)
open Lib.ByteReader
open Lib.Transition
open Solana.Address

/-- The verifier account with the fields that only its setup reads. -/
structure VerifierAccount extends GpruHiddenHeadVerifierV1 where
  authority : Pubkey
  verifyingKeyCommitment : Bytes32

inductive SetupError where
  | gpru (error : HiddenHeadError)
  | accountNotSigner | accountInUse | accountNotInitialized | constraintSeeds
  deriving DecidableEq

/-- What the chain provides to the setup, with the 32 bytes of each address. -/
structure Runtime extends Verifier.Runtime where
  keyBytes : Pubkey → Bytes32

structure MotherAccount where
  (address owner : Pubkey)
  data : List Byte
  deriving DecidableEq

/-- The accounts of every instruction of the setup. -/
structure SetupAccounts where
  authority : Pubkey
  authorityIsSigner : Bool
  motherEscrow : MotherAccount
  verifier : Pubkey
  deriving DecidableEq

structure InitializeHiddenHeadVerifierArgsV1 where
  (circuitCommitment verifyingKeyCommitment : Bytes32)
  alphaG1 : BitVec 512
  (betaG2 gammaG2 deltaG2 : BitVec 1024)

structure WriteHiddenHeadVerifierIcArgsV1 where
  startIndex : Byte
  points : List (BitVec 512)

inductive Instruction where
  | initializeHiddenHeadVerifierV1 (accounts : SetupAccounts)
      (args : InitializeHiddenHeadVerifierArgsV1)
  | writeHiddenHeadVerifierIcV1 (accounts : SetupAccounts)
      (args : WriteHiddenHeadVerifierIcArgsV1)
  | enableHiddenHeadVerifierV1 (accounts : SetupAccounts)

/-- A handler works on the account in place: when it stops, what it has written stays. -/
abbrev Handler := EStateM SetupError

section Handlers

variable {State : Type}

def demand (condition : Prop) [Decidable condition] (error : SetupError) :
    Handler State Unit :=
  if condition then pure () else throw error

variable (runtime : Runtime)

def tsnMotherEscrow : Pubkey :=
  findProgramAddress tsnProgram "tsn_mother_escrow" []

def motherDiscriminator : List Byte :=
  (wordBytes (runtime.sha256 (asciiBytes "account:MotherEscrow"))).take 8

def validateMotherAuthority (mother : MotherAccount) (authority : Pubkey) :
    Handler State Unit := do
  demand (mother.address = tsnMotherEscrow) (.gpru .invalidAuthority)
  demand (mother.owner = tsnProgram) (.gpru .invalidAuthority)
  demand (40 ≤ mother.data.length ∧ mother.data.take 8 = motherDiscriminator runtime)
    (.gpru .invalidAuthority)
  demand ((mother.data.drop 8).take 32 = wordBytes (runtime.keyBytes authority))
    (.gpru .invalidAuthority)

def keyBytes (verifier : VerifierAccount) : List Byte :=
  beBytes 64 verifier.alphaG1.toNat ++ beBytes 128 verifier.betaG2.toNat ++
    beBytes 128 verifier.gammaG2.toNat ++ beBytes 128 verifier.deltaG2.toNat ++
    (List.finRange 13).flatMap fun index => beBytes 64 (verifier.ic index).toNat

def verifyingKeyCommitmentV1 (verifier : VerifierAccount) : Bytes32 :=
  runtime.sha256
    (asciiBytes "TSN_GPRU_GROTH16_VERIFYING_KEY_V1" ++ [0] ++ keyBytes verifier)

def initializeVerifier (accounts : SetupAccounts) (args : InitializeHiddenHeadVerifierArgsV1) :
    Handler (Option VerifierAccount) Unit := do
  demand (accounts.authorityIsSigner = true) .accountNotSigner
  demand (accounts.verifier = hiddenHeadVerifierAddress) .constraintSeeds
  demand ((← get).isNone = true) .accountInUse
  validateMotherAuthority runtime accounts.motherEscrow accounts.authority
  demand (args.circuitCommitment = runtime.circuitCommitmentV1) (.gpru .invalidCircuit)
  demand (args.verifyingKeyCommitment ≠ 0) (.gpru .invalidVerifyingKey)
  set (some
    { version := verifierVersion
      authority := accounts.authority
      circuitCommitment := args.circuitCommitment
      verifyingKeyCommitment := args.verifyingKeyCommitment
      enabled := false
      bump := runtime.bump hiddenHeadVerifierAddress
      alphaG1 := args.alphaG1
      betaG2 := args.betaG2
      gammaG2 := args.gammaG2
      deltaG2 := args.deltaG2
      ic := fun _ => 0 : VerifierAccount })

def validateConfigurationAuthority (accounts : SetupAccounts) :
    Handler VerifierAccount Unit := do
  validateMotherAuthority runtime accounts.motherEscrow accounts.authority
  demand ((← get).authority = accounts.authority) (.gpru .invalidAuthority)

/-- The IC points with a chunk copied over those from `start` on. -/
def copyPoints (ic : Fin 13 → BitVec 512) (start : Nat) (points : List (BitVec 512)) :
    Fin 13 → BitVec 512 := fun index =>
  if start ≤ index.val then (points[index.val - start]?).getD (ic index) else ic index

def writeIcPoints (args : WriteHiddenHeadVerifierIcArgsV1) : Handler VerifierAccount Unit := do
  let start := args.startIndex.toNat
  demand ((← get).enabled = false) (.gpru .invalidVerifyingKey)
  demand (args.points ≠ [] ∧ args.points.length ≤ 4) (.gpru .invalidVerifyingKey)
  demand (start + args.points.length ≤ 13) (.gpru .invalidVerifyingKey)
  demand (args.points.all (· ≠ 0) = true) (.gpru .invalidVerifyingKey)
  modify fun verifier => { verifier with ic := copyPoints verifier.ic start args.points }

def enableCompleteKey : Handler VerifierAccount Unit := do
  let verifier ← get
  demand (verifier.enabled = false) (.gpru .invalidVerifyingKey)
  demand (verifier.version = verifierVersion) (.gpru .verifierUnavailable)
  demand (verifier.circuitCommitment = runtime.circuitCommitmentV1) (.gpru .invalidCircuit)
  demand (∀ index, verifier.ic index ≠ 0) (.gpru .invalidVerifyingKey)
  demand (verifier.verifyingKeyCommitment = verifyingKeyCommitmentV1 runtime verifier)
    (.gpru .invalidVerifyingKey)
  modify fun verifier => { verifier with enabled := true }

def onAccount (handler : Handler VerifierAccount Unit) : Handler (Option VerifierAccount) Unit
  | none => .error .accountNotInitialized none
  | some verifier =>
      match handler verifier with
      | .ok _ next => .ok () (some next)
      | .error error next => .error error (some next)

/-- An instruction on the existing account, at its canonical address. -/
def configure (accounts : SetupAccounts) (handler : Handler VerifierAccount Unit) :
    Handler (Option VerifierAccount) Unit := do
  demand (accounts.authorityIsSigner = true) .accountNotSigner
  onAccount do
    demand (accounts.verifier = hiddenHeadVerifierAddress ∧
      (← get).bump = runtime.bump hiddenHeadVerifierAddress) .constraintSeeds
    validateConfigurationAuthority runtime accounts
    handler

def processInstruction : Instruction → Handler (Option VerifierAccount) Unit
  | .initializeHiddenHeadVerifierV1 accounts args => initializeVerifier runtime accounts args
  | .writeHiddenHeadVerifierIcV1 accounts args =>
      configure runtime accounts (writeIcPoints args)
  | .enableHiddenHeadVerifierV1 accounts =>
      configure runtime accounts (enableCompleteKey runtime)

/-- One instruction after another, whether they are accepted or not. -/
def submit (state : Option VerifierAccount) (instruction : Instruction) :
    Except SetupError (Option VerifierAccount) :=
  match processInstruction runtime instruction state with
  | .ok _ next => .ok next
  | .error _ next => .ok next

end Handlers

section Rejections

variable {State α β : Type}

/-- The computation does not change the account. -/
def Inspects (handler : Handler State α) : Prop :=
  ∀ state, (∃ value, handler state = .ok value state) ∨
    ∃ error, handler state = .error error state

/-- The computation leaves the account as it was when it stops with an error. -/
def WritesWhole (handler : Handler State α) : Prop :=
  ∀ state error next, handler state = .error error next → next = state

theorem inspects_demand (condition : Prop) [Decidable condition] (error : SetupError) :
    Inspects (demand condition error : Handler State Unit) := by
  intro state
  unfold demand
  split
  · exact .inl ⟨(), rfl⟩
  · exact .inr ⟨error, rfl⟩

theorem inspects_get : Inspects (get : Handler State State) :=
  fun state => .inl ⟨state, rfl⟩

theorem inspects_bind {first : Handler State α} {rest : α → Handler State β}
    (hfirst : Inspects first) (hrest : ∀ value, Inspects (rest value)) :
    Inspects (first >>= rest) := by
  intro state
  rcases hfirst state with ⟨value, hvalue⟩ | ⟨error, herror⟩
  · have hbind : (first >>= rest) state = rest value state := by
      simp only [bind, EStateM.bind, hvalue]
    rw [hbind]
    exact hrest value state
  · right
    refine ⟨error, ?_⟩
    simp only [bind, EStateM.bind, herror]

theorem writesWhole_modify (change : State → State) :
    WritesWhole (modify change : Handler State Unit) :=
  nofun

theorem writesWhole_set (state : State) : WritesWhole (set state : Handler State Unit) :=
  nofun

/-- Checks in front of a write keep it whole. -/
theorem writesWhole_bind {first : Handler State α} {rest : α → Handler State β}
    (hfirst : Inspects first) (hrest : ∀ value, WritesWhole (rest value)) :
    WritesWhole (first >>= rest) := by
  intro state error next hnext
  rcases hfirst state with ⟨value, hvalue⟩ | ⟨other, herror⟩
  · apply hrest value state error
    simpa only [bind, EStateM.bind, hvalue] using hnext
  · simp only [bind, EStateM.bind, herror] at hnext
    cases hnext
    rfl

variable (runtime : Runtime)

theorem inspects_validateMotherAuthority (mother : MotherAccount) (authority : Pubkey) :
    Inspects (validateMotherAuthority runtime mother authority : Handler State Unit) := by
  refine inspects_bind (inspects_demand _ _) fun _ => ?_
  refine inspects_bind (inspects_demand _ _) fun _ => ?_
  refine inspects_bind (inspects_demand _ _) fun _ => ?_
  exact inspects_demand _ _

theorem inspects_validateConfigurationAuthority (accounts : SetupAccounts) :
    Inspects (validateConfigurationAuthority runtime accounts) := by
  refine inspects_bind (inspects_validateMotherAuthority _ _ _) fun _ => ?_
  exact inspects_bind inspects_get fun _ => inspects_demand _ _

/-- A chunk is stored whole or not at all. -/
theorem writesWhole_writeIcPoints (args : WriteHiddenHeadVerifierIcArgsV1) :
    WritesWhole (writeIcPoints args) := by
  refine writesWhole_bind inspects_get fun _ => ?_
  iterate 4 refine writesWhole_bind (inspects_demand _ _) fun _ => ?_
  exact writesWhole_modify _

theorem writesWhole_enableCompleteKey : WritesWhole (enableCompleteKey runtime) := by
  refine writesWhole_bind inspects_get fun _ => ?_
  iterate 5 refine writesWhole_bind (inspects_demand _ _) fun _ => ?_
  exact writesWhole_modify _

theorem writesWhole_onAccount {handler : Handler VerifierAccount Unit}
    (hhandler : WritesWhole handler) : WritesWhole (onAccount handler) := by
  intro state error next hnext
  cases state with
  | none =>
      cases hnext
      rfl
  | some verifier =>
      simp only [onAccount] at hnext
      split at hnext
      · cases hnext
      · rename_i other reached hother
        cases hnext
        rw [hhandler verifier _ _ hother]

theorem writesWhole_processInstruction (instruction : Instruction) :
    WritesWhole (processInstruction runtime instruction) := by
  have hconfigure {accounts : SetupAccounts} {handler : Handler VerifierAccount Unit}
      (hhandler : WritesWhole handler) :
      WritesWhole (configure runtime accounts handler) := by
    refine writesWhole_bind (inspects_demand _ _) fun _ => writesWhole_onAccount ?_
    refine writesWhole_bind inspects_get fun _ => ?_
    refine writesWhole_bind (inspects_demand _ _) fun _ => ?_
    exact writesWhole_bind (inspects_validateConfigurationAuthority runtime accounts)
      fun _ => hhandler
  cases instruction with
  | initializeHiddenHeadVerifierV1 accounts args =>
      refine writesWhole_bind (inspects_demand _ _) fun _ => ?_
      refine writesWhole_bind (inspects_demand _ _) fun _ => ?_
      refine writesWhole_bind inspects_get fun _ => ?_
      refine writesWhole_bind (inspects_demand _ _) fun _ => ?_
      refine writesWhole_bind (inspects_validateMotherAuthority _ _ _) fun _ => ?_
      refine writesWhole_bind (inspects_demand _ _) fun _ => ?_
      refine writesWhole_bind (inspects_demand _ _) fun _ => ?_
      exact writesWhole_set _
  | writeHiddenHeadVerifierIcV1 accounts args =>
      exact hconfigure (writesWhole_writeIcPoints args)
  | enableHiddenHeadVerifierV1 accounts =>
      exact hconfigure (writesWhole_enableCompleteKey runtime)

end Rejections

section Effects

variable {State α β : Type} {state next : State} {handler : Handler State Unit}

@[simp] theorem handler_bind_eq_ok {first : Handler State α} {rest : α → Handler State β}
    {result : β} :
    (first >>= rest) state = .ok result next ↔
      ∃ value middle, first state = .ok value middle ∧ rest value middle = .ok result next := by
  simp only [bind, EStateM.bind]
  cases first state <;> simp

@[simp] theorem demand_eq_ok {condition : Prop} [Decidable condition] {error : SetupError}
    {result : Unit} :
    demand condition error state = .ok result next ↔ condition ∧ state = next := by
  unfold demand
  split
  · rename_i hcondition
    simp [hcondition, pure, EStateM.pure]
  · rename_i hcondition
    simp [hcondition, throw, throwThe, MonadExceptOf.throw, EStateM.throw]

@[simp] theorem get_eq_ok {value : State} :
    (get : Handler State State) state = .ok value next ↔ state = value ∧ state = next := by
  simp [get, getThe, MonadStateOf.get, EStateM.get]

@[simp] theorem modify_eq_ok {change : State → State} {result : Unit} :
    (modify change : Handler State Unit) state = .ok result next ↔ change state = next := by
  simp [modify, modifyGet, MonadStateOf.modifyGet, EStateM.modifyGet]

@[simp] theorem set_eq_ok {value : State} {result : Unit} :
    (set value : Handler State Unit) state = .ok result next ↔ value = next := by
  simp [set, MonadStateOf.set, EStateM.set]

variable {runtime : Runtime} {before after : Option VerifierAccount}

theorem eq_of_validateMotherAuthority {mother : MotherAccount} {authority : Pubkey}
    (hvalid : (validateMotherAuthority runtime mother authority : Handler State Unit) state =
      .ok () next) : state = next := by
  rcases inspects_validateMotherAuthority runtime mother authority state with
    ⟨_, hsame⟩ | ⟨_, herror⟩
  · rw [hsame] at hvalid
    cases hvalid
    rfl
  · rw [herror] at hvalid
    cases hvalid

theorem onAccount_eq_ok {handler : Handler VerifierAccount Unit}
    (hok : onAccount handler before = .ok () after) :
    ∃ verifier updated, before = some verifier ∧ after = some updated ∧
      handler verifier = .ok () updated := by
  cases before with
  | none => cases hok
  | some verifier =>
      simp only [onAccount] at hok
      split at hok
      · rename_i updated hupdated
        cases hok
        exact ⟨verifier, updated, rfl, rfl, hupdated⟩
      · cases hok

theorem configure_eq_ok {accounts : SetupAccounts} {handler : Handler VerifierAccount Unit}
    (hok : configure runtime accounts handler before = .ok () after) :
    ∃ verifier updated, before = some verifier ∧ after = some updated ∧
      handler verifier = .ok () updated := by
  simp only [configure, handler_bind_eq_ok, demand_eq_ok] at hok
  obtain ⟨_, _, ⟨_, rfl⟩, hok⟩ := hok
  obtain ⟨verifier, updated, hbefore, hafter, hrun⟩ := onAccount_eq_ok hok
  simp only [validateConfigurationAuthority, handler_bind_eq_ok, demand_eq_ok,
    get_eq_ok] at hrun
  obtain ⟨_, _, ⟨rfl, rfl⟩, _, _, ⟨_, rfl⟩, _, _, ⟨_, _, hmother, _, _, ⟨rfl, rfl⟩, _, rfl⟩,
    hrun⟩ := hrun
  rw [← eq_of_validateMotherAuthority hmother] at hrun
  exact ⟨_, updated, hbefore, hafter, hrun⟩

/-- What an accepted instruction does. -/
inductive Effect (runtime : Runtime) :
    Option VerifierAccount → Instruction → Option VerifierAccount → Prop
  | initialized {accounts : SetupAccounts} {args : InitializeHiddenHeadVerifierArgsV1}
      {fresh : VerifierAccount} :
      fresh.enabled = false → (∀ index, fresh.ic index = 0) →
        Effect runtime none (.initializeHiddenHeadVerifierV1 accounts args) (some fresh)
  | written {accounts : SetupAccounts} {args : WriteHiddenHeadVerifierIcArgsV1}
      {verifier : VerifierAccount} :
      verifier.enabled = false → args.startIndex.toNat + args.points.length ≤ 13 →
        Effect runtime (some verifier) (.writeHiddenHeadVerifierIcV1 accounts args)
          (some { verifier with
            ic := copyPoints verifier.ic args.startIndex.toNat args.points })
  | enabled {accounts : SetupAccounts} {verifier : VerifierAccount} :
      verifier.enabled = false → verifier.circuitCommitment = runtime.circuitCommitmentV1 →
        (∀ index, verifier.ic index ≠ 0) →
          verifier.verifyingKeyCommitment = verifyingKeyCommitmentV1 runtime verifier →
            Effect runtime (some verifier) (.enableHiddenHeadVerifierV1 accounts)
              (some { verifier with enabled := true })

theorem effect_of_accepted {instruction : Instruction}
    (hok : processInstruction runtime instruction before = .ok () after) :
    Effect runtime before instruction after := by
  cases instruction with
  | initializeHiddenHeadVerifierV1 accounts args =>
      simp only [processInstruction, initializeVerifier, handler_bind_eq_ok, demand_eq_ok,
        get_eq_ok, set_eq_ok] at hok
      obtain ⟨_, _, ⟨_, rfl⟩, _, _, ⟨_, rfl⟩, _, _, ⟨rfl, rfl⟩, _, _, ⟨hnone, rfl⟩, _, _, _,
        _, _, _, _, _, _, rfl⟩ := hok
      obtain rfl := Option.isNone_iff_eq_none.mp hnone
      exact .initialized rfl fun _ => rfl
  | writeHiddenHeadVerifierIcV1 accounts args =>
      obtain ⟨verifier, updated, rfl, rfl, hrun⟩ := configure_eq_ok hok
      simp only [writeIcPoints, handler_bind_eq_ok, demand_eq_ok, get_eq_ok,
        modify_eq_ok] at hrun
      obtain ⟨_, _, ⟨rfl, rfl⟩, _, _, ⟨hdisabled, rfl⟩, _, _, ⟨_, rfl⟩, _, _, ⟨hfits, rfl⟩,
        _, _, ⟨_, rfl⟩, rfl⟩ := hrun
      exact .written hdisabled hfits
  | enableHiddenHeadVerifierV1 accounts =>
      obtain ⟨verifier, updated, rfl, rfl, hrun⟩ := configure_eq_ok hok
      simp only [enableCompleteKey, handler_bind_eq_ok, demand_eq_ok, get_eq_ok,
        modify_eq_ok] at hrun
      obtain ⟨_, _, ⟨rfl, rfl⟩, _, _, ⟨hdisabled, rfl⟩, _, _, ⟨_, rfl⟩, _, _, ⟨hcircuit, rfl⟩,
        _, _, ⟨hnonzero, rfl⟩, _, _, ⟨hcommitted, rfl⟩, rfl⟩ := hrun
      exact .enabled hdisabled hcircuit hnonzero hcommitted

/-- The state after an instruction is that of an accepted one, or the one before. -/
theorem submit_eq_ok {instruction : Instruction}
    (hsubmit : submit runtime before instruction = .ok after) :
    processInstruction runtime instruction before = .ok () after ∨ after = before := by
  unfold submit at hsubmit
  split at hsubmit
  · rename_i next hnext
    cases hsubmit
    exact .inl hnext
  · rename_i error next hnext
    cases hsubmit
    exact .inr (writesWhole_processInstruction runtime instruction before error after hnext)

end Effects

section Runs

variable {runtime : Runtime} {history : List (Option VerifierAccount × Instruction)}
  {state : Option VerifierAccount}

/-- An accepted chunk stores a point at an index. -/
def Stores (runtime : Runtime) (state : Option VerifierAccount) (instruction : Instruction)
    (index : Fin 13) (point : BitVec 512) : Prop :=
  match instruction with
  | .writeHiddenHeadVerifierIcV1 _ args =>
      (∃ next, processInstruction runtime instruction state = .ok () next) ∧
        args.startIndex.toNat ≤ index.val ∧
          args.points[index.val - args.startIndex.toNat]? = some point
  | _ => False

structure Complete (runtime : Runtime) (history : List (Option VerifierAccount × Instruction))
    (verifier : VerifierAccount) : Prop where
  circuit : verifier.circuitCommitment = runtime.circuitCommitmentV1
  written : ∀ index, ∃ entry ∈ history,
    Stores runtime entry.1 entry.2 index (verifier.ic index)
  nonzero : ∀ index, verifier.ic index ≠ 0
  committed : verifier.verifyingKeyCommitment = verifyingKeyCommitmentV1 runtime verifier

/-- What holds of the verifier account however its setup is called. -/
structure KeySafe (runtime : Runtime) (history : List (Option VerifierAccount × Instruction))
    (state : Option VerifierAccount) : Prop where
  complete : ∀ verifier, state = some verifier → verifier.enabled = true →
    Complete runtime history verifier
  frozen : ∀ verifier, state = some verifier → verifier.enabled = true →
    ∀ later next, Run (submit runtime) state later next → next = some verifier
  rejected : ∀ instruction error next,
    processInstruction runtime instruction state = .error error next → next = state

/-- The part of the invariant that an accepted instruction has to keep. -/
structure Recorded (runtime : Runtime) (history : List (Option VerifierAccount × Instruction))
    (verifier : VerifierAccount) : Prop where
  written : ∀ index, verifier.ic index ≠ 0 → ∃ entry ∈ history,
    Stores runtime entry.1 entry.2 index (verifier.ic index)
  enabled : verifier.enabled = true →
    verifier.circuitCommitment = runtime.circuitCommitmentV1 ∧
      (∀ index, verifier.ic index ≠ 0) ∧
        verifier.verifyingKeyCommitment = verifyingKeyCommitmentV1 runtime verifier

/-- A point of the key after a chunk is one of the chunk or was there before. -/
theorem copyPoints_cases (ic : Fin 13 → BitVec 512) (start : Nat) (points : List (BitVec 512))
    (index : Fin 13) :
    (start ≤ index.val ∧
      points[index.val - start]? = some (copyPoints ic start points index)) ∨
    copyPoints ic start points index = ic index := by
  unfold copyPoints
  split
  · rename_i hstart
    rcases hpoint : points[index.val - start]? with _ | point
    · exact .inr rfl
    · exact .inl ⟨hstart, rfl⟩
  · exact .inr rfl

theorem recorded_of_accepted {instruction : Instruction} {verifier : VerifierAccount}
    {before : Option VerifierAccount}
    (hrecorded : ∀ earlier, before = some earlier → Recorded runtime history earlier)
    (hok : processInstruction runtime instruction before = .ok () (some verifier)) :
    Recorded runtime ((before, instruction) :: history) verifier := by
  have hearlier {index : Fin 13} {point : BitVec 512}
      (hentry : ∃ entry ∈ history, Stores runtime entry.1 entry.2 index point) :
      ∃ entry ∈ (before, instruction) :: history,
        Stores runtime entry.1 entry.2 index point := by
    obtain ⟨entry, hentry, hstores⟩ := hentry
    exact ⟨entry, List.mem_cons_of_mem _ hentry, hstores⟩
  generalize hafter : some verifier = after at hok
  have heffect := effect_of_accepted hok
  cases heffect with
  | initialized hdisabled hzero =>
      cases hafter
      refine ⟨fun index hnonzero => absurd (hzero index) hnonzero, fun henabled => ?_⟩
      rw [hdisabled] at henabled
      cases henabled
  | written hdisabled hfits =>
      cases hafter
      rename_i accounts args earlier
      refine ⟨fun index hnonzero => ?_, fun henabled => ?_⟩
      · rcases copyPoints_cases earlier.ic args.startIndex.toNat args.points index with
          ⟨hstart, hpoint⟩ | hsame
        · exact ⟨_, List.mem_cons_self, ⟨_, hok⟩, hstart, hpoint⟩
        · simp only [hsame] at hnonzero ⊢
          exact hearlier ((hrecorded earlier rfl).written index hnonzero)
      · change earlier.enabled = true at henabled
        rw [hdisabled] at henabled
        cases henabled
  | enabled hdisabled hcircuit hnonzero hcommitted =>
      cases hafter
      rename_i accounts earlier
      exact ⟨fun index hindex => hearlier ((hrecorded earlier rfl).written index hindex),
        fun _ => ⟨hcircuit, hnonzero, hcommitted⟩⟩

theorem recorded_of_run (hrun : Run (submit runtime) none history state) :
    ∀ verifier, state = some verifier → Recorded runtime history verifier := by
  induction hrun with
  | start =>
      intro verifier hverifier
      exact absurd hverifier.symm (Option.some_ne_none verifier)
  | step _ hstep ih =>
      rintro verifier rfl
      rcases submit_eq_ok hstep with haccepted | hsame
      · exact recorded_of_accepted ih haccepted
      · obtain ⟨hwritten, henabled⟩ := ih verifier hsame.symm
        refine ⟨fun index hnonzero => ?_, henabled⟩
        obtain ⟨entry, hentry, hstores⟩ := hwritten index hnonzero
        exact ⟨entry, List.mem_cons_of_mem _ hentry, hstores⟩

/-- No instruction is accepted on an enabled account. -/
theorem frozen_of_enabled {verifier : VerifierAccount} (henabled : verifier.enabled = true)
    {next : Option VerifierAccount} (hrun : Run (submit runtime) (some verifier) history next) :
    next = some verifier := by
  induction hrun with
  | start => rfl
  | step _ hstep ih =>
      subst ih
      rcases submit_eq_ok hstep with haccepted | hsame
      · exfalso
        have heffect := effect_of_accepted haccepted
        cases heffect with
        | written hdisabled _ =>
            rw [hdisabled] at henabled
            cases henabled
        | enabled hdisabled _ _ _ =>
            rw [hdisabled] at henabled
            cases henabled
      · exact hsame

/-- However the instructions of the setup are called, in any order and by anybody, an
enabled key is complete and has the declared commitment, stays as it is, and a rejected
instruction changes nothing. -/
theorem keySafe_of_run (hrun : Run (submit runtime) none history state) :
    KeySafe runtime history state := by
  refine ⟨fun verifier hstate henabled => ?_, ?_, fun instruction error next herror => ?_⟩
  · obtain ⟨hwritten, hkey⟩ := recorded_of_run hrun verifier hstate
    obtain ⟨hcircuit, hnonzero, hcommitted⟩ := hkey henabled
    exact ⟨hcircuit, fun index => hwritten index (hnonzero index), hnonzero, hcommitted⟩
  · rintro verifier rfl henabled later next hlater
    exact frozen_of_enabled henabled hlater
  · exact writesWhole_processInstruction runtime instruction state error next herror

end Runs

section Sample

def sampleRuntime : Runtime where
  bump _ := 255
  sha256 data := BitVec.ofNat 256 (data.foldl (fun state byte => 257 * state + byte.toNat) 1)
  poseidon _ := none
  circuitCommitmentV1 := 1
  groth16 _ _ := true
  keyBytes
    | .raw bytes => bytes
    | _ => 0

def sampleAccounts : SetupAccounts where
  authority := .raw 7
  authorityIsSigner := true
  motherEscrow := ⟨tsnMotherEscrow, tsnProgram, motherDiscriminator sampleRuntime ++ wordBytes 7⟩
  verifier := hiddenHeadVerifierAddress

def sampleKey : VerifierAccount where
  version := 1
  circuitCommitment := 1
  enabled := false
  bump := 255
  alphaG1 := 1
  betaG2 := 2
  gammaG2 := 3
  deltaG2 := 4
  ic _ := 5
  authority := .raw 7
  verifyingKeyCommitment := 0

/-- A setup in which a chunk runs past the end and the key is enabled once too early. -/
def sampleSetup : List Instruction :=
  [.enableHiddenHeadVerifierV1 sampleAccounts,
    .writeHiddenHeadVerifierIcV1 sampleAccounts ⟨9, [5, 5, 5, 5]⟩,
    .writeHiddenHeadVerifierIcV1 sampleAccounts ⟨10, [5, 5, 5, 5]⟩,
    .writeHiddenHeadVerifierIcV1 sampleAccounts ⟨6, [5, 5, 5]⟩,
    .writeHiddenHeadVerifierIcV1 sampleAccounts ⟨3, [5, 5, 5]⟩,
    .enableHiddenHeadVerifierV1 sampleAccounts,
    .writeHiddenHeadVerifierIcV1 sampleAccounts ⟨0, [5, 5, 5]⟩,
    .initializeHiddenHeadVerifierV1 sampleAccounts
      ⟨1, verifyingKeyCommitmentV1 sampleRuntime sampleKey, 1, 2, 3, 4⟩]

theorem keySafe_sample :
    ∃ history verifier, Run (submit sampleRuntime) none history (some verifier) ∧
      verifier.enabled = true ∧ KeySafe sampleRuntime history (some verifier) := by
  have hreaches : reaches (submit sampleRuntime) none sampleSetup
      (fun _ state => state.any fun verifier => verifier.enabled) = true := by
    decide +kernel
  obtain ⟨history, state, hrun, henabled⟩ := exists_run_of_reaches hreaches
  obtain ⟨verifier, rfl, henabled⟩ := (Option.any_eq_true _ _).mp henabled
  exact ⟨history, verifier, hrun, henabled, keySafe_of_run hrun⟩

end Sample

end TsnProtocol.Gpru.VerifierSetup
