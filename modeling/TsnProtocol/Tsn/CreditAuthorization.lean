import TsnProtocol.Gpru.Verifier
import TsnProtocol.Tcap.Effects
import TsnProtocol.Tcap.Frames

/-!
Credits of private heads. The TSN program registers an authorization and calls TCAP,
which asks GPRU to verify the proof before it moves the root; TCAP can also be called
directly. Every credit extends the chain of roots by one, and no authorization is used
twice.
-/

namespace TsnProtocol.Tsn.CreditAuthorization

open Bn254.Scalar
open Lib.Checked
open Lib.FiniteStore
open Lib.Transition
open Solana.Address
open Gpru.Verifier
open Tcap.State
open Tcap.Execution
open Tcap.Setup
open Tcap.Tips
open Tcap.Program
open Tcap.Frames

/-- What a transaction brings besides the accounts of TCAP: the instruction after the one
at hand, the route root and verifier accounts it passes, and the authority stored in the
mother escrow. -/
structure Transaction where
  call : Call
  following : Option (Pubkey × List Byte)
  tipRouteRoot : TipRouteRootAccount
  verifier : GpruHiddenHeadVerifierV1
  motherAuthority : Pubkey

/-- The chain with the GPRU program on it. -/
structure Chain where
  tcap : Tcap.Execution.Runtime
  gpru : Gpru.Verifier.Runtime

/-- The verdict of GPRU on a proof, with the program called at top level. -/
def gpruVerdict (gpru : Gpru.Verifier.Runtime) (transaction : Transaction) (caller : Pubkey)
    (proof : HiddenHeadProofArgsV1) (tipRouteRoot : Pubkey)
    (root : TcapCommitmentRootStateV1) (gpruVerifier : Pubkey) : Bool :=
  (verifyTransition gpru
    ⟨{ transaction.tipRouteRoot with address := tipRouteRoot },
      ⟨commitmentRootAddress, tcapProgram, root⟩, gpruVerifier, transaction.verifier,
      ⟨instructionsSysvar, caller, transaction.following⟩⟩ proof).isOk

/-- TCAP inside a transaction whose top-level program is given. -/
def runtimeIn (chain : Chain) (transaction : Transaction) (caller : Pubkey) :
    Tcap.Execution.Runtime :=
  { chain.tcap with
    verifyHiddenHeadTransition := gpruVerdict chain.gpru transaction caller }

inductive RegisterFailure where
  | unauthorized
  | tcap (failure : Failure)
  deriving DecidableEq

/-- Run a computation of TCAP or of the account framework. -/
def within {α : Type} (computation : Result α) : Except RegisterFailure α :=
  computation.mapError .tcap

@[simp] theorem within_eq_ok {α : Type} {computation : Result α} {result : α} :
    within computation = .ok result ↔ computation = .ok result :=
  mapError_eq_ok

structure RegisterTcapCreditAuthorizationV2Args where
  authorizationDigest : Bytes32
  (validAfterSlot expiresAtSlot : Nat)
  previousTcapRoot : Bytes32
  (tcapRootSequence tokenId amountBaseUnits : Nat)
  nullifier : Bytes32
  proof : HiddenHeadProofArgsV1

structure RegisterTcapCreditAuthorizationV2 where
  (authority motherEscrow tcapProgram tsnProgram tcapConfig tcapAssetEntry commitmentRoot
    reserveState tcapAuthorizationSigner tipRouteRoot gpruVerifier : Pubkey)

def motherEscrowAddress : Pubkey :=
  findProgramAddress tsnProgram "tsn_mother_escrow" []

/-- What the authorization digest is the hash of. -/
def authorizationPreimage (commitmentRoot : Pubkey) (previousTcapRoot : Bytes32)
    (tcapRootSequence validAfterSlot expiresAtSlot amount tokenId : Nat)
    (nullifier : Bytes32) : List Chunk :=
  [.text "TSN_GPRU_TCAP_CREDIT_HIDDEN_HEAD_V1\x00", .key commitmentRoot,
    .word previousTcapRoot, .uint 64 tcapRootSequence, .uint 64 validAfterSlot,
    .uint 64 expiresAtSlot, .uint 64 amount, .uint 32 tokenId, .word nullifier]

def deriveAuthorizationDigestV2 (chain : Chain)
    (args : RegisterTcapCreditAuthorizationV2Args) (commitmentRoot : Pubkey) : Bytes32 :=
  chain.tcap.hashv (authorizationPreimage commitmentRoot args.previousTcapRoot
    args.tcapRootSequence args.validAfterSlot args.expiresAtSlot args.amountBaseUnits
    args.tokenId args.nullifier)

/-- The arguments TSN passes on to TCAP. -/
def tcapArgs (args : RegisterTcapCreditAuthorizationV2Args) : CreditGpruMemoV1Args where
  authorizationDigest := args.authorizationDigest
  validAfterSlot := args.validAfterSlot
  expiresAtSlot := args.expiresAtSlot
  previousTcapRoot := args.previousTcapRoot
  tcapRootSequence := args.tcapRootSequence
  tokenId := args.tokenId
  nullifier := args.nullifier
  amount := args.amountBaseUnits
  proof := args.proof

/-- The accounts TSN passes on to TCAP. -/
def tcapAccounts (accounts : RegisterTcapCreditAuthorizationV2) : CreditGpruMemoV1 where
  payer := accounts.authority
  config := accounts.tcapConfig
  commitmentRoot := accounts.commitmentRoot
  assetEntry := accounts.tcapAssetEntry
  reserveState := accounts.reserveState
  tsnProgram := accounts.tsnProgram
  tsnAuthorizationSigner := accounts.tcapAuthorizationSigner
  tipRouteRoot := accounts.tipRouteRoot
  gpruVerifier := accounts.gpruVerifier

def authorize (condition : Prop) [Decidable condition] : Except RegisterFailure Unit :=
  require condition .unauthorized

section Inputs

local instance neZero_publicInputs : NeZero 12 := ⟨by decide⟩

/-- The checks on the arguments, before any account of TCAP is read. -/
def checkRegisterArgs (chain : Chain) (args : RegisterTcapCreditAuthorizationV2Args)
    (commitmentRoot : Pubkey) : Except RegisterFailure Unit := do
  authorize (args.authorizationDigest ≠ 0 ∧ args.nullifier ≠ 0)
  authorize (0 < args.amountBaseUnits ∧ 0 < args.tokenId)
  authorize (args.validAfterSlot ≤ args.expiresAtSlot)
  authorize (args.proof.actionKind = 1 ∧ args.proof.tokenId = args.tokenId ∧
    args.proof.amount = args.amountBaseUnits ∧
    args.proof.publicInputs 0 = args.previousTcapRoot ∧
    args.proof.publicInputs 4 = args.nullifier)
  authorize (args.proof.authorizationCommitment =
    sha256ToBn254Scalar args.authorizationDigest)
  authorize (args.authorizationDigest =
    deriveAuthorizationDigestV2 chain args commitmentRoot)

end Inputs

def registerTcapCreditAuthorizationV2 (chain : Chain) (transaction : Transaction)
    (accounts : RegisterTcapCreditAuthorizationV2)
    (args : RegisterTcapCreditAuthorizationV2Args) (world : World) :
    Except RegisterFailure World := do
  within (signer transaction.call accounts.authority)
  within (atAddress accounts.motherEscrow motherEscrowAddress)
  authorize (transaction.motherAuthority = accounts.authority)
  within (executable world accounts.tcapProgram)
  within (atAddress accounts.tcapProgram tcapProgram)
  within (executable world accounts.tsnProgram)
  within (atAddress accounts.tsnProgram tsnProgram)
  checkRegisterArgs chain args accounts.commitmentRoot
  let expectedSigner := deriveTsnAuthorizationSigner tsnProgram
    args.authorizationDigest
  authorize (expectedSigner = accounts.tcapAuthorizationSigner)
  within (creditGpruMemoV1 (runtimeIn chain transaction tsnProgram)
    { transaction.call with signers := expectedSigner :: transaction.call.signers }
    (tcapAccounts accounts) (tcapArgs args) world)

/-- What can happen: an authorization is registered with TSN, TCAP is called directly, or
another program acts. -/
inductive CreditStep where
  | register (transaction : Transaction) (accounts : RegisterTcapCreditAuthorizationV2)
      (args : RegisterTcapCreditAuthorizationV2Args)
  | tcap (transaction : Transaction) (instruction : Instruction)
  | external (call : Call) (action : ExternalAction)

def creditStep (chain : Chain) (world : World) : CreditStep → Except RegisterFailure World
  | .register transaction accounts args => do
      within (require (noProgramSigner transaction.call) .accountNotSigner)
      registerTcapCreditAuthorizationV2 chain transaction accounts args world
  | .tcap transaction instruction =>
      within (step (runtimeIn chain transaction tcapProgram) world
        (.tcap transaction.call instruction))
  | .external call action => within (step chain.tcap world (.external call action))

/-- The credit a step asks TCAP for. -/
def creditOf : CreditStep → Option (CreditGpruMemoV1 × CreditGpruMemoV1Args)
  | .register _ accounts args => some (tcapAccounts accounts, tcapArgs args)
  | .tcap _ (.creditGpruMemoV1 accounts args) => some (accounts, args)
  | _ => none

/-- The preimage of the digest of a credit, as TSN computes it. -/
def preimageOf (accounts : CreditGpruMemoV1) (args : CreditGpruMemoV1Args) : List Chunk :=
  authorizationPreimage accounts.commitmentRoot args.previousTcapRoot args.tcapRootSequence
    args.validAfterSlot args.expiresAtSlot args.amount args.tokenId args.nullifier

/-- What a successful credit does: the root moves on by one, and the authorized amount
goes from pending to settled. -/
structure Chained (chain : Chain) (before after : World) (accounts : CreditGpruMemoV1)
    (args : CreditGpruMemoV1Args) : Prop where
  authorized : args.authorizationDigest = chain.tcap.hashv (preimageOf accounts args)
  root : ∃ root root', before.lookup commitmentRootAddress = some (.commitmentRoot root) ∧
    after.lookup commitmentRootAddress = some (.commitmentRoot root') ∧
    root'.sequence = root.sequence + 1 ∧ root'.previousRoot = root.currentRoot ∧
    args.tcapRootSequence = root'.sequence
  reserve : ∃ reserve reserve',
    before.lookup accounts.reserveState = some (.reserve reserve) ∧
    after.lookup accounts.reserveState = some (.reserve reserve') ∧
    reserve'.pendingLiabilities + args.amount = reserve.pendingLiabilities ∧
    reserve'.settledConfidentialLiabilities =
      reserve.settledConfidentialLiabilities + args.amount ∧
    reserve'.totalLiabilities = reserve.totalLiabilities

variable {chain : Chain} {transaction : Transaction} {world next : World}

/-- GPRU refuses a proof unless TSN is the program called at top level. -/
theorem gpruVerdict_of_tcap (gpru : Gpru.Verifier.Runtime) (transaction : Transaction)
    (proof : HiddenHeadProofArgsV1) (tipRouteRoot : Pubkey)
    (root : TcapCommitmentRootStateV1) (gpruVerifier : Pubkey) :
    gpruVerdict gpru transaction tcapProgram proof tipRouteRoot root gpruVerifier =
      false := by
  unfold gpruVerdict
  cases hverify : verifyTransition gpru
    ⟨{ transaction.tipRouteRoot with address := tipRouteRoot },
      ⟨commitmentRootAddress, tcapProgram, root⟩, gpruVerifier, transaction.verifier,
      ⟨instructionsSysvar, tcapProgram, transaction.following⟩⟩ proof with
  | error problem => rfl
  | ok result =>
      simp only [verifyTransition, bind_eq_ok] at hverify
      obtain ⟨_, -, _, -, _, -, _, -, _, -, _, -, _, -, _, -, _, -, memo, hmemo, -⟩ := hverify
      simp only [validateMemoInstruction, bind_eq_ok, require_eq_ok] at hmemo
      obtain ⟨_, -, _, hcaller, -⟩ := hmemo
      exact absurd hcaller (by decide)

theorem creditGpruMemoV1_verified {runtime : Tcap.Execution.Runtime} {call : Call}
    {accounts : CreditGpruMemoV1} {args : CreditGpruMemoV1Args}
    (hstep : creditGpruMemoV1 runtime call accounts args world = .ok next) :
    ∃ root reserve, runtime.verifyHiddenHeadTransition args.proof accounts.tipRouteRoot root
        accounts.gpruVerifier = true ∧
      accounts.commitmentRoot = commitmentRootAddress ∧
      world.lookup accounts.commitmentRoot = some (.commitmentRoot root) ∧
      world.lookup accounts.reserveState = some (.reserve reserve) ∧
      args.tcapRootSequence = root.sequence + 1 ∧
      args.amount ≤ reserve.pendingLiabilities ∧
      ∃ rootVersion, next = (world.insert accounts.commitmentRoot (.commitmentRoot
        { root with
          previousRoot := root.currentRoot
          currentRoot := args.proof.publicInputs 1
          sequence := args.tcapRootSequence
          rootVersion := rootVersion })).insert
        accounts.reserveState (.reserve
          { reserve with
            pendingLiabilities := reserve.pendingLiabilities - args.amount
            settledConfidentialLiabilities :=
              reserve.settledConfidentialLiabilities + args.amount }) := by
  simp only [creditGpruMemoV1, bind_eq_ok, load_eq_ok, check_eq_ok, require_eq_ok,
    seeds_eq_ok, addU64_eq_ok, subU64_eq_ok, pure_eq_ok, wrap_commitmentRoot,
    wrap_reserve] at hstep
  obtain ⟨_, -, config, -, root, hroot, entry, -, reserve, hreserve, hstep⟩ := hstep
  obtain ⟨_, -, _, ⟨hkey, -⟩, _, -, _, -, _, -, _, -, _, -, _, -, _, -, _, -, _, -, hstep⟩ :=
    hstep
  obtain ⟨_, -, _, -, _, -, _, -, _, -, sequence, ⟨-, rfl⟩, _, hsequence, hstep⟩ := hstep
  obtain ⟨_, -, _, -, _, -, _, -, _, -, _, henough, _, -, _, -, _, hverified, rootVersion, -,
    pending, ⟨-, rfl⟩, settled, ⟨-, rfl⟩, rfl⟩ := hstep
  exact ⟨root, reserve, hverified, hkey, hroot, hreserve, hsequence, henough, rootVersion, rfl⟩

/-- Whatever asked for it, a credit that succeeds went through TSN, with a digest of its
own arguments. -/
theorem credit_of_step {input : CreditStep} {accounts : CreditGpruMemoV1}
    {args : CreditGpruMemoV1Args} (hstep : creditStep chain world input = .ok next)
    (hcredit : creditOf input = some (accounts, args)) :
    args.authorizationDigest = chain.tcap.hashv (preimageOf accounts args) ∧
      ∃ transaction call, creditGpruMemoV1 (runtimeIn chain transaction tsnProgram) call
        accounts args world = .ok next := by
  cases input with
  | register transaction registered args =>
      obtain ⟨rfl, rfl⟩ := Prod.mk.inj (Option.some.inj hcredit)
      simp only [creditStep, registerTcapCreditAuthorizationV2, checkRegisterArgs, authorize,
        bind_eq_ok, within_eq_ok, require_eq_ok] at hstep
      obtain ⟨_, -, _, -, _, -, _, -, _, -, _, -, _, -, _, -, _, hargs, _, -, hcall⟩ := hstep
      obtain ⟨_, -, _, -, _, -, _, -, _, -, hdigest⟩ := hargs
      exact ⟨hdigest, transaction, _, hcall⟩
  | tcap transaction instruction =>
      cases instruction with
      | creditGpruMemoV1 credited creditArgs =>
          simp only [creditStep, within_eq_ok, step_tcap_eq_ok, execute] at hstep
          obtain ⟨root, reserve, hverified, -⟩ := creditGpruMemoV1_verified hstep.2
          simp only [runtimeIn, gpruVerdict_of_tcap, Bool.false_eq_true] at hverified
      | _ => cases hcredit
  | external call action => cases hcredit

theorem totalLiabilities_congr {first second : TcapReserveStateV1}
    (hliabilities : first.liabilities = second.liabilities) :
    first.totalLiabilities = second.totalLiabilities := by
  refine Option.ext fun sum => ?_
  simp only [totalLiabilities_eq_some, hliabilities]

theorem chained_of_step {input : CreditStep} {accounts : CreditGpruMemoV1}
    {args : CreditGpruMemoV1Args} (hstep : creditStep chain world input = .ok next)
    (hcredit : creditOf input = some (accounts, args)) :
    Chained chain world next accounts args := by
  obtain ⟨hdigest, transaction, call, hcall⟩ := credit_of_step hstep hcredit
  obtain ⟨root, reserve, -, hkey, hroot, hreserve, hsequence, henough, rootVersion, rfl⟩ :=
    creditGpruMemoV1_verified hcall
  have hne : commitmentRootAddress ≠ accounts.reserveState := by
    rintro hsame
    rw [hkey, hsame, hreserve] at hroot
    cases hroot
  rw [hkey] at hroot
  constructor
  · exact hdigest
  · refine ⟨root, { root with
      previousRoot := root.currentRoot
      currentRoot := args.proof.publicInputs 1
      sequence := args.tcapRootSequence
      rootVersion := rootVersion }, hroot, ?_, hsequence, rfl, rfl⟩
    rw [lookup_insert_eq, if_neg hne, hkey, Finmap.lookup_insert]
  · refine ⟨reserve, _, hreserve, Finmap.lookup_insert _, ?_, rfl, ?_⟩
    · exact Nat.sub_add_cancel henough
    · refine totalLiabilities_congr ?_
      simp only [TcapReserveStateV1.liabilities]
      omega

/-- The sequence of the shared root is at least the given one, and the root cannot be
created anew. -/
def RootReached (world : World) (sequence : Nat) : Prop :=
  world.lookup commitmentRootAddress ≠ none ∧
    ∀ root, world.lookup commitmentRootAddress = some (.commitmentRoot root) →
      sequence ≤ root.sequence

theorem rootReached_of_writesOnly {kinds : List AccountKind} {sequence : Nat}
    (hwrites : WritesOnly kinds world next) (hkinds : .commitmentRoot ∉ kinds)
    (hreached : RootReached world sequence) : RootReached next sequence := by
  refine ⟨hwrites.taken _ hreached.1, ?_⟩
  intro root hroot
  rcases hwrites.stored _ _ hroot with hstored | hkind
  · exact hreached.2 root hstored
  · exact absurd hkind hkinds

/-- No step takes the shared root back. -/
theorem rootReached_of_step {input : CreditStep} {sequence : Nat}
    (hstep : creditStep chain world input = .ok next)
    (hreached : RootReached world sequence) : RootReached next sequence := by
  have hcredited : ∀ accounts args, creditOf input = some (accounts, args) →
      RootReached next sequence := by
    intro accounts args hcredit
    obtain ⟨-, ⟨root, root', hroot, hroot', hsequence, -, -⟩, -⟩ :=
      chained_of_step hstep hcredit
    refine ⟨by simp [hroot'], ?_⟩
    intro other hother
    obtain rfl : root' = other := by
      rw [hroot'] at hother
      cases hother
      rfl
    have hbefore := hreached.2 root hroot
    omega
  cases input with
  | register transaction accounts args => exact hcredited _ _ rfl
  | external call action =>
      simp only [creditStep, within_eq_ok, step_external_eq_ok] at hstep
      exact rootReached_of_writesOnly (writesOnly_executeExternal _ _ _ _ hstep.2) (by decide)
        hreached
  | tcap transaction instruction =>
      simp only [creditStep, within_eq_ok, step_tcap_eq_ok] at hstep
      obtain ⟨-, hstep⟩ := hstep
      have hwrites := writesOnly_execute _ _ _ _ _ hstep
      cases instruction with
      | creditGpruMemoV1 accounts args => exact hcredited _ _ rfl
      | initializeCommitmentRootV1 accounts emptyTreeRoot =>
          simp only [execute, initializeCommitmentRootV1, bind_eq_ok, vacant_eq_ok] at hstep
          obtain ⟨_, -, _, -, _, ⟨hkey, hfresh⟩, -⟩ := hstep
          exact absurd (hkey ▸ hfresh) hreached.1
      | activateCommitmentRootV1 accounts =>
          simp only [execute, activateCommitmentRootV1, bind_eq_ok, load_eq_ok, seeds_eq_ok,
            pure_eq_ok, wrap_commitmentRoot] at hstep
          obtain ⟨_, -, _, -, root, hroot, _, -, _, ⟨hkey, -⟩, _, -, _, -, _, -, rfl⟩ := hstep
          rw [hkey] at hroot ⊢
          refine ⟨by simp, ?_⟩
          intro other hother
          rw [Finmap.lookup_insert] at hother
          cases hother
          exact hreached.2 root hroot
      | _ => exact rootReached_of_writesOnly hwrites (by simp [writes]) hreached

/-- The digests credited in a run, latest first. -/
def creditedDigests (history : List (World × CreditStep)) : List Bytes32 :=
  history.filterMap fun entry => (creditOf entry.2).map fun credit =>
    credit.2.authorizationDigest

/-- The inputs the authorization digests of a run are hashes of. -/
def digestInputs (history : List (World × CreditStep)) : List (List Chunk) :=
  history.filterMap fun entry => (creditOf entry.2).map fun credit =>
    preimageOf credit.1 credit.2

/-- The hash has no collision among the authorizations of a run. -/
def CollisionFree (chain : Chain) (history : List (World × CreditStep)) : Prop :=
  ∀ first ∈ digestInputs history, ∀ second ∈ digestInputs history,
    chain.tcap.hashv first = chain.tcap.hashv second → first = second

/-- Where a run stands: no digest was credited twice, every credit hashed its own
arguments, and the root has passed its sequence. -/
structure Progress (chain : Chain) (history : List (World × CreditStep)) (world : World) :
    Prop where
  distinct : (creditedDigests history).Nodup
  passed : ∀ entry ∈ history, ∀ accounts args, creditOf entry.2 = some (accounts, args) →
    args.authorizationDigest = chain.tcap.hashv (preimageOf accounts args) ∧
      RootReached world args.tcapRootSequence

theorem mem_digestInputs {history : List (World × CreditStep)} {entry : World × CreditStep}
    {accounts : CreditGpruMemoV1} {args : CreditGpruMemoV1Args} (hentry : entry ∈ history)
    (hcredit : creditOf entry.2 = some (accounts, args)) :
    preimageOf accounts args ∈ digestInputs history := by
  refine List.mem_filterMap.mpr ⟨entry, hentry, ?_⟩
  rw [hcredit]
  rfl

/-- A credit repeats no digest of the credits before it. -/
theorem digest_notMem {history : List (World × CreditStep)} {input : CreditStep}
    {accounts : CreditGpruMemoV1} {args : CreditGpruMemoV1Args}
    (hfree : CollisionFree chain ((world, input) :: history))
    (hprogress : Progress chain history world)
    (hstep : creditStep chain world input = .ok next)
    (hcredit : creditOf input = some (accounts, args)) :
    args.authorizationDigest ∉ creditedDigests history := by
  intro hmember
  obtain ⟨⟨before, earlier⟩, hentry, hdigest⟩ := List.mem_filterMap.mp hmember
  obtain ⟨⟨accounts', args'⟩, hcredit', hsame⟩ := Option.map_eq_some_iff.mp hdigest
  obtain ⟨hhash', -, hreached⟩ := hprogress.passed _ hentry accounts' args' hcredit'
  obtain ⟨hhash, ⟨root, root', hroot, -, hsequence, -, hargs⟩, -⟩ :=
    chained_of_step hstep hcredit
  have hinputs : preimageOf accounts' args' = preimageOf accounts args := by
    refine hfree _ (mem_digestInputs (List.mem_cons_of_mem _ hentry) hcredit') _
      (mem_digestInputs List.mem_cons_self hcredit) ?_
    rw [← hhash', ← hhash]
    exact hsame
  have hsequences : args'.tcapRootSequence = args.tcapRootSequence := by
    simp only [preimageOf, authorizationPreimage, List.cons.injEq, Chunk.uint.injEq,
      true_and] at hinputs
    exact hinputs.2.2.1
  have hpassed := hreached root hroot
  omega

theorem progress_of_step {history : List (World × CreditStep)} {input : CreditStep}
    (hfree : CollisionFree chain ((world, input) :: history))
    (hprogress : Progress chain history world)
    (hstep : creditStep chain world input = .ok next) :
    Progress chain ((world, input) :: history) next := by
  constructor
  · cases hcredit : creditOf input with
    | none => simpa [creditedDigests, hcredit] using hprogress.distinct
    | some credit =>
        have hfresh := digest_notMem hfree hprogress hstep hcredit
        have hcons : creditedDigests ((world, input) :: history) =
            credit.2.authorizationDigest :: creditedDigests history := by
          simp [creditedDigests, hcredit]
        rw [hcons]
        exact List.nodup_cons.mpr ⟨hfresh, hprogress.distinct⟩
  · intro entry hentry accounts args hcredit
    rcases List.mem_cons.mp hentry with rfl | hearlier
    · obtain ⟨hhash, ⟨root, root', -, hroot', -, -, hargs⟩, -⟩ := chained_of_step hstep hcredit
      refine ⟨hhash, by simp [hroot'], ?_⟩
      intro other hother
      rw [hroot'] at hother
      cases hother
      exact hargs.le
    · obtain ⟨hhash, hreached⟩ := hprogress.passed entry hearlier accounts args hcredit
      exact ⟨hhash, rootReached_of_step hstep hreached⟩

/-- Along every run of registrations, direct calls and everything else, from any state:
each credit extends the chain of roots by one and moves exactly the amount authorized,
and no digest is credited twice. -/
theorem creditChain_of_run {start : World} {history : List (World × CreditStep)}
    (hrun : Run (creditStep chain) start history world)
    (hfree : CollisionFree chain history) :
    (∀ before input after accounts args, (before, input) ∈ history →
      creditStep chain before input = .ok after →
      creditOf input = some (accounts, args) →
        Chained chain before after accounts args) ∧
      (creditedDigests history).Nodup := by
  refine ⟨fun _ _ _ _ _ _ hstep hcredit => chained_of_step hstep hcredit, ?_⟩
  have hprogress : CollisionFree chain history → Progress chain history world := by
    refine hrun.induct_on (fun history world => CollisionFree chain history →
      Progress chain history world) ?_ ?_
    · exact fun _ => ⟨List.nodup_nil, by simp⟩
    · intro history world input next _ ih hstep hfree
      have hsubset : digestInputs history ⊆ digestInputs ((world, input) :: history) :=
        ((List.sublist_cons_self _ history).filterMap _).subset
      refine progress_of_step hfree (ih fun first hfirst second hsecond => ?_) hstep
      exact hfree first (hsubset hfirst) second (hsubset hsecond)
  exact (hprogress hfree).distinct

section Sample

/-- A chain on which registrations can be evaluated; its GPRU program takes every proof
whose public inputs fit. -/
def sampleChain : Chain where
  tcap := { localRuntime with poseidon := fun _ _ => 7 }
  gpru :=
    { bump := fun _ => 255
      sha256 := fun data => BitVec.ofNat 256 data.length
      poseidon := fun inputs => some (BitVec.ofNat 256 inputs.length)
      circuitCommitmentV1 := 1
      groth16 := fun _ _ => true }

/-- A digit as a memo field. -/
def fieldText (digit : Nat) : List Byte :=
  List.replicate 63 (BitVec.ofNat 8 48) ++ [BitVec.ofNat 8 (48 + digit), BitVec.ofNat 8 58]

/-- A memo whose fields hold the digits, the fourth that of the action commitment. -/
def sampleMemo : List Byte :=
  memoPrefix ++ [1, 2, 3, 5, 4, 6, 7].flatMap fieldText ++ asciiBytes "AA"

def governor : Pubkey := .raw 101
def depositor : Pubkey := .raw 102
def usdMint : Pubkey := .raw 201
def usdWallet : Pubkey := .raw 301

/-- A mint, a wallet that holds 100 of it, and the two programs. -/
def sampleWorld : World :=
  (((Finmap.insert tsnProgram Account.program ∅).insert tcapProgram .program).insert usdMint
    (.mint plainMint)).insert usdWallet
      (.token ⟨splTokenProgram, usdMint, depositor, 100⟩)

def sampleTransaction (call : Call) : Transaction where
  call := call
  following := some (memoProgram, sampleMemo)
  tipRouteRoot := ⟨tipRouteRootAddress, tipProgram, 1, 255, 9, 1⟩
  verifier := ⟨1, 1, true, 255, 0, 0, 0, 0, fun _ => 0⟩
  motherAuthority := governor

/-- A step of TCAP inside a transaction. -/
def direct : Step → CreditStep
  | .tcap call instruction => .tcap (sampleTransaction call) instruction
  | .external call action => .external call action

def sampleProof (authorizationDigest previousRoot newRoot : Bytes32) (amount : Nat) :
    HiddenHeadProofArgsV1 where
  publicInputs := ![previousRoot, newRoot, BitVec.ofNat 256 sampleMemo.length, 5, 8, 9,
    1, 2, 3, 4, 6, 7]
  proofA := 0
  proofB := 0
  proofC := 0
  actionKind := 1
  tokenId := 1
  amount := amount
  authorizationCommitment := sha256ToBn254Scalar authorizationDigest

/-- Register an authorization for a part of the deposit. -/
def registerStep (previousRoot newRoot : Bytes32) (sequence amount : Nat) : CreditStep :=
  let entry := splEntryAddress usdMint
  let digest := sampleChain.tcap.hashv (authorizationPreimage commitmentRootAddress
    previousRoot sequence 1 9 amount 1 8)
  .register (sampleTransaction ⟨[governor], 5⟩)
    ⟨governor, motherEscrowAddress, tcapProgram, tsnProgram, globalConfigAddress, entry,
      commitmentRootAddress, deriveReserveState entry,
      deriveTsnAuthorizationSigner tsnProgram digest, tipRouteRootAddress,
      hiddenHeadVerifierAddress⟩
    ⟨digest, 1, 9, previousRoot, sequence, 1, amount, 8,
      sampleProof digest previousRoot newRoot amount⟩

/-- Set up the chain, deposit 100 and credit 60 and 40 of it, latest step first. -/
def sampleSteps : List CreditStep :=
  registerStep 21 22 2 40 :: registerStep 7 21 1 60 ::
    (.tcap ⟨[governor], 4⟩ (.initializeCommitmentRootV1
        ⟨governor, globalConfigAddress, commitmentRootAddress⟩ 0) ::
      depositStep usdMint depositor usdWallet 100 ::
        (listingSteps governor usdMint ++ launchSteps governor)).map direct

instance (chain : Chain) (history : List (World × CreditStep)) :
    Decidable (CollisionFree chain history) := by
  unfold CollisionFree
  infer_instance

/-- Both credits of the sample succeed, each extends the chain and their digests
differ. -/
theorem creditChain_sample :
    ∃ history world, Run (creditStep sampleChain) sampleWorld history world ∧
      CollisionFree sampleChain history ∧ (creditedDigests history).length = 2 ∧
      (∀ before input after accounts args, (before, input) ∈ history →
        creditStep sampleChain before input = .ok after →
        creditOf input = some (accounts, args) →
          Chained sampleChain before after accounts args) ∧
        (creditedDigests history).Nodup := by
  have hreaches : reaches (creditStep sampleChain) sampleWorld sampleSteps
      (fun history _ => CollisionFree sampleChain history ∧
        (creditedDigests history).length = 2) = true := by
    decide +kernel
  obtain ⟨history, world, hrun, hholds⟩ := exists_run_of_reaches hreaches
  obtain ⟨hfree, hlength⟩ := of_decide_eq_true hholds
  exact ⟨history, world, hrun, hfree, hlength, creditChain_of_run hrun hfree⟩

end Sample

end TsnProtocol.Tsn.CreditAuthorization
