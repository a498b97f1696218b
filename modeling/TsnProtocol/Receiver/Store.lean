import TsnProtocol.Lib.Documents
import TsnProtocol.Lib.Transition
import TsnProtocol.Receiver.NodeVerification

/-!
The store of works: receiving, leasing, authorizing, reporting and retrying. Each transaction
is one step; a call that leases makes several.
-/

namespace TsnProtocol.Receiver.Store

open Lib.Checked
open Lib.Documents
open Lib.JsonData
open Receiver.NodeVerification
open Receiver.WorkContract

abbrev Works := Collection ReceiverWork

section Receive

structure ReceiveInput where
  id : Option String
  kind : WorkKind
  payload : Json
  /-- The values drawn at random: an id, and a nonce for the encryption. -/
  fresh : FreshId
  nonce : String

def durablePayload (runtime : Runtime) (input : ReceiveInput) : Json :=
  match input.kind with
  | .authorizedFunding =>
      .obj [("paymentId", .str (textOf runtime.conversions (input.payload.get "paymentId"))),
        ("recipientHash", .str (textOf runtime.conversions (input.payload.get "recipientHash"))),
        ("tokenMintAddress", (input.payload.get "tokenMintAddress").getD .null),
        ("amount", (input.payload.get "amount").getD .null),
        ("nodeEncryptedPayload", runtime.encryptPayloadForNode input.nonce input.payload)]
  | _ => input.payload

def settlementId (runtime : Runtime) (id commitment : String) : String :=
  "settlement-" ++ String.ofList ((runtime.sha256 (id ++ ":" ++ commitment)).toList.take 32)

def isMissing : Option Json → Bool
  | none | some .null => true
  | _ => false

/-- The settlement of a funding work, with only a reference to it. -/
def settlementPayload (funding : ReceiverWork) : Json :=
  let paymentId := funding.payload.get "paymentId"
  .obj [("paymentId", if isMissing paymentId then .str funding.id else paymentId.getD .null),
    ("intentId", .str funding.id), ("source", .str "tsn-receiver-at-ingress")]

def createSettlement (runtime : Runtime) (id : String) (fresh : FreshId)
    (funding : ReceiverWork) (now : Nat) (works : Works) : Result Works := do
  let settlement ← createReceivedWork runtime (some id) fresh .settlement
    (settlementPayload funding) none now
  require (works[id]?.isNone = true) "ALREADY_EXISTS"
  return works.insert id settlement

def checkIngress (runtime : Runtime) (input : ReceiveInput) : Result Unit :=
  if input.kind = .authorizedFunding then assertAuthorizedFundingIngress runtime input.payload
  else .ok ()

/-- The work received under the id, and the works afterwards. -/
def receive (runtime : Runtime) (input : ReceiveInput) (now : Nat) (works : Works) :
    Result (Works × ReceiverWork) := do
  assertExternalWorkKind input.kind
  checkIngress runtime input
  let work ← createReceivedWork runtime input.id input.fresh input.kind
    (durablePayload runtime input) (some (payloadCommitment runtime input.payload)) now
  let linked := settlementId runtime work.id work.payloadCommitment
  match works[work.id]? with
  | some current => do
      require (current.payloadCommitment = work.payloadCommitment ∧ current.kind = work.kind)
        "IDEMPOTENCY_CONFLICT"
      if input.kind = .authorizedFunding ∧ works[linked]?.isNone = true then
        let works ← createSettlement runtime linked input.fresh current now works
        return (works, current)
      else
        return (works, current)
  | none => do
      let stored := works.insert work.id work
      if input.kind = .authorizedFunding then
        let stored ← createSettlement runtime linked input.fresh work now stored
        return (stored, work)
      else
        return (stored, work)

end Receive

section Retry

def isRetryable (reason : String) : Bool :=
  "GPRU_HIDDEN_HEAD_WITNESS_UNAVAILABLE:".toList.isPrefixOf reason.toList ||
    reason = "TCAP settlement asset is unavailable or its reserve binding is invalid"

def hasResult (work : ReceiverWork) : Bool :=
  work.result.any fun result => result.truthy && !result.keys.isEmpty

def retried (current funding : ReceiverWork) (requestedBy : String) (now : Nat) :
    ReceiverWork :=
  { current with
    status := .received
    stateVersion := current.stateVersion + 1
    updatedAt := now
    verification := none
    nodeLease := none
    crankerLease := none
    authorization := none
    retryHistory := current.retryHistory ++ [{
      rejectedStateVersion := current.stateVersion
      retriedAt := now
      requestedBy := requestedBy
      rejection := current.verification
      fundingWorkId := funding.id
      fundingStateVersion := funding.stateVersion
      fundingSignature := field funding.result "signature" }] }

/-- Requeue an unsubmitted settlement after repair. -/
def snapshotRetryPatch (runtime : Runtime) (current funding : ReceiverWork)
    (expectedVersion : Nat) (requestedBy : String) (now : Nat) : Result ReceiverWork := do
  require (current.stateVersion = expectedVersion) "STALE_STATE_VERSION"
  require (current.kind = .settlement ∧ current.status = .rejected)
    "SETTLEMENT_RETRY_NOT_REJECTED"
  require (isRetryable (textOf runtime.conversions (field current.verification "reason")) = true)
    "SETTLEMENT_RETRY_REASON_NOT_ALLOWED"
  require (current.nodeLease = none ∧ current.crankerLease = none ∧
    current.authorization.any Json.truthy = false ∧ hasResult current = false)
    "SETTLEMENT_RETRY_HAS_EXECUTION_STATE"
  require (funding.kind = .authorizedFunding ∧ funding.status = .confirmed ∧
    (field funding.result "signature").any Json.truthy = true)
    "SETTLEMENT_FUNDING_NOT_CONFIRMED"
  require (current.id = settlementId runtime funding.id funding.payloadCommitment ∧
    isText (current.payload.get "intentId") funding.id = true ∧
    payloadCommitment runtime current.payload = current.payloadCommitment)
    "SETTLEMENT_FUNDING_REFERENCE_MISMATCH"
  return retried current funding requestedBy now

structure RetryParams where
  id : String
  expectedVersion : Nat
  requestedBy : String

def retrySettlementSnapshot (runtime : Runtime) (params : RetryParams) (now : Nat)
    (works : Works) : Result Works := do
  let current ← okOr works[params.id]? "WORK_NOT_FOUND"
  let fundingId := textOf runtime.conversions (current.payload.get "intentId")
  require (fundingId ≠ "") "SETTLEMENT_FUNDING_REFERENCE_MISMATCH"
  let funding ← okOr works[fundingId]? "SETTLEMENT_FUNDING_NOT_CONFIRMED"
  let patched ← snapshotRetryPatch runtime current funding params.expectedVersion
    params.requestedBy now
  return works.insert params.id patched

end Retry

section Authorization

structure AuthorizationParams where
  (id owner : String)
  expectedVersion : Nat
  authorization : Json

/-- An authorization for the lease, which does not outlive it. -/
def authorizes (runtime : Runtime) (work : ReceiverWork) (lease : Lease) (authorization : Json)
    (now : Nat) : Bool :=
  let expiry := numberOf runtime.conversions (authorization.get "expiresAtTs")
  textOf runtime.conversions (authorization.get "leaseId") = lease.leaseId.getD work.id ∧
    numberOf runtime.conversions (authorization.get "leaseVersion") =
      some ((lease.version.getD work.stateVersion : Nat) : Rat) ∧
    textOf runtime.conversions (authorization.get "leaseExpiresAt") =
      runtime.isoText lease.expiresAt ∧
    expiry.any fun seconds =>
      ((now / 1000 : Nat) : Rat) < seconds && seconds ≤ ((lease.expiresAt / 1000 : Nat) : Rat)

def authorized (authorization : Json) (now : Nat) (current : ReceiverWork) : ReceiverWork :=
  { current with
    authorization := some authorization
    stateVersion := current.stateVersion + 1
    updatedAt := now }

def attachCrankerAuthorization (runtime : Runtime) (params : AuthorizationParams) (now : Nat)
    (works : Works) : Result Works := do
  let current ← okOr works[params.id]? "WORK_NOT_FOUND"
  require (current.status = .crankerLeased) "LEASE_INVALID"
  let lease ← okOr current.crankerLease "LEASE_INVALID"
  require (lease.owner = params.owner) "LEASE_INVALID"
  require (current.stateVersion = params.expectedVersion) "STALE_STATE_VERSION"
  require (now < lease.expiresAt) "LEASE_EXPIRED"
  require (authorizes runtime current lease params.authorization now = true)
    "LEASE_AUTHORIZATION_MISMATCH"
  return works.insert params.id (authorized params.authorization now current)

end Authorization

section Leases

/-- Who takes a lease and reports on it. -/
inductive Actor where
  | node | cranker
  deriving DecidableEq

/-- The status of works an actor leases, and that of works it has leased. -/
def queued : Actor → WorkStatus
  | .node => .received
  | .cranker => .verified

def held : Actor → WorkStatus
  | .node => .nodeVerifying
  | .cranker => .crankerLeased

def leaseOf (actor : Actor) (work : ReceiverWork) : Option Lease :=
  match actor with
  | .node => work.nodeLease
  | .cranker => work.crankerLease

def requeued (actor : Actor) (now : Nat) (current : ReceiverWork) : ReceiverWork :=
  { current with
    status := queued actor
    stateVersion := current.stateVersion + 1
    updatedAt := now
    nodeLease := none
    crankerLease := none }

/-- The transaction that requeues an abandoned lease. -/
def requeue (actor : Actor) (id : String) (now : Nat) (works : Works) : Works :=
  match works[id]? with
  | none => works
  | some current =>
      if current.status ≠ held actor ∨
          (leaseOf actor current).any (fun lease => decide (now < lease.expiresAt)) = true then
        works
      else
        works.insert id (requeued actor now current)

def leased (actor : Actor) (owner id : String) (now : Nat) (current : ReceiverWork) :
    ReceiverWork :=
  let lease : Lease := ⟨owner, now + 60000, some id, some (current.stateVersion + 1)⟩
  match actor with
  | .node =>
      { current with
        status := .nodeVerifying
        stateVersion := current.stateVersion + 1
        updatedAt := now
        nodeLease := some lease }
  | .cranker =>
      { current with
        status := .crankerLeased
        stateVersion := current.stateVersion + 1
        updatedAt := now
        crankerLease := some lease }

/-- The transaction that takes a lease, if the work is still there to be leased. -/
def take (actor : Actor) (owner id : String) (now : Nat) (works : Works) :
    Option ReceiverWork :=
  match works[id]? with
  | none => none
  | some current =>
      if current.status ≠ queued actor then none
      else some (leased actor owner id now current)

def isConfirmedFunding (work : Option ReceiverWork) : Bool :=
  work.any fun funding =>
    decide (funding.kind = .authorizedFunding ∧ funding.status = .confirmed)

/-- Whether the funding of a candidate lets it be leased. -/
def admitted (runtime : Runtime) (actor : Actor) (candidate : ReceiverWork) (works : Works) :
    Bool :=
  let intentId := candidate.payload.get "intentId"
  let fundingId := textOf runtime.conversions intentId
  match actor, candidate.kind with
  | .cranker, .settlement =>
      !intentId.any Json.truthy || isConfirmedFunding works[fundingId]?
  | .node, .settlement => fundingId ≠ "" && isConfirmedFunding works[fundingId]?
  | _, _ => true

/-- Where a call that leases has got to, with the documents it has read. -/
inductive Phase where
  | requeueing (stale : List (String × ReceiverWork))
  | selecting (candidates : List (String × ReceiverWork))
  | taking (id : String) (candidates : List (String × ReceiverWork))
  | finished (work : Option ReceiverWork)

structure LeaseCall where
  actor : Actor
  owner : String
  supportedKinds : List WorkKind
  phase : Phase

def receivedBefore (left right : String × ReceiverWork) : Bool :=
  left.2.receivedAt ≤ right.2.receivedAt

def candidatesOf (actor : Actor) (works : Works) : List (String × ReceiverWork) :=
  (query works (fun work => work.status = queued actor) 50).insertionSort fun left right =>
    receivedBefore left right = true

def supports (kinds : List WorkKind) (kind : WorkKind) : Bool :=
  kinds.isEmpty || kinds.contains kind

/-- A call begins with the works whose leases may be abandoned. -/
def beginLease (actor : Actor) (owner : String) (supportedKinds : List WorkKind)
    (works : Works) : LeaseCall where
  actor := actor
  owner := owner
  supportedKinds := supportedKinds
  phase := .requeueing (query works (fun work => work.status = held actor) 50)

/-- The next operation of a call that leases. -/
def advance (runtime : Runtime) (now : Nat) (works : Works) (call : LeaseCall) :
    Works × LeaseCall :=
  match call.phase with
  | .requeueing [] =>
      (works, { call with phase := .selecting (candidatesOf call.actor works) })
  | .requeueing ((id, data) :: stale) =>
      let abandoned :=
        (leaseOf call.actor data).any fun lease => decide (lease.expiresAt ≤ now)
      (if abandoned then requeue call.actor id now works else works,
        { call with phase := .requeueing stale })
  | .selecting [] => (works, { call with phase := .finished none })
  | .selecting ((id, data) :: candidates) =>
      if supports call.supportedKinds data.kind && admitted runtime call.actor data works then
        (works, { call with phase := .taking id candidates })
      else
        (works, { call with phase := .selecting candidates })
  | .taking id candidates =>
      match take call.actor call.owner id now works with
      | some work => (works.insert id work, { call with phase := .finished (some work) })
      | none => (works, { call with phase := .selecting candidates })
  | .finished _ => (works, call)

end Leases

section Transition

structure TransitionParams where
  id : String
  actor : Actor
  owner : String
  expectedVersion : Nat
  status : WorkStatus
  evidence : Option Json

def redactedPaymentPayload (conversions : Conversions) (payload : Json) :
    List (String × Json) :=
  [("paymentId", .str (textOf conversions (payload.get "paymentId"))),
    ("recipientHash", .str (textOf conversions (payload.get "recipientHash")))]

def paymentReceiptVerification (conversions : Conversions) (work : ReceiverWork) : Json :=
  match verifiedPayloadForWork work with
  | none => work.verification.getD (.obj [])
  | some verified =>
      let verificationType := field work.verification "verificationType"
      let attestation := field work.verification "nodeAttestation"
      compactVerificationPayload conversions work.payload
        (.obj ([("verificationType", if isMissing verificationType then
            .str "TSN_AUTHORIZED_FUNDING" else verificationType.getD .null)] ++
          present "nodeAttestation" (attestation.filter Json.truthy) ++
          [("verifiedPayload", .obj (["paymentId", "tokenMintAddress", "amount"].flatMap
            fun key => present key (verified.get key)))]))

/-- A report repeats the terminal report that was accepted. -/
def isReplay (conversions : Conversions) (params : TransitionParams) (current : ReceiverWork) :
    Bool :=
  let stored := textOf conversions (field current.result "signature")
  let reported := textOf conversions (field params.evidence "signature")
  params.actor = .cranker ∧ current.status = params.status ∧ stored ≠ "" ∧ reported ≠ "" ∧
    stored = reported

def allowed : Actor → List WorkStatus
  | .node => [.verified, .rejected]
  | .cranker => [.submitted, .confirmed, .failed]

/-- `evidence ?? {}`. -/
def evidenceOf (evidence : Option Json) : Json :=
  if isMissing evidence then .obj [] else evidence.getD .null

def nodeVerification (conversions : Conversions) (params : TransitionParams)
    (current : ReceiverWork) : Json :=
  let evidence := evidenceOf params.evidence
  if params.status = .verified ∧ (evidence.get "verifiedPayload").any Json.truthy = true then
    if current.kind = .authorizedFunding then
      compactAuthorizedFundingVerification conversions
        (.obj (redactedPaymentPayload conversions current.payload)) evidence
    else compactVerificationPayload conversions current.payload evidence
  else evidence

def reportedByNode (conversions : Conversions) (params : TransitionParams) (now : Nat)
    (current : ReceiverWork) : ReceiverWork :=
  { current with
    status := params.status
    stateVersion := current.stateVersion + 1
    updatedAt := now
    verification := some (nodeVerification conversions params current)
    nodeLease := none
    payload := if current.kind = .authorizedFunding then
        .obj (redactedPaymentPayload conversions current.payload ++
          present "nodeEncryptedPayload"
            ((current.payload.get "nodeEncryptedPayload").filter Json.truthy))
      else current.payload }

def reportedByCranker (conversions : Conversions) (params : TransitionParams) (now : Nat)
    (current : ReceiverWork) : ReceiverWork :=
  { current with
    status := params.status
    stateVersion := current.stateVersion + 1
    updatedAt := now
    result := some (evidenceOf params.evidence)
    crankerLease := none
    verification := if params.status = .confirmed ∧ current.kind = .authorizedFunding then
        some (paymentReceiptVerification conversions current)
      else current.verification
    authorization := if params.status = .confirmed ∧ current.kind = .settlement then none
      else current.authorization }

def reported (conversions : Conversions) (params : TransitionParams) (now : Nat)
    (current : ReceiverWork) : ReceiverWork :=
  match params.actor with
  | .node => reportedByNode conversions params now current
  | .cranker => reportedByCranker conversions params now current

/-- A Node attests its decision. -/
def checkDecision (runtime : Runtime) (params : TransitionParams) (current : ReceiverWork) :
    Result Unit :=
  if params.actor = .node ∧ (params.status = .verified ∨ params.status = .rejected) then
    assertNodeVerificationAttestation runtime current params.owner params.expectedVersion
      params.status params.evidence
  else .ok ()

def transition (runtime : Runtime) (params : TransitionParams) (now : Nat) (works : Works) :
    Result Works := do
  let current ← okOr works[params.id]? "WORK_NOT_FOUND"
  if isReplay runtime.conversions params current then
    return works
  else
    let lease ← okOr (leaseOf params.actor current) "LEASE_INVALID"
    require (lease.owner = params.owner ∧ now < lease.expiresAt) "LEASE_INVALID"
    require (current.stateVersion = params.expectedVersion) "STALE_STATE_VERSION"
    checkDecision runtime params current
    require (params.status ∈ allowed params.actor) "INVALID_TRANSITION"
    return works.insert params.id (reported runtime.conversions params now current)

end Transition

/-- The works, and the calls that lease. -/
structure State where
  works : Works
  calls : List LeaseCall

def State.initial : State :=
  ⟨∅, []⟩

/-- One operation on the store, at a time of the process that makes it. -/
inductive Operation where
  | receive (input : ReceiveInput)
  | beginLease (actor : Actor) (owner : String) (supportedKinds : List WorkKind)
  | advanceLease (call : Nat)
  | attachCrankerAuthorization (params : AuthorizationParams)
  | transition (params : TransitionParams)
  | retrySettlementSnapshot (params : RetryParams)

structure Input where
  now : Nat
  operation : Operation

def step (runtime : Runtime) (state : State) (input : Input) : Result State :=
  match input.operation with
  | .receive received => do
      let (works, _) ← receive runtime received input.now state.works
      return { state with works := works }
  | .beginLease actor owner supportedKinds =>
      .ok { state with
        calls := state.calls ++ [beginLease actor owner supportedKinds state.works] }
  | .advanceLease index => do
      let call ← okOr state.calls[index]? "NO_SUCH_CALL"
      let (works, call) := advance runtime input.now state.works call
      return { works := works, calls := state.calls.set index call }
  | .attachCrankerAuthorization params => do
      let works ← attachCrankerAuthorization runtime params input.now state.works
      return { state with works := works }
  | .transition params => do
      let works ← transition runtime params input.now state.works
      return { state with works := works }
  | .retrySettlementSnapshot params => do
      let works ← retrySettlementSnapshot runtime params input.now state.works
      return { state with works := works }

end TsnProtocol.Receiver.Store
