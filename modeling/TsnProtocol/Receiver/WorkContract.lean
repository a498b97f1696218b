import Mathlib
import TsnProtocol.Lib.Checked
import TsnProtocol.Lib.JsonData

/-!
Works of the Receiver: their records, commitments to their payloads, and what is kept of a
Node's verification.
-/

namespace TsnProtocol.Receiver.WorkContract

open Lib.Checked
open Lib.JsonData

/-- Errors carry their messages. -/
abbrev Result (α : Type) := Except String α

/-- What the Receiver calls: conversions of the language, hashes in hexadecimal digits,
signatures of senders and of the Node, and encryption for the Node under a nonce. -/
structure Runtime where
  conversions : Conversions
  sha256 : String → String
  verifySender : String → String → String → Bool
  encryptPayloadForNode : String → Json → Json
  nodeKeyId : String
  verifyNode : String → String → Bool
  isDate : String → Bool
  isoText : Nat → String

inductive WorkKind where
  | authorizedFunding | settlement | tinOperation
  deriving DecidableEq

def WorkKind.text : WorkKind → String
  | .authorizedFunding => "AUTHORIZED_FUNDING"
  | .settlement => "SETTLEMENT"
  | .tinOperation => "TIN_OPERATION"

inductive WorkStatus where
  | received | nodeVerifying | verified | rejected | crankerLeased | submitted | confirmed
  | failed
  deriving DecidableEq

def WorkStatus.text : WorkStatus → String
  | .received => "RECEIVED"
  | .nodeVerifying => "NODE_VERIFYING"
  | .verified => "VERIFIED"
  | .rejected => "REJECTED"
  | .crankerLeased => "CRANKER_LEASED"
  | .submitted => "SUBMITTED"
  | .confirmed => "CONFIRMED"
  | .failed => "FAILED"

structure Lease where
  owner : String
  expiresAt : Nat
  leaseId : Option String
  version : Option Nat
  deriving DecidableEq

structure RetryEntry where
  (rejectedStateVersion retriedAt : Nat)
  requestedBy : String
  rejection : Option Json
  fundingWorkId : String
  fundingStateVersion : Nat
  fundingSignature : Option Json

structure ReceiverWork where
  id : String
  kind : WorkKind
  status : WorkStatus
  stateVersion : Nat
  payloadCommitment : String
  payload : Json
  (receivedAt updatedAt : Nat)
  (nodeLease crankerLease : Option Lease)
  (verification result authorization : Option Json)
  retryHistory : List RetryEntry

/-- A field of an optional value. -/
def field (value : Option Json) (key : String) : Option Json :=
  value.bind fun found => found.get key

/-- Work kinds that may be accepted from an untrusted caller. -/
def assertExternalWorkKind (kind : WorkKind) : Result Unit :=
  require (kind ≠ .settlement) (kind.text ++ "_WORK_INTERNAL_ONLY")

section Payloads

def authorizedFundingKeys : List String :=
  ["paymentId", "intentSeedHash", "recipientHash", "recipientTin",
    "tokenMintAddress", "amount", "recipientAmount", "senderWallet",
    "senderAuthorizationMessage", "senderAuthorizationSignature", "senderAuthorizationNonce",
    "senderAuthorizationIssuedAt", "senderAuthorizationExpiresAt",
    "senderFeeAmount", "senderSignedFundingTransaction", "senderFundingMode",
    "destinationNetwork", "destinationExecutor", "destinationToken", "settlementRouteId",
    "source"]

def internalKeys : WorkKind → List String
  | .authorizedFunding =>
      ["paymentId", "recipientHash", "tokenMintAddress", "amount", "nodeEncryptedPayload"]
  | .settlement => ["paymentId", "intentId", "recipientHash", "source", "nodeEncryptedPayload"]
  | .tinOperation =>
      ["intentType", "intentId", "ownerPubkey", "ownerSignature",
        "ownerIntentHash", "ownerIntentMessage", "nonce", "expiry",
        "lookupCommitment", "lookupIssuanceProof", "encryptedIdentityEnvelope",
        "encryptedTinRecovery", "encryptedMasterSeed", "encryptedMetadataHash",
        "routeVersion", "routeNonce", "tipRouteVersion",
        "gpruElgamalKeyVersion", "gpruElgamalPublicKey", "gpruElgamalKeyCommitment",
        "gpruBalanceScanKeyVersion", "gpruBalanceScanPublicKeyX", "gpruBalanceScanPublicKeyY",
        "policyCommitment"]

def assertAllowlisted (value : Json) (allowed : List String) (context : String) :
    Result Unit :=
  match value.keys.find? fun key => !allowed.contains key with
  | some key => .error ("UNSUPPORTED_PAYLOAD_FIELD:" ++ context ++ "." ++ key)
  | none => .ok ()

/-- A text that is not blank. -/
def isFilled : Option Json → Bool
  | some (.str text) => trim text ≠ ""
  | _ => false

def requiredPaymentFields : List String :=
  ["paymentId", "recipientHash", "recipientTin", "tokenMintAddress", "senderWallet",
    "senderAuthorizationMessage", "senderAuthorizationSignature", "senderAuthorizationNonce"]

def isAmount : Option Json → Bool
  | some (.num _) | some (.str _) => true
  | _ => false

def isText (value : Option Json) (text : String) : Bool :=
  match value with
  | some (.str found) => found = text
  | _ => false

def assertPaymentFields (payload : Json) : Result Unit :=
  match requiredPaymentFields.find? fun key => !isFilled (payload.get key) with
  | some key => .error ("PAYMENT_AUTH_FIELD_REQUIRED:" ++ key)
  | none => .ok ()

def assertAuthorizedFundingIngress (runtime : Runtime) (payload : Json) : Result Unit := do
  assertAllowlisted payload authorizedFundingKeys "authorizedFunding"
  require (isText (payload.get "senderFundingMode") "tcap_deposit_v2" = true)
    "LEGACY_FUNDING_MODE_RETIRED_TCAP_DEPOSIT_V2_REQUIRED"
  require (isFilled (payload.get "senderSignedFundingTransaction") = true)
    "OWNER_SIGNED_TCAP_DEPOSIT_REQUIRED"
  assertPaymentFields payload
  require (isAmount (payload.get "amount") = true) "PAYMENT_AUTH_FIELD_REQUIRED:amount"
  let text := fun key => textOf runtime.conversions (payload.get key)
  require (runtime.verifySender (text "senderWallet") (text "senderAuthorizationMessage")
    (text "senderAuthorizationSignature") = true) "INVALID_SENDER_SIGNATURE"

def assertDurablePayload (kind : WorkKind) (payload : Json) : Result Unit :=
  assertAllowlisted payload (internalKeys kind) kind.text

end Payloads

section Commitments

/-- Fields in the order of their keys. -/
def sortFields (le : String → String → Bool) (fields : List (String × String)) :
    List (String × String) :=
  fields.insertionSort fun left right => le left.1 right.1 = true

/-- The text of a value with the fields of each object in a fixed order. -/
def stableText (conversions : Conversions) (le : String → String → Bool) : Json → String
  | .null => "null"
  | .bool value => if value then "true" else "false"
  | .num value => conversions.numberText value
  | .str text => conversions.quote text
  | .arr items => "[" ++ ",".intercalate (itemTexts items) ++ "]"
  | .obj fields =>
      "\x7b" ++ ",".intercalate ((sortFields le (fieldTexts fields)).map fun entry =>
        conversions.quote entry.1 ++ ":" ++ entry.2) ++ "\x7d"
where
  itemTexts : List Json → List String
    | [] => []
    | item :: items => stableText conversions le item :: itemTexts items
  fieldTexts : List (String × Json) → List (String × String)
    | [] => []
    | entry :: fields => (entry.1, stableText conversions le entry.2) :: fieldTexts fields

def stable (conversions : Conversions) (value : Json) : String :=
  stableText conversions conversions.localeLe value

def payloadCommitment (runtime : Runtime) (value : Json) : String :=
  runtime.sha256 (stable runtime.conversions value)

end Commitments

section Verification

/-- The fields that are new, those that changed, and those that are gone. -/
def diffPayload (conversions : Conversions) (base next : Json) : Json :=
  let same (key : String) (value : Json) : Bool :=
    (base.get key).any fun before => stable conversions before = stable conversions value
  .obj [("addedFields", .obj (keepFields (fun key => !base.keys.contains key) next)),
    ("changedFields", .obj (next.entries.filter fun entry =>
      base.keys.contains entry.1 && !same entry.1 entry.2)),
    ("removedFields", .arr ((base.keys.filter fun key => !next.keys.contains key).map .str))]

/-- A Node's decision with the payload it verified as differences. -/
def compactVerificationPayload (conversions : Conversions) (payload verification : Json) :
    Json :=
  match verification.get "verifiedPayload" with
  | some (.obj fields) =>
      .obj (spread (keepFields (· ≠ "verifiedPayload") verification)
        [("payloadDelta", diffPayload conversions payload (.obj fields))])
  | _ => verification

/-- Fields that are there. -/
def present (key : String) (value : Option Json) : List (String × Json) :=
  value.toList.map fun found => (key, found)

def compactAuthorizedFundingVerification (conversions : Conversions)
    (payload evidence : Json) : Json :=
  let verified := match evidence.get "verifiedPayload" with
    | some (.obj fields) => Json.obj fields
    | _ => .obj []
  let kept := ["paymentId", "recipientHash", "tokenMintAddress", "amount",
    "senderSignedFundingTransaction", "senderFundingMode"]
  compactVerificationPayload conversions payload
    (.obj (present "verificationType" (evidence.get "verificationType") ++
      present "nodeAttestation" (evidence.get "nodeAttestation") ++
      present "programSimulation" (evidence.get "programSimulation") ++
      [("verifiedPayload", .obj (kept.flatMap fun key => present key (verified.get key)))]))

/-- The payload a Node verified, put together from the differences. -/
def verifiedPayloadForWork (work : ReceiverWork) : Option Json :=
  match work.verification with
  | none => none
  | some verification =>
      match verification.get "verifiedPayload" with
      | some (.obj fields) => some (.obj fields)
      | _ =>
          match verification.get "payloadDelta" with
          | some (.obj delta) =>
              let removed := match (Json.obj delta).get "removedFields" with
                | some (.arr items) => items
                | _ => []
              let fields (key : String) : List (String × Json) :=
                (((Json.obj delta).get key).map Json.entries).getD []
              let kept := keepFields
                (fun key => !removed.any fun item => isText (some item) key) work.payload
              some (.obj (spread (spread kept (fields "addedFields")) (fields "changedFields")))
          | _ => none

end Verification

section Execution

def tinOperationExecutionKeys : List String :=
  ["intentId", "intentType", "ownerPubkey", "ownerSignature", "ownerIntentHash",
    "ownerIntentMessage", "ownerSignatureMessageFormat", "expiry",
    "nonce", "lookupCommitment", "encryptedIdentityEnvelope", "encryptedTinRecovery",
    "encryptedMasterSeed", "encryptedMetadataHash",
    "routeVersion", "routeNonce", "tipRouteVersion",
    "gpruElgamalKeyVersion", "gpruElgamalPublicKey", "gpruElgamalKeyCommitment",
    "gpruBalanceScanKeyVersion", "gpruBalanceScanPublicKeyX", "gpruBalanceScanPublicKeyY",
    "policyCommitment"]

def creditTransitionKeys : List String :=
  ["commitmentRoot", "previousTcapRoot", "tcapRootSequence", "tokenId", "amountBaseUnits",
    "nullifier", "validAfterSlot", "expiresAtSlot", "authorizationDigest", "proof",
    "memoPayload", "memoBodyPayload", "memoLedgerSlots",
    "memoDocument", "memoCommitment", "successorBalancePoint", "assetEntry", "tcapConfig",
    "reserveState"]

def executionKeys : WorkKind → List String
  | .authorizedFunding => ["senderSignedFundingTransaction", "senderFundingMode"]
  | .settlement => ["tcapCreditTransition"]
  | .tinOperation => tinOperationExecutionKeys

/-- The fields a Cranker may execute. -/
def crankerExecutionPayload (kind : WorkKind) (payload : Json) : Json :=
  .obj ((keepFields (executionKeys kind).contains payload).map fun entry =>
    match kind, entry.2 with
    | .settlement, .obj fields =>
        (entry.1, .obj (fields.filter fun inner => creditTransitionKeys.contains inner.1))
    | .settlement, .arr items =>
        (entry.1, .obj (keepFields creditTransitionKeys.contains (.arr items)))
    | _, value => (entry.1, value))

end Execution

/-- A work as it is received. -/
def receivedWork (id : String) (kind : WorkKind) (payload : Json) (commitment : String)
    (now : Nat) : ReceiverWork where
  id := id
  kind := kind
  status := .received
  stateVersion := 1
  payloadCommitment := commitment
  payload := payload
  receivedAt := now
  updatedAt := now
  nodeLease := none
  crankerLease := none
  verification := none
  result := none
  authorization := none
  retryHistory := []

/-- Ids drawn at random are not empty. -/
abbrev FreshId := { text : String // text ≠ "" }

/-- The id asked for, or else a fresh one. -/
def workId (id : Option String) (fresh : FreshId) : String :=
  let asked := trim (id.getD "")
  if asked = "" then fresh else asked

theorem workId_ne_empty (id : Option String) (fresh : FreshId) : workId id fresh ≠ "" := by
  simp only [workId]
  split
  · exact fresh.property
  · assumption

def createReceivedWork (runtime : Runtime) (id : Option String) (fresh : FreshId)
    (kind : WorkKind) (payload : Json) (commitment : Option String) (now : Nat) :
    Result ReceiverWork := do
  assertDurablePayload kind payload
  return receivedWork (workId id fresh) kind payload
    (commitment.getD (payloadCommitment runtime payload)) now

end TsnProtocol.Receiver.WorkContract
