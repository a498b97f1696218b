import TsnProtocol.Lib.TextFormat
import TsnProtocol.Receiver.WorkContract

/-!
The attestation a Node signs over its decision on a work.
-/

namespace TsnProtocol.Receiver.NodeVerification

open Lib.Checked
open Lib.JsonData
open Lib.TextFormat
open Receiver.WorkContract

def messageFields : List String :=
  ["version", "workId", "workKind", "decision", "inputPayloadCommitment",
    "evidenceCommitment", "executionPayloadCommitment", "verificationType", "leaseId",
    "leaseVersion", "nodeId", "keyId", "signedAt"]

/-- Code units of a character, a pair of them beyond the basic plane. -/
def codeUnits (character : Char) : List Nat :=
  let point := character.toNat
  if point < 0x10000 then [point]
  else [0xd800 + (point - 0x10000) / 0x400, 0xdc00 + (point - 0x10000) % 0x400]

def codeUnitLe (left right : String) : Bool :=
  left.toList.flatMap codeUnits ≤ right.toList.flatMap codeUnits

def stableNodeValue (conversions : Conversions) (value : Json) : String :=
  stableText conversions codeUnitLe value

def nodeCommitment (runtime : Runtime) (value : Json) : String :=
  runtime.sha256 (stableNodeValue runtime.conversions value)

def hasLineBreak (text : String) : Bool :=
  text.toList.contains '\n' || text.toList.contains '\r'

def attestationMessage (conversions : Conversions) (attestation : Json) : Result String := do
  let values := messageFields.map fun name => textOf conversions (attestation.get name)
  require (values.all (fun value => !hasLineBreak value) = true) "NODE_ATTESTATION_INVALID_FIELD"
  return "TSN_NODE_VERIFICATION_V1\n" ++ "\n".intercalate values

/-- Digits of a signature of 64 bytes, in the form that encoding it gives. -/
def isSignature (text : String) : Bool :=
  let digits := stripPadding text.toList
  let bytes := decodeBase64 (base64Value '+') digits
  bytes.length = 64 ∧ stripPadding (b64encode bytes) = digits

def isObject : Json → Bool
  | .obj _ | .arr _ => true
  | _ => false

/-- What a Node has to attest for its decision on a work it holds. -/
def attests (runtime : Runtime) (work : ReceiverWork) (lease : Lease) (owner : String)
    (expectedVersion : Nat) (status : WorkStatus) (evidence attestation : Json) : Bool :=
  let evidenceCommitment :=
    nodeCommitment runtime (.obj (keepFields (· ≠ "nodeAttestation") evidence))
  let executionPayload := match status, evidence.get "verifiedPayload" with
    | .verified, some (.obj fields) => crankerExecutionPayload work.kind (.obj fields)
    | _, _ => .obj []
  let signedAt := attestation.get "signedAt"
  (match attestation.get "version" with | some (.num value) => value = 1 | _ => false) &&
    isText (attestation.get "algorithm") "Ed25519" &&
    isText (attestation.get "workId") work.id &&
    isText (attestation.get "workKind") work.kind.text &&
    isText (attestation.get "decision") status.text &&
    isText (attestation.get "inputPayloadCommitment") work.payloadCommitment &&
    isText (attestation.get "evidenceCommitment") evidenceCommitment &&
    isText (attestation.get "executionPayloadCommitment")
      (nodeCommitment runtime executionPayload) &&
    isText (attestation.get "leaseId") (lease.leaseId.getD work.id) &&
    (attestation.get "leaseVersion").any (fun value =>
      decide (numberOf runtime.conversions (some value) =
        some ((lease.version.getD expectedVersion : Nat) : Rat))) &&
    isText (attestation.get "nodeId") owner &&
    isText (attestation.get "keyId") runtime.nodeKeyId &&
    (status ≠ .verified || isText (attestation.get "verificationType")
      (textOf runtime.conversions (evidence.get "verificationType"))) &&
    signedAt.any Json.truthy && runtime.isDate (textOf runtime.conversions signedAt)

def assertNodeVerificationAttestation (runtime : Runtime) (work : ReceiverWork)
    (owner : String) (expectedVersion : Nat) (status : WorkStatus) (evidence : Option Json) :
    Result Unit := do
  let given ← okOr (evidence.filter Json.truthy) "NODE_ATTESTATION_REQUIRED"
  let attestation ← okOr ((given.get "nodeAttestation").filter isObject)
    "NODE_ATTESTATION_REQUIRED"
  require (status = .verified → (given.get "verifiedPayload").any Json.isRecord = true ∧
    trim (textOf runtime.conversions (given.get "verificationType")) ≠ "")
    "NODE_VERIFIED_EVIDENCE_REQUIRED"
  let lease ← okOr work.nodeLease "NODE_ATTESTATION_LEASE_MISSING"
  require (attests runtime work lease owner expectedVersion status given attestation = true)
    "NODE_ATTESTATION_CONTEXT_MISMATCH"
  let signature := textOf runtime.conversions (attestation.get "signatureBase64")
  require (isSignature signature = true) "NODE_ATTESTATION_SIGNATURE_INVALID"
  let message ← attestationMessage runtime.conversions attestation
  require (runtime.verifyNode message signature = true) "NODE_ATTESTATION_SIGNATURE_INVALID"

end TsnProtocol.Receiver.NodeVerification
