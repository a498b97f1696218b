import TsnProtocol.Receiver.NodeVerification

/-!
A Node that verifies a work: what it attests of its decision is accepted.
-/

namespace TsnProtocol.Receiver.Decisions

open Lib.Checked
open Lib.JsonData
open Receiver.NodeVerification
open Receiver.WorkContract

variable {runtime : Runtime} {work : ReceiverWork} {lease : Lease}
  {leaseId owner signedAt signature : String} {version : Nat}

/-- What a Node finds out when it verifies a work. -/
def findings : List (String × Json) :=
  [("verifiedPayload", .obj []), ("verificationType", .str "TSN_NODE")]

/-- The attestation of a Node that verifies a work under its lease. -/
def attestationFields (runtime : Runtime) (work : ReceiverWork) (leaseId : String)
    (version : Nat) (owner signedAt signature : String) : List (String × Json) :=
  [("version", .num 1), ("algorithm", .str "Ed25519"), ("workId", .str work.id),
    ("workKind", .str work.kind.text), ("decision", .str "VERIFIED"),
    ("inputPayloadCommitment", .str work.payloadCommitment),
    ("evidenceCommitment", .str (nodeCommitment runtime (.obj findings))),
    ("executionPayloadCommitment", .str (nodeCommitment runtime (.obj []))),
    ("verificationType", .str "TSN_NODE"), ("leaseId", .str leaseId),
    ("leaseVersion", .num version), ("nodeId", .str owner), ("keyId", .str runtime.nodeKeyId),
    ("signedAt", .str signedAt), ("signatureBase64", .str signature)]

def attestation (runtime : Runtime) (work : ReceiverWork) (leaseId : String) (version : Nat)
    (owner signedAt signature : String) : Json :=
  .obj (attestationFields runtime work leaseId version owner signedAt signature)

def evidence (runtime : Runtime) (work : ReceiverWork) (leaseId : String) (version : Nat)
    (owner signedAt signature : String) : Json :=
  .obj [("verifiedPayload", .obj []), ("verificationType", .str "TSN_NODE"),
    ("nodeAttestation", attestation runtime work leaseId version owner signedAt signature)]

/-- The values that are signed. -/
def signedValues (runtime : Runtime) (work : ReceiverWork) (leaseId : String) (version : Nat)
    (owner signedAt : String) : List String :=
  [runtime.conversions.numberText 1, work.id, work.kind.text, "VERIFIED",
    work.payloadCommitment, nodeCommitment runtime (.obj findings),
    nodeCommitment runtime (.obj []), "TSN_NODE", leaseId,
    runtime.conversions.numberText version, owner, runtime.nodeKeyId, signedAt]

def signedMessage (runtime : Runtime) (work : ReceiverWork) (leaseId : String) (version : Nat)
    (owner signedAt : String) : String :=
  "TSN_NODE_VERIFICATION_V1\n" ++
    "\n".intercalate (signedValues runtime work leaseId version owner signedAt)

theorem signedValues_attestation :
    messageFields.map (fun name => textOf runtime.conversions
      ((attestation runtime work leaseId version owner signedAt signature).get name)) =
      signedValues runtime work leaseId version owner signedAt := by
  simp [messageFields, attestation, attestationFields, Json.get, List.lookup, textOf, Json.toText, signedValues]

theorem attestationMessage_attestation
    (hlines : ∀ value ∈ signedValues runtime work leaseId version owner signedAt,
      hasLineBreak value = false) :
    attestationMessage runtime.conversions
        (attestation runtime work leaseId version owner signedAt signature) =
      .ok (signedMessage runtime work leaseId version owner signedAt) := by
  have hall : (signedValues runtime work leaseId version owner signedAt).all
      (fun value => !hasLineBreak value) = true := by
    rw [List.all_eq_true]
    intro value hvalue
    rw [hlines value hvalue]
    rfl
  simp only [attestationMessage, signedValues_attestation, bind_eq_ok, require_eq_ok,
    pure_eq_ok]
  exact ⟨(), hall, rfl⟩

theorem keepFields_evidence :
    keepFields (· ≠ "nodeAttestation")
      (evidence runtime work leaseId version owner signedAt signature) = findings := by
  simp [keepFields, evidence, Json.entries, findings]

theorem executionPayload_evidence (kind : WorkKind) :
    crankerExecutionPayload kind (.obj []) = .obj [] := by
  cases kind <;> rfl

theorem get_attestation (key : String) :
    (attestation runtime work leaseId version owner signedAt signature).get key =
      (attestationFields runtime work leaseId version owner signedAt signature).lookup key :=
  rfl

theorem attests_evidence (hlease : lease.leaseId = some leaseId)
    (hversion : lease.version = some version) (hsigned : signedAt ≠ "")
    (hdate : runtime.isDate signedAt = true) (expectedVersion : Nat) :
    attests runtime work lease owner expectedVersion .verified
      (evidence runtime work leaseId version owner signedAt signature)
      (attestation runtime work leaseId version owner signedAt signature) = true := by
  have hkept := @keepFields_evidence runtime work leaseId owner signedAt signature version
  have hpayload : (evidence runtime work leaseId version owner signedAt signature).get
      "verifiedPayload" = some (.obj []) := by
    simp [evidence, Json.get, List.lookup]
  have htype : (evidence runtime work leaseId version owner signedAt signature).get
      "verificationType" = some (.str "TSN_NODE") := by
    simp [evidence, Json.get, List.lookup]
  have hfields := @get_attestation runtime work leaseId owner signedAt signature version
  generalize evidence runtime work leaseId version owner signedAt signature = given
    at hkept hpayload htype
  generalize attestation runtime work leaseId version owner signedAt signature = attested
    at hfields
  unfold attests
  simp only [hkept]
  simp [hpayload, htype, hfields, attestationFields, List.lookup, hlease, hversion, isText, numberOf,
    executionPayload_evidence, WorkStatus.text, textOf, Json.toText, Json.truthy, hsigned,
    hdate]

/-- What the Node attests is accepted. -/
theorem accepted_evidence (hheld : work.nodeLease = some lease)
    (hlease : lease.leaseId = some leaseId) (hversion : lease.version = some version)
    (hsigned : signedAt ≠ "") (hdate : runtime.isDate signedAt = true)
    (hlines : ∀ value ∈ signedValues runtime work leaseId version owner signedAt,
      hasLineBreak value = false)
    (hsignature : isSignature signature = true)
    (hverify : runtime.verifyNode
      (signedMessage runtime work leaseId version owner signedAt) signature = true)
    (expectedVersion : Nat) :
    assertNodeVerificationAttestation runtime work owner expectedVersion .verified
      (some (evidence runtime work leaseId version owner signedAt signature)) = .ok () := by
  have hgiven : (evidence runtime work leaseId version owner signedAt signature).get
      "nodeAttestation" =
        some (attestation runtime work leaseId version owner signedAt signature) := by
    simp [evidence, Json.get, List.lookup]
  have htext : textOf runtime.conversions
      ((attestation runtime work leaseId version owner signedAt signature).get
        "signatureBase64") = signature := by
    simp [attestation, attestationFields, Json.get, List.lookup, textOf, Json.toText]
  simp only [assertNodeVerificationAttestation, bind_eq_ok, okOr_eq_ok, require_eq_ok]
  refine ⟨evidence runtime work leaseId version owner signedAt signature, rfl,
    attestation runtime work leaseId version owner signedAt signature, ?_, (), ?_, lease, hheld,
    (), attests_evidence hlease hversion hsigned hdate expectedVersion, (), ?_, _,
    attestationMessage_attestation hlines, ?_⟩
  · rw [hgiven]
    rfl
  · intro _
    constructor
    · simp [evidence, Json.get, List.lookup, Json.isRecord]
    · have hfilled : trim "TSN_NODE" ≠ "" := by decide
      simpa [evidence, Json.get, List.lookup, textOf, Json.toText] using hfilled
  · rw [htext]
    exact hsignature
  · rw [htext]
    exact hverify

end TsnProtocol.Receiver.Decisions
