import Mathlib
import TsnProtocol.Lib.Transition
import TsnProtocol.Node.DeviceAcceptance

/-!
Nonces of threshold access requests: the Node takes a nonce in the store, once, and answers with
the receipt that is stored under it. Requests are handled by any number of workers, and each
operation of the store is atomic.
-/

namespace TsnProtocol.Node.NonceReceipts

open Lib.ByteReader
open Lib.Checked
open Lib.TextFormat
open Lib.Transition
open Lib.Utf16
open Lib.Utf8
open Node.DeviceAcceptance
open Node.DeviceProofs
open Node.ThresholdAccess
open Sdk.DeviceAccess (Platform bytesToBase64Url js)

/-- With `isoformat` of a time in microseconds. -/
structure NodePlatform extends Platform where
  isoFormat : Int → Text

/-- A key of Ed25519. -/
structure SigningKey where
  verifyKey : List Byte
  sign : List Byte → List Byte

/-- `TSN_THRESHOLD_NONCE_SIGNING_KEY` of a worker. -/
inductive KeySetting where
  | unset
  | invalid
  | key (signingKey : SigningKey)

def KeySetting.isSet : KeySetting → Bool
  | unset => false
  | _ => true

/-- `decode_secret_key`. -/
def KeySetting.signingKey? : KeySetting → Option SigningKey
  | key signingKey => some signingKey
  | _ => none

/-- What the Node reads of a body, and its text in JSON with the keys sorted. -/
structure BodyFormat (Body : Type) where
  request : Body → ThresholdRequest
  dumps : Body → PyString

structure Receipt where
  (domain operation tin ownerPublicKey resourceCommitment requestNonce consumedAt expiresAt
    verifierPublicKeyBase64Url signatureBase64Url : PyString)
  deriving DecidableEq

def nonceReceiptDomain : String := "TSN_TIN_THRESHOLD_NONCE_RECEIPT"

/-- `text.replace("+00:00", "Z")`. -/
def replaceOffset : Text → Text
  | [] => []
  | character :: rest =>
      if "+00:00".toList.isPrefixOf (character :: rest) then 'Z' :: replaceOffset (rest.drop 5)
      else character :: replaceOffset rest
termination_by text => text.length
decreasing_by
  · simp only [List.length_drop, List.length_cons]
    omega
  · simp only [List.length_cons, Nat.lt_succ_self]

/-- The message that the receipt's signature is of. -/
def receiptMessage (receipt : Receipt) : Option (List Byte) :=
  canonicalFields [receipt.domain, receipt.operation, receipt.tin, receipt.ownerPublicKey,
    receipt.resourceCommitment, receipt.requestNonce, receipt.consumedAt, receipt.expiresAt,
    receipt.verifierPublicKeyBase64Url]

def createSignedNonceReceipt (platform : NodePlatform) (verified : Verified) (consumedAt : Int)
    (signingKey : SigningKey) : Option Receipt := do
  let receipt : Receipt := {
    domain := py nonceReceiptDomain
    operation := verified.operation
    tin := verified.tin
    ownerPublicKey := verified.ownerPublicKey
    resourceCommitment := verified.resourceCommitment
    requestNonce := verified.requestNonce
    consumedAt := points (replaceOffset (platform.isoFormat consumedAt))
    expiresAt := verified.expiresAt
    verifierPublicKeyBase64Url := points (bytesToBase64Url signingKey.verifyKey)
    signatureBase64Url := [] }
  let message ← receiptMessage receipt
  return { receipt with
    signatureBase64Url := points (bytesToBase64Url (signingKey.sign message)) }

def nonceStorageKey (platform : Platform) (verified : Verified) : Option PyString :=
  (canonicalFields [py nonceReceiptDomain, verified.operation, verified.tin,
    verified.ownerPublicKey, verified.resourceCommitment, verified.requestNonce]).map
      (hashHex platform)

def thresholdRequestCommitment (platform : Platform) (dumped : PyString) : Option PyString :=
  (encodeStrict dumped).map (hashHex platform)

/-- An `HTTPException`, or another exception. -/
inductive Refusal where
  | http (status : Nat) (detail : String)
  | unhandled
  deriving DecidableEq

def refusalOf : AccessError → Refusal
  | .refused text => .http 403 text
  | .unicodeEncode => .unhandled

/-- A request at a worker, with the times that are read while it is handled. -/
structure Arrival (Body : Type) where
  setting : KeySetting
  (now consumedAt : Int)
  body : Body

/-- What a request that passes would store. -/
structure Prepared where
  (key commitment : PyString)
  receipt : Receipt
  deriving DecidableEq

/-- `consume_threshold_access_nonce`, up to the first operation of the store. -/
def prepare {Body : Type} (platform : NodePlatform) (format : BodyFormat Body)
    (arrival : Arrival Body) : Except Refusal Prepared := do
  require (arrival.setting.isSet = true)
    (.http 503 "TIN threshold nonce verifier is not configured")
  let verified ← (verifyThresholdAccessRequest platform.toPlatform arrival.now
    (format.request arrival.body)).mapError refusalOf
  let signingKey ← okOr arrival.setting.signingKey?
    (.http 503 "TIN threshold nonce verifier is unavailable")
  let receipt ← okOr (createSignedNonceReceipt platform verified arrival.consumedAt signingKey)
    .unhandled
  let key ← okOr (nonceStorageKey platform.toPlatform verified) .unhandled
  let commitment ← okOr (thresholdRequestCommitment platform.toPlatform
    (format.dumps arrival.body)) .unhandled
  return ⟨key, commitment, receipt⟩

structure StoredRecord where
  requestCommitment : PyString
  receipt : Receipt
  deriving DecidableEq

/-- How far a request is; a `failed` one has lost its handler or the store. -/
inductive Phase where
  | refused (refusal : Refusal)
  | consuming (prepared : Prepared)
  | reading (prepared : Prepared)
  | answered (prepared : Prepared) (receipt : Receipt)
  | failed
  deriving DecidableEq

structure Call (Body : Type) where
  arrival : Arrival Body
  phase : Phase

/-- The bucket of the nonces, and every request so far under a name. -/
structure State (Body : Type) where
  nonces : PyString → Option StoredRecord
  calls : Nat → Option (Call Body)

def State.empty {Body : Type} : State Body :=
  ⟨fun _ => none, fun _ => none⟩

/-- A request arrives, takes its nonce, reads the stored record, or fails. An answer of
`consume_once` may be `lost`, and the operation is then made again. -/
inductive Input (Body : Type) where
  | submit (id : Nat) (arrival : Arrival Body)
  | consume (id : Nat) (lost : Bool)
  | read (id : Nat)
  | fail (id : Nat)

section Steps

variable {Body : Type} (platform : NodePlatform) (format : BodyFormat Body)

def Input.id : Input Body → Nat
  | submit id _ | consume id _ | read id | fail id => id

def Call.arrive (arrival : Arrival Body) : Call Body :=
  match prepare platform format arrival with
  | .ok prepared => ⟨arrival, .consuming prepared⟩
  | .error refusal => ⟨arrival, .refused refusal⟩

def Phase.consuming? : Phase → Option Prepared
  | consuming prepared => some prepared
  | _ => none

def Phase.reading? : Phase → Option Prepared
  | reading prepared => some prepared
  | _ => none

def alreadyUsed : Refusal :=
  .http 409 "authorized-device proof nonce has already been used"

/-- The answer from what is stored under the nonce. -/
def readExisting (prepared : Prepared) : Option StoredRecord → Phase
  | none => .refused alreadyUsed
  | some existing =>
      if existing.requestCommitment = prepared.commitment then .answered prepared existing.receipt
      else .refused alreadyUsed

def State.setPhase (state : State Body) (id : Nat) (call : Call Body) (phase : Phase) :
    State Body :=
  { state with calls := Function.update state.calls id (some { call with phase }) }

/-- `consume_once`. -/
def State.consumeOnce (state : State Body) (prepared : Prepared) : State Body × Phase :=
  match state.nonces prepared.key with
  | some _ => (state, .reading prepared)
  | none =>
      ({ state with
          nonces := Function.update state.nonces prepared.key
            (some ⟨prepared.commitment, prepared.receipt⟩) },
        .answered prepared prepared.receipt)

def step (state : State Body) : Input Body → Except Unit (State Body)
  | .submit id arrival => do
      require ((state.calls id).isNone = true) ()
      return { state with
        calls := Function.update state.calls id (some (Call.arrive platform format arrival)) }
  | .consume id lost => do
      let call ← okOr (state.calls id) ()
      let prepared ← okOr call.phase.consuming? ()
      let (after, phase) := state.consumeOnce prepared
      return after.setPhase id call (if lost then .consuming prepared else phase)
  | .read id => do
      let call ← okOr (state.calls id) ()
      let prepared ← okOr call.phase.reading? ()
      return state.setPhase id call (readExisting prepared (state.nonces prepared.key))
  | .fail id => do
      let call ← okOr (state.calls id) ()
      require (call.phase.consuming?.isSome = true ∨ call.phase.reading?.isSome = true) ()
      return state.setPhase id call .failed

end Steps

section Operations

variable {Body : Type} {platform : NodePlatform} {format : BodyFormat Body}
  {state next : State Body} {id : Nat}

theorem setPhase_self (state : State Body) (id : Nat) (call : Call Body) (phase : Phase) :
    (state.setPhase id call phase).calls id = some { call with phase } :=
  Function.update_self ..

theorem submit_eq_ok {arrival : Arrival Body} :
    step platform format state (.submit id arrival) = .ok next ↔ state.calls id = none ∧
      { state with
        calls := Function.update state.calls id (some (Call.arrive platform format arrival)) } =
          next := by
  simp only [step, bind_eq_ok, require_eq_ok, pure_eq_ok, Option.isNone_iff_eq_none]
  constructor
  · rintro ⟨_, hfree, hnext⟩
    exact ⟨hfree, hnext⟩
  · rintro ⟨hfree, hnext⟩
    exact ⟨(), hfree, hnext⟩

theorem consuming?_eq_some {phase : Phase} {prepared : Prepared} :
    phase.consuming? = some prepared ↔ phase = .consuming prepared := by
  cases phase <;> simp [Phase.consuming?]

theorem reading?_eq_some {phase : Phase} {prepared : Prepared} :
    phase.reading? = some prepared ↔ phase = .reading prepared := by
  cases phase <;> simp [Phase.reading?]

theorem consume_eq_ok {lost : Bool} :
    step platform format state (.consume id lost) = .ok next ↔
      ∃ call prepared, state.calls id = some call ∧ call.phase = .consuming prepared ∧
        (state.consumeOnce prepared).1.setPhase id call
          (if lost then .consuming prepared else (state.consumeOnce prepared).2) = next := by
  simp only [step, bind_eq_ok, okOr_eq_ok, pure_eq_ok, consuming?_eq_some]
  constructor
  · rintro ⟨call, hcall, prepared, hphase, hnext⟩
    exact ⟨call, prepared, hcall, hphase, hnext⟩
  · rintro ⟨call, prepared, hcall, hphase, hnext⟩
    exact ⟨call, hcall, prepared, hphase, hnext⟩

theorem read_eq_ok :
    step platform format state (.read id) = .ok next ↔
      ∃ call prepared, state.calls id = some call ∧ call.phase = .reading prepared ∧
        state.setPhase id call (readExisting prepared (state.nonces prepared.key)) = next := by
  simp only [step, bind_eq_ok, okOr_eq_ok, pure_eq_ok, reading?_eq_some]
  constructor
  · rintro ⟨call, hcall, prepared, hphase, hnext⟩
    exact ⟨call, prepared, hcall, hphase, hnext⟩
  · rintro ⟨call, prepared, hcall, hphase, hnext⟩
    exact ⟨call, hcall, prepared, hphase, hnext⟩

theorem fail_eq_ok :
    step platform format state (.fail id) = .ok next ↔
      ∃ call, state.calls id = some call ∧
        (call.phase.consuming?.isSome = true ∨ call.phase.reading?.isSome = true) ∧
        state.setPhase id call .failed = next := by
  simp only [step, bind_eq_ok, okOr_eq_ok, require_eq_ok, pure_eq_ok]
  constructor
  · rintro ⟨call, hcall, _, hopen, hnext⟩
    exact ⟨call, hcall, hopen, hnext⟩
  · rintro ⟨call, hcall, hopen, hnext⟩
    exact ⟨call, hcall, (), hopen, hnext⟩

/-- No operation takes a stored record away. -/
def Extends (nonces later : PyString → Option StoredRecord) : Prop :=
  ∀ key record, nonces key = some record → later key = some record

theorem Extends.refl (nonces : PyString → Option StoredRecord) : Extends nonces nonces :=
  fun _ _ hrecord => hrecord

theorem extends_update {nonces : PyString → Option StoredRecord} {key : PyString}
    (hfree : nonces key = none) (record : StoredRecord) :
    Extends nonces (Function.update nonces key (some record)) := by
  intro other existing hexisting
  have hother : other ≠ key := by
    rintro rfl
    rw [hfree] at hexisting
    cases hexisting
  rw [Function.update_of_ne hother, hexisting]

theorem extends_consumeOnce (state : State Body) (prepared : Prepared) :
    Extends state.nonces (state.consumeOnce prepared).1.nonces := by
  rw [State.consumeOnce]
  split
  · exact .refl _
  · rename_i hfree
    exact extends_update hfree _

theorem calls_consumeOnce (state : State Body) (prepared : Prepared) :
    (state.consumeOnce prepared).1.calls = state.calls := by
  rw [State.consumeOnce]
  split <;> rfl

/-- A step extends the bucket, and changes the call of one request, whose arrival it keeps. -/
theorem step_frame {input : Input Body} (hstep : step platform format state input = .ok next) :
    Extends state.nonces next.nonces ∧
      ∃ after, next.calls = Function.update state.calls input.id (some after) ∧
        ∀ call, state.calls input.id = some call → after.arrival = call.arrival := by
  have hsame : ∀ {call after : Call Body}, state.calls input.id = some call →
      after.arrival = call.arrival → ∀ other, state.calls input.id = some other →
        after.arrival = other.arrival := by
    intro call after hcall harrival other hother
    rw [harrival, Option.some.inj (hcall.symm.trans hother)]
  cases input with
  | submit id arrival =>
      obtain ⟨hfree, rfl⟩ := submit_eq_ok.mp hstep
      refine ⟨.refl _, _, rfl, fun call hcall => ?_⟩
      rw [Input.id, hfree] at hcall
      cases hcall
  | consume id lost =>
      obtain ⟨call, prepared, hcall, -, rfl⟩ := consume_eq_ok.mp hstep
      refine ⟨extends_consumeOnce state prepared, { call with
        phase := if lost then .consuming prepared else (state.consumeOnce prepared).2 }, ?_,
        hsame hcall rfl⟩
      rw [State.setPhase, calls_consumeOnce]
      rfl
  | read id =>
      obtain ⟨call, prepared, hcall, -, rfl⟩ := read_eq_ok.mp hstep
      exact ⟨.refl _, _, rfl, hsame hcall rfl⟩
  | fail id =>
      obtain ⟨call, hcall, -, rfl⟩ := fail_eq_ok.mp hstep
      exact ⟨.refl _, _, rfl, hsame hcall rfl⟩

end Operations

section Invariants

variable {Body : Type} {platform : NodePlatform} {format : BodyFormat Body}
  {state next : State Body} {id : Nat}

/-- The phase of a request against the bucket. -/
def Faithful (platform : NodePlatform) (format : BodyFormat Body)
    (nonces : PyString → Option StoredRecord) (arrival : Arrival Body) : Phase → Prop
  | .refused refusal => prepare platform format arrival = .error refusal ∨
      ∃ prepared existing, prepare platform format arrival = .ok prepared ∧
        nonces prepared.key = some existing ∧
        existing.requestCommitment ≠ prepared.commitment ∧ refusal = alreadyUsed
  | .consuming prepared => prepare platform format arrival = .ok prepared
  | .reading prepared => prepare platform format arrival = .ok prepared ∧
      ∃ existing, nonces prepared.key = some existing
  | .answered prepared receipt => prepare platform format arrival = .ok prepared ∧
      nonces prepared.key = some ⟨prepared.commitment, receipt⟩
  | .failed => True

theorem Faithful.mono {nonces later : PyString → Option StoredRecord} {arrival : Arrival Body}
    {phase : Phase} (hextends : Extends nonces later)
    (hfaithful : Faithful platform format nonces arrival phase) :
    Faithful platform format later arrival phase := by
  rcases phase with refusal | prepared | prepared | ⟨prepared, receipt⟩ | _
  · refine hfaithful.imp_right ?_
    rintro ⟨prepared, existing, hprepared, hexisting, hother, hrefusal⟩
    exact ⟨prepared, existing, hprepared, hextends _ _ hexisting, hother, hrefusal⟩
  · exact hfaithful
  · exact ⟨hfaithful.1, hfaithful.2.imp fun _ hexisting => hextends _ _ hexisting⟩
  · exact ⟨hfaithful.1, hextends _ _ hfaithful.2⟩
  · trivial

/-- Every request is as its phase says, and what is stored was prepared by a request. -/
structure Sound (platform : NodePlatform) (format : BodyFormat Body) (state : State Body) :
    Prop where
  faithful : ∀ id call, state.calls id = some call →
    Faithful platform format state.nonces call.arrival call.phase
  stored : ∀ key record, state.nonces key = some record → ∃ id call prepared,
    state.calls id = some call ∧ prepare platform format call.arrival = .ok prepared ∧
      prepared.key = key ∧ record = ⟨prepared.commitment, prepared.receipt⟩

theorem faithful_arrive (nonces : PyString → Option StoredRecord) (arrival : Arrival Body) :
    Faithful platform format nonces (Call.arrive platform format arrival).arrival
      (Call.arrive platform format arrival).phase := by
  rw [Call.arrive]
  split
  · rename_i hprepared
    exact hprepared
  · rename_i hrefused
    exact .inl hrefused

theorem faithful_consumeOnce {arrival : Arrival Body} {prepared : Prepared}
    (hprepared : prepare platform format arrival = .ok prepared) :
    Faithful platform format (state.consumeOnce prepared).1.nonces arrival
      (state.consumeOnce prepared).2 := by
  rw [State.consumeOnce]
  split
  · rename_i existing hexisting
    exact ⟨hprepared, existing, hexisting⟩
  · exact ⟨hprepared, Function.update_self ..⟩

theorem faithful_readExisting {nonces : PyString → Option StoredRecord}
    {arrival : Arrival Body} {prepared : Prepared}
    (hreading : Faithful platform format nonces arrival (.reading prepared)) :
    Faithful platform format nonces arrival
      (readExisting prepared (nonces prepared.key)) := by
  obtain ⟨hprepared, existing, hexisting⟩ := hreading
  rw [hexisting, readExisting]
  split
  · rename_i hsame
    refine ⟨hprepared, ?_⟩
    rw [hexisting, ← hsame]
  · rename_i hother
    exact .inr ⟨prepared, existing, hprepared, hexisting, hother, rfl⟩

/-- The request that makes a step is as its new phase says. -/
theorem step_faithful {input : Input Body} (hsound : Sound platform format state)
    (hstep : step platform format state input = .ok next) {call : Call Body}
    (hcall : next.calls input.id = some call) :
    Faithful platform format next.nonces call.arrival call.phase := by
  cases input with
  | submit id arrival =>
      obtain ⟨-, rfl⟩ := submit_eq_ok.mp hstep
      simp only [Input.id, Function.update_self, Option.some.injEq] at hcall
      subst hcall
      exact faithful_arrive _ _
  | consume id lost =>
      obtain ⟨old, prepared, hold, hphase, rfl⟩ := consume_eq_ok.mp hstep
      obtain rfl := Option.some.inj ((setPhase_self ..).symm.trans hcall)
      have hprepared := hsound.faithful _ _ hold
      rw [hphase] at hprepared
      cases lost with
      | true => exact hprepared
      | false => exact faithful_consumeOnce hprepared
  | read id =>
      obtain ⟨old, prepared, hold, hphase, rfl⟩ := read_eq_ok.mp hstep
      obtain rfl := Option.some.inj ((setPhase_self ..).symm.trans hcall)
      have hreading := hsound.faithful _ _ hold
      rw [hphase] at hreading
      exact faithful_readExisting hreading
  | fail id =>
      obtain ⟨old, hold, -, rfl⟩ := fail_eq_ok.mp hstep
      obtain rfl := Option.some.inj ((setPhase_self ..).symm.trans hcall)
      trivial

/-- What a step stores is what its request has prepared. -/
theorem step_stored {input : Input Body} (hsound : Sound platform format state)
    (hstep : step platform format state input = .ok next) {key : PyString}
    {record : StoredRecord} (hrecord : next.nonces key = some record) :
    state.nonces key = some record ∨ ∃ call prepared, state.calls input.id = some call ∧
      prepare platform format call.arrival = .ok prepared ∧ prepared.key = key ∧
        record = ⟨prepared.commitment, prepared.receipt⟩ := by
  cases input with
  | submit id arrival =>
      obtain ⟨-, rfl⟩ := submit_eq_ok.mp hstep
      exact .inl hrecord
  | consume id lost =>
      obtain ⟨call, prepared, hcall, hphase, rfl⟩ := consume_eq_ok.mp hstep
      have hprepared := hsound.faithful _ _ hcall
      rw [hphase] at hprepared
      rw [State.setPhase, State.consumeOnce] at hrecord
      split at hrecord
      · exact .inl hrecord
      · rcases eq_or_ne key prepared.key with rfl | hother
        · have hstored := (Function.update_self ..).symm.trans hrecord
          exact .inr ⟨call, prepared, hcall, hprepared, rfl, (Option.some.inj hstored).symm⟩
        · exact .inl ((Function.update_of_ne hother ..).symm.trans hrecord)
  | read id =>
      obtain ⟨call, prepared, -, -, rfl⟩ := read_eq_ok.mp hstep
      exact .inl hrecord
  | fail id =>
      obtain ⟨call, -, -, rfl⟩ := fail_eq_ok.mp hstep
      exact .inl hrecord

/-- A request that has a call keeps its arrival. -/
theorem exists_call_of_step {input : Input Body}
    (hstep : step platform format state input = .ok next) {call : Call Body}
    (hcall : state.calls id = some call) :
    ∃ after, next.calls id = some after ∧ after.arrival = call.arrival := by
  obtain ⟨-, after, hcalls, harrival⟩ := step_frame hstep
  rcases eq_or_ne id input.id with rfl | hother
  · exact ⟨after, by rw [hcalls, Function.update_self], harrival _ hcall⟩
  · exact ⟨call, by rw [hcalls, Function.update_of_ne hother, hcall], rfl⟩

theorem sound_step {input : Input Body} (hsound : Sound platform format state)
    (hstep : step platform format state input = .ok next) : Sound platform format next := by
  obtain ⟨hextends, after, hcalls, -⟩ := step_frame hstep
  constructor
  · intro id call hcall
    rcases eq_or_ne id input.id with rfl | hother
    · exact step_faithful hsound hstep hcall
    · rw [hcalls, Function.update_of_ne hother] at hcall
      exact (hsound.faithful id call hcall).mono hextends
  · intro key record hrecord
    have hauthor : ∃ id call prepared, state.calls id = some call ∧
        prepare platform format call.arrival = .ok prepared ∧ prepared.key = key ∧
          record = ⟨prepared.commitment, prepared.receipt⟩ := by
      rcases step_stored hsound hstep hrecord with hstored | hnew
      · exact hsound.stored key record hstored
      · exact ⟨input.id, hnew⟩
    obtain ⟨id, call, prepared, hcall, hprepared, hkey, hrecord⟩ := hauthor
    obtain ⟨later, hlater, harrival⟩ := exists_call_of_step hstep hcall
    exact ⟨id, later, prepared, hlater, harrival ▸ hprepared, hkey, hrecord⟩

theorem soundState_of_run {history : List (State Body × Input Body)}
    (hrun : Run (step platform format) .empty history state) : Sound platform format state := by
  refine hrun.induct_on (fun _ state => Sound platform format state) ⟨?_, ?_⟩ ?_
  · intro id call hcall
    cases hcall
  · intro key record hrecord
    cases hrecord
  · intro _ _ _ _ _ hsound hstep
    exact sound_step hsound hstep

end Invariants

section SingleUse

variable {Body : Type} {platform : NodePlatform} {format : BodyFormat Body}
  {state next : State Body} {id : Nat}

/-- What a request is verified to ask for does not depend on the time. -/
theorem verified_unique {platform : Platform} {now later : Int} {request : ThresholdRequest}
    {verified verified' : Verified}
    (hnow : verifyThresholdAccessRequest platform now request = .ok verified)
    (hlater : verifyThresholdAccessRequest platform later request = .ok verified') :
    verified = verified' := by
  simp only [verifyThresholdAccessRequest, bind_eq_ok, okOr_eq_ok] at hnow hlater
  obtain ⟨_, -, operation, hoperation, access, haccess, proof, hproof, fields, hfields, _, -, _, -,
    _, -, keys, hkeys, _, -, hdevice⟩ := hnow
  obtain ⟨_, -, operation', hoperation', access', haccess', proof', hproof', fields', hfields',
    _, -, _, -, _, -, keys', hkeys', _, -, hdevice'⟩ := hlater
  obtain rfl := Except.ok.inj (hoperation.symm.trans hoperation')
  obtain rfl := Option.some.inj (haccess.symm.trans haccess')
  obtain rfl := Option.some.inj (hproof.symm.trans hproof')
  obtain rfl := Except.ok.inj (hfields.symm.trans hfields')
  obtain rfl := Except.ok.inj (hkeys.symm.trans hkeys')
  exact Except.ok.inj (hdevice.symm.trans hdevice')

theorem prepare_eq_ok {arrival : Arrival Body} {prepared : Prepared} :
    prepare platform format arrival = .ok prepared ↔ arrival.setting.isSet = true ∧
      ∃ verified signingKey,
        verifyThresholdAccessRequest platform.toPlatform arrival.now
          (format.request arrival.body) = .ok verified ∧
        arrival.setting.signingKey? = some signingKey ∧
        createSignedNonceReceipt platform verified arrival.consumedAt signingKey =
          some prepared.receipt ∧
        nonceStorageKey platform.toPlatform verified = some prepared.key ∧
        thresholdRequestCommitment platform.toPlatform (format.dumps arrival.body) =
          some prepared.commitment := by
  simp only [prepare, bind_eq_ok, require_eq_ok, mapError_eq_ok, okOr_eq_ok, pure_eq_ok]
  constructor
  · rintro ⟨_, hset, verified, hverified, signingKey, hkey, receipt, hreceipt, key, hstorage,
      commitment, hcommitment, rfl⟩
    exact ⟨hset, verified, signingKey, hverified, hkey, hreceipt, hstorage, hcommitment⟩
  · rintro ⟨hset, verified, signingKey, hverified, hkey, hreceipt, hstorage, hcommitment⟩
    exact ⟨(), hset, verified, hverified, signingKey, hkey, _, hreceipt, _, hstorage, _,
      hcommitment, rfl⟩

/-- Requests of one body have one nonce key and one commitment. -/
theorem prepared_of_body {arrival retry : Arrival Body} {prepared prepared' : Prepared}
    (hbody : retry.body = arrival.body) (hprepared : prepare platform format arrival = .ok prepared)
    (hretry : prepare platform format retry = .ok prepared') :
    prepared'.key = prepared.key ∧ prepared'.commitment = prepared.commitment := by
  obtain ⟨-, verified, _, hverified, -, -, hkey, hcommitment⟩ := prepare_eq_ok.mp hprepared
  obtain ⟨-, verified', _, hverified', -, -, hkey', hcommitment'⟩ := prepare_eq_ok.mp hretry
  rw [hbody] at hverified' hcommitment'
  obtain rfl := verified_unique hverified hverified'
  exact ⟨Option.some.inj (hkey'.symm.trans hkey),
    Option.some.inj (hcommitment'.symm.trans hcommitment)⟩

/-- Operations of the request alone lead it to the given end. -/
def EndsAs (platform : NodePlatform) (format : BodyFormat Body) (state : State Body) (id : Nat)
    (ends : Phase) : Prop :=
  ∃ next call, Continues (step platform format) (fun input => input.id = id) state next ∧
    next.calls id = some call ∧ call.phase = ends

theorem endsAs_of_phase {call : Call Body} (hcall : state.calls id = some call) :
    EndsAs platform format state id call.phase :=
  ⟨state, call, .refl, hcall, rfl⟩

theorem endsAs_of_reading {call : Call Body} {prepared : Prepared}
    (hcall : state.calls id = some call) (hphase : call.phase = .reading prepared) :
    EndsAs platform format state id (readExisting prepared (state.nonces prepared.key)) := by
  have hstep : step platform format state (.read id) =
      .ok (state.setPhase id call (readExisting prepared (state.nonces prepared.key))) :=
    read_eq_ok.mpr ⟨call, prepared, hcall, hphase, rfl⟩
  exact ⟨_, _, Continues.refl.snoc rfl hstep, setPhase_self .., rfl⟩

theorem endsAs_of_consuming {call : Call Body} {prepared : Prepared} {existing : StoredRecord}
    (hcall : state.calls id = some call) (hphase : call.phase = .consuming prepared)
    (hexisting : state.nonces prepared.key = some existing) :
    EndsAs platform format state id (readExisting prepared (some existing)) := by
  have hstep : step platform format state (.consume id false) =
      .ok (state.setPhase id call (.reading prepared)) := by
    refine consume_eq_ok.mpr ⟨call, prepared, hcall, hphase, ?_⟩
    rw [State.consumeOnce, hexisting]
    rfl
  have hfirst : Continues (step platform format) (fun input => input.id = id) state
      (state.setPhase id call (.reading prepared)) := Continues.refl.snoc rfl hstep
  have hreading : EndsAs platform format (state.setPhase id call (.reading prepared)) id _ :=
    endsAs_of_reading (setPhase_self ..) rfl
  obtain ⟨next, after, hcontinues, hafter, hend⟩ := hreading
  refine ⟨next, after, hfirst.trans hcontinues, hafter, ?_⟩
  rw [hend, ← hexisting]
  rfl

/-- Once a nonce is stored, what is stored decides how each request of that nonce ends. -/
theorem ends_of_stored (hsound : Sound platform format state) {call : Call Body}
    {prepared : Prepared} {existing : StoredRecord} (hcall : state.calls id = some call)
    (hprepared : prepare platform format call.arrival = .ok prepared)
    (hexisting : state.nonces prepared.key = some existing) :
    call.phase = .failed ∨
      EndsAs platform format state id (readExisting prepared (some existing)) := by
  have hfaithful := hsound.faithful id call hcall
  have hends : EndsAs platform format state id call.phase := endsAs_of_phase hcall
  rcases hphase : call.phase with refusal | own | own | ⟨own, receipt⟩ | _
  · rw [hphase] at hfaithful hends
    rcases hfaithful with herror | ⟨own, stored, hown, hstored, hother, rfl⟩
    · cases hprepared.symm.trans herror
    · obtain rfl := Except.ok.inj (hprepared.symm.trans hown)
      obtain rfl := Option.some.inj (hexisting.symm.trans hstored)
      rw [readExisting, if_neg hother]
      exact .inr hends
  · rw [hphase] at hfaithful
    obtain rfl := Except.ok.inj (hprepared.symm.trans hfaithful)
    exact .inr (endsAs_of_consuming hcall hphase hexisting)
  · rw [hphase] at hfaithful
    obtain rfl := Except.ok.inj (hprepared.symm.trans hfaithful.1)
    rw [← hexisting]
    exact .inr (endsAs_of_reading hcall hphase)
  · rw [hphase] at hfaithful hends
    obtain rfl := Except.ok.inj (hprepared.symm.trans hfaithful.1)
    obtain rfl := Option.some.inj (hexisting.symm.trans hfaithful.2)
    rw [readExisting, if_pos rfl]
    exact .inr hends
  · exact .inl rfl

/-- The nonce of a request is stored with its own commitment. -/
def Kept (platform : NodePlatform) (format : BodyFormat Body) (state : State Body) (id : Nat) :
    Prop :=
  ∃ call prepared existing, state.calls id = some call ∧
    prepare platform format call.arrival = .ok prepared ∧
    state.nonces prepared.key = some existing ∧
    existing.requestCommitment = prepared.commitment

theorem Kept.step {input : Input Body} (hkept : Kept platform format state id)
    (hstep : step platform format state input = .ok next) : Kept platform format next id := by
  obtain ⟨call, prepared, existing, hcall, hprepared, hexisting, hsame⟩ := hkept
  obtain ⟨after, hafter, harrival⟩ := exists_call_of_step hstep hcall
  exact ⟨after, prepared, existing, hafter, harrival ▸ hprepared,
    (step_frame hstep).1 _ _ hexisting, hsame⟩

/-- Only a request whose nonce is stored with its commitment changes the bucket. -/
theorem kept_of_changed {input : Input Body} (hsound : Sound platform format state)
    (hstep : step platform format state input = .ok next)
    (hchanged : next.nonces ≠ state.nonces) : Kept platform format next input.id := by
  obtain ⟨key, hkey⟩ := Function.ne_iff.mp hchanged
  obtain ⟨record, hrecord⟩ : ∃ record, next.nonces key = some record := by
    rcases hnext : next.nonces key with _ | record
    · rcases hstate : state.nonces key with _ | old
      · rw [hnext, hstate] at hkey
        exact absurd rfl hkey
      · rw [(step_frame hstep).1 _ _ hstate] at hnext
        cases hnext
    · exact ⟨record, rfl⟩
  rcases step_stored hsound hstep hrecord with hstored |
    ⟨call, prepared, hcall, hprepared, rfl, rfl⟩
  · exact absurd (hrecord.trans hstored.symm) hkey
  · obtain ⟨after, hafter, harrival⟩ := exists_call_of_step hstep hcall
    exact ⟨after, prepared, _, hafter, harrival ▸ hprepared, hrecord, rfl⟩

theorem kept_of_run {history : List (State Body × Input Body)}
    (hrun : Run (step platform format) .empty history state) :
    ∀ entry ∈ history, ∀ after, step platform format entry.1 entry.2 = .ok after →
      after.nonces ≠ entry.1.nonces → Kept platform format state entry.2.id := by
  refine hrun.induct_on (fun history state => ∀ entry ∈ history, ∀ after,
    step platform format entry.1 entry.2 = .ok after →
      after.nonces ≠ entry.1.nonces → Kept platform format state entry.2.id) nofun ?_
  intro earlier before input next hprefix hkept hstep entry hentry after hafter hchanged
  rcases List.mem_cons.mp hentry with rfl | hearlier
  · obtain rfl := Except.ok.inj (hstep.symm.trans hafter)
    exact kept_of_changed (soundState_of_run hprefix) hstep hchanged
  · exact (hkept entry hearlier after hafter hchanged).step hstep

theorem not_refused_of_kept (hsound : Sound platform format state)
    (hkept : Kept platform format state id) {call : Call Body} {refusal : Refusal}
    (hcall : state.calls id = some call) : call.phase ≠ .refused refusal := by
  intro hrefused
  obtain ⟨call', prepared, existing, hcall', hprepared, hexisting, hsame⟩ := hkept
  obtain rfl := Option.some.inj (hcall.symm.trans hcall')
  have hfaithful := hsound.faithful id call hcall
  rw [hrefused] at hfaithful
  rcases hfaithful with herror | ⟨own, stored, hown, hstored, hother, -⟩
  · cases hprepared.symm.trans herror
  · obtain rfl := Except.ok.inj (hprepared.symm.trans hown)
    obtain rfl := Option.some.inj (hexisting.symm.trans hstored)
    exact hother hsame

/-- A request that was answered with a receipt. -/
def Answered (state : State Body) (id : Nat) (arrival : Arrival Body) (prepared : Prepared)
    (receipt : Receipt) : Prop :=
  state.calls id = some ⟨arrival, .answered prepared receipt⟩

theorem stored_of_answered (hsound : Sound platform format state) {arrival : Arrival Body}
    {prepared : Prepared} {receipt : Receipt} (hanswered : Answered state id arrival prepared receipt) :
    prepare platform format arrival = .ok prepared ∧
      state.nonces prepared.key = some ⟨prepared.commitment, receipt⟩ :=
  hsound.faithful id _ hanswered

/-- Nonces are single-use, in a state that a run has reached. -/
structure SingleUse (platform : NodePlatform) (format : BodyFormat Body)
    (history : List (State Body × Input Body)) (state : State Body) : Prop where
  /-- Under one nonce key, one receipt is issued and for one commitment. -/
  oneReceipt : ∀ id other arrival arrival' prepared prepared' receipt receipt',
    Answered state id arrival prepared receipt → Answered state other arrival' prepared' receipt' →
      prepared'.key = prepared.key →
        receipt' = receipt ∧ prepared'.commitment = prepared.commitment
  /-- It was made for a request of that nonce key and that commitment. -/
  issued : ∀ id arrival prepared receipt, Answered state id arrival prepared receipt →
    prepare platform format arrival = .ok prepared ∧ ∃ author call own,
      state.calls author = some call ∧ prepare platform format call.arrival = .ok own ∧
        own.key = prepared.key ∧ own.commitment = prepared.commitment ∧ own.receipt = receipt
  /-- An identical request that passes the checks ends with the same receipt, unless it fails. -/
  retry : ∀ id arrival prepared receipt other call prepared',
    Answered state id arrival prepared receipt → state.calls other = some call →
      call.arrival.body = arrival.body → prepare platform format call.arrival = .ok prepared' →
        call.phase = .failed ∨ EndsAs platform format state other (.answered prepared' receipt)
  /-- A request of another commitment under that nonce ends refused, unless it fails. -/
  reuse : ∀ id arrival prepared receipt other call prepared',
    Answered state id arrival prepared receipt → state.calls other = some call →
      prepare platform format call.arrival = .ok prepared' → prepared'.key = prepared.key →
        prepared'.commitment ≠ prepared.commitment →
          call.phase = .failed ∨ EndsAs platform format state other (.refused alreadyUsed)
  /-- No operation of a request that is refused has changed the bucket. -/
  refused : ∀ entry ∈ history, ∀ after, step platform format entry.1 entry.2 = .ok after →
    ∀ call refusal, state.calls entry.2.id = some call → call.phase = .refused refusal →
      after.nonces = entry.1.nonces

theorem nonce_receipts_single_use (platform : NodePlatform) (format : BodyFormat Body)
    {history : List (State Body × Input Body)} {state : State Body}
    (hrun : Run (step platform format) .empty history state) :
    SingleUse platform format history state := by
  have hsound := soundState_of_run hrun
  constructor
  · intro id other arrival arrival' prepared prepared' receipt receipt' hanswered hother hkey
    have hstored := (stored_of_answered hsound hanswered).2
    rw [← hkey, (stored_of_answered hsound hother).2] at hstored
    have hrecord := Option.some.inj hstored
    rw [StoredRecord.mk.injEq] at hrecord
    exact ⟨hrecord.2, hrecord.1⟩
  · intro id arrival prepared receipt hanswered
    obtain ⟨hprepared, hstored⟩ := stored_of_answered hsound hanswered
    obtain ⟨author, call, own, hcall, hown, hkey, hrecord⟩ := hsound.stored _ _ hstored
    rw [StoredRecord.mk.injEq] at hrecord
    exact ⟨hprepared, author, call, own, hcall, hown, hkey, hrecord.1.symm, hrecord.2.symm⟩
  · intro id arrival prepared receipt other call prepared' hanswered hcall hbody hprepared'
    obtain ⟨hprepared, hstored⟩ := stored_of_answered hsound hanswered
    obtain ⟨hkey, hcommitment⟩ := prepared_of_body hbody hprepared hprepared'
    have hends := ends_of_stored hsound hcall hprepared' (hkey ▸ hstored)
    rwa [readExisting, if_pos hcommitment.symm] at hends
  · intro id arrival prepared receipt other call prepared' hanswered hcall hprepared' hkey hother
    have hstored := (stored_of_answered hsound hanswered).2
    have hends := ends_of_stored hsound hcall hprepared' (hkey ▸ hstored)
    rwa [readExisting, if_neg hother.symm] at hends
  · intro entry hentry after hafter call refusal hcall hrefused
    by_contra hchanged
    exact not_refused_of_kept hsound (kept_of_run hrun entry hentry after hafter hchanged) hcall
      hrefused

end SingleUse

section Requests

variable {Body : Type} {platform : NodePlatform} {format : BodyFormat Body}
  {action : ThresholdAction} {parties : Parties} {walletMessage : List Byte}

theorem exists_canonicalFields {fields : List PyString}
    (hfields : ∀ field ∈ fields, ∃ text, field = points text) :
    ∃ bytes, canonicalFields fields = some bytes := by
  obtain ⟨text, htext⟩ := joined_points (fun field : PyString => field.length) id hfields
  refine ⟨encodeUtf8 text, ?_⟩
  rw [canonicalFields_eq, ← encodeStrict_points, ← htext]
  rfl

/-- What a receipt repeats of a request is text. -/
structure Textual (verified : Verified) : Prop where
  operation : ∃ text, verified.operation = points text
  tin : ∃ text, verified.tin = points text
  ownerPublicKey : ∃ text, verified.ownerPublicKey = points text
  resourceCommitment : ∃ text, verified.resourceCommitment = points text
  requestNonce : ∃ text, verified.requestNonce = points text
  expiresAt : ∃ text, verified.expiresAt = points text

theorem Textual.exists_key {verified : Verified} (htextual : Textual verified)
    (platform : Platform) : ∃ key, nonceStorageKey platform verified = some key := by
  have hfields : ∀ field ∈ [py nonceReceiptDomain, verified.operation, verified.tin,
      verified.ownerPublicKey, verified.resourceCommitment, verified.requestNonce],
      ∃ text, field = points text := by
    simp only [List.forall_mem_cons]
    exact ⟨⟨_, rfl⟩, htextual.operation, htextual.tin, htextual.ownerPublicKey,
      htextual.resourceCommitment, htextual.requestNonce, by simp⟩
  obtain ⟨bytes, hbytes⟩ := exists_canonicalFields hfields
  exact ⟨_, congrArg (Option.map _) hbytes⟩

theorem Textual.exists_receipt {verified : Verified} (htextual : Textual verified)
    (consumedAt : Int) (signingKey : SigningKey) :
    ∃ receipt, createSignedNonceReceipt platform verified consumedAt signingKey =
      some receipt := by
  have hfields : ∀ field ∈ [py nonceReceiptDomain, verified.operation, verified.tin,
      verified.ownerPublicKey, verified.resourceCommitment, verified.requestNonce,
      points (replaceOffset (platform.isoFormat consumedAt)), verified.expiresAt,
      points (bytesToBase64Url signingKey.verifyKey)], ∃ text, field = points text := by
    simp only [List.forall_mem_cons]
    exact ⟨⟨_, rfl⟩, htextual.operation, htextual.tin, htextual.ownerPublicKey,
      htextual.resourceCommitment, htextual.requestNonce, ⟨_, rfl⟩, htextual.expiresAt,
      ⟨_, rfl⟩, by simp⟩
  obtain ⟨bytes, hbytes⟩ := exists_canonicalFields hfields
  rw [createSignedNonceReceipt, receiptMessage, hbytes]
  exact ⟨_, rfl⟩

theorem textual_verifiedOf {platform : Platform}
    (hvalid : Valid platform action parties walletMessage) (hplainly : Plainly action parties) :
    Textual (verifiedOf platform action parties) where
  operation := ⟨_, rfl⟩
  tin := ⟨_, codePoints_of_plain hplainly.tin⟩
  ownerPublicKey := ⟨_, rfl⟩
  resourceCommitment := by
    obtain ⟨-, -, hresource⟩ := valid_context hvalid
    exact ⟨_, (lower_codePoints hresource).symm.trans
      (codePoints_of_plain (plain_toLowerCase hresource))⟩
  requestNonce := ⟨_, rfl⟩
  expiresAt := ⟨_, rfl⟩

/-- A plain proof of the SDK is prepared in its window, by a worker that has a key. -/
theorem exists_prepared {arrival : Arrival Body} {text : Text} {signingKey : SigningKey}
    (hvalid : Valid platform.toPlatform action parties walletMessage)
    (hplainly : Plainly action parties) (hwindow : InWindow action arrival.now)
    (hsetting : arrival.setting = .key signingKey)
    (hrequest : format.request arrival.body =
      requestOf platform.toPlatform action walletMessage)
    (hdumps : format.dumps arrival.body = points text) :
    ∃ prepared, prepare platform format arrival = .ok prepared := by
  obtain ⟨verified, hverified⟩ := accepted_of_plainly hvalid hwindow hplainly
  obtain ⟨rfl, -⟩ := verified_of_accepted hvalid hverified
  have htextual := textual_verifiedOf hvalid hplainly
  obtain ⟨key, hkey⟩ := htextual.exists_key platform.toPlatform
  obtain ⟨receipt, hreceipt⟩ := htextual.exists_receipt arrival.consumedAt signingKey
  have hcommitment : thresholdRequestCommitment platform.toPlatform (format.dumps arrival.body) =
      some (hashHex platform.toPlatform (encodeUtf8 text)) := by
    rw [thresholdRequestCommitment, hdumps, encodeStrict_points, Option.map_some]
  refine ⟨⟨key, _, receipt⟩, prepare_eq_ok.mpr ⟨by rw [hsetting]; rfl, _, signingKey, ?_,
    by rw [hsetting]; rfl, hreceipt, hkey, hcommitment⟩⟩
  rw [hrequest]
  exact hverified

/-- Out of the window it is refused. -/
theorem exists_refused {arrival : Arrival Body}
    (hvalid : Valid platform.toPlatform action parties walletMessage)
    (hwindow : ¬ InWindow action arrival.now)
    (hrequest : format.request arrival.body =
      requestOf platform.toPlatform action walletMessage) :
    ∃ refusal, prepare platform format arrival = .error refusal := by
  rcases hprepare : prepare platform format arrival with refusal | prepared
  · exact ⟨refusal, rfl⟩
  · obtain ⟨-, verified, _, hverified, -⟩ := prepare_eq_ok.mp hprepare
    rw [hrequest] at hverified
    exact absurd (verified_of_accepted hvalid hverified).2 hwindow

/-- A request that is refused has no operation left. -/
theorem refused_of_endsAs {state : State Body} {id : Nat} {call : Call Body} {refusal : Refusal}
    {ends : Phase} (hcall : state.calls id = some call) (hphase : call.phase = .refused refusal)
    (hends : EndsAs platform format state id ends) : ends = .refused refusal := by
  obtain ⟨next, after, ⟨later, hrun, hown⟩, hafter, rfl⟩ := hends
  have hsame : next = state := by
    refine @Run.induct_of_forall _ _ _ _ _ (fun _ input => input.id = id)
      (fun _ reached => reached = state) _ _ hrun hown rfl ?_
    rintro _ _ input next rfl rfl hstep
    exfalso
    cases input with
    | submit id arrival =>
        cases hcall.symm.trans (submit_eq_ok.mp hstep).1
    | consume id lost =>
        obtain ⟨own, prepared, hown, hconsuming, -⟩ := consume_eq_ok.mp hstep
        obtain rfl := Option.some.inj (hcall.symm.trans hown)
        cases hphase.symm.trans hconsuming
    | read id =>
        obtain ⟨own, prepared, hown, hreading, -⟩ := read_eq_ok.mp hstep
        obtain rfl := Option.some.inj (hcall.symm.trans hown)
        cases hphase.symm.trans hreading
    | fail id =>
        obtain ⟨own, hown, hopen, -⟩ := fail_eq_ok.mp hstep
        obtain rfl := Option.some.inj (hcall.symm.trans hown)
        rw [hphase] at hopen
        rcases hopen with hopen | hopen <;> cases hopen
  rw [hsame] at hafter
  obtain rfl := Option.some.inj (hcall.symm.trans hafter)
  exact hphase

end Requests

section Samples

def quoted (text : Text) : Text :=
  '"' :: text ++ ['"']

def member (key : String) (value : Text) : Text :=
  quoted key.toList ++ ':' :: value

def braced (members : List Text) : Text :=
  '\x7b' :: [','].intercalate members ++ ['\x7d']

def sampleFingerprint : Text :=
  hexText (beBytes 32 0xdbbc89b18783df0b1d609d0f80baa8a46a675b95aa760f33b7bdaf46b6e01f81)

def sampleEncryptionFingerprint : Text :=
  hexText (beBytes 32 0x44f25ae87b19b66a4fea6429ef28998b830b314ac53b66a9b160fd329bc9053e)

def sampleSession : Text :=
  "lit-session:test:device:".toList ++ sampleFingerprint ++ ":encryption:".toList ++
    sampleEncryptionFingerprint

def sampleKeyText (curve : String) (key : List Byte) : Text :=
  braced [member "crv" (quoted curve.toList), member "kty" (quoted "OKP".toList),
    member "x" (quoted (bytesToBase64Url key))]

def sampleAccessMembers : List Text :=
  [member "ownerPublicKey" (quoted sampleOwner),
    member "pruConfigurationHash" (quoted (List.replicate 64 '1'))]

/-- The sample's request in JSON. -/
def sampleBody : Text :=
  braced [
    member "access" (braced ([member "deviceSessionBinding" (quoted sampleSession)] ++
      sampleAccessMembers ++ [
      member "resourceCommitment" (quoted (List.replicate 64 '2')),
      member "routeVersion" ['2'], member "tin" (quoted "1000000008".toList)])),
    member "deviceAccessProof" (braced ([
      member "deviceEncryptionKeyFingerprint" (quoted sampleEncryptionFingerprint),
      member "deviceEncryptionPublicKey" (sampleKeyText "X25519" sampleEncryptionKey),
      member "deviceId" (quoted "device-1".toList),
      member "deviceSessionBinding" (quoted sampleSession),
      member "deviceSigningKeyFingerprint" (quoted sampleFingerprint),
      member "deviceSigningPublicKey" (sampleKeyText "Ed25519" sampleSigningKey),
      member "domain" (quoted deviceProofDomain.toList),
      member "expiresAt" (quoted "2026-01-01T00:05:00.000Z".toList),
      member "issuedAt" (quoted "2026-01-01T00:00:00.000Z".toList),
      member "operation" (quoted "PROTECT_KEY".toList)] ++ sampleAccessMembers ++ [
      member "requestNonce" (quoted (bytesToBase64Url sampleAction.nonce)),
      member "resourceCommitment" (quoted (List.replicate 64 '2')), member "routeVersion" ['2'],
      member "signatureBase64Url" (quoted (bytesToBase64Url sampleDeviceSignature)),
      member "tin" (quoted "1000000008".toList),
      member "version" (quoted deviceProofVersion.toList),
      member "walletAuthorizationCommitment" (quoted (hexText (beBytes 32
        0x788e44343f50bafff5378586172d90a66ce3d115f4a4ab8b501ede731c0bb62d)))])),
    member "domain" (quoted accessDomain.toList),
    member "operation" (quoted "PROTECT_KEY".toList),
    member "pkpId" (quoted "pkp-1".toList),
    member "walletAuthorizationMessageBase64Url"
      (quoted (bytesToBase64Url sampleWalletMessage)),
    member "walletAuthorizationSignatureBase64Url"
      (quoted (bytesToBase64Url sampleWalletSignature))]

def sampleNode : NodePlatform where
  toPlatform := samplePlatform
  isoFormat := fun _ => "2026-01-01T00:01:00+00:00".toList

/-- The sample is the one body. -/
def sampleFormat : BodyFormat Unit where
  request := fun _ => requestOf samplePlatform sampleAction sampleWalletMessage
  dumps := fun _ => points sampleBody

def sampleVerifierKey : SigningKey where
  verifyKey := beBytes 32 0x70b77c9427b2dd30d5b41ea38191657cc1e99b1894becd476b87466e9bfabb92
  sign := fun _ =>
    beBytes 32 0x04c9f0cc098fef6b2d50020dcfbcfa49dfcbc8812051de8eabe257bf4ef89c58 ++
      beBytes 32 0x6d89e1758e4967342520dd37bdf7c56c08f9b2e6fd803974099a82b0772de10f

/-- The request, a minute after the proof was made, and again ten minutes after it. -/
def sampleArrival : Arrival Unit :=
  ⟨.key sampleVerifierKey, 1767225660000000, 1767225660000000, ()⟩

def sampleRetry : Arrival Unit :=
  ⟨.key sampleVerifierKey, 1767226200000000, 1767226200000000, ()⟩

theorem exists_prepared_sample :
    ∃ prepared, prepare sampleNode sampleFormat sampleArrival = .ok prepared :=
  exists_prepared valid_sampleAction plainly_sampleAction ⟨by decide, by decide⟩ rfl rfl rfl

theorem exists_refused_sample :
    ∃ refusal, prepare sampleNode sampleFormat sampleRetry = .error refusal :=
  exists_refused valid_sampleAction (fun hwindow => absurd hwindow.2 (by decide)) rfl

/-- A request takes a nonce, and is sent again when its proof has expired. -/
theorem exists_run_sample : ∃ prepared refusal history state,
    Run (step sampleNode sampleFormat) .empty history state ∧
      Answered state 0 sampleArrival prepared prepared.receipt ∧
      state.calls 1 = some ⟨sampleRetry, .refused refusal⟩ := by
  obtain ⟨prepared, hprepared⟩ := exists_prepared_sample
  obtain ⟨refusal, hrefusal⟩ := exists_refused_sample
  have harrive : Call.arrive sampleNode sampleFormat sampleArrival =
      ⟨sampleArrival, .consuming prepared⟩ := by
    rw [Call.arrive, hprepared]
  have hretry : Call.arrive sampleNode sampleFormat sampleRetry =
      ⟨sampleRetry, .refused refusal⟩ := by
    rw [Call.arrive, hrefusal]
  let first : State Unit := ⟨fun _ => none,
    Function.update (fun _ => none) 0 (some ⟨sampleArrival, .consuming prepared⟩)⟩
  let second : State Unit := (first.consumeOnce prepared).1.setPhase 0
    ⟨sampleArrival, .consuming prepared⟩ (.answered prepared prepared.receipt)
  have hfirst : step sampleNode sampleFormat .empty (.submit 0 sampleArrival) = .ok first :=
    submit_eq_ok.mpr ⟨rfl, by rw [harrive]; rfl⟩
  have hsecond : step sampleNode sampleFormat first (.consume 0 false) = .ok second :=
    consume_eq_ok.mpr ⟨⟨sampleArrival, .consuming prepared⟩, prepared, rfl, rfl, rfl⟩
  have hthird : step sampleNode sampleFormat second (.submit 1 sampleRetry) = .ok _ :=
    submit_eq_ok.mpr ⟨rfl, rfl⟩
  refine ⟨prepared, refusal, _, _, ((Run.start.step hfirst).step hsecond).step hthird, rfl, ?_⟩
  rw [hretry]
  rfl

/-- A request is answered, and is answered so again within the window. -/
theorem nonce_receipts_single_use_sample : ∃ prepared history state,
    Run (step sampleNode sampleFormat) .empty history state ∧
      Answered state 0 sampleArrival prepared prepared.receipt ∧
      SingleUse sampleNode sampleFormat history state := by
  obtain ⟨prepared, refusal, history, state, hrun, hanswered, -⟩ := exists_run_sample
  exact ⟨prepared, history, state, hrun, hanswered,
    nonce_receipts_single_use sampleNode sampleFormat hrun⟩

/-- The retry whose proof has expired gets no receipt. -/
theorem identical_retry_refused : ¬ ∀ (platform : NodePlatform) (format : BodyFormat Unit)
    (history : List (State Unit × Input Unit)) (state : State Unit),
    Run (step platform format) .empty history state →
      ∀ id arrival prepared receipt other call, Answered state id arrival prepared receipt →
        state.calls other = some call → call.arrival.body = arrival.body →
          call.phase = .failed ∨ ∃ prepared',
            EndsAs platform format state other (.answered prepared' receipt) := by
  intro hclaim
  obtain ⟨prepared, refusal, history, state, hrun, hanswered, hretry⟩ := exists_run_sample
  rcases hclaim _ _ _ _ hrun _ _ _ _ _ _ hanswered hretry rfl with hfailed | ⟨_, hends⟩
  · cases hfailed
  · cases refused_of_endsAs hretry rfl hends

end Samples

end TsnProtocol.Node.NonceReceipts
