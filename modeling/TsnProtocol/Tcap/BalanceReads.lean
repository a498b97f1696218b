import Mathlib
import TsnProtocol.Lib.LinkedWalk
import TsnProtocol.Tcap.BalanceSnapshot

/-!
Private balance reads: the snapshot behind the commitment of a tip, out of a store that may hold
anything, and the walk back through its predecessors.
-/

namespace TsnProtocol.Tcap.BalanceReads

open Relation (ReflTransGen TransGen)
open Lib.ByteReader
open Lib.Checked
open Lib.EvmMemory (wordBytes_injective)
open Lib.LinkedWalk
open Lib.TextFormat
open Lib.Utf16
open Sdk.DeviceAccess (JsString js toLowerCase)
open Solana.Address (Bytes32)
open Tcap.BalanceSnapshot

variable {Key : Type}

/-- The digest and the AES-GCM decryption of `crypto.subtle`. -/
structure WebCrypto (Key : Type) where
  sha256 : List Byte → Bytes32
  decrypt : Key → (iv ciphertext : List Byte) → Except String (List Byte)

structure EncryptedTCapBalanceSnapshotV1 extends SnapshotBindings where
  (nonce ciphertext : List Byte)

inductive Commitment where
  | hex (text : JsString)
  | bytes (value : List Byte)

/-- A `bigint`, or a `number` with its integral value, if it has one. -/
inductive TipSequence where
  | bigint (value : Int)
  | number (value : Option Int)

structure TcapTipStateV1 where
  currentCommitment : Commitment
  sequence : TipSequence

abbrev TcapSnapshotDecoder := List Byte → Except String TcapBalanceSnapshotV1

structure ReadParams (Key : Type) where
  fetchTip : Except String TcapTipStateV1
  load : JsString → Except String (Option EncryptedTCapBalanceSnapshotV1)
  key : Key
  decode : Option TcapSnapshotDecoder
  includeHistory : Bool

def normalizeCommitment (value : Commitment) (label : String) : Except String JsString :=
  match value with
  | .bytes value => hexFromBytes value
  | .hex text => do
      let _ ← bytesFromHex text label
      return toLowerCase text

/-- `BigInt` of a number without an integral value is an error. -/
def tipSequence : TipSequence → Except String Int
  | .bigint value => return value
  | .number value => okOr value "RangeError"

def computeTcapBalanceSnapshotCommitment (crypto : WebCrypto Key)
    (snapshot : TcapBalanceSnapshotV1) : Except String JsString := do
  let record ← serializeTcapBalanceCommitmentRecordV1 snapshot
  hexFromBytes (wordBytes (crypto.sha256 record))

def assertSnapshotMatchesTip (snapshot : TcapBalanceSnapshotV1) (tip : TcapTipStateV1) :
    Except String Unit := do
  let tipCommitment ← normalizeCommitment tip.currentCommitment "tip_commitment"
  let sequence ← tipSequence tip.sequence
  require (toLowerCase snapshot.newCommitment = tipCommitment) "snapshot_commitment_mismatch"
  require (snapshot.sequence = sequence) "snapshot_sequence_mismatch"

def decryptAndVerifyTcapBalanceSnapshotV1 (crypto : WebCrypto Key)
    (envelope : EncryptedTCapBalanceSnapshotV1) (key : Key) (decode : Option TcapSnapshotDecoder) :
    Except String TcapBalanceSnapshotV1 := do
  let plaintext ← crypto.decrypt key envelope.nonce envelope.ciphertext
  let snapshot ← decode.getD decodeCanonicalTcapBalanceSnapshotV1 plaintext
  require (snapshot.toSnapshotBindings = envelope.toSnapshotBindings)
    "snapshot_envelope_binding_mismatch"
  let commitment ← computeTcapBalanceSnapshotCommitment crypto snapshot
  require (commitment = toLowerCase snapshot.newCommitment) "snapshot_commitment_mismatch"
  return snapshot

/-- `readPrivateTcapBalance` up to its history. -/
def readSnapshotOfTip (crypto : WebCrypto Key) (params : ReadParams Key) :
    Except String TcapBalanceSnapshotV1 := do
  let tip ← params.fetchTip
  let commitment ← normalizeCommitment tip.currentCommitment "tip_commitment"
  let loaded ← params.load commitment
  let envelope ← okOr loaded "private_snapshot_not_found"
  let snapshot ← decryptAndVerifyTcapBalanceSnapshotV1 crypto envelope params.key params.decode
  assertSnapshotMatchesTip snapshot tip
  return snapshot

/-- The body of the history loop. -/
def readPrior (crypto : WebCrypto Key) (params : ReadParams Key) (previous : JsString) :
    Except String TcapBalanceSnapshotV1 := do
  let loaded ← params.load previous
  let priorEnvelope ← okOr loaded "private_snapshot_history_gap"
  let prior ← decryptAndVerifyTcapBalanceSnapshotV1 crypto priorEnvelope params.key params.decode
  require (prior.newCommitment = previous) "private_snapshot_history_link_mismatch"
  return prior

def followHistory (crypto : WebCrypto Key) (params : ReadParams Key) (previous : JsString) :
    Except String (Option (TcapBalanceSnapshotV1 × JsString)) :=
  if previous = zeroCommitment then .ok none
  else (fun prior => some (prior, prior.previousCommitment)) <$> readPrior crypto params previous

/-- `readPrivateTcapBalance`, whose loop may test `fuel` commitments. -/
def readPrivateTcapBalance (crypto : WebCrypto Key) (params : ReadParams Key) (fuel : Nat) :
    Option (Except String (TcapBalanceSnapshotV1 × List TcapBalanceSnapshotV1)) :=
  match readSnapshotOfTip crypto params with
  | .error problem => some (.error problem)
  | .ok snapshot =>
      if params.includeHistory then
        (walk (followHistory crypto params) fuel snapshot.previousCommitment []).map
          fun result => (fun history => (snapshot, history)) <$> result
      else some (.ok (snapshot, []))

section Verified

variable {crypto : WebCrypto Key} {params : ReadParams Key} {snapshot : TcapBalanceSnapshotV1}

theorem hexFromBytes_wordBytes (word : Bytes32) :
    hexFromBytes (wordBytes word) = .ok (units (hexText (wordBytes word))) := by
  simp only [hexFromBytes, bind_eq_ok, require_eq_ok, pure_eq_ok, length_wordBytes, exists_const,
    and_self]

theorem commitment_eq_ok {commitment : JsString} :
    computeTcapBalanceSnapshotCommitment crypto snapshot = .ok commitment ↔
      ∃ record, serializeTcapBalanceCommitmentRecordV1 snapshot = .ok record ∧
        units (hexText (wordBytes (crypto.sha256 record))) = commitment := by
  simp only [computeTcapBalanceSnapshotCommitment, bind_eq_ok, hexFromBytes_wordBytes,
    Except.ok.injEq]

/-- What the checks on a decrypted snapshot establish. -/
structure Verified (crypto : WebCrypto Key) (params : ReadParams Key)
    (snapshot : TcapBalanceSnapshotV1) : Prop where
  decoded : ∃ payload,
    params.decode.getD decodeCanonicalTcapBalanceSnapshotV1 payload = .ok snapshot
  commitment : computeTcapBalanceSnapshotCommitment crypto snapshot =
    .ok (toLowerCase snapshot.newCommitment)

/-- The records of the snapshots that a store holds for its reader. -/
def recordsHeld (crypto : WebCrypto Key) (params : ReadParams Key) : Set (List Byte) :=
  {record | ∃ commitment envelope snapshot, params.load commitment = .ok (some envelope) ∧
    decryptAndVerifyTcapBalanceSnapshotV1 crypto envelope params.key params.decode =
      .ok snapshot ∧
    serializeTcapBalanceCommitmentRecordV1 snapshot = .ok record}

theorem verified_of_decrypt {envelope : EncryptedTCapBalanceSnapshotV1}
    (hverify : decryptAndVerifyTcapBalanceSnapshotV1 crypto envelope params.key params.decode =
      .ok snapshot) : Verified crypto params snapshot := by
  simp only [decryptAndVerifyTcapBalanceSnapshotV1, bind_eq_ok, require_eq_ok,
    pure_eq_ok] at hverify
  obtain ⟨payload, -, decoded, hdecode, _, -, commitment, hcommitment, _, rfl, rfl⟩ := hverify
  exact ⟨⟨payload, hdecode⟩, hcommitment⟩

theorem followHistory_eq_none {previous : JsString} :
    followHistory crypto params previous = .ok none ↔ previous = zeroCommitment := by
  unfold followHistory
  split
  · next hzero => exact ⟨fun _ => hzero, fun _ => rfl⟩
  · next hnonzero =>
      refine ⟨fun hnone => ?_, fun hzero => (hnonzero hzero).elim⟩
      obtain ⟨prior, -, hnone⟩ := map_eq_ok.mp hnone
      cases hnone

theorem followHistory_eq_some {previous next : JsString} {prior : TcapBalanceSnapshotV1} :
    followHistory crypto params previous = .ok (some (prior, next)) ↔
      previous ≠ zeroCommitment ∧ prior.newCommitment = previous ∧
      prior.previousCommitment = next ∧ ∃ envelope, params.load previous = .ok (some envelope) ∧
        decryptAndVerifyTcapBalanceSnapshotV1 crypto envelope params.key params.decode =
          .ok prior := by
  unfold followHistory
  split
  · next hzero => exact ⟨nofun, fun hsome => (hsome.1 hzero).elim⟩
  · next hnonzero =>
      simp only [readPrior, map_eq_ok, bind_eq_ok, okOr_eq_ok, require_eq_ok, pure_eq_ok,
        Option.some.injEq, Prod.mk.injEq]
      constructor
      · rintro ⟨found, ⟨loaded, hload, envelope, rfl, verified, hverify, _, hnew, rfl⟩, rfl, rfl⟩
        exact ⟨hnonzero, hnew, rfl, envelope, hload, hverify⟩
      · rintro ⟨-, hnew, hnext, envelope, hload, hverify⟩
        exact ⟨prior, ⟨_, hload, envelope, rfl, prior, hverify, (), hnew, rfl⟩, rfl, hnext⟩

end Verified

section Histories

variable {crypto : WebCrypto Key} {params : ReadParams Key} {snapshot : TcapBalanceSnapshotV1}
  {history : List TcapBalanceSnapshotV1} {fuel : Nat}

/-- The predecessors from a commitment down to the zero commitment: each hashes to the
commitment that the one before it names. -/
inductive Chain (crypto : WebCrypto Key) : JsString → List TcapBalanceSnapshotV1 → Prop
  | zero : Chain crypto zeroCommitment []
  | link {prior history} (hnonzero : prior.newCommitment ≠ zeroCommitment)
      (hcommitment : computeTcapBalanceSnapshotCommitment crypto prior =
        .ok (toLowerCase prior.newCommitment))
      (hhistory : Chain crypto prior.previousCommitment history) :
      Chain crypto prior.newCommitment (prior :: history)

theorem chain_of_linked {previous : JsString}
    (hlinked : Linked (followHistory crypto params) previous history) :
    Chain crypto previous history := by
  induction hlinked with
  | last hlast =>
      obtain rfl := followHistory_eq_none.mp hlast
      exact .zero
  | step hstep _ ih =>
      obtain ⟨hnonzero, rfl, rfl, envelope, -, hverify⟩ := followHistory_eq_some.mp hstep
      exact .link hnonzero (verified_of_decrypt hverify).commitment ih

/-- What a successful read has done. -/
theorem read_eq_ok
    (hread : readPrivateTcapBalance crypto params fuel = some (.ok (snapshot, history))) :
    readSnapshotOfTip crypto params = .ok snapshot ∧
      if params.includeHistory then
        Linked (followHistory crypto params) snapshot.previousCommitment history
      else history = [] := by
  unfold readPrivateTcapBalance at hread
  split at hread
  · cases hread
  · next found hfound =>
      split at hread
      · next hinclude =>
          obtain ⟨result, hwalk, hresult⟩ := Option.map_eq_some_iff.mp hread
          obtain ⟨items, rfl, hpair⟩ := map_eq_ok.mp hresult
          obtain ⟨rfl, rfl⟩ := Prod.mk.inj hpair
          obtain ⟨later, hlater, hlinked⟩ := linked_of_walk hwalk
          rw [List.nil_append] at hlater
          subst hlater
          exact ⟨hfound, by rwa [if_pos hinclude]⟩
      · next hexclude =>
          obtain ⟨rfl, rfl⟩ := Prod.mk.inj (Except.ok.inj (Option.some.inj hread))
          exact ⟨hfound, by rw [if_neg hexclude]⟩

theorem verified_of_readSnapshotOfTip {tip : TcapTipStateV1} (htip : params.fetchTip = .ok tip)
    (hread : readSnapshotOfTip crypto params = .ok snapshot) :
    normalizeCommitment tip.currentCommitment "tip_commitment" =
        .ok (toLowerCase snapshot.newCommitment) ∧
      tipSequence tip.sequence = .ok snapshot.sequence ∧
      ∃ commitment envelope, params.load commitment = .ok (some envelope) ∧
        decryptAndVerifyTcapBalanceSnapshotV1 crypto envelope params.key params.decode =
          .ok snapshot := by
  simp only [readSnapshotOfTip, htip, bind_eq_ok, okOr_eq_ok, pure_eq_ok,
    assertSnapshotMatchesTip, require_eq_ok, Except.ok.injEq] at hread
  obtain ⟨_, rfl, commitment, -, _, hload, envelope, rfl, verified, hverify, _,
    ⟨tipCommitment, hnormalized, sequence, hsequence, _, rfl, rfl⟩, rfl⟩ := hread
  exact ⟨hnormalized, hsequence, commitment, envelope, hload, hverify⟩

theorem isHex32_of_verified (hverified : Verified crypto params snapshot) :
    isHex32 snapshot.previousCommitment = true := by
  obtain ⟨record, hrecord, -⟩ := commitment_eq_ok.mp hverified.commitment
  simp only [serializeTcapBalanceCommitmentRecordV1, bind_eq_ok] at hrecord
  obtain ⟨_, -, _, -, _, -, _, -, _, hprevious, -⟩ := hrecord
  exact (bytesFromHex_eq_ok.mp hprevious).1

theorem finite_leads :
    {next | ∃ previous, Leads (followHistory crypto params) previous next}.Finite := by
  have : Finite CodeUnit := .of_injective BitVec.toFin fun _ _ => BitVec.eq_of_toFin_eq
  refine (List.finite_length_eq CodeUnit 64).subset ?_
  rintro next ⟨previous, prior, hstep⟩
  obtain ⟨-, -, rfl, envelope, -, hverify⟩ := followHistory_eq_some.mp hstep
  exact length_of_isHex32 (isHex32_of_verified (verified_of_decrypt hverify))

/-- A read ends, with a result or an error, exactly when its walk cannot come back. -/
theorem exists_read_iff_acyclic :
    (∃ fuel, (readPrivateTcapBalance crypto params fuel).isSome) ↔
      ∀ snapshot, readSnapshotOfTip crypto params = .ok snapshot → params.includeHistory = true →
        ∀ commitment,
          ReflTransGen (Leads (followHistory crypto params)) snapshot.previousCommitment
            commitment →
          ¬ TransGen (Leads (followHistory crypto params)) commitment commitment := by
  unfold readPrivateTcapBalance
  rcases hfound : readSnapshotOfTip crypto params with problem | found
  · exact ⟨fun _ => nofun, fun _ => ⟨0, rfl⟩⟩
  rcases hinclude : params.includeHistory with _ | _
  · exact ⟨fun _ _ _ => nofun, fun _ => ⟨0, rfl⟩⟩
  simp only [if_true, Option.isSome_map, Except.ok.injEq, forall_eq', true_implies]
  exact exists_walk_iff_acyclic finite_leads []

end Histories

section Agreement

variable {crypto : WebCrypto Key} {params params' : ReadParams Key}
  {snapshot snapshot' : TcapBalanceSnapshotV1} {history history' : List TcapBalanceSnapshotV1}

theorem sameRecord_of_commitment
    (hinj : Set.InjOn crypto.sha256 (recordsHeld crypto params ∪ recordsHeld crypto params'))
    {commitment commitment' : JsString}
    {envelope envelope' : EncryptedTCapBalanceSnapshotV1}
    (hload : params.load commitment = .ok (some envelope))
    (hverify : decryptAndVerifyTcapBalanceSnapshotV1 crypto envelope params.key params.decode =
      .ok snapshot)
    (hload' : params'.load commitment' = .ok (some envelope'))
    (hverify' : decryptAndVerifyTcapBalanceSnapshotV1 crypto envelope' params'.key
      params'.decode = .ok snapshot')
    (hsame : toLowerCase snapshot.newCommitment = toLowerCase snapshot'.newCommitment) :
    SameRecord snapshot snapshot' := by
  obtain ⟨record, hrecord, hhash⟩ := commitment_eq_ok.mp (verified_of_decrypt hverify).commitment
  obtain ⟨record', hrecord', hhash'⟩ :=
    commitment_eq_ok.mp (verified_of_decrypt hverify').commitment
  have hbytes := congrArg hexPairs (hhash.trans (hsame.trans hhash'.symm))
  rw [hexPairs_units_hexText, hexPairs_units_hexText] at hbytes
  have hequal : record = record' :=
    hinj (.inl ⟨commitment, envelope, snapshot, hload, hverify, hrecord⟩)
      (.inr ⟨commitment', envelope', snapshot', hload', hverify', hrecord'⟩)
      (wordBytes_injective hbytes)
  subst hequal
  exact sameRecord_of_serialize hrecord hrecord'

theorem eq_zero_of_toLowerCase {text : JsString} (htext : toLowerCase text = zeroCommitment) :
    text = zeroCommitment := by
  have hunit : ∀ unit : CodeUnit,
      (if 65 ≤ unit.toNat ∧ unit.toNat ≤ 90 then unit + 32 else unit) = 48 → unit = 48 := by
    intro unit hlower
    split at hlower
    · bv_omega
    · exact hlower
  obtain ⟨hlength, hall⟩ := List.eq_replicate_iff.mp htext
  rw [toLowerCase, List.length_map] at hlength
  exact List.eq_replicate_iff.mpr
    ⟨hlength, fun unit hmem => hunit unit (hall _ (List.mem_map_of_mem hmem))⟩

/-- What two reads have in common of a snapshot. -/
structure Agree (crypto : WebCrypto Key) (params params' : ReadParams Key)
    (snapshot snapshot' : TcapBalanceSnapshotV1) : Prop where
  record : SameRecord snapshot snapshot'
  verified : Verified crypto params snapshot
  verified' : Verified crypto params' snapshot'
  commitment : toLowerCase snapshot.newCommitment = toLowerCase snapshot'.newCommitment

/-- The walks of two reads from one commitment, in any case, meet the same records. -/
theorem agree_of_linked
    (hinj : Set.InjOn crypto.sha256 (recordsHeld crypto params ∪ recordsHeld crypto params'))
    {previous previous' : JsString}
    (hlinked : Linked (followHistory crypto params) previous history)
    (hlinked' : Linked (followHistory crypto params') previous' history')
    (hsame : toLowerCase previous = toLowerCase previous') :
    List.Forall₂ (Agree crypto params params') history history' := by
  induction hlinked generalizing previous' history' with
  | last hlast =>
      obtain rfl := followHistory_eq_none.mp hlast
      have hzero : previous' = zeroCommitment := eq_zero_of_toLowerCase (hsame.symm.trans rfl)
      rcases hlinked' with hlast' | ⟨hstep', -⟩
      · exact .nil
      · exact ((followHistory_eq_some.mp hstep').1 hzero).elim
  | step hstep _ ih =>
      obtain ⟨hnonzero, rfl, rfl, envelope, hload, hverify⟩ := followHistory_eq_some.mp hstep
      rcases hlinked' with hlast' | ⟨hstep', hlinked'⟩
      · obtain rfl := followHistory_eq_none.mp hlast'
        exact (hnonzero (eq_zero_of_toLowerCase hsame)).elim
      · obtain ⟨-, rfl, rfl, envelope', hload', hverify'⟩ := followHistory_eq_some.mp hstep'
        have hrecord := sameRecord_of_commitment hinj hload hverify hload' hverify' hsame
        have hprior := verified_of_decrypt hverify
        have hprior' := verified_of_decrypt hverify'
        refine .cons ⟨hrecord, hprior, hprior', hsame⟩ (ih hlinked' ?_)
        exact toLowerCase_eq_of_hexPairs (isHex32_of_verified hprior)
          (isHex32_of_verified hprior') hrecord.previousCommitment

/-- Equal but for the order of the balances. -/
def SameUpToOrder (left right : TcapBalanceSnapshotV1) : Prop :=
  left.toSnapshotBindings = right.toSnapshotBindings ∧
    left.tokenBalances.Perm right.tokenBalances

theorem toLowerCase_of_isDigest {text : JsString} (htext : IsDigest text) :
    toLowerCase text = text := by
  obtain ⟨bytes, rfl⟩ := htext
  exact toLowerCase_units_hexText bytes

theorem decoded_of_verified (hdecode : params.decode = none)
    (hverified : Verified crypto params snapshot) : Decoded snapshot := by
  obtain ⟨payload, hpayload⟩ := hverified.decoded
  rw [hdecode] at hpayload
  exact decoded_of_decode hpayload

theorem sameUpToOrder_of_agree (hdecode : params.decode = none) (hdecode' : params'.decode = none)
    (hagree : Agree crypto params params' snapshot snapshot') :
    SameUpToOrder snapshot snapshot' := by
  have hdecoded := decoded_of_verified hdecode hagree.verified
  have hdecoded' := decoded_of_verified hdecode' hagree.verified'
  have hnew := hagree.commitment
  rw [toLowerCase_of_isDigest hdecoded.newCommitment,
    toLowerCase_of_isDigest hdecoded'.newCommitment] at hnew
  exact ⟨bindings_eq_of_sameRecord hdecoded hdecoded' hagree.record hnew, hagree.record.balances⟩

theorem agree_of_readSnapshotOfTip {tip : TcapTipStateV1}
    (hinj : Set.InjOn crypto.sha256 (recordsHeld crypto params ∪ recordsHeld crypto params'))
    (htip : params.fetchTip = .ok tip) (htip' : params'.fetchTip = .ok tip)
    (hread : readSnapshotOfTip crypto params = .ok snapshot)
    (hread' : readSnapshotOfTip crypto params' = .ok snapshot') :
    Agree crypto params params' snapshot snapshot' := by
  obtain ⟨hcommitment, -, _, envelope, hload, hverify⟩ :=
    verified_of_readSnapshotOfTip htip hread
  obtain ⟨hcommitment', -, _, envelope', hload', hverify'⟩ :=
    verified_of_readSnapshotOfTip htip' hread'
  have hsame := Except.ok.inj (hcommitment.symm.trans hcommitment')
  exact ⟨sameRecord_of_commitment hinj hload hverify hload' hverify' hsame,
    verified_of_decrypt hverify, verified_of_decrypt hverify', hsame⟩

end Agreement

section Authenticity

variable {crypto : WebCrypto Key} {params params' : ReadParams Key} {tip : TcapTipStateV1}

/-- What a read returns: the snapshot that the tip commits to, with its sequence, and the chain
of its predecessors where the history is asked for. -/
structure Authentic (crypto : WebCrypto Key) (includeHistory : Bool) (tip : TcapTipStateV1)
    (snapshot : TcapBalanceSnapshotV1) (history : List TcapBalanceSnapshotV1) : Prop where
  commitment : ∃ commitment,
    computeTcapBalanceSnapshotCommitment crypto snapshot = .ok commitment ∧
      normalizeCommitment tip.currentCommitment "tip_commitment" = .ok commitment
  sequence : tipSequence tip.sequence = .ok snapshot.sequence
  history : if includeHistory then Chain crypto snapshot.previousCommitment history
    else history = []

/-- For a relation of snapshots: two results are related, and so are their histories where both
reads ask for them. -/
def RelatedResults (related : TcapBalanceSnapshotV1 → TcapBalanceSnapshotV1 → Prop)
    (params params' : ReadParams Key) (snapshot snapshot' : TcapBalanceSnapshotV1)
    (history history' : List TcapBalanceSnapshotV1) : Prop :=
  related snapshot snapshot' ∧ (params.includeHistory = params'.includeHistory →
    List.Forall₂ related history history')

/-- Reads of one tip, from stores that hold anything: what they return is authentic, they end
exactly when the walk cannot come back, and they return the same. -/
theorem authentic_of_reads (htip : params.fetchTip = .ok tip) (htip' : params'.fetchTip = .ok tip)
    (hinj : Set.InjOn crypto.sha256 (recordsHeld crypto params ∪ recordsHeld crypto params')) :
    (∀ fuel snapshot history,
      readPrivateTcapBalance crypto params fuel = some (.ok (snapshot, history)) →
      Authentic crypto params.includeHistory tip snapshot history) ∧
    ((∃ fuel, (readPrivateTcapBalance crypto params fuel).isSome) ↔
      ∀ snapshot, readSnapshotOfTip crypto params = .ok snapshot → params.includeHistory = true →
        ∀ commitment,
          ReflTransGen (Leads (followHistory crypto params)) snapshot.previousCommitment
            commitment →
          ¬ TransGen (Leads (followHistory crypto params)) commitment commitment) ∧
    ∀ fuel fuel' snapshot snapshot' history history',
      readPrivateTcapBalance crypto params fuel = some (.ok (snapshot, history)) →
      readPrivateTcapBalance crypto params' fuel' = some (.ok (snapshot', history')) →
      RelatedResults SameRecord params params' snapshot snapshot' history history' ∧
      (params.decode = none → params'.decode = none →
        RelatedResults SameUpToOrder params params' snapshot snapshot' history history') := by
  refine ⟨?_, exists_read_iff_acyclic, ?_⟩
  · intro fuel snapshot history hread
    obtain ⟨hfound, hhistory⟩ := read_eq_ok hread
    obtain ⟨hcommitment, hsequence, _, envelope, -, hverify⟩ :=
      verified_of_readSnapshotOfTip htip hfound
    refine ⟨⟨_, (verified_of_decrypt hverify).commitment, hcommitment⟩, hsequence, ?_⟩
    split at hhistory
    · next hinclude => exact (if_pos hinclude).mpr (chain_of_linked hhistory)
    · next hexclude => exact (if_neg hexclude).mpr hhistory
  · intro fuel fuel' snapshot snapshot' history history' hread hread'
    obtain ⟨hfound, hhistory⟩ := read_eq_ok hread
    obtain ⟨hfound', hhistory'⟩ := read_eq_ok hread'
    have hagree := agree_of_readSnapshotOfTip hinj htip htip' hfound hfound'
    have hhistories : params.includeHistory = params'.includeHistory →
        List.Forall₂ (Agree crypto params params') history history' := by
      intro hflag
      rw [← hflag] at hhistory'
      split at hhistory
      · next hinclude =>
          rw [if_pos hinclude] at hhistory'
          exact agree_of_linked hinj hhistory hhistory' (toLowerCase_eq_of_hexPairs
            (isHex32_of_verified hagree.verified) (isHex32_of_verified hagree.verified')
            hagree.record.previousCommitment)
      · next hexclude =>
          rw [if_neg hexclude] at hhistory'
          subst hhistory hhistory'
          exact .nil
    refine ⟨⟨hagree.record, fun hflag => (hhistories hflag).imp fun _ _ => Agree.record⟩, ?_⟩
    intro hdecode hdecode'
    exact ⟨sameUpToOrder_of_agree hdecode hdecode' hagree, fun hflag =>
      (hhistories hflag).imp fun _ _ => sameUpToOrder_of_agree hdecode hdecode'⟩

end Authenticity

section Samples

def digestText (word : Bytes32) : JsString :=
  units (hexText (wordBytes word))

def genesisDigest : Bytes32 :=
  0x11f8844ee10bb7f2cdb748d9959fb4a331e9cd071512df1d350f681716cfd3d1

def latestDigest : Bytes32 :=
  0x5adf29d6ae8c713010d0cf8c5c3dbc905708ed248bfaf6ffeb38b27cdfef7d05

def sampleGenesis : TcapBalanceSnapshotV1 where
  version := 1
  sequence := 1
  newCommitment := digestText genesisDigest
  previousCommitment := zeroCommitment
  policyCommitment := List.replicate 64 97
  transitionNullifier := digestText (wordOfBytes (List.replicate 32 1))
  tsnSettlementCommitment := digestText (wordOfBytes (List.replicate 32 2))
  createdAt := 1700000000
  encryptedRecordLocator := js "tcap/7/1"
  tokenBalances := [⟨1, 500, 480, 1⟩]

def sampleLatest : TcapBalanceSnapshotV1 where
  version := 1
  sequence := 2
  newCommitment := digestText latestDigest
  previousCommitment := digestText genesisDigest
  policyCommitment := List.replicate 64 97
  transitionNullifier := digestText (wordOfBytes (List.replicate 32 3))
  tsnSettlementCommitment := digestText (wordOfBytes (List.replicate 32 4))
  createdAt := 1700000600
  encryptedRecordLocator := js "tcap/7/2"
  tokenBalances := [⟨1, 450, 432, 1⟩, ⟨2, 30, 30, 1⟩]

def recordOf (snapshot : TcapBalanceSnapshotV1) : List Byte :=
  (serializeTcapBalanceCommitmentRecordV1 snapshot).toOption.getD []

/-- An envelope, for a decryption that returns the ciphertext. -/
def sealedAs (bindings : SnapshotBindings) (snapshot : TcapBalanceSnapshotV1) :
    EncryptedTCapBalanceSnapshotV1 where
  toSnapshotBindings := bindings
  nonce := List.replicate 12 0
  ciphertext := (serializeTcapBalanceSnapshotV1 snapshot).toOption.getD []

def sampleCrypto : WebCrypto Unit where
  sha256 record := if record = recordOf sampleGenesis then genesisDigest
    else if record = recordOf sampleLatest then latestDigest else 0
  decrypt _ _ ciphertext := .ok ciphertext

def sampleTip : TcapTipStateV1 where
  currentCommitment := .bytes (wordBytes latestDigest)
  sequence := .number (some 2)

def sampleParams (includeHistory : Bool) : ReadParams Unit where
  fetchTip := .ok sampleTip
  load commitment :=
    if commitment = sampleLatest.newCommitment then
      .ok (some (sealedAs sampleLatest.toSnapshotBindings sampleLatest))
    else if commitment = sampleGenesis.newCommitment then
      .ok (some (sealedAs sampleGenesis.toSnapshotBindings sampleGenesis))
    else .ok none
  key := ()
  decode := none
  includeHistory

theorem verify_latest : decryptAndVerifyTcapBalanceSnapshotV1 sampleCrypto
    (sealedAs sampleLatest.toSnapshotBindings sampleLatest) () none = .ok sampleLatest := by
  decide +kernel

theorem verify_genesis : decryptAndVerifyTcapBalanceSnapshotV1 sampleCrypto
    (sealedAs sampleGenesis.toSnapshotBindings sampleGenesis) () none = .ok sampleGenesis := by
  decide +kernel

theorem readTip_sample (includeHistory : Bool) :
    readSnapshotOfTip sampleCrypto (sampleParams includeHistory) = .ok sampleLatest := by
  have hcommitment : normalizeCommitment sampleTip.currentCommitment "tip_commitment" =
      .ok sampleLatest.newCommitment := by
    decide +kernel
  have hmatches : assertSnapshotMatchesTip sampleLatest sampleTip = .ok () := by
    decide +kernel
  have hload : (sampleParams includeHistory).load sampleLatest.newCommitment =
      .ok (some (sealedAs sampleLatest.toSnapshotBindings sampleLatest)) := by
    simp only [sampleParams, if_true]
  simp only [readSnapshotOfTip, bind_eq_ok, okOr_eq_ok, pure_eq_ok]
  exact ⟨sampleTip, rfl, _, hcommitment, _, hload, _, rfl, sampleLatest, verify_latest, (),
    hmatches, rfl⟩

theorem read_sample :
    readPrivateTcapBalance sampleCrypto (sampleParams true) 2 =
      some (.ok (sampleLatest, [sampleGenesis])) := by
  have hother : sampleLatest.previousCommitment ≠ sampleLatest.newCommitment ∧
      sampleLatest.previousCommitment ≠ zeroCommitment := by
    decide +kernel
  have hload : (sampleParams true).load sampleLatest.previousCommitment =
      .ok (some (sealedAs sampleGenesis.toSnapshotBindings sampleGenesis)) := by
    simp only [sampleParams, if_neg hother.1]
    exact if_pos rfl
  have hgenesis : followHistory sampleCrypto (sampleParams true) sampleLatest.previousCommitment =
      .ok (some (sampleGenesis, zeroCommitment)) :=
    followHistory_eq_some.mpr ⟨hother.2, rfl, rfl, _, hload, verify_genesis⟩
  have hend : followHistory sampleCrypto (sampleParams true) zeroCommitment = .ok none :=
    if_pos rfl
  rw [readPrivateTcapBalance, readTip_sample]
  simp only [walk, hgenesis, hend]
  rfl

example : sampleLatest ≠ sampleGenesis := by
  decide +kernel

theorem recordsHeld_sample (includeHistory : Bool) :
    recordsHeld sampleCrypto (sampleParams includeHistory) ⊆
      {recordOf sampleLatest, recordOf sampleGenesis} := by
  rintro record ⟨commitment, envelope, snapshot, hload, hverify, hrecord⟩
  have hsnapshot : snapshot = sampleLatest ∨ snapshot = sampleGenesis := by
    simp only [sampleParams] at hload hverify
    split at hload
    · obtain rfl := Option.some.inj (Except.ok.inj hload)
      exact .inl (Except.ok.inj (hverify.symm.trans verify_latest))
    split at hload
    · obtain rfl := Option.some.inj (Except.ok.inj hload)
      exact .inr (Except.ok.inj (hverify.symm.trans verify_genesis))
    · cases hload
  rcases hsnapshot with rfl | rfl
  · exact .inl (by rw [recordOf, hrecord]; rfl)
  · exact .inr (by rw [recordOf, hrecord]; rfl)

theorem injOn_sample : Set.InjOn sampleCrypto.sha256
    (recordsHeld sampleCrypto (sampleParams true) ∪
      recordsHeld sampleCrypto (sampleParams true)) := by
  have hlatest : sampleCrypto.sha256 (recordOf sampleLatest) = latestDigest := by decide +kernel
  have hgenesis : sampleCrypto.sha256 (recordOf sampleGenesis) = genesisDigest := by
    decide +kernel
  have hdigests : latestDigest ≠ genesisDigest := by decide
  rw [Set.union_self]
  intro first hfirst second hsecond hsame
  rcases recordsHeld_sample true hfirst with rfl | rfl <;>
    rcases recordsHeld_sample true hsecond with rfl | rfl
  · rfl
  · rw [hlatest, hgenesis] at hsame
    exact (hdigests hsame).elim
  · rw [hlatest, hgenesis] at hsame
    exact (hdigests hsame.symm).elim
  · rfl

theorem authentic_sample :
    Authentic sampleCrypto true sampleTip sampleLatest [sampleGenesis] ∧
    (∀ commitment, ReflTransGen (Leads (followHistory sampleCrypto (sampleParams true)))
        sampleLatest.previousCommitment commitment →
      ¬ TransGen (Leads (followHistory sampleCrypto (sampleParams true))) commitment
        commitment) ∧
    RelatedResults SameUpToOrder (sampleParams true) (sampleParams true) sampleLatest sampleLatest
      [sampleGenesis] [sampleGenesis] := by
  have hfound : readSnapshotOfTip sampleCrypto (sampleParams true) = .ok sampleLatest :=
    (read_eq_ok read_sample).1
  obtain ⟨hauthentic, hends, hsame⟩ := authentic_of_reads
    (show (sampleParams true).fetchTip = .ok sampleTip from rfl)
    (show (sampleParams true).fetchTip = .ok sampleTip from rfl) injOn_sample
  refine ⟨hauthentic 2 _ _ read_sample, ?_, ?_⟩
  · exact hends.mp ⟨2, by rw [read_sample]; rfl⟩ _ hfound rfl
  · exact (hsame 2 2 _ _ _ _ read_sample read_sample).2 rfl rfl

/-- A snapshot that names its own commitment as the one before it. -/
def loopSnapshot : TcapBalanceSnapshotV1 where
  toSnapshotBindings := { sampleLatest.toSnapshotBindings with
    previousCommitment := sampleLatest.newCommitment }
  tokenBalances := []

def loopCrypto : WebCrypto Unit where
  sha256 record := if record = recordOf loopSnapshot then latestDigest else 0
  decrypt _ _ ciphertext := .ok ciphertext

def loopParams : ReadParams Unit where
  fetchTip := .ok sampleTip
  load _ := .ok (some (sealedAs loopSnapshot.toSnapshotBindings loopSnapshot))
  key := ()
  decode := none
  includeHistory := true

theorem verify_loop : decryptAndVerifyTcapBalanceSnapshotV1 loopCrypto
    (sealedAs loopSnapshot.toSnapshotBindings loopSnapshot) () none = .ok loopSnapshot := by
  decide +kernel

theorem injOn_loop : Set.InjOn loopCrypto.sha256 (recordsHeld loopCrypto loopParams) := by
  have hrecords : ∀ record ∈ recordsHeld loopCrypto loopParams, record = recordOf loopSnapshot := by
    rintro record ⟨commitment, envelope, snapshot, hload, hverify, hrecord⟩
    obtain rfl := Option.some.inj (Except.ok.inj hload)
    obtain rfl := Except.ok.inj (hverify.symm.trans verify_loop)
    rw [recordOf, hrecord]
    rfl
  intro first hfirst second hsecond _
  rw [hrecords first hfirst, hrecords second hsecond]

theorem read_loop (fuel : Nat) : readPrivateTcapBalance loopCrypto loopParams fuel = none := by
  have hfound : readSnapshotOfTip loopCrypto loopParams = .ok loopSnapshot := by decide +kernel
  have hstep : Leads (followHistory loopCrypto loopParams) loopSnapshot.previousCommitment
      loopSnapshot.previousCommitment := by
    refine ⟨loopSnapshot, followHistory_eq_some.mpr ⟨by decide +kernel, rfl, rfl, _, rfl, ?_⟩⟩
    exact verify_loop
  rcases hread : readPrivateTcapBalance loopCrypto loopParams fuel with _ | result
  · rfl
  · have hends := exists_read_iff_acyclic.mp ⟨fuel, by rw [hread]; rfl⟩
    exact (hends loopSnapshot hfound rfl _ .refl (.single hstep)).elim

example : loopSnapshot.previousCommitment ≠ zeroCommitment := by
  decide +kernel

/-- A decoder of the caller's own, which writes one commitment in capitals. -/
def capitalized (snapshot : TcapBalanceSnapshotV1) : TcapBalanceSnapshotV1 where
  toSnapshotBindings := { snapshot.toSnapshotBindings with
    policyCommitment := List.replicate 64 65 }
  tokenBalances := snapshot.tokenBalances

def capitalParams : ReadParams Unit where
  fetchTip := .ok sampleTip
  load _ := .ok (some (sealedAs (capitalized sampleLatest).toSnapshotBindings sampleLatest))
  key := ()
  decode := some fun payload => capitalized <$> decodeCanonicalTcapBalanceSnapshotV1 payload
  includeHistory := false

/-- A read that is not asked for the history returns none of it; a record that is its own
predecessor keeps the walk going; and another decoder gives another snapshot of one record. -/
theorem reads_beside_history :
    (Set.InjOn sampleCrypto.sha256 (recordsHeld sampleCrypto (sampleParams false)) ∧
      readPrivateTcapBalance sampleCrypto (sampleParams false) 0 =
        some (.ok (sampleLatest, [])) ∧
      ¬ Chain sampleCrypto sampleLatest.previousCommitment []) ∧
    (Set.InjOn loopCrypto.sha256 (recordsHeld loopCrypto loopParams) ∧
      ∀ fuel, readPrivateTcapBalance loopCrypto loopParams fuel = none) ∧
    readPrivateTcapBalance sampleCrypto capitalParams 0 =
      some (.ok (capitalized sampleLatest, [])) ∧
    ¬ SameUpToOrder sampleLatest (capitalized sampleLatest) := by
  refine ⟨⟨?_, ?_, ?_⟩, ⟨injOn_loop, read_loop⟩, by decide +kernel, ?_⟩
  · have hinj := injOn_sample
    rw [Set.union_self] at hinj
    exact hinj
  · rw [readPrivateTcapBalance, readTip_sample]
    rfl
  · have hnonzero : sampleLatest.previousCommitment ≠ zeroCommitment := by decide +kernel
    intro hchain
    generalize sampleLatest.previousCommitment = previous at hchain hnonzero
    rcases hchain with _ | _
    exact hnonzero rfl
  · rintro ⟨hbindings, -⟩
    have hpolicy := congrArg SnapshotBindings.policyCommitment hbindings
    exact absurd hpolicy (by decide)

end Samples

end TsnProtocol.Tcap.BalanceReads
