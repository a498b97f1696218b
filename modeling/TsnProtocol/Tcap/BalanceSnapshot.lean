import Mathlib
import TsnProtocol.Lib.EvmMemory
import TsnProtocol.Lib.Utf8Decoder
import TsnProtocol.Sdk.DeviceAccess

/-!
Private balance snapshots: the canonical record that a commitment hashes, and the decoder of
decrypted payloads, which takes more than the encoder writes.
-/

namespace TsnProtocol.Tcap.BalanceSnapshot

open Lib.ByteReader
open Lib.Checked
open Lib.EvmMemory (beBytes_injective)
open Lib.TextFormat
open Lib.Utf16
open Lib.Utf8 (encodeUtf8 encodeUtf8_injective)
open Lib.Utf8Decoder
open Sdk.DeviceAccess (JsString js textEncode toLowerCase)

def snapshotVersion : Int := 1
def snapshotDomain : JsString := js "TCAP_BALANCE_SNAPSHOT_V1"

/-- `"0".repeat(64)`. -/
def zeroCommitment : JsString := List.replicate 64 48

structure TcapTokenBalanceV1 where
  (tokenId nativeAmount stableUnits stableRateVersion : Int)
  deriving DecidableEq

/-- The fields that an encrypted envelope repeats. -/
@[ext] structure SnapshotBindings where
  (version sequence : Int)
  (newCommitment previousCommitment policyCommitment transitionNullifier tsnSettlementCommitment
    : JsString)
  createdAt : Int
  encryptedRecordLocator : JsString
  deriving DecidableEq

structure TcapBalanceSnapshotV1 extends SnapshotBindings where
  tokenBalances : List TcapTokenBalanceV1
  deriving DecidableEq

section Encoding

def hexUnitValue (unit : CodeUnit) : Nat :=
  if unit.toNat ≤ 57 then unit.toNat - 48
  else if unit.toNat ≤ 70 then unit.toNat - 55
  else unit.toNat - 87

/-- `Number.parseInt` with radix 16 of two digits after two. -/
def hexPairs : JsString → List Byte
  | high :: low :: rest =>
      BitVec.ofNat 8 (hexUnitValue high * 16 + hexUnitValue low) :: hexPairs rest
  | _ => []

/-- A digit of `[0-9a-f]`, in any case. -/
def isHexUnit (unit : CodeUnit) : Bool :=
  (48 ≤ unit.toNat ∧ unit.toNat ≤ 57) ∨ (65 ≤ unit.toNat ∧ unit.toNat ≤ 70) ∨
    (97 ≤ unit.toNat ∧ unit.toNat ≤ 102)

/-- `/^[0-9a-f]{64}$/i`. -/
def isHex32 (value : JsString) : Bool :=
  value.length = 64 && value.all isHexUnit

def bytesFromHex (value : JsString) (label : String) : Except String (List Byte) := do
  require (isHex32 value) (label ++ "_must_be_32_byte_hex")
  return hexPairs value

def hexFromBytes (value : List Byte) : Except String JsString := do
  require (value.length = 32) "commitment_must_be_32_bytes"
  return units (hexText value)

/-- `Number.isSafeInteger`. -/
def isSafeInteger (value : Int) : Bool :=
  -(2 ^ 53 - 1) ≤ value ∧ value ≤ 2 ^ 53 - 1

def u32 (value : Int) (label : String) : Except String (List Byte) := do
  require (isSafeInteger value ∧ 0 ≤ value ∧ value ≤ 0xffffffff) (label ++ "_invalid")
  return beBytes 4 value.toNat

def u64 (value : Int) (label : String) : Except String (List Byte) := do
  require (0 ≤ value ∧ value ≤ 0xffffffffffffffff) (label ++ "_invalid")
  return beBytes 8 value.toNat

def frame (value : List Byte) : Except String (List Byte) := do
  let length ← u32 value.length "field_length"
  return length ++ value

/-- The loop over the balances, with the token ids it has seen. -/
def validateBalances : (seen : List Int) → List TcapTokenBalanceV1 → Except String Unit
  | _, [] => return ()
  | seen, balance :: balances => do
      require (isSafeInteger balance.tokenId ∧ 1 ≤ balance.tokenId) "token_id_invalid"
      require (balance.tokenId ∉ seen) "duplicate_token_id"
      require (0 ≤ balance.nativeAmount ∧ 0 ≤ balance.stableUnits) "negative_balance"
      require (isSafeInteger balance.stableRateVersion ∧ 1 ≤ balance.stableRateVersion)
        "stable_rate_version_invalid"
      validateBalances (balance.tokenId :: seen) balances

def validateSnapshot (snapshot : TcapBalanceSnapshotV1) : Except String Unit := do
  require (snapshot.version = snapshotVersion) "unsupported_snapshot_version"
  let _ ← bytesFromHex snapshot.previousCommitment "previous_commitment"
  let _ ← bytesFromHex snapshot.newCommitment "new_commitment"
  let _ ← bytesFromHex snapshot.policyCommitment "policy_commitment"
  let _ ← bytesFromHex snapshot.transitionNullifier "transition_nullifier"
  let _ ← bytesFromHex snapshot.tsnSettlementCommitment "tsn_settlement_commitment"
  require (0 ≤ snapshot.sequence ∧ 0 ≤ snapshot.createdAt) "snapshot_number_invalid"
  require (snapshot.encryptedRecordLocator ≠ []) "encrypted_record_locator_empty"
  validateBalances [] snapshot.tokenBalances

def balanceBytes (balance : TcapTokenBalanceV1) : Except String (List Byte) := do
  let tokenId ← u32 balance.tokenId "token_id"
  let nativeAmount ← u64 balance.nativeAmount "native_amount"
  let stableUnits ← u64 balance.stableUnits "stable_units"
  let stableRateVersion ← u32 balance.stableRateVersion "stable_rate_version"
  return tokenId ++ (nativeAmount ++ (stableUnits ++ stableRateVersion))

def balancesBytes : List TcapTokenBalanceV1 → Except String (List Byte)
  | [] => return []
  | balance :: balances => do
      let first ← balanceBytes balance
      let rest ← balancesBytes balances
      return first ++ rest

/-- The balances in the order of their token ids. -/
def sortedBalances (snapshot : TcapBalanceSnapshotV1) : List TcapTokenBalanceV1 :=
  snapshot.tokenBalances.insertionSort fun left right => left.tokenId ≤ right.tokenId

def serializeTcapBalanceCommitmentRecordV1 (snapshot : TcapBalanceSnapshotV1) :
    Except String (List Byte) := do
  validateSnapshot snapshot
  let balances := sortedBalances snapshot
  let domain ← frame (textEncode snapshotDomain)
  let version ← u32 snapshot.version "version"
  let sequence ← u64 snapshot.sequence "sequence"
  let previousCommitment ← bytesFromHex snapshot.previousCommitment "previous_commitment"
  let policyCommitment ← bytesFromHex snapshot.policyCommitment "policy_commitment"
  let transitionNullifier ← bytesFromHex snapshot.transitionNullifier "transition_nullifier"
  let tsnSettlementCommitment ←
    bytesFromHex snapshot.tsnSettlementCommitment "tsn_settlement_commitment"
  let createdAt ← u64 snapshot.createdAt "created_at"
  let locator ← frame (textEncode snapshot.encryptedRecordLocator)
  let count ← u32 balances.length "balance_count"
  let entries ← balancesBytes balances
  return domain ++ (version ++ (sequence ++ (previousCommitment ++ (policyCommitment ++
    (transitionNullifier ++ (tsnSettlementCommitment ++ (createdAt ++ (locator ++
      (count ++ entries)))))))))

/-- The payload that is encrypted. -/
def serializeTcapBalanceSnapshotV1 (snapshot : TcapBalanceSnapshotV1) :
    Except String (List Byte) := do
  let newCommitment ← bytesFromHex snapshot.newCommitment "new_commitment"
  let framed ← frame newCommitment
  let record ← serializeTcapBalanceCommitmentRecordV1 snapshot
  return framed ++ record

end Encoding

section Decoding

def truncated : String := "snapshot_encoding_truncated"

def readU32 : Reader String Nat :=
  beValue <$> take 4 truncated

def readU64 : Reader String Nat :=
  beValue <$> take 8 truncated

def readFrame : Reader String (List Byte) := do
  let length ← readU32
  take length truncated

def readHex : Reader String JsString := do
  let bytes ← take 32 truncated
  hexFromBytes bytes

def readBalance : Reader String TcapTokenBalanceV1 := do
  let tokenId ← readU32
  let nativeAmount ← readU64
  let stableUnits ← readU64
  let stableRateVersion ← readU32
  return ⟨tokenId, nativeAmount, stableUnits, stableRateVersion⟩

def readSnapshot : Reader String TcapBalanceSnapshotV1 := do
  let prefixed ← readFrame
  let newCommitment ← hexFromBytes prefixed
  let domain ← readFrame
  require (units (textDecode domain) = snapshotDomain) "snapshot_domain_mismatch"
  let version ← readU32
  let sequence ← readU64
  let previousCommitment ← readHex
  let policyCommitment ← readHex
  let transitionNullifier ← readHex
  let tsnSettlementCommitment ← readHex
  let createdAt ← readU64
  let locator ← readFrame
  let count ← readU32
  let tokenBalances ← takeList readBalance count
  return {
    version
    sequence
    newCommitment
    previousCommitment
    policyCommitment
    transitionNullifier
    tsnSettlementCommitment
    createdAt
    encryptedRecordLocator := units (textDecode locator)
    tokenBalances }

def decodeCanonicalTcapBalanceSnapshotV1 (payload : List Byte) :
    Except String TcapBalanceSnapshotV1 := do
  let (snapshot, rest) ← readSnapshot payload
  require (rest = []) "snapshot_encoding_trailing_bytes"
  return snapshot

end Decoding

section Fields

variable {left right : Int} {label : String} {first second rest rest' : List Byte}

theorem u32_append_cancel (hleft : u32 left label = .ok first)
    (hright : u32 right label = .ok second) (hsame : first ++ rest = second ++ rest') :
    left = right ∧ rest = rest' := by
  simp only [u32, bind_eq_ok, require_eq_ok, pure_eq_ok] at hleft hright
  obtain ⟨_, ⟨-, hlow, hhigh⟩, rfl⟩ := hleft
  obtain ⟨_, ⟨-, hlow', hhigh'⟩, rfl⟩ := hright
  obtain ⟨hbytes, hrest⟩ := List.append_inj hsame (by simp only [length_beBytes])
  have hvalue := beBytes_injective (by omega) (by omega) hbytes
  exact ⟨by omega, hrest⟩

theorem u64_append_cancel (hleft : u64 left label = .ok first)
    (hright : u64 right label = .ok second) (hsame : first ++ rest = second ++ rest') :
    left = right ∧ rest = rest' := by
  simp only [u64, bind_eq_ok, require_eq_ok, pure_eq_ok] at hleft hright
  obtain ⟨_, ⟨hlow, hhigh⟩, rfl⟩ := hleft
  obtain ⟨_, ⟨hlow', hhigh'⟩, rfl⟩ := hright
  obtain ⟨hbytes, hrest⟩ := List.append_inj hsame (by simp only [length_beBytes])
  have hvalue := beBytes_injective (by omega) (by omega) hbytes
  exact ⟨by omega, hrest⟩

theorem length_hexPairs {value : JsString} {count : Nat} (hlength : value.length = 2 * count) :
    (hexPairs value).length = count := by
  induction count generalizing value with
  | zero =>
      obtain rfl := List.eq_nil_of_length_eq_zero hlength
      rfl
  | succ count ih =>
      rcases value with _ | ⟨high, _ | ⟨low, value⟩⟩
      · simp at hlength
      · simp at hlength
        omega
      · simp only [List.length_cons] at hlength
        exact congrArg Nat.succ (ih (by omega))

theorem bytesFromHex_eq_ok {value : JsString} :
    bytesFromHex value label = .ok first ↔ isHex32 value = true ∧ hexPairs value = first := by
  simp only [bytesFromHex, bind_eq_ok, require_eq_ok, pure_eq_ok, exists_const]

theorem isHex32_eq_true {value : JsString} :
    isHex32 value = true ↔ value.length = 64 ∧ ∀ unit ∈ value, isHexUnit unit = true := by
  rw [isHex32, Bool.and_eq_true, decide_eq_true_eq, List.all_eq_true]

theorem length_of_isHex32 {value : JsString} (hvalue : isHex32 value = true) :
    value.length = 64 :=
  (isHex32_eq_true.mp hvalue).1

theorem bytesFromHex_append_cancel {value value' : JsString}
    (hleft : bytesFromHex value label = .ok first)
    (hright : bytesFromHex value' label = .ok second) (hsame : first ++ rest = second ++ rest') :
    hexPairs value = hexPairs value' ∧ rest = rest' := by
  obtain ⟨hvalue, rfl⟩ := bytesFromHex_eq_ok.mp hleft
  obtain ⟨hvalue', rfl⟩ := bytesFromHex_eq_ok.mp hright
  refine List.append_inj hsame ?_
  rw [@length_hexPairs value 32 (length_of_isHex32 hvalue),
    @length_hexPairs value' 32 (length_of_isHex32 hvalue')]

theorem frame_append_cancel {value value' : List Byte} (hleft : frame value = .ok first)
    (hright : frame value' = .ok second) (hsame : first ++ rest = second ++ rest') :
    value = value' ∧ rest = rest' := by
  simp only [frame, bind_eq_ok, pure_eq_ok] at hleft hright
  obtain ⟨size, hsize, rfl⟩ := hleft
  obtain ⟨size', hsize', rfl⟩ := hright
  rw [List.append_assoc, List.append_assoc] at hsame
  obtain ⟨hlength, hbody⟩ := u32_append_cancel hsize hsize' hsame
  exact List.append_inj hbody (Int.ofNat_inj.mp hlength)

end Fields

section Injectivity

variable {left right : TcapBalanceSnapshotV1} {first second rest rest' : List Byte}

theorem balanceBytes_append_cancel {balance balance' : TcapTokenBalanceV1}
    (hleft : balanceBytes balance = .ok first) (hright : balanceBytes balance' = .ok second)
    (hsame : first ++ rest = second ++ rest') : balance = balance' ∧ rest = rest' := by
  simp only [balanceBytes, bind_eq_ok, pure_eq_ok] at hleft hright
  obtain ⟨tokenId, htoken, native, hnative, stable, hstable, rate, hrate, rfl⟩ := hleft
  obtain ⟨tokenId', htoken', native', hnative', stable', hstable', rate', hrate', rfl⟩ := hright
  simp only [List.append_assoc] at hsame
  obtain ⟨hid, hsame⟩ := u32_append_cancel htoken htoken' hsame
  obtain ⟨hamount, hsame⟩ := u64_append_cancel hnative hnative' hsame
  obtain ⟨hunits, hsame⟩ := u64_append_cancel hstable hstable' hsame
  obtain ⟨hversion, hsame⟩ := u32_append_cancel hrate hrate' hsame
  rcases balance
  rcases balance'
  simp only at hid hamount hunits hversion
  exact ⟨by rw [hid, hamount, hunits, hversion], hsame⟩

theorem balancesBytes_injective {balances balances' : List TcapTokenBalanceV1}
    (hcount : balances.length = balances'.length) (hleft : balancesBytes balances = .ok first)
    (hright : balancesBytes balances' = .ok first) : balances = balances' := by
  induction balances generalizing balances' first with
  | nil => exact (List.eq_nil_of_length_eq_zero hcount.symm).symm
  | cons balance balances ih =>
      rcases balances' with _ | ⟨balance', balances'⟩
      · cases hcount
      simp only [balancesBytes, bind_eq_ok, pure_eq_ok] at hleft hright
      obtain ⟨entry, hentry, entries, hentries, rfl⟩ := hleft
      obtain ⟨entry', hentry', entries', hentries', hsame⟩ := hright
      obtain ⟨rfl, rfl⟩ := balanceBytes_append_cancel hentry' hentry hsame
      rw [ih (Nat.succ.inj hcount) hentries hentries']

/-- What the record of a snapshot says of it: no letter case of its digits, no order of its
balances, and no half surrogate pairs of its locator. -/
structure SameRecord (left right : TcapBalanceSnapshotV1) : Prop where
  version : left.version = right.version
  sequence : left.sequence = right.sequence
  previousCommitment : hexPairs left.previousCommitment = hexPairs right.previousCommitment
  policyCommitment : hexPairs left.policyCommitment = hexPairs right.policyCommitment
  transitionNullifier : hexPairs left.transitionNullifier = hexPairs right.transitionNullifier
  tsnSettlementCommitment :
    hexPairs left.tsnSettlementCommitment = hexPairs right.tsnSettlementCommitment
  createdAt : left.createdAt = right.createdAt
  locator : textEncode left.encryptedRecordLocator = textEncode right.encryptedRecordLocator
  balances : left.tokenBalances.Perm right.tokenBalances

theorem perm_of_sortedBalances (hsame : sortedBalances left = sortedBalances right) :
    left.tokenBalances.Perm right.tokenBalances := by
  have hleft := List.perm_insertionSort
    (fun (first second : TcapTokenBalanceV1) => first.tokenId ≤ second.tokenId) left.tokenBalances
  have hright := List.perm_insertionSort
    (fun (first second : TcapTokenBalanceV1) => first.tokenId ≤ second.tokenId) right.tokenBalances
  exact hleft.symm.trans ((List.Perm.of_eq hsame).trans hright)

/-- Canonical records are injective. -/
theorem sameRecord_of_serialize {record : List Byte}
    (hleft : serializeTcapBalanceCommitmentRecordV1 left = .ok record)
    (hright : serializeTcapBalanceCommitmentRecordV1 right = .ok record) :
    SameRecord left right := by
  simp only [serializeTcapBalanceCommitmentRecordV1, bind_eq_ok, pure_eq_ok] at hleft hright
  obtain ⟨_, -, domain, hdomain, version, hversion, sequence, hsequence, previous, hprevious,
    policy, hpolicy, nullifier, hnullifier, settlement, hsettlement, created, hcreated, locator,
    hlocator, count, hcount, entries, hentries, rfl⟩ := hleft
  obtain ⟨_, -, domain', hdomain', version', hversion', sequence', hsequence', previous',
    hprevious', policy', hpolicy', nullifier', hnullifier', settlement', hsettlement', created',
    hcreated', locator', hlocator', count', hcount', entries', hentries', hsame⟩ := hright
  obtain ⟨-, hsame⟩ := frame_append_cancel hdomain hdomain' hsame.symm
  obtain ⟨hversions, hsame⟩ := u32_append_cancel hversion hversion' hsame
  obtain ⟨hsequences, hsame⟩ := u64_append_cancel hsequence hsequence' hsame
  obtain ⟨hpredecessors, hsame⟩ := bytesFromHex_append_cancel hprevious hprevious' hsame
  obtain ⟨hpolicies, hsame⟩ := bytesFromHex_append_cancel hpolicy hpolicy' hsame
  obtain ⟨hnullifiers, hsame⟩ := bytesFromHex_append_cancel hnullifier hnullifier' hsame
  obtain ⟨hsettlements, hsame⟩ := bytesFromHex_append_cancel hsettlement hsettlement' hsame
  obtain ⟨htimes, hsame⟩ := u64_append_cancel hcreated hcreated' hsame
  obtain ⟨hlocators, hsame⟩ := frame_append_cancel hlocator hlocator' hsame
  obtain ⟨hcounts, rfl⟩ := u32_append_cancel hcount hcount' hsame
  have hsorted := balancesBytes_injective (Int.ofNat_inj.mp hcounts) hentries hentries'
  exact {
    version := hversions
    sequence := hsequences
    previousCommitment := hpredecessors
    policyCommitment := hpolicies
    transitionNullifier := hnullifiers
    tsnSettlementCommitment := hsettlements
    createdAt := htimes
    locator := hlocators
    balances := perm_of_sortedBalances hsorted }

end Injectivity

section Decoded

/-- The unit of a digit below 16. -/
theorem unit_of_nibble {nibble : Nat} (hnibble : nibble < 16) :
    ∃ unit, charUnits (lowerHexDigit nibble) = [unit] ∧ hexUnitValue unit = nibble ∧
      toLowerCase [unit] = [unit] := by
  have hall : ∀ nibble < 16,
      charUnits (lowerHexDigit nibble) = [BitVec.ofNat 16 (lowerHexDigit nibble).toNat] ∧
      hexUnitValue (BitVec.ofNat 16 (lowerHexDigit nibble).toNat) = nibble ∧
      toLowerCase [BitVec.ofNat 16 (lowerHexDigit nibble).toNat] =
        [BitVec.ofNat 16 (lowerHexDigit nibble).toNat] := by
    decide
  exact ⟨_, hall nibble hnibble⟩

/-- The units of the first byte of a hexadecimal text. -/
theorem units_hexText_cons (byte : Byte) (bytes : List Byte) :
    ∃ high low, units (hexText (byte :: bytes)) = high :: low :: units (hexText bytes) ∧
      hexUnitValue high * 16 + hexUnitValue low = byte.toNat ∧
      toLowerCase [high] = [high] ∧ toLowerCase [low] = [low] := by
  obtain ⟨high, hhigh, hhighValue, hhighLower⟩ :=
    unit_of_nibble (show byte.toNat / 16 < 16 by have := byte.isLt; omega)
  obtain ⟨low, hlow, hlowValue, hlowLower⟩ :=
    unit_of_nibble (show byte.toNat % 16 < 16 by omega)
  refine ⟨high, low, ?_, by rw [hhighValue, hlowValue]; omega, hhighLower, hlowLower⟩
  have htext : hexText (byte :: bytes) = lowerHexDigit (byte.toNat / 16) ::
      lowerHexDigit (byte.toNat % 16) :: hexText bytes := rfl
  rw [htext, units, List.flatMap_cons, List.flatMap_cons, hhigh, hlow]
  rfl

theorem hexPairs_units_hexText (bytes : List Byte) : hexPairs (units (hexText bytes)) = bytes := by
  induction bytes with
  | nil => rfl
  | cons byte bytes ih =>
      obtain ⟨high, low, hunits, hvalue, -, -⟩ := units_hexText_cons byte bytes
      rw [hunits, hexPairs, hvalue, ih, BitVec.ofNat_toNat, BitVec.setWidth_eq]

theorem toLowerCase_units_hexText (bytes : List Byte) :
    toLowerCase (units (hexText bytes)) = units (hexText bytes) := by
  induction bytes with
  | nil => rfl
  | cons byte bytes ih =>
      obtain ⟨high, low, hunits, -, hhigh, hlow⟩ := units_hexText_cons byte bytes
      simp only [toLowerCase, List.map_cons, List.map_nil, List.cons.injEq] at hhigh hlow ih ⊢
      rw [hunits, List.map_cons, List.map_cons, hhigh.1, hlow.1, ih]

/-- A text of hexadecimal digits, as the decoder writes it. -/
def IsDigest (text : JsString) : Prop :=
  ∃ bytes, text = units (hexText bytes)

/-- The texts of a snapshot that came out of the decoder. -/
structure Decoded (snapshot : TcapBalanceSnapshotV1) : Prop where
  newCommitment : IsDigest snapshot.newCommitment
  previousCommitment : IsDigest snapshot.previousCommitment
  policyCommitment : IsDigest snapshot.policyCommitment
  transitionNullifier : IsDigest snapshot.transitionNullifier
  tsnSettlementCommitment : IsDigest snapshot.tsnSettlementCommitment
  locator : ∃ text : Text, snapshot.encryptedRecordLocator = units text

theorem isDigest_of_hexFromBytes {bytes : List Byte} {text : JsString}
    (htext : hexFromBytes bytes = .ok text) : IsDigest text := by
  simp only [hexFromBytes, bind_eq_ok, pure_eq_ok] at htext
  obtain ⟨_, -, rfl⟩ := htext
  exact ⟨bytes, rfl⟩

theorem lift_eq_ok {α : Type} {computation : Except String α} {input rest : List Byte} {value : α} :
    (liftM computation : Reader String α) input = .ok (value, rest) ↔
      computation = .ok value ∧ input = rest := by
  rcases computation with problem | result
  · exact ⟨nofun, nofun⟩
  · constructor
    · intro hrun
      obtain ⟨rfl, rfl⟩ := Prod.mk.inj (Except.ok.inj hrun)
      exact ⟨rfl, rfl⟩
    · rintro ⟨hvalue, rfl⟩
      obtain rfl := Except.ok.inj hvalue
      rfl

theorem isDigest_of_readHex {input rest : List Byte} {text : JsString}
    (hread : readHex input = .ok (text, rest)) : IsDigest text := by
  obtain ⟨bytes, middle, -, hhex⟩ := reader_bind_eq_ok.mp hread
  exact isDigest_of_hexFromBytes (lift_eq_ok.mp hhex).1

theorem decoded_of_readSnapshot {input rest : List Byte} {snapshot : TcapBalanceSnapshotV1}
    (hread : readSnapshot input = .ok (snapshot, rest)) : Decoded snapshot := by
  simp only [readSnapshot, reader_bind_eq_ok, reader_pure_eq_ok] at hread
  obtain ⟨prefixed, _, -, newCommitment, _, hnew, domain, _, -, _, _, -, version, _, -, sequence,
    _, -, previous, _, hprevious, policy, _, hpolicy, nullifier, _, hnullifier, settlement, _,
    hsettlement, created, _, -, locator, _, -, count, _, -, balances, _, -, rfl, -⟩ := hread
  exact {
    newCommitment := isDigest_of_hexFromBytes (lift_eq_ok.mp hnew).1
    previousCommitment := isDigest_of_readHex hprevious
    policyCommitment := isDigest_of_readHex hpolicy
    transitionNullifier := isDigest_of_readHex hnullifier
    tsnSettlementCommitment := isDigest_of_readHex hsettlement
    locator := ⟨textDecode locator, rfl⟩ }

theorem decoded_of_decode {payload : List Byte} {snapshot : TcapBalanceSnapshotV1}
    (hdecode : decodeCanonicalTcapBalanceSnapshotV1 payload = .ok snapshot) :
    Decoded snapshot := by
  simp only [decodeCanonicalTcapBalanceSnapshotV1, bind_eq_ok] at hdecode
  obtain ⟨⟨decoded, rest⟩, hread, _, -, hresult⟩ := hdecode
  obtain rfl := pure_eq_ok.mp hresult
  exact decoded_of_readSnapshot hread

theorem digest_eq_of_hexPairs {left right : JsString} (hleft : IsDigest left)
    (hright : IsDigest right) (hsame : hexPairs left = hexPairs right) : left = right := by
  obtain ⟨bytes, rfl⟩ := hleft
  obtain ⟨bytes', rfl⟩ := hright
  rw [hexPairs_units_hexText, hexPairs_units_hexText] at hsame
  rw [hsame]

theorem textEncode_units (text : Text) : textEncode (units text) = encodeUtf8 text := by
  rw [textEncode, codePoints_units, encodeReplacing_points]

/-- Decoded snapshots of one record agree in everything but the order of their balances. -/
theorem bindings_eq_of_sameRecord {left right : TcapBalanceSnapshotV1} (hleft : Decoded left)
    (hright : Decoded right) (hrecord : SameRecord left right)
    (hnew : left.newCommitment = right.newCommitment) :
    left.toSnapshotBindings = right.toSnapshotBindings := by
  obtain ⟨text, htext⟩ := hleft.locator
  obtain ⟨text', htext'⟩ := hright.locator
  have hlocator : left.encryptedRecordLocator = right.encryptedRecordLocator := by
    have hbytes := hrecord.locator
    rw [htext, htext', textEncode_units, textEncode_units] at hbytes
    rw [htext, htext', encodeUtf8_injective hbytes]
  have hprevious := digest_eq_of_hexPairs hleft.previousCommitment hright.previousCommitment
    hrecord.previousCommitment
  have hpolicy := digest_eq_of_hexPairs hleft.policyCommitment hright.policyCommitment
    hrecord.policyCommitment
  have hnullifier := digest_eq_of_hexPairs hleft.transitionNullifier hright.transitionNullifier
    hrecord.transitionNullifier
  have hsettlement := digest_eq_of_hexPairs hleft.tsnSettlementCommitment
    hright.tsnSettlementCommitment hrecord.tsnSettlementCommitment
  exact SnapshotBindings.ext hrecord.version hrecord.sequence hnew hprevious hpolicy hnullifier
    hsettlement hrecord.createdAt hlocator

theorem toNat_lower_digit {unit : CodeUnit} (hunit : isHexUnit unit = true) :
    hexUnitValue unit < 16 ∧
      (if 65 ≤ unit.toNat ∧ unit.toNat ≤ 90 then unit + 32 else unit).toNat =
        if hexUnitValue unit < 10 then 48 + hexUnitValue unit else 87 + hexUnitValue unit := by
  have hvalue : ∀ value < 128, isHexUnit (BitVec.ofNat 16 value) = true →
      hexUnitValue (BitVec.ofNat 16 value) < 16 ∧
      (if 65 ≤ (BitVec.ofNat 16 value).toNat ∧ (BitVec.ofNat 16 value).toNat ≤ 90 then
          BitVec.ofNat 16 value + 32 else BitVec.ofNat 16 value).toNat =
        if hexUnitValue (BitVec.ofNat 16 value) < 10 then
          48 + hexUnitValue (BitVec.ofNat 16 value)
        else 87 + hexUnitValue (BitVec.ofNat 16 value) := by
    decide
  have hsmall : unit.toNat < 128 := by
    have hrange := of_decide_eq_true hunit
    omega
  have hdigit := hvalue unit.toNat hsmall
  rw [BitVec.ofNat_toNat, BitVec.setWidth_eq] at hdigit
  exact hdigit hunit

/-- Digits of one value differ in their case only. -/
theorem lower_eq_of_hexPairs {left right : JsString} {count : Nat}
    (hlength : left.length = 2 * count) (hlength' : right.length = 2 * count)
    (hleft : ∀ unit ∈ left, isHexUnit unit = true)
    (hright : ∀ unit ∈ right, isHexUnit unit = true)
    (hsame : hexPairs left = hexPairs right) : toLowerCase left = toLowerCase right := by
  induction count generalizing left right with
  | zero =>
      obtain rfl := List.eq_nil_of_length_eq_zero hlength
      obtain rfl := List.eq_nil_of_length_eq_zero hlength'
      rfl
  | succ count ih =>
      rcases left with _ | ⟨high, _ | ⟨low, left⟩⟩
      · simp at hlength
      · simp at hlength
        omega
      rcases right with _ | ⟨high', _ | ⟨low', right⟩⟩
      · simp at hlength'
      · simp at hlength'
        omega
      simp only [List.length_cons] at hlength hlength'
      simp only [List.forall_mem_cons] at hleft hright
      obtain ⟨hbyte, hrest⟩ := List.cons.inj hsame
      have hfirst := toNat_lower_digit hleft.1
      have hfirst' := toNat_lower_digit hright.1
      have hsecond := toNat_lower_digit hleft.2.1
      have hsecond' := toNat_lower_digit hright.2.1
      have hvalues := congrArg BitVec.toNat hbyte
      rw [BitVec.toNat_ofNat, BitVec.toNat_ofNat] at hvalues
      have hhigh : hexUnitValue high = hexUnitValue high' := by omega
      have hlow : hexUnitValue low = hexUnitValue low' := by omega
      have htail := ih (by omega) (by omega) hleft.2.2 hright.2.2 hrest
      unfold toLowerCase at htail ⊢
      simp only [List.map_cons, List.cons.injEq]
      refine ⟨BitVec.eq_of_toNat_eq ?_, BitVec.eq_of_toNat_eq ?_, htail⟩
      · rw [hfirst.2, hfirst'.2, hhigh]
      · rw [hsecond.2, hsecond'.2, hlow]

theorem toLowerCase_eq_of_hexPairs {left right : JsString} (hleft : isHex32 left = true)
    (hright : isHex32 right = true) (hsame : hexPairs left = hexPairs right) :
    toLowerCase left = toLowerCase right := by
  obtain ⟨hlength, hdigits⟩ := isHex32_eq_true.mp hleft
  obtain ⟨hlength', hdigits'⟩ := isHex32_eq_true.mp hright
  exact @lower_eq_of_hexPairs left right 32 hlength hlength' hdigits hdigits' hsame

end Decoded

end TsnProtocol.Tcap.BalanceSnapshot
