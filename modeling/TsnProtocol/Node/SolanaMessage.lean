import TsnProtocol.Lib.TextFormat
import TsnProtocol.Solana.Address

/-!
The Node's parser of Solana v1 messages: a cursor over the bytes of the message, what it
returns, and how the message is written back from that.
-/

namespace TsnProtocol.Node.SolanaMessage

open Lib.ByteReader
open Lib.Checked
open Lib.TextFormat
open Solana.Address

/-- The rejections of the parser, and a read past the end of the message. -/
inductive MessageError where
  | notV1 | invalidConfigMask | missingLimits | invalidCounts | accountsTruncated
  | headersTruncated | payloadTruncated | invalidAccountIndex | trailingOrDuplicate
  | outOfRange
  deriving DecidableEq

structure InstructionHeader where
  (programIndex accountIndexCount : Byte)
  dataLength : Nat

structure ParsedInstruction where
  program : Text
  accounts : List Text
  data : List Byte
  deriving DecidableEq

structure ParsedMessage where
  (requiredSignatures readonlySigned readonlyUnsigned : Byte)
  accountKeys : List Text
  recentBlockhash : List Byte
  instructions : List ParsedInstruction
  deriving DecidableEq

def readKeys (addressText : Bytes32 → Text) (message : List Byte) :
    Nat → Nat → Except MessageError (List Text)
  | 0, _ => return []
  | count + 1, cursor => do
      let bytes ← bytesBetween .outOfRange message cursor (cursor + 32)
      let keys ← readKeys addressText message count (cursor + 32)
      return addressText (wordOfBytes bytes) :: keys

def readHeaders (message : List Byte) :
    Nat → Nat → Except MessageError (List InstructionHeader)
  | 0, _ => return []
  | count + 1, cursor => do
      let programIndex ← byteAt .outOfRange message cursor
      let accountIndexCount ← byteAt .outOfRange message (cursor + 1)
      let dataLength ← bytesBetween .outOfRange message (cursor + 2) (cursor + 4)
      let headers ← readHeaders message count (cursor + 4)
      return ⟨programIndex, accountIndexCount, leValue dataLength⟩ :: headers

def keysAt (accountKeys : List Text) : List Byte → Except MessageError (List Text)
  | [] => return []
  | index :: indexes => do
      let key ← okOr accountKeys[index.toNat]? .outOfRange
      let keys ← keysAt accountKeys indexes
      return key :: keys

/-- The loop over the instruction payloads, with the cursor it ends at. -/
def readPayloads (message : List Byte) (accountKeys : List Text) :
    List InstructionHeader → Nat → Except MessageError (List ParsedInstruction × Nat)
  | [], cursor => return ([], cursor)
  | header :: headers, cursor => do
      require (cursor + (header.accountIndexCount.toNat + header.dataLength) ≤ message.length)
        .payloadTruncated
      let dataStart := cursor + header.accountIndexCount.toNat
      let accountIndexes ← bytesBetween .outOfRange message cursor dataStart
      let data ← bytesBetween .outOfRange message dataStart (dataStart + header.dataLength)
      require (header.programIndex.toNat < accountKeys.length ∧
        accountIndexes.all (fun index => index.toNat < accountKeys.length) = true)
        .invalidAccountIndex
      let program ← okOr accountKeys[header.programIndex.toNat]? .outOfRange
      let accounts ← keysAt accountKeys accountIndexes
      let later ← readPayloads message accountKeys headers (dataStart + header.dataLength)
      return (⟨program, accounts, data⟩ :: later.1, later.2)

/-- The bytes of the config values that a mask announces. -/
def configSize (configMask : BitVec 32) : Nat :=
  (if configMask &&& 0x03 = 0x03 then 8 else 0) +
    4 * [2, 3, 4].countP fun bit => configMask &&& (1 <<< bit) ≠ 0

def parseSolanaV1Message (addressText : Bytes32 → Text) (message : List Byte) :
    Except MessageError ParsedMessage := do
  require (42 ≤ message.length) .notV1
  let marker ← byteAt .outOfRange message 0
  require (marker = 0x81) .notV1
  let requiredSignatures ← byteAt .outOfRange message 1
  let readonlySigned ← byteAt .outOfRange message 2
  let readonlyUnsigned ← byteAt .outOfRange message 3
  let maskBytes ← bytesBetween .outOfRange message 4 8
  let configMask : BitVec 32 := BitVec.ofNat 32 (leValue maskBytes)
  require (configMask &&& ~~~0x1F = 0 ∧
    (configMask &&& 0x03 = 0 ∨ configMask &&& 0x03 = 0x03)) .invalidConfigMask
  require (configMask &&& 0x0C = 0x0C) .missingLimits
  let recentBlockhash ← bytesBetween .outOfRange message 8 40
  let instructionCount ← byteAt .outOfRange message 40
  let accountCount ← byteAt .outOfRange message 41
  require (accountCount ≠ 0 ∧ accountCount.toNat ≤ 96 ∧ instructionCount ≠ 0 ∧
    instructionCount.toNat ≤ 64) .invalidCounts
  let addressStop := 42 + accountCount.toNat * 32
  require (addressStop ≤ message.length) .accountsTruncated
  let accountKeys ← readKeys addressText message accountCount.toNat 42
  let headerStart := addressStop + configSize configMask
  require (headerStart + instructionCount.toNat * 4 ≤ message.length) .headersTruncated
  let headers ← readHeaders message instructionCount.toNat headerStart
  let payloads ← readPayloads message accountKeys headers
    (headerStart + instructionCount.toNat * 4)
  require (payloads.2 = message.length ∧ accountKeys.Nodup) .trailingOrDuplicate
  return ⟨requiredSignatures, readonlySigned, readonlyUnsigned, accountKeys, recentBlockhash,
    payloads.1⟩

/-- What the parser skips: the mask and the config values behind the addresses. -/
structure ConfigSection where
  mask : BitVec 32
  values : List Byte

def keyIndex (accountKeys : List Text) (key : Text) : Byte :=
  BitVec.ofNat 8 (accountKeys.idxOf key)

def encodeHeader (accountKeys : List Text) (instruction : ParsedInstruction) : List Byte :=
  keyIndex accountKeys instruction.program :: BitVec.ofNat 8 instruction.accounts.length ::
    leBytes 2 instruction.data.length

def encodePayload (accountKeys : List Text) (instruction : ParsedInstruction) : List Byte :=
  instruction.accounts.map (keyIndex accountKeys) ++ instruction.data

/-- A v1 message in its wire format. -/
def encodeMessage (addressBytes : Text → Bytes32) (config : ConfigSection)
    (parsed : ParsedMessage) : List Byte :=
  0x81 :: parsed.requiredSignatures :: parsed.readonlySigned :: parsed.readonlyUnsigned ::
    (leBytes 4 config.mask.toNat ++ (parsed.recentBlockhash ++
    (BitVec.ofNat 8 parsed.instructions.length :: BitVec.ofNat 8 parsed.accountKeys.length ::
    (parsed.accountKeys.flatMap (fun key => wordBytes (addressBytes key)) ++
    (config.values ++
    (parsed.instructions.flatMap (encodeHeader parsed.accountKeys) ++
    parsed.instructions.flatMap (encodePayload parsed.accountKeys)))))))

section Bounds

variable {addressText : Bytes32 → Text} {message : List Byte} {accountKeys : List Text}

theorem avoids_readKeys {count cursor : Nat} (hlength : cursor + 32 * count ≤ message.length) :
    Avoids .outOfRange (readKeys addressText message count cursor) := by
  induction count generalizing cursor with
  | zero => exact avoids_pure
  | succ count ih =>
      unfold readKeys
      refine avoids_bind (avoids_bytesBetween (by omega) (by omega)) fun _ _ => ?_
      exact avoids_bind (ih (by omega)) fun _ _ => avoids_pure

theorem avoids_readHeaders {count cursor : Nat} (hlength : cursor + 4 * count ≤ message.length) :
    Avoids .outOfRange (readHeaders message count cursor) := by
  induction count generalizing cursor with
  | zero => exact avoids_pure
  | succ count ih =>
      unfold readHeaders
      refine avoids_bind (avoids_byteAt (by omega)) fun _ _ => ?_
      refine avoids_bind (avoids_byteAt (by omega)) fun _ _ => ?_
      refine avoids_bind (avoids_bytesBetween (by omega) (by omega)) fun _ _ => ?_
      exact avoids_bind (ih (by omega)) fun _ _ => avoids_pure

theorem avoids_keysAt {indexes : List Byte}
    (hindexes : ∀ index ∈ indexes, index.toNat < accountKeys.length) :
    Avoids .outOfRange (keysAt accountKeys indexes) := by
  induction indexes with
  | nil => exact avoids_pure
  | cons index indexes ih =>
      obtain ⟨hindex, hindexes⟩ := List.forall_mem_cons.mp hindexes
      unfold keysAt
      refine avoids_bind (avoids_okOr_of_isSome (by simpa using hindex)) fun _ _ => ?_
      exact avoids_bind (ih hindexes) fun _ _ => avoids_pure

/-- Each payload is measured before it is read. -/
theorem avoids_readPayloads (headers : List InstructionHeader) (cursor : Nat) :
    Avoids .outOfRange (readPayloads message accountKeys headers cursor) := by
  induction headers generalizing cursor with
  | nil => exact avoids_pure
  | cons header headers ih =>
      unfold readPayloads
      refine avoids_bind (avoids_require (by decide)) fun _ hlength => ?_
      rw [require_eq_ok] at hlength
      refine avoids_bind (avoids_bytesBetween (by omega) (by omega)) fun _ _ => ?_
      refine avoids_bind (avoids_bytesBetween (by omega) (by omega)) fun _ _ => ?_
      refine avoids_bind (avoids_require (by decide)) fun _ hindexes => ?_
      simp only [require_eq_ok, List.all_eq_true, decide_eq_true_eq] at hindexes
      refine avoids_bind (avoids_okOr_of_isSome (by simpa using hindexes.1)) fun _ _ => ?_
      refine avoids_bind (avoids_keysAt hindexes.2) fun _ _ => ?_
      exact avoids_bind (ih _) fun _ _ => avoids_pure

/-- The parser reads no byte and no key that is not there, whatever it is given. -/
theorem avoids_parseSolanaV1Message (addressText : Bytes32 → Text) (message : List Byte) :
    Avoids .outOfRange (parseSolanaV1Message addressText message) := by
  unfold parseSolanaV1Message
  refine avoids_bind (avoids_require (by decide)) fun _ hlength => ?_
  rw [require_eq_ok] at hlength
  refine avoids_bind (avoids_byteAt (by omega)) fun _ _ => ?_
  refine avoids_bind (avoids_require (by decide)) fun _ _ => ?_
  refine avoids_bind (avoids_byteAt (by omega)) fun _ _ => ?_
  refine avoids_bind (avoids_byteAt (by omega)) fun _ _ => ?_
  refine avoids_bind (avoids_byteAt (by omega)) fun _ _ => ?_
  refine avoids_bind (avoids_bytesBetween (by omega) (by omega)) fun _ _ => ?_
  refine avoids_bind (avoids_require (by decide)) fun _ _ => ?_
  refine avoids_bind (avoids_require (by decide)) fun _ _ => ?_
  refine avoids_bind (avoids_bytesBetween (by omega) (by omega)) fun _ _ => ?_
  refine avoids_bind (avoids_byteAt (by omega)) fun _ _ => ?_
  refine avoids_bind (avoids_byteAt (by omega)) fun _ _ => ?_
  refine avoids_bind (avoids_require (by decide)) fun _ _ => ?_
  refine avoids_bind (avoids_require (by decide)) fun _ haddresses => ?_
  rw [require_eq_ok] at haddresses
  refine avoids_bind (avoids_readKeys (by omega)) fun _ _ => ?_
  refine avoids_bind (avoids_require (by decide)) fun _ hheaders => ?_
  rw [require_eq_ok] at hheaders
  refine avoids_bind (avoids_readHeaders (by omega)) fun _ _ => ?_
  refine avoids_bind (avoids_readPayloads _ _) fun _ _ => ?_
  exact avoids_bind (avoids_require (by decide)) fun _ _ => avoids_pure

end Bounds

section Encoding

variable {addressText : Bytes32 → Text} {addressBytes : Text → Bytes32} {message : List Byte}
  {accountKeys : List Text}

theorem readKeys_eq_ok {count cursor : Nat} {keys : List Text}
    (hinverse : ∀ key, addressBytes (addressText key) = key)
    (hread : readKeys addressText message count cursor = .ok keys) :
    keys.length = count ∧ message.drop cursor =
      keys.flatMap (fun key => wordBytes (addressBytes key)) ++
        message.drop (cursor + 32 * count) := by
  induction count generalizing cursor keys with
  | zero =>
      obtain rfl := pure_eq_ok.mp hread
      exact ⟨rfl, rfl⟩
  | succ count ih =>
      simp only [readKeys, bind_eq_ok, pure_eq_ok] at hread
      obtain ⟨bytes, hbytes, later, hlater, rfl⟩ := hread
      obtain ⟨hdrop, hsize⟩ := drop_of_bytesBetween hbytes
      obtain ⟨hcount, hrest⟩ := ih hlater
      refine ⟨by rw [List.length_cons, hcount], ?_⟩
      rw [hdrop, hrest, List.flatMap_cons, hinverse, wordBytes_wordOfBytes (by omega),
        List.append_assoc, show cursor + 32 * (count + 1) = cursor + 32 + 32 * count by omega]

/-- The bytes of a header. -/
def headerBytes (header : InstructionHeader) : List Byte :=
  header.programIndex :: header.accountIndexCount :: leBytes 2 header.dataLength

theorem readHeaders_eq_ok {count cursor : Nat} {headers : List InstructionHeader}
    (hread : readHeaders message count cursor = .ok headers) :
    headers.length = count ∧ message.drop cursor =
      headers.flatMap headerBytes ++ message.drop (cursor + 4 * count) := by
  induction count generalizing cursor headers with
  | zero =>
      obtain rfl := pure_eq_ok.mp hread
      exact ⟨rfl, rfl⟩
  | succ count ih =>
      simp only [readHeaders, bind_eq_ok, pure_eq_ok] at hread
      obtain ⟨program, hprogram, accounts, haccounts, size, hsize, later, hlater, rfl⟩ := hread
      obtain ⟨hdrop, hlength⟩ := drop_of_bytesBetween hsize
      obtain ⟨hcount, hrest⟩ := ih hlater
      have hvalue : leBytes 2 (leValue size) = size := by
        have hbytes := leBytes_leValue size
        rwa [show size.length = 2 by omega] at hbytes
      refine ⟨by rw [List.length_cons, hcount], ?_⟩
      rw [drop_of_byteAt hprogram, drop_of_byteAt haccounts,
        show cursor + 1 + 1 = cursor + 2 by omega, hdrop, hrest, List.flatMap_cons,
        headerBytes, hvalue, show cursor + 4 * (count + 1) = cursor + 4 + 4 * count by omega]
      simp only [List.cons_append, List.append_assoc]

theorem keyIndex_of_getElem? {index : Byte} {key : Text} (hnodup : accountKeys.Nodup)
    (hkey : accountKeys[index.toNat]? = some key) : keyIndex accountKeys key = index := by
  obtain ⟨hindex, rfl⟩ := List.getElem?_eq_some_iff.mp hkey
  rw [keyIndex, hnodup.idxOf_getElem, BitVec.ofNat_toNat, BitVec.setWidth_eq]

theorem keysAt_eq_ok {indexes : List Byte} {keys : List Text} (hnodup : accountKeys.Nodup)
    (hread : keysAt accountKeys indexes = .ok keys) :
    keys.map (keyIndex accountKeys) = indexes := by
  induction indexes generalizing keys with
  | nil =>
      obtain rfl := pure_eq_ok.mp hread
      rfl
  | cons index indexes ih =>
      simp only [keysAt, bind_eq_ok, okOr_eq_ok, pure_eq_ok] at hread
      obtain ⟨key, hkey, later, hlater, rfl⟩ := hread
      rw [List.map_cons, keyIndex_of_getElem? hnodup hkey, ih hlater]

/-- The instructions that are read have the headers they were announced with, and stand
behind each other up to where the cursor ends. -/
theorem readPayloads_eq_ok {headers : List InstructionHeader} {cursor : Nat}
    {payloads : List ParsedInstruction × Nat} (hnodup : accountKeys.Nodup)
    (hread : readPayloads message accountKeys headers cursor = .ok payloads) :
    payloads.1.length = headers.length ∧
      payloads.1.flatMap (encodeHeader accountKeys) = headers.flatMap headerBytes ∧
      message.drop cursor =
        payloads.1.flatMap (encodePayload accountKeys) ++ message.drop payloads.2 := by
  induction headers generalizing cursor payloads with
  | nil =>
      obtain rfl := pure_eq_ok.mp hread
      exact ⟨rfl, rfl, rfl⟩
  | cons header headers ih =>
      simp only [readPayloads, bind_eq_ok, require_eq_ok, okOr_eq_ok, pure_eq_ok] at hread
      obtain ⟨_, -, indexes, hindexes, data, hdata, _, -, program, hprogram, accounts,
        haccounts, later, hlater, rfl⟩ := hread
      obtain ⟨hcount, hheaders, hrest⟩ := ih hlater
      obtain ⟨hdropIndexes, hlengthIndexes⟩ := drop_of_bytesBetween hindexes
      obtain ⟨hdropData, hlengthData⟩ := drop_of_bytesBetween hdata
      have hkeys := keysAt_eq_ok hnodup haccounts
      have haccountCount : BitVec.ofNat 8 accounts.length = header.accountIndexCount := by
        have hlength := congrArg List.length hkeys
        rw [List.length_map] at hlength
        rw [hlength, hlengthIndexes, Nat.add_sub_cancel_left, BitVec.ofNat_toNat,
          BitVec.setWidth_eq]
      have hdataLength : data.length = header.dataLength := by omega
      refine ⟨by rw [List.length_cons, List.length_cons, hcount], ?_, ?_⟩
      · rw [List.flatMap_cons, List.flatMap_cons, hheaders, encodeHeader, headerBytes,
          keyIndex_of_getElem? hnodup hprogram, haccountCount, hdataLength]
      · rw [hdropIndexes, hdropData, hrest, List.flatMap_cons, encodePayload, hkeys]
        simp only [List.append_assoc]

/-- Written back with the config section it skips, what the parser returns is the message. -/
theorem encodeMessage_of_parse {parsed : ParsedMessage}
    (hinverse : ∀ key, addressBytes (addressText key) = key)
    (hparse : parseSolanaV1Message addressText message = .ok parsed) :
    ∃ config : ConfigSection, config.values.length = configSize config.mask ∧
      encodeMessage addressBytes config parsed = message := by
  simp only [parseSolanaV1Message, bind_eq_ok, require_eq_ok, pure_eq_ok] at hparse
  obtain ⟨_, -, marker, hmarker, _, rfl, required, hrequired, signed, hsigned, unsigned,
    hunsigned, mask, hmask, _, -, _, -, blockhash, hblockhash, instructionCount, hinstructions,
    accountCount, haccounts, _, hcounts, _, -, keys, hkeys, _, hlength, headers, hheaders,
    payloads, hpayloads, _, ⟨hend, hnodup⟩, rfl⟩ := hparse
  obtain ⟨hkeyCount, hdropKeys⟩ := readKeys_eq_ok hinverse hkeys
  obtain ⟨hheaderCount, hdropHeaders⟩ := readHeaders_eq_ok hheaders
  obtain ⟨hpayloadCount, hencoded, hdropPayloads⟩ := readPayloads_eq_ok hnodup hpayloads
  obtain ⟨hdropMask, hmaskLength⟩ := drop_of_bytesBetween hmask
  obtain ⟨hdropHash, -⟩ := drop_of_bytesBetween hblockhash
  generalize hconfigMask : BitVec.ofNat 32 (leValue mask) = configMask at *
  have hmaskBytes : leBytes 4 configMask.toNat = mask := by
    have hvalue := leValue_lt mask
    have hbytes := leBytes_leValue mask
    rw [show mask.length = 4 by omega] at hvalue hbytes
    rw [← hconfigMask, BitVec.toNat_ofNat, Nat.mod_eq_of_lt (by simpa using hvalue), hbytes]
  have hinstructionCount : BitVec.ofNat 8 payloads.1.length = instructionCount := by
    rw [hpayloadCount, hheaderCount, BitVec.ofNat_toNat, BitVec.setWidth_eq]
  have haccountCount : BitVec.ofNat 8 keys.length = accountCount := by
    rw [hkeyCount, BitVec.ofNat_toNat, BitVec.setWidth_eq]
  obtain ⟨values, hvalues, hdropValues⟩ : ∃ values, values.length = configSize configMask ∧
      message.drop (42 + 32 * accountCount.toNat) =
        values ++ message.drop (42 + accountCount.toNat * 32 + configSize configMask) := by
    refine ⟨(message.drop (42 + accountCount.toNat * 32)).take (configSize configMask), ?_, ?_⟩
    · rw [List.length_take, List.length_drop]
      omega
    · rw [Nat.mul_comm 32, ← List.drop_drop (i := configSize configMask), List.take_append_drop]
  refine ⟨⟨configMask, values⟩, hvalues, ?_⟩
  rw [hend, List.drop_length, List.append_nil, Nat.mul_comm instructionCount.toNat] at hdropPayloads
  rw [encodeMessage, hmaskBytes, hinstructionCount, haccountCount, hencoded, ← hdropPayloads,
    ← hdropHeaders, ← hdropValues, ← hdropKeys, ← drop_of_byteAt haccounts,
    ← drop_of_byteAt hinstructions, ← hdropHash, ← hdropMask, ← drop_of_byteAt hunsigned,
    ← drop_of_byteAt hsigned, ← drop_of_byteAt hrequired, ← drop_of_byteAt hmarker,
    List.drop_zero]

end Encoding

end TsnProtocol.Node.SolanaMessage
