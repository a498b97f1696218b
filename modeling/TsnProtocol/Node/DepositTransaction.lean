import TsnProtocol.Lib.Base64
import TsnProtocol.Lib.CompactLength
import TsnProtocol.Node.SolanaMessage

/-!
The Node's parser of the deposit transaction that an owner has signed: a legacy Solana
transaction in base64, and when what it accepts is what the wire format encodes.
-/

namespace TsnProtocol.Node.DepositTransaction

open Lib.Base64
open Lib.ByteReader
open Lib.Checked
open Lib.CompactLength
open Lib.TextFormat
open Node.SolanaMessage (ParsedInstruction)
open Solana.Address (Bytes32)

/-- The rejections of the parser, in its order, and a read past the end of the bytes. -/
inductive DepositError where
  | invalidBase64 | encodingNotCanonical | invalidCompactLength | noWalletSignature | versioned
  | headerIncomplete | headerInconsistent | instructionListTruncated | accountListTruncated
  | dataTruncatedOrInvalidKey | trailingData | outOfRange
  deriving DecidableEq

structure CompiledInstruction where
  programIndex : Byte
  (accountIndexes data : List Byte)
  deriving DecidableEq

/-- A legacy transaction, with the fields that the parser skips: the signatures behind each
other, the counts of read-only accounts and the blockhash. -/
structure LegacyTransaction where
  signatures : List Byte
  (requiredSignatures readonlySigned readonlyUnsigned : Byte)
  accountKeys : List Bytes32
  recentBlockhash : Bytes32
  instructions : List CompiledInstruction
  deriving DecidableEq

/-- The loop of the length reader, for as many bytes as it may still take. -/
def readShortvec (data : List Byte) : Nat → Nat → Nat → Nat → Except DepositError (Nat × Nat)
  | 0, _, _, _ => .error .invalidCompactLength
  | rounds + 1, offset, shift, value => do
      let byte ← byteAt .invalidCompactLength data offset
      let value := value ||| (byte &&& 0x7F).toNat <<< shift
      if byte.toNat < 0x80 then .ok (value, offset + 1)
      else readShortvec data rounds (offset + 1) (shift + 7) value

/-- The length at an offset, and where it ends: shifts of 0, 7, 14 and 21. -/
def readSolanaShortvec (data : List Byte) (offset : Nat) : Except DepositError (Nat × Nat) :=
  readShortvec data 4 offset 0 0

def readKeys (message : List Byte) : Nat → Nat → Except DepositError (List Bytes32)
  | 0, _ => return []
  | count + 1, cursor => do
      let bytes ← bytesBetween .outOfRange message cursor (cursor + 32)
      let keys ← readKeys message count (cursor + 32)
      return wordOfBytes bytes :: keys

/-- An instruction at the cursor, and where it ends. -/
def readInstruction (message : List Byte) (accountCount cursor : Nat) :
    Except DepositError (CompiledInstruction × Nat) := do
  require (cursor < message.length) .instructionListTruncated
  let programIndex ← byteAt .outOfRange message cursor
  let accounts ← readSolanaShortvec message (cursor + 1)
  require (accounts.2 + accounts.1 ≤ message.length) .accountListTruncated
  let indexes ← bytesBetween .outOfRange message accounts.2 (accounts.2 + accounts.1)
  let size ← readSolanaShortvec message (accounts.2 + accounts.1)
  require (size.2 + size.1 ≤ message.length ∧ programIndex.toNat < accountCount ∧
    ∀ index ∈ indexes, index.toNat < accountCount) .dataTruncatedOrInvalidKey
  let data ← bytesBetween .outOfRange message size.2 (size.2 + size.1)
  return (⟨programIndex, indexes, data⟩, size.2 + size.1)

def readInstructions (message : List Byte) (accountCount : Nat) :
    Nat → Nat → Except DepositError (List CompiledInstruction × Nat)
  | 0, cursor => return ([], cursor)
  | count + 1, cursor => do
      let first ← readInstruction message accountCount cursor
      let later ← readInstructions message accountCount count first.2
      return (first.1 :: later.1, later.2)

/-- The parser on the bytes of a transaction. -/
def parseWire (wire : List Byte) : Except DepositError LegacyTransaction := do
  let signatures ← readSolanaShortvec wire 0
  require (1 ≤ signatures.1 ∧ signatures.2 + signatures.1 * 64 < wire.length) .noWalletSignature
  let signatureBytes ← bytesBetween .outOfRange wire signatures.2
    (signatures.2 + signatures.1 * 64)
  let message := wire.drop (signatures.2 + signatures.1 * 64)
  let requiredSignatures ← byteAt .versioned message 0
  require (requiredSignatures &&& 0x80 = 0) .versioned
  let readonlySigned ← byteAt .headerIncomplete message 1
  let readonlyUnsigned ← byteAt .headerIncomplete message 2
  let accounts ← readSolanaShortvec message 3
  require (requiredSignatures.toNat = signatures.1 ∧ accounts.1 ≠ 0 ∧
    accounts.2 + accounts.1 * 32 + 32 ≤ message.length) .headerInconsistent
  let accountKeys ← readKeys message accounts.1 accounts.2
  let recentBlockhash ← bytesBetween .outOfRange message (accounts.2 + accounts.1 * 32)
    (accounts.2 + accounts.1 * 32 + 32)
  let count ← readSolanaShortvec message (accounts.2 + accounts.1 * 32 + 32)
  let instructions ← readInstructions message accountKeys.length count.1 count.2
  require (instructions.2 = message.length) .trailingData
  return ⟨signatureBytes, requiredSignatures, readonlySigned, readonlyUnsigned, accountKeys,
    wordOfBytes recentBlockhash, instructions.1⟩

/-- Strict base64: whole groups of four, and no more padding than a group has room for. -/
def b64decode (text : Text) : Option (List Byte) :=
  let digits := stripPadding text
  if text.length % 4 = 0 ∧ text.length ≤ digits.length + 2 ∧
      ∀ digit ∈ digits, digit.isAlphanum ∨ digit = '+' ∨ digit = '/' then
    some (decodeBase64 (base64Value '+') digits)
  else none

def readWire (transactionBase64 : Text) : Except DepositError (List Byte) := do
  let wire ← okOr (b64decode transactionBase64) .invalidBase64
  require (wire ≠ [] ∧ b64encode wire = transactionBase64) .encodingNotCanonical
  return wire

/-- The account that an index names; the parser has checked that there is one. -/
def LegacyTransaction.keyAt (addressText : Bytes32 → Text) (transaction : LegacyTransaction)
    (index : Byte) : Text :=
  addressText (transaction.accountKeys.getD index.toNat 0)

def LegacyTransaction.resolve (addressText : Bytes32 → Text) (transaction : LegacyTransaction) :
    List ParsedInstruction :=
  transaction.instructions.map fun instruction =>
    ⟨transaction.keyAt addressText instruction.programIndex,
      instruction.accountIndexes.map (transaction.keyAt addressText), instruction.data⟩

def parseSignedTransaction (transactionBase64 : Text) : Except DepositError LegacyTransaction := do
  parseWire (← readWire transactionBase64)

def parseSignedTcapDepositInstructions (addressText : Bytes32 → Text) (transactionBase64 : Text) :
    Except DepositError (List ParsedInstruction) := do
  return (← parseSignedTransaction transactionBase64).resolve addressText

/-- The instruction names no account behind the last one. -/
def CompiledInstruction.Within (accountCount : Nat) (instruction : CompiledInstruction) : Prop :=
  instruction.programIndex.toNat < accountCount ∧
    ∀ index ∈ instruction.accountIndexes, index.toNat < accountCount

/-- A signature for each signer that the header asks for, a fee payer among the keys, and no
index without a key. -/
structure Signed (transaction : LegacyTransaction) : Prop where
  signers : 1 ≤ transaction.requiredSignatures.toNat
  legacy : transaction.requiredSignatures.toNat < 0x80
  signatures : transaction.signatures.length = 64 * transaction.requiredSignatures.toNat
  payer : transaction.accountKeys ≠ []
  indexes : ∀ instruction ∈ transaction.instructions,
    instruction.Within transaction.accountKeys.length

section Grammar

variable (Spelling : Nat → List Byte → Prop)

/-- The bytes of an instruction, where lengths may be spelled as `Spelling` says. -/
def SpellsInstruction (instruction : CompiledInstruction) (bytes : List Byte) : Prop :=
  ∃ accountCount dataLength, Spelling instruction.accountIndexes.length accountCount ∧
    Spelling instruction.data.length dataLength ∧
    bytes = [instruction.programIndex] ++ (accountCount ++ (instruction.accountIndexes ++
      (dataLength ++ instruction.data)))

def SpellsInstructions : List CompiledInstruction → List Byte → Prop
  | [], bytes => bytes = []
  | instruction :: instructions, bytes =>
      ∃ first later, SpellsInstruction Spelling instruction first ∧
        SpellsInstructions instructions later ∧ bytes = first ++ later

/-- The message: header, keys, blockhash and instructions. -/
def SpellsMessage (transaction : LegacyTransaction) (bytes : List Byte) : Prop :=
  ∃ accountCount instructionCount instructions,
    Spelling transaction.accountKeys.length accountCount ∧
    Spelling transaction.instructions.length instructionCount ∧
    SpellsInstructions Spelling transaction.instructions instructions ∧
    bytes = [transaction.requiredSignatures] ++ ([transaction.readonlySigned] ++
      ([transaction.readonlyUnsigned] ++ (accountCount ++
      (transaction.accountKeys.flatMap wordBytes ++ (wordBytes transaction.recentBlockhash ++
      (instructionCount ++ instructions))))))

/-- The bytes of a transaction: signatures and message. -/
def Spells (transaction : LegacyTransaction) (wire : List Byte) : Prop :=
  ∃ signatureCount message, Spelling transaction.requiredSignatures.toNat signatureCount ∧
    SpellsMessage Spelling transaction message ∧
    wire = signatureCount ++ (transaction.signatures ++ message)

end Grammar

section Reading

variable {data message wire : List Byte} {offset cursor stop count accountCount : Nat}

theorem readShortvec_eq_ok {rounds shift value : Nat} {result : Nat × Nat} :
    readShortvec data rounds offset shift value = .ok result ↔
      ∃ bytes, Continued rounds bytes ∧ bytes <+: data.drop offset ∧
        result = (value ||| compactValue bytes <<< shift, offset + bytes.length) := by
  induction rounds generalizing offset shift value with
  | zero => simp [readShortvec, Continued]
  | succ rounds ih =>
      simp only [readShortvec, bind_eq_ok, byteAt_eq_ok_iff]
      constructor
      · rintro ⟨byte, hbyte, hread⟩
        split at hread
        · rename_i hlast
          obtain rfl := Except.ok.inj hread
          refine ⟨[byte], by simp [Continued, hlast], hbyte, ?_⟩
          simp [compactValue]
        · rename_i hmore
          obtain ⟨rest, hrest, hprefix, rfl⟩ := ih.mp hread
          refine ⟨byte :: rest, ?_, ?_, ?_⟩
          · rwa [Continued, if_neg hmore]
          · exact append_prefix_drop.mpr ⟨hbyte, hprefix⟩
          · rw [compactValue, Nat.shiftLeft_or_distrib, ← Nat.shiftLeft_add, Nat.or_assoc,
              List.length_cons, Nat.add_comm 7, Nat.add_comm rest.length, Nat.add_assoc offset]
      · rintro ⟨bytes, hbytes, hprefix, rfl⟩
        rcases bytes with _ | ⟨byte, rest⟩
        · exact hbytes.elim
        · obtain ⟨hbyte, hrest⟩ := append_prefix_drop.mp
            (show [byte] ++ rest <+: data.drop offset from hprefix)
          refine ⟨byte, hbyte, ?_⟩
          rw [Continued] at hbytes
          split
          · rename_i hlast
            rw [if_pos hlast] at hbytes
            subst hbytes
            simp [compactValue]
          · rename_i hmore
            rw [if_neg hmore] at hbytes
            refine ih.mpr ⟨rest, hbytes, hrest, ?_⟩
            rw [compactValue, Nat.shiftLeft_or_distrib, ← Nat.shiftLeft_add, Nat.or_assoc,
              List.length_cons, Nat.add_comm 7, Nat.add_comm rest.length, Nat.add_assoc offset]

theorem readSolanaShortvec_eq_ok {result : Nat × Nat} :
    readSolanaShortvec data offset = .ok result ↔
      ∃ bytes, Spelled result.1 bytes ∧ bytes <+: data.drop offset ∧
        result.2 = offset + bytes.length := by
  rw [readSolanaShortvec, readShortvec_eq_ok]
  constructor
  · rintro ⟨bytes, hbytes, hprefix, rfl⟩
    exact ⟨bytes, ⟨hbytes, by simp⟩, hprefix, rfl⟩
  · rintro ⟨bytes, ⟨hbytes, hvalue⟩, hprefix, hstop⟩
    refine ⟨bytes, hbytes, hprefix, ?_⟩
    simp only [Nat.shiftLeft_zero, Nat.zero_or, hvalue, ← hstop]

theorem readKeys_eq_ok {keys : List Bytes32} :
    readKeys message count cursor = .ok keys ↔
      keys.length = count ∧ keys.flatMap wordBytes <+: message.drop cursor := by
  induction count generalizing cursor keys with
  | zero =>
      rw [readKeys, pure_eq_ok, List.length_eq_zero_iff]
      constructor
      · rintro rfl
        exact ⟨rfl, List.nil_prefix⟩
      · rintro ⟨rfl, -⟩
        rfl
  | succ count ih =>
      simp only [readKeys, bind_eq_ok, pure_eq_ok, bytesBetween_eq_ok_iff]
      constructor
      · rintro ⟨bytes, ⟨-, hsize, hbytes⟩, later, hlater, rfl⟩
        obtain ⟨hcount, hkeys⟩ := ih.mp hlater
        refine ⟨by rw [List.length_cons, hcount], ?_⟩
        rw [List.flatMap_cons, append_prefix_drop, wordBytes_wordOfBytes hsize, hsize]
        exact ⟨hbytes, hkeys⟩
      · rintro ⟨hcount, hprefix⟩
        rcases keys with _ | ⟨key, keys⟩
        · cases hcount
        · rw [List.flatMap_cons, append_prefix_drop, length_wordBytes] at hprefix
          have hbounds := length_le_of_prefix_drop hprefix.1
            (List.ne_nil_of_length_eq_add_one (length_wordBytes key))
          rw [length_wordBytes] at hbounds
          refine ⟨_, ⟨hbounds, length_wordBytes key, hprefix.1⟩, keys,
            ih.mpr ⟨Nat.succ.inj hcount, hprefix.2⟩, ?_⟩
          rw [wordOfBytes_wordBytes]

theorem readInstruction_eq_ok {instruction : CompiledInstruction} :
    readInstruction message accountCount cursor = .ok (instruction, stop) ↔
      instruction.Within accountCount ∧ ∃ bytes, SpellsInstruction Spelled instruction bytes ∧
        bytes <+: message.drop cursor ∧ stop = cursor + bytes.length := by
  simp only [readInstruction, bind_eq_ok, require_eq_ok, pure_eq_ok, byteAt_eq_ok_iff,
    bytesBetween_eq_ok_iff, readSolanaShortvec_eq_ok]
  constructor
  · rintro ⟨⟨⟩, -, program, hprogram, accounts, ⟨accountBytes, haccounts, hprefixAccounts, haccountsStop⟩,
      ⟨⟩, -, indexes, ⟨-, hindexes, hprefixIndexes⟩, size, ⟨sizeBytes, hsize, hprefixSize, hsizeStop⟩,
      ⟨⟩, ⟨-, hwithin⟩, data, ⟨-, hdata, hprefixData⟩, hresult⟩
    obtain ⟨rfl, rfl⟩ := Prod.mk.inj hresult
    refine ⟨hwithin, _, ⟨accountBytes, sizeBytes, hindexes ▸ haccounts, hdata ▸ hsize, rfl⟩, ?_, ?_⟩
    · simp only [append_prefix_drop, List.length_singleton, hindexes, ← haccountsStop, ← hsizeStop]
      exact ⟨hprogram, hprefixAccounts, hprefixIndexes, hprefixSize, hprefixData⟩
    · simp only [List.length_append, List.length_singleton]
      omega
  · rintro ⟨hwithin, _, ⟨accountBytes, sizeBytes, haccounts, hsize, rfl⟩, hprefix, rfl⟩
    have hbounds := length_le_of_prefix_drop hprefix (by rintro ⟨⟩)
    simp only [append_prefix_drop, List.length_singleton] at hprefix
    obtain ⟨hprogram, hprefixAccounts, hprefixIndexes, hprefixSize, hprefixData⟩ := hprefix
    simp only [List.length_append, List.length_singleton] at hbounds
    refine ⟨(), by omega, _, hprogram, (_, _), ⟨_, haccounts, hprefixAccounts, rfl⟩, (), by omega, _,
      ⟨by omega, rfl, hprefixIndexes⟩, (_, _), ⟨_, hsize, hprefixSize, rfl⟩, (), ⟨by omega, hwithin⟩,
      _, ⟨by omega, rfl, hprefixData⟩, ?_⟩
    simp only [List.length_append, List.length_singleton, Nat.add_assoc]

theorem readInstructions_eq_ok {instructions : List CompiledInstruction} :
    readInstructions message accountCount count cursor = .ok (instructions, stop) ↔
      instructions.length = count ∧ (∀ instruction ∈ instructions, instruction.Within accountCount) ∧
        ∃ bytes, SpellsInstructions Spelled instructions bytes ∧ bytes <+: message.drop cursor ∧
          stop = cursor + bytes.length := by
  induction count generalizing cursor instructions with
  | zero =>
      rw [readInstructions, pure_eq_ok, Prod.mk.injEq]
      constructor
      · rintro ⟨rfl, rfl⟩
        exact ⟨rfl, fun _ hmem => (List.not_mem_nil hmem).elim, [], rfl, List.nil_prefix, rfl⟩
      · rintro ⟨hcount, -, bytes, hbytes, -, rfl⟩
        obtain rfl := List.length_eq_zero_iff.mp hcount
        obtain rfl : bytes = [] := hbytes
        exact ⟨rfl, rfl⟩
  | succ count ih =>
      simp only [readInstructions, bind_eq_ok, pure_eq_ok]
      constructor
      · rintro ⟨⟨first, middle⟩, hfirst, ⟨later, last⟩, hlater, hresult⟩
        obtain ⟨rfl, rfl⟩ := Prod.mk.inj hresult
        obtain ⟨hwithin, firstBytes, hspells, hstarts, rfl⟩ := readInstruction_eq_ok.mp hfirst
        obtain ⟨hcount, hall, laterBytes, hspellsLater, hprefixLater, rfl⟩ := ih.mp hlater
        refine ⟨by rw [List.length_cons, hcount], List.forall_mem_cons.mpr ⟨hwithin, hall⟩, _,
          ⟨firstBytes, laterBytes, hspells, hspellsLater, rfl⟩, ?_, ?_⟩
        · exact append_prefix_drop.mpr ⟨hstarts, hprefixLater⟩
        · rw [List.length_append, Nat.add_assoc]
      · rintro ⟨hcount, hall, bytes, hbytes, hprefix, rfl⟩
        rcases instructions with _ | ⟨first, later⟩
        · cases hcount
        · obtain ⟨firstBytes, laterBytes, hspells, hspellsLater, rfl⟩ := hbytes
          obtain ⟨hwithin, hall⟩ := List.forall_mem_cons.mp hall
          obtain ⟨hstarts, hprefixLater⟩ := append_prefix_drop.mp hprefix
          refine ⟨_, readInstruction_eq_ok.mpr ⟨hwithin, firstBytes, hspells, hstarts, rfl⟩, _,
            ih.mpr ⟨Nat.succ.inj hcount, hall, laterBytes, hspellsLater, hprefixLater, ?_⟩, rfl⟩
          rw [List.length_append, Nat.add_assoc]

theorem and_0x80_eq_zero (byte : Byte) : byte &&& 0x80 = 0 ↔ byte.toNat < 0x80 := by
  revert byte
  decide

/-- What the parser accepts is a signed transaction, whose lengths may be spelled in any way
that the length reader takes. -/
theorem parseWire_eq_ok {transaction : LegacyTransaction} :
    parseWire wire = .ok transaction ↔ Signed transaction ∧ Spells Spelled transaction wire := by
  simp only [parseWire, bind_eq_ok, require_eq_ok, pure_eq_ok, byteAt_eq_ok_iff,
    bytesBetween_eq_ok_iff, readSolanaShortvec_eq_ok, readKeys_eq_ok, and_0x80_eq_zero]
  constructor
  · rintro ⟨⟨signers, start⟩, ⟨signerBytes, hsigners, hprefixSigners, hstart⟩, ⟨⟩, ⟨hone, -⟩,
      signatures, ⟨-, hsignatures, hprefixSignatures⟩, required, hrequired, ⟨⟩, hlegacy,
      readonlySigned, hreadonlySigned, readonlyUnsigned, hreadonlyUnsigned, ⟨accountCount, keyStart⟩,
      ⟨accountBytes, haccounts, hprefixAccounts, hkeyStart⟩, ⟨⟩, ⟨hcount, hpayer, -⟩, keys,
      ⟨hkeys, hprefixKeys⟩, blockhash, ⟨-, hblockhash, hprefixBlockhash⟩, ⟨count, cursor⟩,
      ⟨countBytes, hcountBytes, hprefixCount, hcursor⟩, ⟨instructions, stop⟩, hinstructions, ⟨⟩,
      hstop, rfl⟩
    obtain ⟨hlength, hwithin, bytes, hspells, hprefix, hend⟩ := readInstructions_eq_ok.mp hinstructions
    simp only at *
    have hsize : (keys.flatMap wordBytes).length = accountCount * 32 := by
      simp [List.length_flatMap, ← hkeys]
    have hstarts : wire = signerBytes ++ (signatures ++ wire.drop (start + signers * 64)) := by
      have hboth : signerBytes ++ signatures <+: wire.drop 0 := by
        rw [append_prefix_drop, ← hstart]
        exact ⟨hprefixSigners, hprefixSignatures⟩
      obtain ⟨rest, hrest⟩ := hboth
      rw [List.drop_zero] at hrest
      have hdrop : wire.drop (start + signers * 64) = rest := by
        rw [← hrest]
        exact List.drop_left' (by rw [List.length_append]; omega)
      rw [hdrop, ← List.append_assoc, hrest]
    generalize wire.drop (start + signers * 64) = message at *
    have hmessage : [required] ++ ([readonlySigned] ++ ([readonlyUnsigned] ++ (accountBytes ++
        (keys.flatMap wordBytes ++ (blockhash ++ (countBytes ++ bytes)))))) = message := by
      rw [← List.drop_zero (l := message)]
      refine List.IsPrefix.eq_of_length ?_ ?_
      · simp only [append_prefix_drop, List.length_singleton, hsize, hblockhash, ← hcursor,
          ← hkeyStart]
        exact ⟨hrequired, hreadonlySigned, hreadonlyUnsigned, hprefixAccounts, hprefixKeys,
          hprefixBlockhash, hprefixCount, hprefix⟩
      · simp only [List.length_append, List.length_singleton, hsize, hblockhash, List.drop_zero]
        omega
    refine ⟨⟨hcount.symm ▸ hone, hlegacy, ?_, ?_, hwithin⟩, signerBytes, message, ?_,
      ⟨accountBytes, countBytes, bytes, hkeys ▸ haccounts, hlength ▸ hcountBytes, hspells, ?_⟩,
      hstarts⟩
    · exact hsignatures.trans (by rw [hcount]; omega)
    · rintro rfl
      exact hpayer hkeys.symm
    · rwa [hcount]
    · rw [wordBytes_wordOfBytes hblockhash]
      exact hmessage.symm
  · rintro ⟨⟨hone, hlegacy, hsignatures, hpayer, hwithin⟩, signerBytes, message, hsigners,
      ⟨accountBytes, countBytes, bytes, haccounts, hcountBytes, hspells, hmessage⟩, rfl⟩
    have hdrop : (signerBytes ++ (transaction.signatures ++ message)).drop
        (signerBytes.length + transaction.requiredSignatures.toNat * 64) = message := by
      rw [← List.append_assoc]
      exact List.drop_left' (by rw [List.length_append]; omega)
    have hsize : (transaction.accountKeys.flatMap wordBytes).length =
        transaction.accountKeys.length * 32 := by
      simp [List.length_flatMap]
    have hlength := congrArg List.length hmessage
    have hprefix : message <+: message.drop 0 := List.prefix_rfl
    nth_rewrite 1 [hmessage] at hprefix
    simp only [append_prefix_drop, List.length_singleton, hsize, length_wordBytes] at hprefix
    simp only [List.length_append, List.length_singleton, hsize, length_wordBytes] at hlength
    obtain ⟨hrequired, hreadonlySigned, hreadonlyUnsigned, hprefixAccounts, hprefixKeys,
      hprefixBlockhash, hprefixCount, hprefixInstructions⟩ := hprefix
    refine ⟨(transaction.requiredSignatures.toNat, signerBytes.length),
      ⟨signerBytes, hsigners, List.prefix_append _ _, (Nat.zero_add _).symm⟩, (), ⟨hone, ?_⟩,
      transaction.signatures, ⟨?_, by omega, ?_⟩, transaction.requiredSignatures, ?_⟩
    · simp only [List.length_append]
      omega
    · simp only [List.length_append]
      omega
    · rw [List.drop_left]
      exact List.prefix_append _ _
    · simp only [hdrop]
      refine ⟨hrequired, (), hlegacy, _, hreadonlySigned, _, hreadonlyUnsigned, (_, _),
        ⟨accountBytes, haccounts, hprefixAccounts, rfl⟩, (), ⟨trivial, ?_, ?_⟩,
        transaction.accountKeys, ⟨rfl, hprefixKeys⟩, wordBytes transaction.recentBlockhash,
        ⟨?_, length_wordBytes _, hprefixBlockhash⟩, (_, _),
        ⟨countBytes, hcountBytes, hprefixCount, rfl⟩, (_, _), readInstructions_eq_ok.mpr
          ⟨rfl, hwithin, bytes, hspells, hprefixInstructions, rfl⟩, (), ?_, ?_⟩
      · simpa using hpayer
      · simp only
        omega
      · simp only
        omega
      · simp only
        omega
      · rw [wordOfBytes_wordBytes]

end Reading

section Base64

theorem base64Digit_isDigit {value : Nat} (hvalue : value < 64) :
    (base64Digit '+' '/' value).isAlphanum ∨ base64Digit '+' '/' value = '+' ∨
      base64Digit '+' '/' value = '/' := by
  interval_cases value <;> decide

theorem b64decode_b64encode (bytes : List Byte) : b64decode (b64encode bytes) = some bytes := by
  have hdigits := @digits_stripPadding '+' '/' (by decide) (by decide) bytes
  rw [b64decode, b64encode, hdigits.decodes _ (by decide)]
  refine if_pos ⟨hdigits.groups, hdigits.padding, fun digit hmem => ?_⟩
  obtain ⟨value, hvalue, rfl⟩ := hdigits.alphabet digit hmem
  exact base64Digit_isDigit hvalue

theorem readWire_eq_ok {text : Text} {wire : List Byte} :
    readWire text = .ok wire ↔ wire ≠ [] ∧ b64encode wire = text := by
  simp only [readWire, bind_eq_ok, okOr_eq_ok, require_eq_ok, pure_eq_ok]
  constructor
  · rintro ⟨wire', -, ⟨⟩, hwire, rfl⟩
    exact hwire
  · rintro ⟨hwire, rfl⟩
    exact ⟨wire, b64decode_b64encode wire, (), ⟨hwire, rfl⟩, rfl⟩

end Base64

section Exactness

/-- The bytes of a transaction with every length in its shortest spelling. -/
def encodeInstruction (instruction : CompiledInstruction) : List Byte :=
  [instruction.programIndex] ++ (encodeCompact instruction.accountIndexes.length ++
    (instruction.accountIndexes ++ (encodeCompact instruction.data.length ++ instruction.data)))

def encodeTransaction (transaction : LegacyTransaction) : List Byte :=
  encodeCompact transaction.requiredSignatures.toNat ++ (transaction.signatures ++
    ([transaction.requiredSignatures] ++ ([transaction.readonlySigned] ++
    ([transaction.readonlyUnsigned] ++ (encodeCompact transaction.accountKeys.length ++
    (transaction.accountKeys.flatMap wordBytes ++ (wordBytes transaction.recentBlockhash ++
    (encodeCompact transaction.instructions.length ++
    transaction.instructions.flatMap encodeInstruction))))))))

/-- What the runtime asks of a transaction besides its format: a key for every signer, a
writable fee payer, and no program that pays. -/
structure Sanitized (transaction : LegacyTransaction) : Prop where
  keys : transaction.requiredSignatures.toNat + transaction.readonlyUnsigned.toNat ≤
    transaction.accountKeys.length
  payer : transaction.readonlySigned.toNat < transaction.requiredSignatures.toNat
  programs : ∀ instruction ∈ transaction.instructions, instruction.programIndex ≠ 0

variable {addressText : Bytes32 → Text} {rules : LegacyTransaction → Prop} {text : Text}
  {transaction : LegacyTransaction} {wire : List Byte}

/-- The text is the wire encoding of a transaction that keeps the rules. -/
def Canonical (rules : LegacyTransaction → Prop) (text : Text) : Prop :=
  ∃ transaction wire, Signed transaction ∧ rules transaction ∧
    Spells Shortest transaction wire ∧ b64encode wire = text

/-- The parser accepts the text exactly when it is canonical, and what it has read is written
back as the text. -/
def Exact (addressText : Bytes32 → Text) (rules : LegacyTransaction → Prop) (text : Text) : Prop :=
  ((parseSignedTcapDepositInstructions addressText text).isOk = true ↔ Canonical rules text) ∧
    ∀ transaction, parseSignedTransaction text = .ok transaction →
      b64encode (encodeTransaction transaction) = text

theorem spellsInstructions_mono {Spelling Other : Nat → List Byte → Prop}
    {instructions : List CompiledInstruction} {bytes : List Byte}
    (hspelling : ∀ length bytes, Spelling length bytes → Other length bytes)
    (hbytes : SpellsInstructions Spelling instructions bytes) :
    SpellsInstructions Other instructions bytes := by
  induction instructions generalizing bytes with
  | nil => exact hbytes
  | cons instruction instructions ih =>
      obtain ⟨first, later, ⟨count, size, hcount, hsize, hfirst⟩, hlater, hbytes⟩ := hbytes
      exact ⟨first, later, ⟨count, size, hspelling _ _ hcount, hspelling _ _ hsize, hfirst⟩,
        ih hlater, hbytes⟩

theorem spells_mono {Spelling Other : Nat → List Byte → Prop}
    (hspelling : ∀ length bytes, Spelling length bytes → Other length bytes)
    (hspells : Spells Spelling transaction wire) : Spells Other transaction wire := by
  obtain ⟨signers, message, hsigners, ⟨accounts, count, bytes, haccounts, hcount, hbytes,
    hmessage⟩, hwire⟩ := hspells
  exact ⟨signers, message, hspelling _ _ hsigners, ⟨accounts, count, bytes,
    hspelling _ _ haccounts, hspelling _ _ hcount, spellsInstructions_mono hspelling hbytes,
    hmessage⟩, hwire⟩

theorem spellsInstructions_flatMap {instructions : List CompiledInstruction}
    (hfits : ∀ instruction ∈ instructions, instruction.accountIndexes.length < 0x10000 ∧
      instruction.data.length < 0x10000) :
    SpellsInstructions Shortest instructions (instructions.flatMap encodeInstruction) := by
  induction instructions with
  | nil => rfl
  | cons instruction instructions ih =>
      obtain ⟨⟨haccounts, hdata⟩, hfits⟩ := List.forall_mem_cons.mp hfits
      exact ⟨_, _, ⟨_, _, ⟨haccounts, rfl⟩, ⟨hdata, rfl⟩, rfl⟩, ih hfits, List.flatMap_cons⟩

theorem flatMap_encodeInstruction {instructions : List CompiledInstruction} {bytes : List Byte}
    (hbytes : SpellsInstructions Shortest instructions bytes) :
    instructions.flatMap encodeInstruction = bytes := by
  induction instructions generalizing bytes with
  | nil => exact hbytes.symm
  | cons instruction instructions ih =>
      obtain ⟨first, later, ⟨count, size, ⟨-, rfl⟩, ⟨-, rfl⟩, rfl⟩, hlater, rfl⟩ := hbytes
      rw [List.flatMap_cons, ih hlater, encodeInstruction]

theorem encodeTransaction_of_spells (hspells : Spells Shortest transaction wire) :
    encodeTransaction transaction = wire := by
  obtain ⟨signers, message, ⟨-, rfl⟩, ⟨accounts, count, bytes, ⟨-, rfl⟩, ⟨-, rfl⟩, hbytes,
    rfl⟩, rfl⟩ := hspells
  rw [encodeTransaction, flatMap_encodeInstruction hbytes]

theorem ne_nil_of_spells (hspells : Spells Spelled transaction wire) : wire ≠ [] := by
  rintro rfl
  obtain ⟨signers, message, -, ⟨accounts, count, bytes, -, -, -, rfl⟩, hwire⟩ := hspells
  simp at hwire

theorem parseSignedTransaction_eq_ok :
    parseSignedTransaction text = .ok transaction ↔ ∃ wire, Signed transaction ∧
      Spells Spelled transaction wire ∧ b64encode wire = text := by
  simp only [parseSignedTransaction, bind_eq_ok, readWire_eq_ok, parseWire_eq_ok]
  constructor
  · rintro ⟨wire, ⟨-, htext⟩, hsigned, hspells⟩
    exact ⟨wire, hsigned, hspells, htext⟩
  · rintro ⟨wire, hsigned, hspells, htext⟩
    exact ⟨wire, ⟨ne_nil_of_spells hspells, htext⟩, hsigned, hspells⟩

theorem isOk_parse : (parseSignedTcapDepositInstructions addressText text).isOk = true ↔
    ∃ transaction, parseSignedTransaction text = .ok transaction := by
  rw [parseSignedTcapDepositInstructions]
  constructor
  · intro hok
    obtain ⟨result, hresult⟩ := exists_ok_of_isOk hok
    obtain ⟨transaction, htransaction, -⟩ := bind_eq_ok.mp hresult
    exact ⟨transaction, htransaction⟩
  · rintro ⟨transaction, htransaction⟩
    rw [htransaction]
    rfl

theorem b64encode_injective : Function.Injective b64encode := by
  intro first second hencode
  have hdecode := b64decode_b64encode first
  rw [hencode, b64decode_b64encode] at hdecode
  exact (Option.some.inj hdecode).symm

theorem exact_iff : Exact addressText rules text ↔
    ∀ transaction wire, Signed transaction → Spells Spelled transaction wire →
      b64encode wire = text → rules transaction ∧ Spells Shortest transaction wire := by
  constructor
  · rintro ⟨haccepts, hencode⟩ transaction wire hsigned hspells htext
    have hparse := parseSignedTransaction_eq_ok.mpr ⟨wire, hsigned, hspells, htext⟩
    obtain ⟨other, otherWire, hother, hrules, hshort, hsame⟩ :=
      haccepts.mp (isOk_parse.mpr ⟨transaction, hparse⟩)
    obtain rfl := b64encode_injective (hsame.trans htext.symm)
    have hreparse := parseSignedTransaction_eq_ok.mpr
      ⟨otherWire, hother, spells_mono (fun _ _ => spelled_of_shortest) hshort, htext⟩
    obtain rfl := Except.ok.inj (hparse.symm.trans hreparse)
    exact ⟨hrules, hshort⟩
  · intro hshort
    refine ⟨⟨?_, ?_⟩, ?_⟩
    · intro hok
      obtain ⟨transaction, hparse⟩ := isOk_parse.mp hok
      obtain ⟨wire, hsigned, hspells, htext⟩ := parseSignedTransaction_eq_ok.mp hparse
      obtain ⟨hrules, hwire⟩ := hshort transaction wire hsigned hspells htext
      exact ⟨transaction, wire, hsigned, hrules, hwire, htext⟩
    · rintro ⟨transaction, wire, hsigned, -, hspells, htext⟩
      exact isOk_parse.mpr ⟨transaction, parseSignedTransaction_eq_ok.mpr
        ⟨wire, hsigned, spells_mono (fun _ _ => spelled_of_shortest) hspells, htext⟩⟩
    · intro transaction hparse
      obtain ⟨wire, hsigned, hspells, htext⟩ := parseSignedTransaction_eq_ok.mp hparse
      rw [encodeTransaction_of_spells (hshort transaction wire hsigned hspells htext).2, htext]

/-- Whether only the format counts or the runtime's rules as well: the parser is exact on a
text precisely when the text spells no length in more bytes than it takes. -/
theorem deposit_parser_exact_iff (addressText : Bytes32 → Text) (text : Text) :
    (Exact addressText (fun _ => True) text ↔
      ∀ transaction wire, Signed transaction → Spells Spelled transaction wire →
        b64encode wire = text → Spells Shortest transaction wire) ∧
    (Exact addressText Sanitized text ↔
      ∀ transaction wire, Signed transaction → Spells Spelled transaction wire →
        b64encode wire = text → Sanitized transaction ∧ Spells Shortest transaction wire) := by
  refine ⟨?_, exact_iff⟩
  rw [exact_iff]
  simp only [true_and]

/-- A deposit of one unit, signed by its owner. -/
def sampleTransaction : LegacyTransaction where
  signatures :=
    beBytes 32 0x58a260656db69eb43b4df1dcd5cbccfadbeba9b7fc67fd0acbb2cb56c728631c ++
      beBytes 32 0xa4d7facaf63e643c330399a178c3656fcba62a0c8c5f1c2dc0e110c4d5ffdd0b
  requiredSignatures := 1
  readonlySigned := 0
  readonlyUnsigned := 1
  accountKeys := [0x03759fed0728796dd086f924e7a29f34ba223fce5c871f7db782a737aa6676d8,
    0x0d1db5b270ec29533703581e1b0d917164c0e8260765cf3e39c92fd9a1f54582]
  recentBlockhash := 0x395bf727f9aac5e80911591073fcf9c826f428804131ca089beba3869421749a
  instructions := [⟨1, [0], beBytes 16 0xc2e872a4f66289c240420f0000000000⟩]

/-- The transaction with its two accounts counted in two bytes. -/
def sampleWire : List Byte :=
  [1] ++ (sampleTransaction.signatures ++ ([1] ++ ([0] ++ ([1] ++ ([0x82, 0x00] ++
    (sampleTransaction.accountKeys.flatMap wordBytes ++
    (wordBytes sampleTransaction.recentBlockhash ++
    ([1] ++ sampleTransaction.instructions.flatMap encodeInstruction))))))))

theorem signed_sampleTransaction : Signed sampleTransaction where
  signers := by decide
  legacy := by decide
  signatures := by simp [sampleTransaction]
  payer := List.cons_ne_nil _ _
  indexes := by
    intro instruction hinstruction
    obtain rfl := List.mem_singleton.mp hinstruction
    exact ⟨by decide, by decide⟩

theorem spells_sampleWire : Spells Spelled sampleTransaction sampleWire := by
  have hone : Spelled 1 [1] := spelled_of_shortest ⟨by decide, rfl⟩
  have htwo : Spelled 2 [0x82, 0x00] := ⟨by simp [Continued], by decide⟩
  have hinstructions : ∀ instruction ∈ sampleTransaction.instructions,
      instruction.accountIndexes.length < 0x10000 ∧ instruction.data.length < 0x10000 := by
    intro instruction hinstruction
    obtain rfl := List.mem_singleton.mp hinstruction
    exact ⟨by decide, by simp⟩
  exact ⟨[1], _, hone, ⟨[0x82, 0x00], [1], _, htwo, hone, spellsInstructions_mono
    (fun _ _ => spelled_of_shortest) (spellsInstructions_flatMap hinstructions), rfl⟩, rfl⟩

/-- The parser accepts it, and what it has read is written back in other bytes. -/
theorem deposit_parser_not_exact : ¬ ∀ text,
    Exact (fun key => hexText (wordBytes key)) (fun _ => True) text := by
  intro hexact
  have hspells := ((exact_iff.mp (hexact (b64encode sampleWire))) sampleTransaction sampleWire
    signed_sampleTransaction spells_sampleWire rfl).2
  have hencode := congrArg List.length (encodeTransaction_of_spells hspells)
  exact absurd hencode (by decide +kernel)

end Exactness

end TsnProtocol.Node.DepositTransaction
