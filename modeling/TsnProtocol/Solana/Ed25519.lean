import TsnProtocol.Lib.ByteReader
import TsnProtocol.Solana.Address

/-!
The instructions of a transaction as programs see them through the instructions sysvar,
and the Ed25519 precompile, which checks signatures in every instruction sent to it before
the transaction runs.
-/

namespace TsnProtocol.Solana.Ed25519

open Lib.ByteReader
open Solana.Address

def ed25519Program : Pubkey :=
  .raw 0x037d46d67c93fbbe12f9428f838d40ff0570744927f48a64fcca704480000000

def instructionsId : Pubkey :=
  .raw 0x06a7d517187bd16635dad40455fdc2c0c124c68f215675a5dbbacb5f08000000

structure Instruction where
  programId : Pubkey
  accounts : List Pubkey
  data : List Byte
  deriving DecidableEq

/-- The top-level instructions of a transaction and the index of the one being run. -/
structure Transaction where
  instructions : List Instruction
  currentIndex : Nat
  deriving DecidableEq

/-- The account passed as instructions sysvar. Only at the address of the sysvar does it
show the transaction. -/
structure SysvarAccount where
  address : Pubkey
  transaction : Transaction
  deriving DecidableEq

def loadCurrentIndexChecked (sysvar : SysvarAccount) : Option Nat := do
  guard (sysvar.address = instructionsId)
  return sysvar.transaction.currentIndex

def loadInstructionAtChecked (index : Nat) (sysvar : SysvarAccount) :
    Option Instruction := do
  guard (sysvar.address = instructionsId)
  sysvar.transaction.instructions[index]?

theorem loadInstructionAtChecked_of_address {sysvar : SysvarAccount}
    (haddress : sysvar.address = instructionsId) (index : Nat) :
    loadInstructionAtChecked index sysvar = sysvar.transaction.instructions[index]? := by
  simp [loadInstructionAtChecked, haddress]

theorem mem_of_loadInstructionAtChecked {index : Nat} {sysvar : SysvarAccount}
    {instruction : Instruction}
    (hload : loadInstructionAtChecked index sysvar = some instruction) :
    instruction ∈ sysvar.transaction.instructions := by
  simp only [loadInstructionAtChecked, Option.bind_eq_bind, Option.bind_eq_some_iff] at hload
  obtain ⟨_, _, hget⟩ := hload
  exact List.mem_of_getElem? hget

/-- Where one record of the precompile's data finds the parts of a signed message. -/
structure SignatureOffsets where
  (signatureOffset signatureInstructionIndex publicKeyOffset publicKeyInstructionIndex
    messageDataOffset messageDataSize messageInstructionIndex : Nat)
  deriving DecidableEq

/-- The fourteen bytes of a record, after a count and a padding byte. -/
def signatureOffsets (data : List Byte) (record : Nat) : Option SignatureOffsets := do
  let start := 2 + 14 * record
  return ⟨← u16At data start, ← u16At data (start + 2), ← u16At data (start + 4),
    ← u16At data (start + 6), ← u16At data (start + 8), ← u16At data (start + 10),
    ← u16At data (start + 12)⟩

/-- Index that stands for the instruction the record is in. -/
def ownInstruction : Nat := 0xffff

/-- Bytes of the instruction a record selects. -/
def getDataSlice (datas : List (List Byte)) (data : List Byte)
    (instructionIndex offset size : Nat) : Option (List Byte) := do
  let selected ← if instructionIndex = ownInstruction then some data
    else datas[instructionIndex]?
  slice selected offset size

structure SignedMessage where
  (signature publicKey message : List Byte)
  deriving DecidableEq

/-- The signed message that one record selects. -/
def signedMessage (datas : List (List Byte)) (data : List Byte) (record : Nat) :
    Option SignedMessage := do
  let offsets ← signatureOffsets data record
  let signature ← getDataSlice datas data offsets.signatureInstructionIndex
    offsets.signatureOffset 64
  let publicKey ← getDataSlice datas data offsets.publicKeyInstructionIndex
    offsets.publicKeyOffset 32
  let message ← getDataSlice datas data offsets.messageInstructionIndex
    offsets.messageDataOffset offsets.messageDataSize
  return ⟨signature, publicKey, message⟩

/-- Number of records announced by the first byte. -/
def recordCount (data : List Byte) : Nat :=
  (data.head?.map BitVec.toNat).getD 0

section Precompile

variable (verifyStrict : SignedMessage → Bool)

/-- The precompile on one instruction, with the data of all of them. -/
def precompileAccepts (datas : List (List Byte)) (data : List Byte) : Bool :=
  decide (2 ≤ data.length) && (recordCount data != 0 || decide (data.length ≤ 2)) &&
    decide (2 + 14 * recordCount data ≤ data.length) &&
    (List.range (recordCount data)).all fun record =>
      match signedMessage datas data record with
      | some signed => verifyStrict signed
      | none => false

def Transaction.datas (transaction : Transaction) : List (List Byte) :=
  transaction.instructions.map Instruction.data

/-- A transaction runs only when the precompile accepts every instruction sent to it. -/
def Transaction.Precompiled (transaction : Transaction) : Prop :=
  ∀ instruction ∈ transaction.instructions, instruction.programId = ed25519Program →
    precompileAccepts verifyStrict transaction.datas instruction.data = true

instance (transaction : Transaction) :
    Decidable (transaction.Precompiled verifyStrict) :=
  inferInstanceAs (Decidable (∀ instruction ∈ transaction.instructions, _ → _))

/-- A record of the transaction selects this key and this message. -/
def Transaction.Selects (transaction : Transaction) (publicKey message : List Byte) : Prop :=
  ∃ instruction ∈ transaction.instructions, instruction.programId = ed25519Program ∧
    ∃ record < recordCount instruction.data, ∃ signed,
      signedMessage transaction.datas instruction.data record = some signed ∧
        signed.publicKey = publicKey ∧ signed.message = message

instance (transaction : Transaction) (publicKey message : List Byte) :
    Decidable (transaction.Selects publicKey message) :=
  decidable_of_iff (∃ instruction ∈ transaction.instructions,
    instruction.programId = ed25519Program ∧ ∃ record ∈ List.range (recordCount instruction.data),
      ((signedMessage transaction.datas instruction.data record).any fun signed =>
        signed.publicKey == publicKey && signed.message == message) = true) (by
    simp [Transaction.Selects, Option.any_eq_true])

/-- The precompile checked a signature of this key over this message. -/
def Transaction.Verified (transaction : Transaction) (publicKey message : List Byte) : Prop :=
  ∃ instruction ∈ transaction.instructions, instruction.programId = ed25519Program ∧
    ∃ record < recordCount instruction.data, ∃ signed,
      signedMessage transaction.datas instruction.data record = some signed ∧
        signed.publicKey = publicKey ∧ signed.message = message ∧
          verifyStrict signed = true

variable {verifyStrict}

theorem verifyStrict_of_precompiled {transaction : Transaction}
    (hprecompiled : transaction.Precompiled verifyStrict) {instruction : Instruction}
    (hmem : instruction ∈ transaction.instructions)
    (hprogram : instruction.programId = ed25519Program) {record : Nat}
    (hrecord : record < recordCount instruction.data) {signed : SignedMessage}
    (hsigned : signedMessage transaction.datas instruction.data record = some signed) :
    verifyStrict signed = true := by
  have haccepts := hprecompiled instruction hmem hprogram
  simp only [precompileAccepts, Bool.and_eq_true, List.all_eq_true, List.mem_range] at haccepts
  have hall := haccepts.2 record hrecord
  rwa [hsigned] at hall

theorem verified_iff_selects {transaction : Transaction}
    (hprecompiled : transaction.Precompiled verifyStrict) {publicKey message : List Byte} :
    transaction.Verified verifyStrict publicKey message ↔
      transaction.Selects publicKey message := by
  constructor
  · rintro ⟨instruction, hmem, hprogram, record, hrecord, signed, hsigned, hkey, hmessage, _⟩
    exact ⟨instruction, hmem, hprogram, record, hrecord, signed, hsigned, hkey, hmessage⟩
  · rintro ⟨instruction, hmem, hprogram, record, hrecord, signed, hsigned, hkey, hmessage⟩
    exact ⟨instruction, hmem, hprogram, record, hrecord, signed, hsigned, hkey, hmessage,
      verifyStrict_of_precompiled hprecompiled hmem hprogram hrecord hsigned⟩

/-- Every record the precompile has accepted selects a signed message. -/
theorem exists_signedMessage_of_precompiled {transaction : Transaction}
    (hprecompiled : transaction.Precompiled verifyStrict) {instruction : Instruction}
    (hmem : instruction ∈ transaction.instructions)
    (hprogram : instruction.programId = ed25519Program) {record : Nat}
    (hrecord : record < recordCount instruction.data) :
    ∃ signed, signedMessage transaction.datas instruction.data record = some signed := by
  have haccepts := hprecompiled instruction hmem hprogram
  simp only [precompileAccepts, Bool.and_eq_true, List.all_eq_true, List.mem_range] at haccepts
  have hall := haccepts.2 record hrecord
  cases hsigned : signedMessage transaction.datas instruction.data record with
  | none => simp [hsigned] at hall
  | some signed => exact ⟨signed, rfl⟩

end Precompile

end TsnProtocol.Solana.Ed25519
