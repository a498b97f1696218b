import TsnProtocol.Gpru.Verifier
import TsnProtocol.Solana.Ed25519

/-!
The owner's approval of a TIN creation. The TIP program looks for an instruction to the
Ed25519 precompile that carries the owner's key and the approval text, and does not read
which instructions that record selects.
-/

namespace TsnProtocol.Tip.OwnerApproval

open Gpru.Verifier (asciiBytes tipProgram)
open Lib.ByteReader
open Solana.Address
open Solana.Ed25519

/-- The text an owner signs to approve a creation request. -/
def canonicalOwnerIntentMessage (intentHash : Bytes32) : List Byte :=
  asciiBytes ("TrustLink TIN creation approval\n\nYou are approving the encrypted creation " ++
    "request for your TIN.\n\nREQUEST DETAILS\nIntent reference: ") ++
  hexBytes (wordBytes intentHash) ++
  asciiBytes ("\n\nProtocol: Transfer Identity Protocol (TIP)\n\nVersion: 1\n\nNEXT STEP\n" ++
    "TSN will verify this approval before submission to Solana.\n\n" ++
    "No funds are transferred by this approval.")

/-- The bytes the record's offsets name in the instruction itself. -/
def verifyEd25519 (data : List Byte) (owner : Bytes32) (message : List Byte) : Bool :=
  Option.isSome do
    guard (112 ≤ data.length ∧ data[0]? = some 1)
    let publicKeyOffset ← u16At data 6
    let messageOffset ← u16At data 10
    let messageSize ← u16At data 12
    let publicKey ← slice data publicKeyOffset 32
    let signed ← slice data messageOffset messageSize
    guard (publicKey = wordBytes owner ∧ signed = message)

/-- Whether an instruction before the one being run approves; `none` where the account is not
the instructions sysvar. -/
def verifyOwnerIntent (sysvar : SysvarAccount) (owner expected : Bytes32) : Option Bool := do
  let currentIndex ← loadCurrentIndexChecked sysvar
  let readableMessage := canonicalOwnerIntentMessage expected
  return (List.range currentIndex).any fun index =>
    match loadInstructionAtChecked index sysvar with
    | some instruction => decide (instruction.programId = ed25519Program) &&
        verifyEd25519 instruction.data owner readableMessage
    | none => false

/-- An approval the program accepts was signed by the owner. -/
def ApprovalSound (verifyStrict : SignedMessage → Bool) (sysvar : SysvarAccount)
    (owner expected : Bytes32) : Prop :=
  verifyOwnerIntent sysvar owner expected = some true →
    sysvar.transaction.Verified verifyStrict (wordBytes owner)
      (canonicalOwnerIntentMessage expected)

/-- A single record whose offsets lead to the key and the message inside the data. -/
structure Carries (data publicKey message : List Byte) : Prop where
  length_le : 112 ≤ data.length
  single : recordCount data = 1
  placed : ∃ offsets, signatureOffsets data 0 = some offsets ∧
    slice data offsets.publicKeyOffset 32 = some publicKey ∧
      slice data offsets.messageDataOffset offsets.messageDataSize = some message

/-- An instruction to the precompile before the one being run carries the key and the
message. -/
def Carried (sysvar : SysvarAccount) (publicKey message : List Byte) : Prop :=
  sysvar.address = instructionsId ∧ ∃ index < sysvar.transaction.currentIndex,
    ∃ instruction, sysvar.transaction.instructions[index]? = some instruction ∧
      instruction.programId = ed25519Program ∧ Carries instruction.data publicKey message

/-- The first record takes key and message from the instruction it is in, at position
`index`. -/
def ReadsItself (index : Nat) (data : List Byte) : Prop :=
  ∀ offsets, signatureOffsets data 0 = some offsets →
    (offsets.publicKeyInstructionIndex = ownInstruction ∨
      offsets.publicKeyInstructionIndex = index) ∧
    (offsets.messageInstructionIndex = ownInstruction ∨
      offsets.messageInstructionIndex = index)

theorem recordCount_eq_one {data : List Byte} (hone : data[0]? = some 1) :
    recordCount data = 1 := by
  rw [recordCount, List.head?_eq_getElem?, hone]
  rfl

theorem getElem?_of_recordCount {data : List Byte} (hcount : recordCount data = 1) :
    data[0]? = some 1 := by
  rw [recordCount, List.head?_eq_getElem?] at hcount
  cases hfirst : data[0]? with
  | none => simp [hfirst] at hcount
  | some byte =>
      rw [hfirst] at hcount
      exact congrArg some (BitVec.eq_of_toNat_eq hcount)

/-- Long enough data has all the fields of its first record. -/
theorem exists_signatureOffsets {data : List Byte} (hlength : 112 ≤ data.length) :
    ∃ offsets, signatureOffsets data 0 = some offsets := by
  have hfield {offset : Nat} (hoffset : offset ≤ 14) : ∃ value, u16At data offset = some value :=
    Option.isSome_iff_exists.mp (isSome_u16At.mpr (by omega))
  obtain ⟨signatureOffset, hs⟩ := hfield (show 2 ≤ 14 by decide)
  obtain ⟨signatureIndex, hsi⟩ := hfield (show 4 ≤ 14 by decide)
  obtain ⟨publicKeyOffset, hp⟩ := hfield (show 6 ≤ 14 by decide)
  obtain ⟨publicKeyIndex, hpi⟩ := hfield (show 8 ≤ 14 by decide)
  obtain ⟨messageOffset, hm⟩ := hfield (show 10 ≤ 14 by decide)
  obtain ⟨messageSize, hms⟩ := hfield (show 12 ≤ 14 by decide)
  obtain ⟨messageIndex, hmi⟩ := hfield (show 14 ≤ 14 by decide)
  exact ⟨_, by simp [signatureOffsets, hs, hsi, hp, hpi, hm, hms, hmi]; rfl⟩

theorem u16At_of_signatureOffsets {data : List Byte} {offsets : SignatureOffsets}
    (hoffsets : signatureOffsets data 0 = some offsets) :
    u16At data 6 = some offsets.publicKeyOffset ∧
      u16At data 10 = some offsets.messageDataOffset ∧
        u16At data 12 = some offsets.messageDataSize := by
  simp only [signatureOffsets, Option.bind_eq_bind, Option.bind_eq_some_iff,
    Option.pure_def, Option.some.injEq] at hoffsets
  obtain ⟨_, _, _, _, _, hkey, _, _, _, hmessage, _, hsize, _, _, rfl⟩ := hoffsets
  exact ⟨hkey, hmessage, hsize⟩

theorem verifyEd25519_iff {data : List Byte} {owner : Bytes32} {message : List Byte} :
    verifyEd25519 data owner message = true ↔ Carries data (wordBytes owner) message := by
  simp only [verifyEd25519, Option.isSome_iff_exists, Option.bind_eq_bind,
    Option.bind_eq_some_iff, Option.guard_eq_some']
  constructor
  · rintro ⟨_, _, ⟨hlength, hone⟩, keyOffset, hkey, messageOffset, hmessage, size, hsize,
      publicKey, hpublic, signed, hsigned, rfl, rfl⟩
    obtain ⟨offsets, hoffsets⟩ := exists_signatureOffsets hlength
    obtain ⟨hk, hm, hs⟩ := u16At_of_signatureOffsets hoffsets
    rw [hk] at hkey
    rw [hm] at hmessage
    rw [hs] at hsize
    cases hkey
    cases hmessage
    cases hsize
    exact ⟨hlength, recordCount_eq_one hone, offsets, hoffsets, hpublic, hsigned⟩
  · rintro ⟨hlength, hsingle, offsets, hoffsets, hpublic, hsigned⟩
    obtain ⟨hk, hm, hs⟩ := u16At_of_signatureOffsets hoffsets
    exact ⟨(), (), ⟨hlength, getElem?_of_recordCount hsingle⟩, _, hk, _, hm, _, hs, _, hpublic,
      _, hsigned, rfl, rfl⟩

theorem verifyOwnerIntent_iff {sysvar : SysvarAccount} {owner expected : Bytes32} :
    verifyOwnerIntent sysvar owner expected = some true ↔
      Carried sysvar (wordBytes owner) (canonicalOwnerIntentMessage expected) := by
  simp only [verifyOwnerIntent, loadCurrentIndexChecked, Option.bind_eq_bind,
    Option.bind_eq_some_iff, Option.guard_eq_some', Option.pure_def, Option.some.injEq,
    List.any_eq_true, List.mem_range, Carried]
  constructor
  · rintro ⟨_, ⟨_, haddress, rfl⟩, index, hindex, haccepted⟩
    refine ⟨haddress, index, hindex, ?_⟩
    rw [loadInstructionAtChecked_of_address haddress] at haccepted
    cases hget : sysvar.transaction.instructions[index]? with
    | none => simp [hget] at haccepted
    | some instruction =>
        simp only [hget, Bool.and_eq_true, decide_eq_true_eq] at haccepted
        exact ⟨instruction, rfl, haccepted.1, verifyEd25519_iff.mp haccepted.2⟩
  · rintro ⟨haddress, index, hindex, instruction, hget, hprogram, hcarries⟩
    refine ⟨_, ⟨(), haddress, rfl⟩, index, hindex, ?_⟩
    simp [loadInstructionAtChecked_of_address haddress, hget, hprogram,
      verifyEd25519_iff.mpr hcarries]

theorem getDataSlice_own {transaction : Transaction} {index : Nat} {instruction : Instruction}
    (hget : transaction.instructions[index]? = some instruction) {selected offset size : Nat}
    (hselected : selected = ownInstruction ∨ selected = index) :
    getDataSlice transaction.datas instruction.data selected offset size =
      slice instruction.data offset size := by
  simp only [getDataSlice]
  split
  · rfl
  · rename_i hother
    rw [hselected.resolve_left hother, Transaction.datas, List.getElem?_map, hget]
    rfl

/-- A record that reads the instruction it is in selects what the instruction carries. -/
theorem selects_of_readsItself {transaction : Transaction} {index : Nat}
    {instruction : Instruction} (hget : transaction.instructions[index]? = some instruction)
    (hprogram : instruction.programId = ed25519Program) {publicKey message : List Byte}
    (hcarries : Carries instruction.data publicKey message)
    (hitself : ReadsItself index instruction.data) {signed : SignedMessage}
    (hsigned : signedMessage transaction.datas instruction.data 0 = some signed) :
    transaction.Selects publicKey message := by
  refine ⟨instruction, List.mem_of_getElem? hget, hprogram, 0, by simp [hcarries.single],
    signed, hsigned, ?_⟩
  obtain ⟨offsets, hoffsets, hkey, hmessage⟩ := hcarries.placed
  obtain ⟨hkeyOwn, hmessageOwn⟩ := hitself offsets hoffsets
  simp only [signedMessage, hoffsets, getDataSlice_own hget hkeyOwn,
    getDataSlice_own hget hmessageOwn, hkey, hmessage, Option.bind_eq_bind, Option.bind_some,
    Option.pure_def, Option.bind_eq_some_iff, Option.some.injEq] at hsigned
  obtain ⟨signature, _, rfl⟩ := hsigned
  exact ⟨rfl, rfl⟩

/-- The owner in whose name a TIN is created. -/
def absentOwner : Bytes32 :=
  0x3d4017c3e843895a92b70aa74d1b7ebc9c982ccf2ec4968cc0cd55f12af4660c

/-- Somebody else's key. -/
def strangerKey : Bytes32 :=
  0xd75a980182b10ab7d54bfed3c964073a0ee172f3daa62325af021a68f707511a

/-- The stranger's signature over the approval of intent hash one. -/
def strangerSignature : List Byte :=
  wordBytes 0x7394782dd3aab92371752c6698c70652ded479109a93f6cca6590f10e0cfecf7 ++
    wordBytes 0x30b33784b332649f9b1d88b06bb2a979a868a4aad233b3c5607617772ef9200c

/-- An approval with the key in front of signature and text, and the index of the
instruction the key is taken from. -/
def approvalData (keyIndex : List Byte) (key : Bytes32) : List Byte :=
  [1, 0, 48, 0, 255, 255, 16, 0] ++ keyIndex ++ [112, 0, 109, 1, 255, 255] ++ wordBytes key ++
    strangerSignature ++ canonicalOwnerIntentMessage 1

/-- The stranger approves in the first instruction; the second carries the owner's key but
selects the one of the first. -/
def strangerSysvar : SysvarAccount :=
  ⟨instructionsId,
    ⟨[⟨ed25519Program, [], approvalData [255, 255] strangerKey⟩,
      ⟨ed25519Program, [], approvalData [0, 0] absentOwner⟩, ⟨tipProgram, [], []⟩], 2⟩⟩

/-- Ed25519 on the inputs that occur in the sample. -/
def strangerVerifyStrict (signed : SignedMessage) : Bool :=
  signed = ⟨strangerSignature, wordBytes strangerKey, canonicalOwnerIntentMessage 1⟩

/-- The precompile accepts the transaction, and so does the program in the owner's name, but
only the stranger's key is selected. -/
theorem stranger_run :
    strangerSysvar.transaction.Precompiled strangerVerifyStrict ∧
      verifyOwnerIntent strangerSysvar absentOwner 1 = some true ∧
        strangerSysvar.transaction.Selects (wordBytes strangerKey)
          (canonicalOwnerIntentMessage 1) ∧
        ¬ strangerSysvar.transaction.Selects (wordBytes absentOwner)
          (canonicalOwnerIntentMessage 1) := by
  unfold verifyOwnerIntent strangerSysvar strangerVerifyStrict approvalData
  generalize hmessage : canonicalOwnerIntentMessage 1 = message
  -- the texts are taken apart by a lemma before the run is evaluated
  unfold canonicalOwnerIntentMessage asciiBytes at hmessage
  conv at hmessage =>
    enter [1, 1, 1]
    rw [String.toList_append]
    conv => enter [2, 1]; rw [String.toList_ofList]
    conv => enter [2, 2]; rw [String.toList_ofList]
  conv at hmessage =>
    enter [1, 2]
    rw [String.toList_append, String.toList_append]
    conv => enter [2, 1, 1]; rw [String.toList_ofList]
    conv => enter [2, 1, 2]; rw [String.toList_ofList]
    conv => enter [2, 2]; rw [String.toList_ofList]
  subst hmessage
  decide +kernel

end TsnProtocol.Tip.OwnerApproval
