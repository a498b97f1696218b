import TsnProtocol.Solana.Ed25519

/-!
Permits of the TSN program. A permit is an instruction to the Ed25519 precompile in the same
transaction; the program only compares the bytes it names with the ones it expects.
-/

namespace TsnProtocol.Tsn.Permit

open Lib.ByteReader
open Lib.Checked
open Solana.Address
open Solana.Ed25519

/-- How a check ends early; `outOfRange` is the panic of an index or slice expression. -/
inductive PermitFailure where
  | unsupportedSysvar | missingPermitVerification | invalidPermitVerification | outOfRange
  deriving DecidableEq

abbrev Result := Except PermitFailure

def indexed {α : Type} (value : Option α) : Result α :=
  okOr value .outOfRange

/-- The checks both functions start with: the data of the instruction and where its only
record finds the parts of the signed message. -/
def canonicalInstruction (sysvar : SysvarAccount) (index : Nat) :
    Result (List Byte × SignatureOffsets) := do
  let instruction ← okOr (loadInstructionAtChecked index sysvar) .unsupportedSysvar
  require (instruction.programId = ed25519Program) .missingPermitVerification
  require (instruction.accounts = []) .invalidPermitVerification
  let data := instruction.data
  require (16 ≤ data.length) .invalidPermitVerification
  let count ← indexed data[0]?
  require (count = 1) .invalidPermitVerification
  let signatureOffset ← indexed (u16At data 2)
  let signatureInstructionIndex ← indexed (u16At data 4)
  let publicKeyOffset ← indexed (u16At data 6)
  let publicKeyInstructionIndex ← indexed (u16At data 8)
  let messageOffset ← indexed (u16At data 10)
  let messageSize ← indexed (u16At data 12)
  let messageInstructionIndex ← indexed (u16At data 14)
  require (signatureInstructionIndex = ownInstruction ∧
    publicKeyInstructionIndex = ownInstruction ∧ messageInstructionIndex = ownInstruction)
    .invalidPermitVerification
  require (signatureOffset + 64 ≤ data.length ∧ publicKeyOffset + 32 ≤ data.length ∧
    messageOffset + messageSize ≤ data.length) .invalidPermitVerification
  return (data, ⟨signatureOffset, signatureInstructionIndex, publicKeyOffset,
    publicKeyInstructionIndex, messageOffset, messageSize, messageInstructionIndex⟩)

/-- Compare a slice of the instruction with the bytes it has to hold. -/
def requireSlice (data : List Byte) (offset size : Nat) (expected : List Byte) :
    Result Unit := do
  let field ← indexed (slice data offset size)
  require (field = expected) .invalidPermitVerification

def verifyEd25519PermitAt (sysvar : SysvarAccount) (index : Nat) (permitSigner : Bytes32)
    (signature : Vector Byte 64) (message : List Byte) : Result Unit := do
  let (data, offsets) ← canonicalInstruction sysvar index
  requireSlice data offsets.signatureOffset 64 signature.toList
  requireSlice data offsets.publicKeyOffset 32 (wordBytes permitSigner)
  requireSlice data offsets.messageDataOffset offsets.messageDataSize message

def verifyEd25519MessageAt (sysvar : SysvarAccount) (index : Nat) (permitSigner : Bytes32)
    (message : List Byte) : Result Unit := do
  let (data, offsets) ← canonicalInstruction sysvar index
  requireSlice data offsets.publicKeyOffset 32 (wordBytes permitSigner)
  requireSlice data offsets.messageDataOffset offsets.messageDataSize message

/-- The permit in the instruction before the one being run. -/
def verifyEd25519Permit (sysvar : SysvarAccount) (permitSigner : Bytes32)
    (signature : Vector Byte 64) (message : List Byte) : Result Unit := do
  let current ← okOr (loadCurrentIndexChecked sysvar) .unsupportedSysvar
  require (1 ≤ current) .missingPermitVerification
  verifyEd25519PermitAt sysvar (current - 1) permitSigner signature message

/-- What the checks at the start establish: the instruction is one of the transaction's, sent
to the precompile, with one record that selects only the instruction itself. -/
structure Canonical (sysvar : SysvarAccount) (data : List Byte) (offsets : SignatureOffsets) :
    Prop where
  sent : ∃ instruction ∈ sysvar.transaction.instructions,
    instruction.programId = ed25519Program ∧ instruction.data = data
  single : recordCount data = 1
  offsets_eq : signatureOffsets data 0 = some offsets
  signatureOwn : offsets.signatureInstructionIndex = ownInstruction
  publicKeyOwn : offsets.publicKeyInstructionIndex = ownInstruction
  messageOwn : offsets.messageInstructionIndex = ownInstruction
  signature_le : offsets.signatureOffset + 64 ≤ data.length
  publicKey_le : offsets.publicKeyOffset + 32 ≤ data.length
  message_le : offsets.messageDataOffset + offsets.messageDataSize ≤ data.length

theorem canonical_of_canonicalInstruction {sysvar : SysvarAccount} {index : Nat}
    {data : List Byte} {offsets : SignatureOffsets}
    (hok : canonicalInstruction sysvar index = .ok (data, offsets)) :
    Canonical sysvar data offsets := by
  simp only [canonicalInstruction, indexed, bind_eq_ok, okOr_eq_ok, require_eq_ok,
    pure_eq_ok] at hok
  obtain ⟨instruction, hload, _, hprogram, _, _, _, hlength, count, hcount, _, hone,
    signatureOffset, hs, signatureIndex, hsi, publicKeyOffset, hp, publicKeyIndex, hpi,
    messageOffset, hm, messageSize, hms, messageIndex, hmi, _, hown, _, hbounds, hpair⟩ := hok
  obtain ⟨rfl, rfl⟩ := Prod.mk.inj hpair
  refine ⟨⟨instruction, mem_of_loadInstructionAtChecked hload, hprogram, rfl⟩, ?_, ?_,
    hown.1, hown.2.1, hown.2.2, hbounds.1, hbounds.2.1, hbounds.2.2⟩
  · rw [recordCount, List.head?_eq_getElem?, hcount, hone]
    rfl
  · simp [signatureOffsets, hs, hsi, hp, hpi, hm, hms, hmi]

theorem avoids_canonicalInstruction (sysvar : SysvarAccount) (index : Nat) :
    Avoids .outOfRange (canonicalInstruction sysvar index) := by
  have hu16 {data : List Byte} {offset : Nat} (hlength : 16 ≤ data.length)
      (hoffset : offset ≤ 14) : Avoids .outOfRange (indexed (u16At data offset)) :=
    avoids_okOr_of_isSome (isSome_u16At.mpr (by omega))
  refine avoids_bind (avoids_okOr (by decide)) fun instruction _ => ?_
  refine avoids_bind (avoids_require (by decide)) fun _ _ => ?_
  refine avoids_bind (avoids_require (by decide)) fun _ _ => ?_
  refine avoids_bind (avoids_require (by decide)) fun _ hsize => ?_
  have hlength : 16 ≤ instruction.data.length := require_eq_ok.mp hsize
  refine avoids_bind (avoids_okOr_of_isSome ?_) fun count _ => ?_
  · rw [Option.isSome_iff_ne_none, ne_eq, List.getElem?_eq_none_iff]
    omega
  refine avoids_bind (avoids_require (by decide)) fun _ _ => ?_
  refine avoids_bind (hu16 hlength (by decide)) fun _ _ => ?_
  refine avoids_bind (hu16 hlength (by decide)) fun _ _ => ?_
  refine avoids_bind (hu16 hlength (by decide)) fun _ _ => ?_
  refine avoids_bind (hu16 hlength (by decide)) fun _ _ => ?_
  refine avoids_bind (hu16 hlength (by decide)) fun _ _ => ?_
  refine avoids_bind (hu16 hlength (by decide)) fun _ _ => ?_
  refine avoids_bind (hu16 hlength (by decide)) fun _ _ => ?_
  refine avoids_bind (avoids_require (by decide)) fun _ _ => ?_
  exact avoids_bind (avoids_require (by decide)) fun _ _ => avoids_pure

theorem avoids_requireSlice {data expected : List Byte} {offset size : Nat}
    (hbound : offset + size ≤ data.length) :
    Avoids .outOfRange (requireSlice data offset size expected) :=
  avoids_bind (avoids_okOr_of_isSome (isSome_slice.mpr hbound)) fun _ _ =>
    avoids_require (by decide)

theorem requireSlice_eq_ok {data expected : List Byte} {offset size : Nat} :
    requireSlice data offset size expected = .ok () ↔
      slice data offset size = some expected := by
  simp [requireSlice, indexed]

/-- A slice at the offsets of a canonical instruction is what the precompile selects. -/
theorem signedMessage_of_canonical {sysvar : SysvarAccount} {data : List Byte}
    {offsets : SignatureOffsets} (hcanonical : Canonical sysvar data offsets)
    {publicKey message : List Byte}
    (hkey : slice data offsets.publicKeyOffset 32 = some publicKey)
    (hmessage : slice data offsets.messageDataOffset offsets.messageDataSize = some message)
    (datas : List (List Byte)) :
    ∃ signature, slice data offsets.signatureOffset 64 = some signature ∧
      signedMessage datas data 0 = some ⟨signature, publicKey, message⟩ := by
  obtain ⟨signature, hsignature⟩ :=
    Option.isSome_iff_exists.mp (isSome_slice.mpr hcanonical.signature_le)
  refine ⟨signature, hsignature, ?_⟩
  simp [signedMessage, getDataSlice, hcanonical.offsets_eq, hcanonical.signatureOwn,
    hcanonical.publicKeyOwn, hcanonical.messageOwn, hsignature, hkey, hmessage]

theorem verified_of_canonical {verifyStrict : SignedMessage → Bool} {sysvar : SysvarAccount}
    (hprecompiled : sysvar.transaction.Precompiled verifyStrict) {data : List Byte}
    {offsets : SignatureOffsets} (hcanonical : Canonical sysvar data offsets)
    {publicKey message : List Byte}
    (hkey : slice data offsets.publicKeyOffset 32 = some publicKey)
    (hmessage : slice data offsets.messageDataOffset offsets.messageDataSize = some message) :
    sysvar.transaction.Verified verifyStrict publicKey message := by
  obtain ⟨instruction, hmem, hprogram, rfl⟩ := hcanonical.sent
  obtain ⟨signature, _, hsigned⟩ :=
    signedMessage_of_canonical hcanonical hkey hmessage sysvar.transaction.datas
  rw [verified_iff_selects hprecompiled]
  exact ⟨instruction, hmem, hprogram, 0, by simp [hcanonical.single], _, hsigned, rfl, rfl⟩

theorem avoids_verifyEd25519MessageAt (sysvar : SysvarAccount) (index : Nat)
    (permitSigner : Bytes32) (message : List Byte) :
    Avoids .outOfRange (verifyEd25519MessageAt sysvar index permitSigner message) := by
  refine avoids_bind (avoids_canonicalInstruction sysvar index) ?_
  rintro ⟨data, offsets⟩ hok
  have hcanonical := canonical_of_canonicalInstruction hok
  refine avoids_bind (avoids_requireSlice hcanonical.publicKey_le) fun _ _ => ?_
  exact avoids_requireSlice hcanonical.message_le

theorem avoids_verifyEd25519PermitAt (sysvar : SysvarAccount) (index : Nat)
    (permitSigner : Bytes32) (signature : Vector Byte 64) (message : List Byte) :
    Avoids .outOfRange
      (verifyEd25519PermitAt sysvar index permitSigner signature message) := by
  refine avoids_bind (avoids_canonicalInstruction sysvar index) ?_
  rintro ⟨data, offsets⟩ hok
  have hcanonical := canonical_of_canonicalInstruction hok
  refine avoids_bind (avoids_requireSlice hcanonical.signature_le) fun _ _ => ?_
  refine avoids_bind (avoids_requireSlice hcanonical.publicKey_le) fun _ _ => ?_
  exact avoids_requireSlice hcanonical.message_le

theorem verifyEd25519MessageAt_of_permitAt {sysvar : SysvarAccount} {index : Nat}
    {permitSigner : Bytes32} {signature : Vector Byte 64} {message : List Byte}
    (hok : verifyEd25519PermitAt sysvar index permitSigner signature message = .ok ()) :
    verifyEd25519MessageAt sysvar index permitSigner message = .ok () := by
  simp only [verifyEd25519PermitAt, verifyEd25519MessageAt, bind_eq_ok] at hok ⊢
  obtain ⟨found, hfound, _, _, hrest⟩ := hok
  exact ⟨found, hfound, hrest⟩

theorem verified_of_verifyEd25519MessageAt {verifyStrict : SignedMessage → Bool}
    {sysvar : SysvarAccount} (hprecompiled : sysvar.transaction.Precompiled verifyStrict)
    {index : Nat} {permitSigner : Bytes32} {message : List Byte}
    (hok : verifyEd25519MessageAt sysvar index permitSigner message = .ok ()) :
    sysvar.transaction.Verified verifyStrict (wordBytes permitSigner) message := by
  simp only [verifyEd25519MessageAt, bind_eq_ok] at hok
  obtain ⟨⟨data, offsets⟩, hfound, _, hkey, hmessage⟩ := hok
  exact verified_of_canonical hprecompiled (canonical_of_canonicalInstruction hfound)
    (requireSlice_eq_ok.mp hkey) (requireSlice_eq_ok.mp hmessage)

/-- Both permit checks stay inside the instruction data, whatever it is, and accept only
what the precompile has verified: a signature of the expected signer over the expected
message. -/
theorem permit_sound (verifyStrict : SignedMessage → Bool) (sysvar : SysvarAccount)
    (index : Nat) (permitSigner : Bytes32) (signature : Vector Byte 64)
    (message : List Byte) :
    (verifyEd25519PermitAt sysvar index permitSigner signature message ≠
        .error .outOfRange ∧
      verifyEd25519MessageAt sysvar index permitSigner message ≠ .error .outOfRange) ∧
    (sysvar.transaction.Precompiled verifyStrict →
      verifyEd25519PermitAt sysvar index permitSigner signature message = .ok () ∨
        verifyEd25519MessageAt sysvar index permitSigner message = .ok () →
      sysvar.transaction.Verified verifyStrict (wordBytes permitSigner) message) := by
  refine ⟨⟨avoids_verifyEd25519PermitAt sysvar index permitSigner signature message,
    avoids_verifyEd25519MessageAt sysvar index permitSigner message⟩, ?_⟩
  rintro hprecompiled (hpermit | hmessage)
  · exact verified_of_verifyEd25519MessageAt hprecompiled
      (verifyEd25519MessageAt_of_permitAt hpermit)
  · exact verified_of_verifyEd25519MessageAt hprecompiled hmessage

/-- The signer of the sample permit. -/
def sampleSigner : Bytes32 :=
  0xd75a980182b10ab7d54bfed3c964073a0ee172f3daa62325af021a68f707511a

/-- The signer's signature over the three letters of the sample message. -/
def sampleSignature : Vector Byte 64 :=
  ⟨(wordBytes 0xa5985857202de299a86b92c6d38adca596553e43b634fd0080e4103d22edb9d1 ++
    wordBytes 0x88577c951b52ca8e1ba3d156c57490f12775f91cf1db74133951d4f404615601).toArray, by
      decide +kernel⟩

def sampleMessage : List Byte := [84, 83, 78]

/-- A transaction with one permit, followed by the instruction that needs it. -/
def sampleSysvar : SysvarAccount :=
  ⟨instructionsId,
    ⟨[⟨ed25519Program, [],
        [1, 0, 48, 0, 255, 255, 16, 0, 255, 255, 112, 0, 3, 0, 255, 255] ++
          wordBytes sampleSigner ++ sampleSignature.toList ++ sampleMessage⟩,
      ⟨tsnProgram, [], []⟩], 1⟩⟩

/-- Ed25519 on the inputs that occur in the sample. -/
def sampleVerifyStrict (signed : SignedMessage) : Bool :=
  signed = ⟨sampleSignature.toList, wordBytes sampleSigner, sampleMessage⟩

theorem permit_sound_sample :
    verifyEd25519Permit sampleSysvar sampleSigner sampleSignature sampleMessage = .ok () ∧
      sampleSysvar.transaction.Verified sampleVerifyStrict (wordBytes sampleSigner)
        sampleMessage :=
  ⟨by decide +kernel,
    (permit_sound sampleVerifyStrict sampleSysvar 0 sampleSigner sampleSignature
      sampleMessage).2 (by decide +kernel) (.inl (by decide +kernel))⟩

end TsnProtocol.Tsn.Permit
