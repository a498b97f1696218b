import TsnProtocol.Lib.EvmMemory

/-!
What the proof-checking contracts on Creditcoin share: a transaction of a source chain with its
receipt, the proof that a call brings for it, and the query id that keeps a transaction from
being processed twice. The native verifier and the receipt decoder are code of other packages
and stay parameters.
-/

namespace TsnProtocol.Crosschain.ProvedEvents

open Lib.ByteReader
open Lib.Evm
open Lib.EvmMemory

structure LogEntry where
  address_ : Address
  topics : List Bytes32
  data : List Byte
  deriving DecidableEq

structure ReceiptFields where
  receiptStatus : BitVec 8
  receiptLogs : List LogEntry
  deriving DecidableEq

/-- Whether a log carries an event. -/
def carries (signature : Bytes32) (log : LogEntry) : Bool :=
  log.topics.head? = some signature

/-- The decoder of encoded transactions: it picks the logs of an event in their order. -/
structure EvmV1Decoder where
  decodeReceiptFields : List Byte → Option ReceiptFields
  getLogsByEventSignature : ReceiptFields → Bytes32 → List LogEntry
  getLogsByEventSignature_eq : ∀ receipt signature,
    getLogsByEventSignature receipt signature = receipt.receiptLogs.filter (carries signature)

structure MerkleProofEntry where
  hash : Bytes32
  isLeft : Bool
  deriving DecidableEq

structure MerkleProof where
  root : Bytes32
  siblings : List MerkleProofEntry
  deriving DecidableEq

structure ContinuityProof where
  lowerEndpointDigest : Bytes32
  roots : List Bytes32
  deriving DecidableEq

/-- What a contract on Creditcoin calls: the hash, the index that a Merkle proof leads to, and
the decoder. -/
structure Environment where
  keccak256 : List Byte → Bytes32
  calculateTxIndex : MerkleProof → Uint256
  decoder : EvmV1Decoder

/-- A transaction in a block of a source chain, as a proof encodes it. -/
structure Position where
  (chainKey blockHeight : BitVec 64)
  txIndex : Uint256
  encodedTransaction : List Byte
  deriving DecidableEq

/-- The arguments of a call that brings a proof. -/
structure ProofCall where
  action : BitVec 8
  (chainKey blockHeight : BitVec 64)
  encodedTransaction : List Byte
  merkleProof : MerkleProof
  continuityProof : ContinuityProof

/-- The transaction that a call claims to be included. -/
def claimed (environment : Environment) (call : ProofCall) : Position where
  chainKey := call.chainKey
  blockHeight := call.blockHeight
  txIndex := environment.calculateTxIndex call.merkleProof
  encodedTransaction := call.encodedTransaction

/-- A block of a chain has one transaction at each index. -/
def Placed (included : List (Position × ReceiptFields)) : Prop :=
  ∀ entry ∈ included, ∀ entry' ∈ included, entry.1.chainKey = entry'.1.chainKey →
    entry.1.blockHeight = entry'.1.blockHeight → entry.1.txIndex = entry'.1.txIndex →
      entry = entry'

theorem placed_cons {included : List (Position × ReceiptFields)}
    {entry : Position × ReceiptFields} (hplaced : Placed included)
    (hfree : ∀ other ∈ included, ¬ (other.1.chainKey = entry.1.chainKey ∧
      other.1.blockHeight = entry.1.blockHeight ∧ other.1.txIndex = entry.1.txIndex)) :
    Placed (entry :: included) := by
  intro left hleft right hright hchain hheight hindex
  rcases List.mem_cons.mp hleft with rfl | hearlier
  · rcases List.mem_cons.mp hright with rfl | hother
    · rfl
    · exact absurd ⟨hchain.symm, hheight.symm, hindex.symm⟩ (hfree right hother)
  · rcases List.mem_cons.mp hright with rfl | hother
    · exact absurd ⟨hchain, hheight, hindex⟩ (hfree left hearlier)
    · exact hplaced left hearlier right hother hchain hheight hindex

/-- What the other packages do for the transactions that are included: each has a proof that
leads to its index, and the decoder returns its receipt. -/
structure Serves (environment : Environment) (included : List (Position × ReceiptFields)) :
    Prop where
  provable : ∀ entry ∈ included, ∃ merkleProof,
    environment.calculateTxIndex merkleProof = entry.1.txIndex
  decoded : ∀ entry ∈ included,
    environment.decoder.decodeReceiptFields entry.1.encodedTransaction = some entry.2

/-- A call with a proof of an included transaction. -/
theorem exists_call {environment : Environment} {included : List (Position × ReceiptFields)}
    {entry : Position × ReceiptFields} (hserves : Serves environment included)
    (hentry : entry ∈ included) (action : BitVec 8) :
    ∃ call : ProofCall, call.action = action ∧ claimed environment call = entry.1 := by
  obtain ⟨merkleProof, hindex⟩ := hserves.provable entry hentry
  refine ⟨⟨action, entry.1.chainKey, entry.1.blockHeight, entry.1.encodedTransaction,
    merkleProof, ⟨0, []⟩⟩, rfl, ?_⟩
  rw [claimed, hindex]

section QueryIds

variable {memory memory' : Memory} {pointer pointer' : Nat} {chainKey chainKey' : BitVec 64}
  {blockHeight blockHeight' : BitVec 64} {txIndex txIndex' : Uint256}

/-- The bytes that `_computeQueryId` of `TinExitAttestedASC` leaves at the free pointer: three
stores, of which the last covers the end of the one before. -/
def queryPreimage (memory : Memory) (pointer : Nat) (chainKey blockHeight : BitVec 64)
    (txIndex : Uint256) : List Byte :=
  let memory := mstore memory pointer (chainKey.setWidth 256)
  let memory := mstore memory (pointer + 32) (blockHeight.setWidth 256 <<< 192)
  let memory := mstore memory (pointer + 40) txIndex
  window memory pointer 72

theorem queryPreimage_eq :
    queryPreimage memory pointer chainKey blockHeight txIndex =
      wordBytes (chainKey.setWidth 256) ++
        (beBytes 8 blockHeight.toNat ++ wordBytes txIndex) := by
  simp only [queryPreimage]
  rw [window_append _ pointer 32 40, window_append _ (pointer + 32) 8 32]
  congr 1
  · rw [window_mstore_of_disjoint (by omega), window_mstore_of_disjoint (by omega),
      window_mstore_word]
  · congr 1
    · rw [window_mstore_of_disjoint (by omega), window_mstore (by omega),
        take_wordBytes_shiftLeft]
    · exact window_mstore_word

/-- The packed bytes tell the chain, the block and the transaction apart. -/
theorem queryPreimage_injective
    (hpacked : queryPreimage memory pointer chainKey blockHeight txIndex =
      queryPreimage memory' pointer' chainKey' blockHeight' txIndex') :
    chainKey = chainKey' ∧ blockHeight = blockHeight' ∧ txIndex = txIndex' := by
  rw [queryPreimage_eq, queryPreimage_eq] at hpacked
  obtain ⟨hchain, hrest⟩ := List.append_inj hpacked (by simp)
  obtain ⟨hheight, hindex⟩ := List.append_inj hrest (by simp)
  have hpow : (256 : Nat) ^ 8 = 2 ^ 64 := by norm_num
  refine ⟨setWidth_injective (wordBytes_injective hchain), ?_, wordBytes_injective hindex⟩
  exact BitVec.eq_of_toNat_eq
    (beBytes_injective (hpow ▸ blockHeight.isLt) (hpow ▸ blockHeight'.isLt) hheight)

end QueryIds

section Samples

/-- A decoder that knows the given transactions. -/
def sampleDecoder (transactions : List (List Byte × ReceiptFields)) : EvmV1Decoder where
  decodeReceiptFields := fun encoded =>
    (transactions.find? fun entry => entry.1 = encoded).map Prod.snd
  getLogsByEventSignature := fun receipt signature =>
    receipt.receiptLogs.filter (carries signature)
  getLogsByEventSignature_eq := by
    intro receipt signature
    rfl

/-- The index that the siblings of a proof lead to, from the lowest level on. -/
def sampleTxIndex (proof : MerkleProof) : Uint256 :=
  proof.siblings.foldr (fun sibling index => 2 * index + if sibling.isLeft then 1 else 0) 0

/-- The hash on the inputs of the sample runs, told apart by length: the two events, the digests
of two exits, and the query ids of the transaction with index 5 in block 9000000. -/
def sampleKeccak256 (data : List Byte) : Bytes32 :=
  match data.length with
  | 56 => 0x3eb10cca26b062ddf8edc757a53c1d4d85a4d9522e557d6cba3d5d18c07be543
  | 59 => 0xb55e14786e7832907329487b08687a8773d872b63ad15e578fc8bde1fa9469ca
  | 72 => 0x6e70154d2bb7e8c465bce954cbe7b59adfee9c2840687187fd27a6c708d323da
  | 128 => 0x48ce25871147b147dc9d1d964ace289e8bfbe40f4f328211728a445ece59ffc1
  | 256 =>
    if data.getD 63 0 = 0x51 then
      0x0d4e19569c83342ee9a8bf4a7064266cab004b78aaaa55370afde67c963323f4
    else 0x8630b0123174b611f113807e96960b213105fe3b5cc90b99d2bb3dcbd9ead68a
  | _ => 0

def sampleEnvironment (transactions : List (List Byte × ReceiptFields)) : Environment where
  keccak256 := sampleKeccak256
  calculateTxIndex := sampleTxIndex
  decoder := sampleDecoder transactions

def samplePosition : Position where
  chainKey := 1
  blockHeight := 9000000
  txIndex := 5
  encodedTransaction := [2]

/-- A call with a proof of the transaction at the sample position. -/
def sampleCall : ProofCall where
  action := 0
  chainKey := 1
  blockHeight := 9000000
  encodedTransaction := [2]
  merkleProof := ⟨0xb0, [⟨0xb1, true⟩, ⟨0xb2, false⟩, ⟨0xb3, true⟩]⟩
  continuityProof := ⟨0xd0, [0xb0]⟩

end Samples

end TsnProtocol.Crosschain.ProvedEvents
