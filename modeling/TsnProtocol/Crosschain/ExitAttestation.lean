import TsnProtocol.Crosschain.ProvedEvents
import TsnProtocol.Lib.TextFormat
import TsnProtocol.Lib.Transition

/-!
`SepoliaAnchor` on its chain and `TinExitAttestedASC` on Creditcoin. The anchor keeps the tuple
of each exit and emits it; the ASC attests what a proved transaction has emitted.
-/

namespace TsnProtocol.Crosschain.ExitAttestation

open Crosschain.ProvedEvents
open Lib.ByteReader
open Lib.Checked
open Lib.Evm
open Lib.EvmMemory
open Lib.TextFormat
open Lib.Transition

structure Anchor where
  (digest sealedTipHeadHash : Bytes32)
  amount : Uint256
  (tinHash exitCommitment : Bytes32)
  blockNumber : BitVec 64
  deriving DecidableEq

/-- The arguments of `recordTinExit`, which its event repeats. -/
structure TinExit where
  (settlementId sealedTipHeadHash : Bytes32)
  amount : Uint256
  (tinHash exitCommitment : Bytes32)
  deriving DecidableEq

structure TinExitAttested where
  sealedTipHeadHash : Bytes32
  amount : Uint256
  (tinHash exitCommitment settlementId queryId : Bytes32)
  deriving DecidableEq

inductive Problem
  | invalidField (field : String)
  | settlementAlreadyAnchored (settlementId : Bytes32)
  | otherChain
  | positionTaken
  | invalidAction (action : BitVec 8)
  | wrongSourceAnchor (actual : Address)
  | invalidAnchorLog
  | unsupportedSourceChain (chainKey : BitVec 64)
  | settlementAlreadyProcessed (settlementId : Bytes32)
  | required (message : String)
  | undecodable
  deriving DecidableEq

/-- The contracts as deployed: the ASC accepts the events of one anchor. -/
structure Setting where
  environment : Environment
  sourceAnchor : Address
  sourceAnchor_ne : sourceAnchor ≠ 0

def ATTEST_EXIT_ACTION : BitVec 8 := 0

def ETHEREUM_SEPOLIA_CHAIN_KEY : BitVec 64 := 1

/-- A log that some other contract than the anchor emits. -/
structure ForeignLog (sourceAnchor : Address) where
  log : LogEntry
  foreign : log.address_ ≠ sourceAnchor

/-- What a transaction does, as far as the anchor and the logs are concerned. -/
inductive SourceItem (sourceAnchor : Address) where
  | recordTinExit (exit : TinExit)
  | foreign (log : ForeignLog sourceAnchor)

/-- A transaction of the source chain: where it is included, and what it does unless it
fails. -/
structure SourceTransaction (sourceAnchor : Address) where
  blockNumber : Uint256
  position : Position
  succeeds : Bool
  items : List (SourceItem sourceAnchor)

/-- The anchor with the transactions of its chain, latest first, and the ASC. -/
structure World where
  anchors : Bytes32 → Anchor
  included : List (Position × ReceiptFields)
  (processedQueries processedSettlements : Bytes32 → Bool)
  attested : List TinExitAttested

def noAnchor : Anchor :=
  ⟨0, 0, 0, 0, 0, 0⟩

def deployed : World where
  anchors := fun _ => noAnchor
  included := []
  processedQueries := fun _ => false
  processedSettlements := fun _ => false
  attested := []

variable (setting : Setting)

def TIN_EXIT_ANCHORED_EVENT : Bytes32 :=
  setting.environment.keccak256
    (encodeAscii "TinExitAnchored(bytes32,bytes32,uint256,bytes32,bytes32)".toList)

section SepoliaAnchor

/-- The words the event carries as data. -/
def anchoredWords (exit : TinExit) : List Bytes32 :=
  [exit.sealedTipHeadHash, exit.amount, exit.tinHash, exit.exitCommitment]

def anchoredLog (exit : TinExit) : LogEntry where
  address_ := setting.sourceAnchor
  topics := [TIN_EXIT_ANCHORED_EVENT setting, exit.settlementId]
  data := abiEncode (anchoredWords exit)

/-- `abi.encode` of a text of 25 characters and five words: the text stands behind the words,
after its length and padded to whole words. -/
def anchorPreimage (exit : TinExit) : List Byte :=
  abiEncode ([192, exit.settlementId] ++ anchoredWords exit ++ [25]) ++
    (encodeAscii "TSN_CROSS_CHAIN_ANCHOR_V1".toList ++ List.replicate 7 0)

def anchorDigest (exit : TinExit) : Bytes32 :=
  setting.environment.keccak256 (anchorPreimage exit)

def recordTinExit (anchors : Bytes32 → Anchor) (blockNumber : Uint256) (exit : TinExit) :
    Except Problem ((Bytes32 → Anchor) × LogEntry) := do
  require (exit.settlementId ≠ 0) (.invalidField "settlementId")
  require (exit.sealedTipHeadHash ≠ 0) (.invalidField "sealedTipHeadHash")
  require (exit.amount ≠ 0) (.invalidField "amount")
  require (exit.tinHash ≠ 0) (.invalidField "tinHash")
  require (exit.exitCommitment ≠ 0) (.invalidField "exitCommitment")
  require (¬ (anchors exit.settlementId).digest ≠ 0)
    (.settlementAlreadyAnchored exit.settlementId)
  return (Function.update anchors exit.settlementId
    ⟨anchorDigest setting exit, exit.sealedTipHeadHash, exit.amount, exit.tinHash,
      exit.exitCommitment, blockNumber.setWidth 64⟩, anchoredLog setting exit)

/-- The items of a transaction in their order, with the logs they emit. -/
def runItems (blockNumber : Uint256) (anchors : Bytes32 → Anchor) :
    List (SourceItem setting.sourceAnchor) →
      Except Problem ((Bytes32 → Anchor) × List LogEntry)
  | [] => .ok (anchors, [])
  | .recordTinExit exit :: items => do
      let (anchors, log) ← recordTinExit setting anchors blockNumber exit
      let (anchors, logs) ← runItems blockNumber anchors items
      return (anchors, log :: logs)
  | .foreign log :: items => do
      let (anchors, logs) ← runItems blockNumber anchors items
      return (anchors, log.log :: logs)

/-- A transaction is included on the chain of the anchor at a place of its own. One that fails
leaves no logs. -/
def includeTransaction (world : World)
    (transaction : SourceTransaction setting.sourceAnchor) : Except Problem World := do
  require (transaction.position.chainKey = ETHEREUM_SEPOLIA_CHAIN_KEY) .otherChain
  require (∀ entry ∈ world.included,
    ¬ (entry.1.blockHeight = transaction.position.blockHeight ∧
      entry.1.txIndex = transaction.position.txIndex)) .positionTaken
  if transaction.succeeds then
    let (anchors, logs) ←
      runItems setting transaction.blockNumber world.anchors transaction.items
    return { world with
      anchors := anchors
      included := (transaction.position, ⟨1, logs⟩) :: world.included }
  else
    return { world with included := (transaction.position, ⟨0, []⟩) :: world.included }

end SepoliaAnchor

section TinExitAttestedASC

/-- `abi.decode` of the data of the event. -/
def readAnchored (settlementId queryId : Bytes32) : Reader Problem TinExitAttested := do
  let sealedTipHeadHash ← takeWord .undecodable
  let amount ← takeWord .undecodable
  let tinHash ← takeWord .undecodable
  let exitCommitment ← takeWord .undecodable
  return ⟨sealedTipHeadHash, amount, tinHash, exitCommitment, settlementId, queryId⟩

def decodeAnchored (settlementId queryId : Bytes32) (data : List Byte) :
    Except Problem TinExitAttested :=
  Prod.fst <$> readAnchored settlementId queryId data

def processAndEmitEvent (processedSettlements : Bytes32 → Bool) (action : BitVec 8)
    (queryId : Bytes32) (encodedTransaction : List Byte) : Except Problem TinExitAttested := do
  require (¬ action ≠ ATTEST_EXIT_ACTION) (.invalidAction action)
  let receipt ← okOr (setting.environment.decoder.decodeReceiptFields encodedTransaction)
    .undecodable
  require (receipt.receiptStatus = 1) (.required "source transaction failed")
  let log ← okOr (setting.environment.decoder.getLogsByEventSignature receipt
    (TIN_EXIT_ANCHORED_EVENT setting)).head? .invalidAnchorLog
  require (¬ log.address_ ≠ setting.sourceAnchor) (.wrongSourceAnchor log.address_)
  require (¬ log.topics.length ≠ 2) .invalidAnchorLog
  let settlementId := log.topics.getD 1 0
  require (¬ processedSettlements settlementId = true)
    (.settlementAlreadyProcessed settlementId)
  let event ← decodeAnchored settlementId queryId log.data
  require (event.sealedTipHeadHash ≠ 0) (.required "sealed TIP hash is zero")
  require (0 < event.amount) (.required "amount is zero")
  require (event.tinHash ≠ 0) (.required "TIN hash is zero")
  require (event.exitCommitment ≠ 0) (.required "exit commitment is zero")
  return event

/-- The query id of a call, over whatever memory the function finds. -/
def computeQueryId (memory : Memory) (pointer : Nat) (call : ProofCall) : Bytes32 :=
  setting.environment.keccak256 (queryPreimage memory pointer call.chainKey call.blockHeight
    (setting.environment.calculateTxIndex call.merkleProof))

/-- A call of the ASC, where `verified` is the answer of the native verifier. -/
def execute (world : World) (memory : Memory) (pointer : Nat) (call : ProofCall)
    (verified : Bool) : Except Problem World := do
  require (¬ call.chainKey ≠ ETHEREUM_SEPOLIA_CHAIN_KEY)
    (.unsupportedSourceChain call.chainKey)
  let queryId := computeQueryId setting memory pointer call
  require (¬ world.processedQueries queryId = true) (.required "Query already processed")
  require (verified = true) (.required "Proof of inclusion verification failed")
  let event ← processAndEmitEvent setting world.processedSettlements call.action queryId
    call.encodedTransaction
  return { world with
    processedQueries := Function.update world.processedQueries queryId true
    processedSettlements :=
      Function.update world.processedSettlements event.settlementId true
    attested := event :: world.attested }

end TinExitAttestedASC

inductive Input (sourceAnchor : Address) where
  | transaction (transaction : SourceTransaction sourceAnchor)
  | execute (memory : Memory) (pointer : Nat) (call : ProofCall) (verified : Bool)

def step (world : World) : Input setting.sourceAnchor → Except Problem World
  | .transaction transaction => includeTransaction setting world transaction
  | .execute memory pointer call verified => execute setting world memory pointer call verified

/-- What the runs assume of other code: the hash of an exit is not zero, the verifier accepts
only transactions that are included, and the decoder returns the receipts of these. -/
def Faithful (world : World) : Input setting.sourceAnchor → Prop
  | .transaction transaction => ∀ exit, .recordTinExit exit ∈ transaction.items →
      anchorDigest setting exit ≠ 0
  | .execute _ _ call verified => verified = true → ∃ receipt,
      (claimed setting.environment call, receipt) ∈ world.included ∧
        setting.environment.decoder.decodeReceiptFields call.encodedTransaction = some receipt

section Inversions

variable {setting} {world next : World} {anchors anchors' : Bytes32 → Anchor}
  {blockNumber : Uint256} {exit : TinExit} {log : LogEntry} {logs : List LogEntry}
  {items : List (SourceItem setting.sourceAnchor)} {memory : Memory} {pointer : Nat}
  {call : ProofCall} {verified : Bool} {queryId : Bytes32} {event : TinExitAttested}

theorem recordTinExit_eq_ok
    (hrecord : recordTinExit setting anchors blockNumber exit = .ok (anchors', log)) :
    exit.settlementId ≠ 0 ∧ exit.sealedTipHeadHash ≠ 0 ∧ exit.amount ≠ 0 ∧ exit.tinHash ≠ 0 ∧
      exit.exitCommitment ≠ 0 ∧ (anchors exit.settlementId).digest = 0 ∧
      anchors' = Function.update anchors exit.settlementId
        ⟨anchorDigest setting exit, exit.sealedTipHeadHash, exit.amount, exit.tinHash,
          exit.exitCommitment, blockNumber.setWidth 64⟩ ∧
      log = anchoredLog setting exit := by
  simp only [recordTinExit, bind_eq_ok, require_eq_ok, pure_eq_ok, not_not, Prod.mk.injEq]
    at hrecord
  obtain ⟨_, hid, _, hsealed, _, hamount, _, htin, _, hexit, _, hfresh, rfl, rfl⟩ := hrecord
  exact ⟨hid, hsealed, hamount, htin, hexit, hfresh, rfl, rfl⟩

/-- The event of the ASC for an exit that the anchor has emitted. -/
def attestedOf (exit : TinExit) (queryId : Bytes32) : TinExitAttested where
  sealedTipHeadHash := exit.sealedTipHeadHash
  amount := exit.amount
  tinHash := exit.tinHash
  exitCommitment := exit.exitCommitment
  settlementId := exit.settlementId
  queryId := queryId

theorem reads_readAnchored (exit : TinExit) (queryId : Bytes32) :
    Reads (readAnchored exit.settlementId queryId) (abiEncode (anchoredWords exit))
      (attestedOf exit queryId) := by
  unfold readAnchored anchoredWords abiEncode
  simp only [List.flatMap_cons, List.flatMap_nil]
  iterate 4 refine reads_bind reads_takeWord ?_
  exact reads_pure

/-- The ASC decodes what the anchor has encoded. -/
theorem decodeAnchored_anchoredWords (exit : TinExit) (queryId : Bytes32) :
    decodeAnchored exit.settlementId queryId (abiEncode (anchoredWords exit)) =
      .ok (attestedOf exit queryId) := by
  have hread := reads_readAnchored exit queryId []
  rw [List.append_nil] at hread
  rw [decodeAnchored, hread]
  rfl

theorem includeTransaction_eq_ok {transaction : SourceTransaction setting.sourceAnchor}
    (hinclude : includeTransaction setting world transaction = .ok next) :
    (∀ entry ∈ world.included, ¬ (entry.1.blockHeight = transaction.position.blockHeight ∧
      entry.1.txIndex = transaction.position.txIndex)) ∧
    transaction.position.chainKey = ETHEREUM_SEPOLIA_CHAIN_KEY ∧
    ((∃ anchors logs, runItems setting transaction.blockNumber world.anchors
        transaction.items = .ok (anchors, logs) ∧
      next = { world with
        anchors := anchors
        included := (transaction.position, ⟨1, logs⟩) :: world.included }) ∨
      next = { world with
        included := (transaction.position, ⟨0, []⟩) :: world.included }) := by
  simp only [includeTransaction, bind_eq_ok, require_eq_ok] at hinclude
  obtain ⟨_, hchain, _, hplace, hinclude⟩ := hinclude
  refine ⟨hplace, hchain, ?_⟩
  split at hinclude
  · simp only [bind_eq_ok, pure_eq_ok] at hinclude
    obtain ⟨⟨anchors, logs⟩, hrun, rfl⟩ := hinclude
    exact Or.inl ⟨anchors, logs, hrun, rfl⟩
  · rw [pure_eq_ok] at hinclude
    exact Or.inr hinclude.symm

/-- What the ASC has checked of a receipt when it attests a log. -/
structure Attests (setting : Setting) (processedSettlements : Bytes32 → Bool)
    (queryId : Bytes32) (encodedTransaction : List Byte) (event : TinExitAttested) : Prop where
  found : ∃ receipt log, setting.environment.decoder.decodeReceiptFields encodedTransaction =
      some receipt ∧ receipt.receiptStatus = 1 ∧
    (receipt.receiptLogs.filter (carries (TIN_EXIT_ANCHORED_EVENT setting))).head? = some log ∧
    log.address_ = setting.sourceAnchor ∧ log.topics.length = 2 ∧
    processedSettlements (log.topics.getD 1 0) = false ∧
    decodeAnchored (log.topics.getD 1 0) queryId log.data = .ok event
  nonzero : event.sealedTipHeadHash ≠ 0 ∧ 0 < event.amount ∧ event.tinHash ≠ 0 ∧
    event.exitCommitment ≠ 0

theorem processAndEmitEvent_eq_ok {processedSettlements : Bytes32 → Bool} {action : BitVec 8}
    {encodedTransaction : List Byte} :
    processAndEmitEvent setting processedSettlements action queryId encodedTransaction =
        .ok event ↔
      action = ATTEST_EXIT_ACTION ∧
        Attests setting processedSettlements queryId encodedTransaction event := by
  simp only [processAndEmitEvent, bind_eq_ok, require_eq_ok, okOr_eq_ok, pure_eq_ok, ne_eq,
    not_not, Bool.not_eq_true, setting.environment.decoder.getLogsByEventSignature_eq]
  constructor
  · rintro ⟨_, haction, receipt, hreceipt, _, hstatus, log, hlog, _, haddress, _, htopics, _,
      hfresh, _, hdecode, _, hsealed, _, hamount, _, htin, _, hexit, rfl⟩
    exact ⟨haction, ⟨receipt, log, hreceipt, hstatus, hlog, haddress, htopics, hfresh, hdecode⟩,
      hsealed, hamount, htin, hexit⟩
  · rintro ⟨haction, ⟨receipt, log, hreceipt, hstatus, hlog, haddress, htopics, hfresh,
      hdecode⟩, hsealed, hamount, htin, hexit⟩
    exact ⟨(), haction, receipt, hreceipt, (), hstatus, log, hlog, (), haddress, (), htopics,
      (), hfresh, event, hdecode, (), hsealed, (), hamount, (), htin, (), hexit, rfl⟩

theorem execute_eq_ok :
    execute setting world memory pointer call verified = .ok next ↔
      call.chainKey = ETHEREUM_SEPOLIA_CHAIN_KEY ∧
      world.processedQueries (computeQueryId setting memory pointer call) = false ∧
      verified = true ∧ call.action = ATTEST_EXIT_ACTION ∧
      ∃ event, Attests setting world.processedSettlements
          (computeQueryId setting memory pointer call) call.encodedTransaction event ∧
        next = { world with
          processedQueries := Function.update world.processedQueries
            (computeQueryId setting memory pointer call) true
          processedSettlements :=
            Function.update world.processedSettlements event.settlementId true
          attested := event :: world.attested } := by
  simp only [execute, bind_eq_ok, require_eq_ok, pure_eq_ok, ne_eq, not_not, Bool.not_eq_true,
    processAndEmitEvent_eq_ok]
  constructor
  · rintro ⟨_, hchain, _, hquery, _, hverified, event, ⟨haction, hattests⟩, rfl⟩
    exact ⟨hchain, hquery, hverified, haction, event, hattests, rfl⟩
  · rintro ⟨hchain, hquery, hverified, haction, event, hattests, rfl⟩
    exact ⟨(), hchain, (), hquery, (), hverified, event, ⟨haction, hattests⟩, rfl⟩

end Inversions

section Runs

variable {setting} {world next : World} {history : List (World × Input setting.sourceAnchor)}
  {anchors anchors' : Bytes32 → Anchor} {blockNumber : Uint256}

/-- The anchor holds the tuple of an exit. -/
structure Stored (anchors : Bytes32 → Anchor) (exit : TinExit) : Prop where
  anchored : (anchors exit.settlementId).digest ≠ 0
  sealedTipHeadHash : (anchors exit.settlementId).sealedTipHeadHash = exit.sealedTipHeadHash
  amount : (anchors exit.settlementId).amount = exit.amount
  tinHash : (anchors exit.settlementId).tinHash = exit.tinHash
  exitCommitment : (anchors exit.settlementId).exitCommitment = exit.exitCommitment

/-- Whatever is anchored stays as it is. -/
def Keeps (anchors anchors' : Bytes32 → Anchor) : Prop :=
  ∀ settlementId, (anchors settlementId).digest ≠ 0 →
    anchors' settlementId = anchors settlementId

theorem Stored.of_keeps {exit : TinExit} (hstored : Stored anchors exit)
    (hkeeps : Keeps anchors anchors') : Stored anchors' exit := by
  have hsame := hkeeps exit.settlementId hstored.anchored
  constructor
  · rw [hsame]
    exact hstored.anchored
  · rw [hsame]
    exact hstored.sealedTipHeadHash
  · rw [hsame]
    exact hstored.amount
  · rw [hsame]
    exact hstored.tinHash
  · rw [hsame]
    exact hstored.exitCommitment

/-- What the anchor has checked of an exit. -/
def Filled (exit : TinExit) : Prop :=
  exit.sealedTipHeadHash ≠ 0 ∧ exit.amount ≠ 0 ∧ exit.tinHash ≠ 0 ∧ exit.exitCommitment ≠ 0

theorem stored_of_record {exit : TinExit} {log : LogEntry}
    (hrecord : recordTinExit setting anchors blockNumber exit = .ok (anchors', log))
    (hdigest : anchorDigest setting exit ≠ 0) :
    Keeps anchors anchors' ∧ Stored anchors' exit ∧ Filled exit ∧
      log = anchoredLog setting exit := by
  obtain ⟨-, hsealed, hamount, htin, hexit, hfresh, rfl, rfl⟩ := recordTinExit_eq_ok hrecord
  refine ⟨?_, ?_, ⟨hsealed, hamount, htin, hexit⟩, rfl⟩
  · intro settlementId hanchored
    apply Function.update_of_ne
    rintro rfl
    exact hanchored hfresh
  · constructor
    · rw [Function.update_self]
      exact hdigest
    · rw [Function.update_self]
    · rw [Function.update_self]
    · rw [Function.update_self]
    · rw [Function.update_self]

/-- Each log of the anchor is that of an exit it holds. -/
def Backed (setting : Setting) (anchors : Bytes32 → Anchor) (logs : List LogEntry) : Prop :=
  ∀ log ∈ logs, log.address_ = setting.sourceAnchor →
    ∃ exit, log = anchoredLog setting exit ∧ Stored anchors exit ∧ Filled exit

theorem Backed.of_keeps {logs : List LogEntry} (hbacked : Backed setting anchors logs)
    (hkeeps : Keeps anchors anchors') : Backed setting anchors' logs := by
  intro log hlog haddress
  obtain ⟨exit, heq, hstored, hfilled⟩ := hbacked log hlog haddress
  exact ⟨exit, heq, hstored.of_keeps hkeeps, hfilled⟩

theorem backed_of_runItems {items : List (SourceItem setting.sourceAnchor)}
    {logs : List LogEntry}
    (hrun : runItems setting blockNumber anchors items = .ok (anchors', logs))
    (hdigest : ∀ exit, .recordTinExit exit ∈ items → anchorDigest setting exit ≠ 0) :
    Keeps anchors anchors' ∧ Backed setting anchors' logs := by
  induction items generalizing anchors logs with
  | nil =>
      cases hrun
      refine ⟨fun _ _ => rfl, ?_⟩
      intro log hlog
      exact absurd hlog List.not_mem_nil
  | cons item items ih =>
      have hlater : ∀ exit, .recordTinExit exit ∈ items → anchorDigest setting exit ≠ 0 :=
        fun exit hexit => hdigest exit (List.mem_cons_of_mem _ hexit)
      cases item with
      | recordTinExit exit =>
          simp only [runItems, bind_eq_ok, pure_eq_ok, Prod.mk.injEq] at hrun
          obtain ⟨⟨middle, first⟩, hrecord, ⟨_, rest⟩, hrest, rfl, rfl⟩ := hrun
          obtain ⟨hkeeps, hstored, hfilled, rfl⟩ :=
            stored_of_record hrecord (hdigest exit List.mem_cons_self)
          obtain ⟨hkeeps', hbacked⟩ := ih hrest hlater
          refine ⟨?_, ?_⟩
          · intro settlementId hanchored
            have hsame := hkeeps settlementId hanchored
            have hmiddle : (middle settlementId).digest ≠ 0 := by
              rw [hsame]
              exact hanchored
            exact (hkeeps' settlementId hmiddle).trans hsame
          · intro log hlog haddress
            rcases List.mem_cons.mp hlog with rfl | hlog
            · exact ⟨exit, rfl, hstored.of_keeps hkeeps', hfilled⟩
            · exact hbacked log hlog haddress
      | foreign other =>
          simp only [runItems, bind_eq_ok, pure_eq_ok, Prod.mk.injEq] at hrun
          obtain ⟨⟨_, rest⟩, hrest, rfl, rfl⟩ := hrun
          obtain ⟨hkeeps', hbacked⟩ := ih hrest hlater
          refine ⟨hkeeps', ?_⟩
          intro log hlog haddress
          rcases List.mem_cons.mp hlog with rfl | hlog
          · exact absurd haddress other.foreign
          · exact hbacked log hlog haddress

/-- The event carries the tuple that the anchor holds for its settlement. -/
def Matches (anchors : Bytes32 → Anchor) (event : TinExitAttested) : Prop :=
  ∃ exit, Stored anchors exit ∧ event = attestedOf exit event.queryId

/-- The invariant of a run. -/
structure Sound (setting : Setting) (world : World) : Prop where
  once : (world.attested.map TinExitAttested.settlementId).Nodup
  flagged : ∀ settlementId, world.processedSettlements settlementId = true ↔
    settlementId ∈ world.attested.map TinExitAttested.settlementId
  backed : ∀ entry ∈ world.included, Backed setting world.anchors entry.2.receiptLogs
  matching : ∀ event ∈ world.attested, Matches world.anchors event

theorem sound_deployed : Sound setting deployed where
  once := List.nodup_nil
  flagged := by
    intro settlementId
    constructor
    · intro hflag
      cases hflag
    · intro hmember
      exact absurd hmember List.not_mem_nil
  backed := by
    intro entry hentry
    exact absurd hentry List.not_mem_nil
  matching := by
    intro event hevent
    exact absurd hevent List.not_mem_nil

theorem sound_of_include {transaction : SourceTransaction setting.sourceAnchor}
    (hsound : Sound setting world)
    (hdigest : ∀ exit, .recordTinExit exit ∈ transaction.items →
      anchorDigest setting exit ≠ 0)
    (hinclude : includeTransaction setting world transaction = .ok next) :
    Sound setting next := by
  obtain ⟨-, -, ⟨anchors, logs, hrun, rfl⟩ | rfl⟩ := includeTransaction_eq_ok hinclude
  · obtain ⟨hkeeps, hbacked⟩ := backed_of_runItems hrun hdigest
    refine ⟨hsound.once, hsound.flagged, ?_, ?_⟩
    · intro entry hentry
      rcases List.mem_cons.mp hentry with rfl | hearlier
      · exact hbacked
      · exact (hsound.backed entry hearlier).of_keeps hkeeps
    · intro event hevent
      obtain ⟨exit, hstored, heq⟩ := hsound.matching event hevent
      exact ⟨exit, hstored.of_keeps hkeeps, heq⟩
  · refine ⟨hsound.once, hsound.flagged, ?_, hsound.matching⟩
    intro entry hentry
    rcases List.mem_cons.mp hentry with rfl | hearlier
    · intro log hlog
      exact absurd hlog List.not_mem_nil
    · exact hsound.backed entry hearlier

/-- The event that a log of an included transaction leads to. -/
theorem event_of_attests {processedSettlements : Bytes32 → Bool} {queryId : Bytes32}
    {encodedTransaction : List Byte} {event : TinExitAttested} {receipt : ReceiptFields}
    (hattests : Attests setting processedSettlements queryId encodedTransaction event)
    (hreceipt : setting.environment.decoder.decodeReceiptFields encodedTransaction =
      some receipt)
    (hbacked : Backed setting anchors receipt.receiptLogs) :
    ∃ exit, Stored anchors exit ∧ event = attestedOf exit queryId ∧
      (receipt.receiptLogs.filter (carries (TIN_EXIT_ANCHORED_EVENT setting))).head? =
        some (anchoredLog setting exit) ∧
      processedSettlements exit.settlementId = false := by
  obtain ⟨receipt', log, hdecoded, -, hlog, haddress, -, hfresh, hdecode⟩ := hattests.found
  obtain rfl : receipt = receipt' := Option.some.inj (hreceipt.symm.trans hdecoded)
  obtain ⟨exit, rfl, hstored, -⟩ :=
    hbacked log (List.mem_of_mem_filter (List.mem_of_head? hlog)) haddress
  have hevent : decodeAnchored exit.settlementId queryId (abiEncode (anchoredWords exit)) =
      .ok event := hdecode
  rw [decodeAnchored_anchoredWords, Except.ok.injEq] at hevent
  exact ⟨exit, hstored, hevent.symm, hlog, hfresh⟩

theorem sound_of_execute {memory : Memory} {pointer : Nat} {call : ProofCall} {verified : Bool}
    (hsound : Sound setting world)
    (hfaithful : verified = true → ∃ receipt,
      (claimed setting.environment call, receipt) ∈ world.included ∧
        setting.environment.decoder.decodeReceiptFields call.encodedTransaction = some receipt)
    (hexecute : execute setting world memory pointer call verified = .ok next) :
    Sound setting next := by
  obtain ⟨-, -, hverified, -, event, hattests, rfl⟩ := execute_eq_ok.mp hexecute
  obtain ⟨receipt, hincluded, hreceipt⟩ := hfaithful hverified
  obtain ⟨exit, hstored, rfl, -, hfresh⟩ :=
    event_of_attests hattests hreceipt (hsound.backed _ hincluded)
  have hnew : exit.settlementId ∉ world.attested.map TinExitAttested.settlementId := by
    rw [← hsound.flagged, hfresh]
    exact Bool.false_ne_true
  refine ⟨?_, ?_, hsound.backed, ?_⟩
  · exact List.nodup_cons.mpr ⟨hnew, hsound.once⟩
  · intro settlementId
    show Function.update world.processedSettlements exit.settlementId true settlementId = true ↔
      settlementId ∈ exit.settlementId :: world.attested.map TinExitAttested.settlementId
    rw [List.mem_cons]
    by_cases hsame : settlementId = exit.settlementId
    · subst hsame
      simp
    · rw [Function.update_of_ne hsame, hsound.flagged]
      exact ⟨Or.inr, fun h => h.resolve_left hsame⟩
  · intro other hother
    rcases List.mem_cons.mp hother with rfl | hearlier
    · exact ⟨exit, hstored, rfl⟩
    · exact hsound.matching other hearlier

theorem sound_of_step {input : Input setting.sourceAnchor} (hsound : Sound setting world)
    (hfaithful : Faithful setting world input) (hstep : step setting world input = .ok next) :
    Sound setting next := by
  cases input with
  | transaction transaction => exact sound_of_include hsound hfaithful hstep
  | execute memory pointer call verified => exact sound_of_execute hsound hfaithful hstep

theorem soundState_of_run (hrun : Run (step setting) deployed history world)
    (hfaithful : ∀ entry ∈ history, Faithful setting entry.1 entry.2) :
    Sound setting world := by
  refine hrun.induct_of_forall (fun _ world => Sound setting world) hfaithful sound_deployed ?_
  intro history world input next hinput hsound hstep
  exact sound_of_step hsound hinput hstep

/-- Every settlement is attested at most once, with the tuple that the anchor holds for it, and
calls with one query id are about one transaction, unless their packed bytes collide. -/
theorem attestedOnce_of_run (hrun : Run (step setting) deployed history world)
    (hfaithful : ∀ entry ∈ history, Faithful setting entry.1 entry.2) :
    (world.attested.map TinExitAttested.settlementId).Nodup ∧
    (∀ event ∈ world.attested, (world.anchors event.settlementId).digest ≠ 0 ∧
      event.sealedTipHeadHash = (world.anchors event.settlementId).sealedTipHeadHash ∧
      event.amount = (world.anchors event.settlementId).amount ∧
      event.tinHash = (world.anchors event.settlementId).tinHash ∧
      event.exitCommitment = (world.anchors event.settlementId).exitCommitment) ∧
    ∀ (memory memory' : Memory) (pointer pointer' : Nat) (call call' : ProofCall),
      computeQueryId setting memory pointer call =
        computeQueryId setting memory' pointer' call' →
      Set.InjOn setting.environment.keccak256
        {queryPreimage memory pointer call.chainKey call.blockHeight
            (setting.environment.calculateTxIndex call.merkleProof),
          queryPreimage memory' pointer' call'.chainKey call'.blockHeight
            (setting.environment.calculateTxIndex call'.merkleProof)} →
      call.chainKey = call'.chainKey ∧ call.blockHeight = call'.blockHeight ∧
        setting.environment.calculateTxIndex call.merkleProof =
          setting.environment.calculateTxIndex call'.merkleProof := by
  have hsound := soundState_of_run hrun hfaithful
  refine ⟨hsound.once, ?_, ?_⟩
  · intro event hevent
    obtain ⟨exit, hstored, heq⟩ := hsound.matching event hevent
    have hid : event.settlementId = exit.settlementId := by
      rw [heq]
      rfl
    rw [hid, heq]
    exact ⟨hstored.anchored, hstored.sealedTipHeadHash.symm, hstored.amount.symm,
      hstored.tinHash.symm, hstored.exitCommitment.symm⟩
  · intro memory memory' pointer pointer' call call' hquery hinj
    exact queryPreimage_injective (hinj (Set.mem_insert _ _)
      (Set.mem_insert_of_mem _ (Set.mem_singleton _)) hquery)

end Runs

section Records

variable {setting} {world next : World} {history : List (World × Input setting.sourceAnchor)}
  {anchors anchors' : Bytes32 → Anchor} {blockNumber : Uint256} {exit exit' : TinExit}

/-- The query id of the calls about a transaction. -/
def queryIdOf (setting : Setting) (position : Position) : Bytes32 :=
  setting.environment.keccak256
    (queryPreimage (fun _ => 0) 0 position.chainKey position.blockHeight position.txIndex)

theorem computeQueryId_eq (memory : Memory) (pointer : Nat) (call : ProofCall) :
    computeQueryId setting memory pointer call =
      queryIdOf setting (claimed setting.environment call) := by
  rw [computeQueryId, queryIdOf, queryPreimage_eq, queryPreimage_eq]
  rfl

theorem settlementId_of_anchoredLog (hlog : anchoredLog setting exit = anchoredLog setting exit') :
    exit.settlementId = exit'.settlementId :=
  (List.cons.inj (List.cons.inj (congrArg LogEntry.topics hlog)).2).1

theorem exit_of_anchoredLog (hlog : anchoredLog setting exit = anchoredLog setting exit') :
    exit = exit' := by
  have hid := settlementId_of_anchoredLog hlog
  have hwords : anchoredWords exit = anchoredWords exit' :=
    abiEncode_injective (congrArg LogEntry.data hlog)
  cases exit
  cases exit'
  simp only [anchoredWords, List.cons.injEq, and_true] at hid hwords
  obtain ⟨rfl, rfl, rfl, rfl⟩ := hwords
  rw [hid]

/-- What a transaction anchors was free before. -/
theorem fresh_of_runItems {items : List (SourceItem setting.sourceAnchor)}
    {logs : List LogEntry}
    (hrun : runItems setting blockNumber anchors items = .ok (anchors', logs))
    (hdigest : ∀ exit, .recordTinExit exit ∈ items → anchorDigest setting exit ≠ 0)
    (hlog : anchoredLog setting exit ∈ logs) : (anchors exit.settlementId).digest = 0 := by
  induction items generalizing anchors logs with
  | nil =>
      cases hrun
      exact absurd hlog List.not_mem_nil
  | cons item items ih =>
      have hlater : ∀ exit, .recordTinExit exit ∈ items → anchorDigest setting exit ≠ 0 :=
        fun exit hexit => hdigest exit (List.mem_cons_of_mem _ hexit)
      cases item with
      | recordTinExit first =>
          simp only [runItems, bind_eq_ok, pure_eq_ok, Prod.mk.injEq] at hrun
          obtain ⟨⟨middle, emitted⟩, hrecord, ⟨_, rest⟩, hrest, rfl, rfl⟩ := hrun
          obtain ⟨hkeeps, -, -, rfl⟩ :=
            stored_of_record hrecord (hdigest first List.mem_cons_self)
          rcases List.mem_cons.mp hlog with heq | hlog
          · rw [settlementId_of_anchoredLog heq]
            exact (recordTinExit_eq_ok hrecord).2.2.2.2.2.1
          · by_contra hanchored
            have hmiddle : (middle exit.settlementId).digest = 0 := ih hrest hlater hlog
            rw [hkeeps _ hanchored] at hmiddle
            exact hanchored hmiddle
      | foreign other =>
          simp only [runItems, bind_eq_ok, pure_eq_ok, Prod.mk.injEq] at hrun
          obtain ⟨⟨_, rest⟩, hrest, rfl, rfl⟩ := hrun
          rcases List.mem_cons.mp hlog with heq | hlog
          · exact absurd (congrArg LogEntry.address_ heq).symm other.foreign
          · exact ih hrest hlater hlog

/-- The first log of the event in a receipt is that of an exit. -/
def Leads (setting : Setting) (receipt : ReceiptFields) (exit : TinExit) : Prop :=
  (receipt.receiptLogs.filter (carries (TIN_EXIT_ANCHORED_EVENT setting))).head? =
    some (anchoredLog setting exit)

/-- An exit is anchored in one transaction. -/
def Apart (setting : Setting) (included : List (Position × ReceiptFields)) : Prop :=
  ∀ entry ∈ included, ∀ entry' ∈ included, ∀ exit exit',
    anchoredLog setting exit ∈ entry.2.receiptLogs →
      anchoredLog setting exit' ∈ entry'.2.receiptLogs →
        exit.settlementId = exit'.settlementId → entry = entry'

theorem anchored_of_mem {logs : List LogEntry} (hbacked : Backed setting anchors logs)
    (hlog : anchoredLog setting exit ∈ logs) : (anchors exit.settlementId).digest ≠ 0 := by
  obtain ⟨other, heq, hstored, -⟩ := hbacked _ hlog rfl
  rw [settlementId_of_anchoredLog heq]
  exact hstored.anchored

theorem mem_of_leads {receipt : ReceiptFields} (hleads : Leads setting receipt exit) :
    anchoredLog setting exit ∈ receipt.receiptLogs :=
  List.mem_of_mem_filter (List.mem_of_head? hleads)

/-- Where an attested event comes from. -/
def Traced (setting : Setting) (included : List (Position × ReceiptFields))
    (event : TinExitAttested) : Prop :=
  ∃ entry ∈ included, ∃ exit, Leads setting entry.2 exit ∧
    event = attestedOf exit (queryIdOf setting entry.1)

/-- What the completeness of the attestations rests on. -/
structure Recorded (setting : Setting) (world : World) : Prop where
  placed : Placed world.included
  chained : ∀ entry ∈ world.included, entry.1.chainKey = ETHEREUM_SEPOLIA_CHAIN_KEY
  apart : Apart setting world.included
  traced : ∀ event ∈ world.attested, Traced setting world.included event
  used : ∀ queryId, world.processedQueries queryId = true →
    ∃ event ∈ world.attested, event.queryId = queryId

theorem Traced.mono {included included' : List (Position × ReceiptFields)}
    {event : TinExitAttested} (htraced : Traced setting included event)
    (hsubset : included ⊆ included') : Traced setting included' event := by
  obtain ⟨entry, hentry, exit, hleads, heq⟩ := htraced
  exact ⟨entry, hsubset hentry, exit, hleads, heq⟩

theorem recorded_deployed : Recorded setting deployed where
  placed := by
    intro entry hentry
    exact absurd hentry List.not_mem_nil
  chained := by
    intro entry hentry
    exact absurd hentry List.not_mem_nil
  apart := by
    intro entry hentry
    exact absurd hentry List.not_mem_nil
  traced := by
    intro event hevent
    exact absurd hevent List.not_mem_nil
  used := by
    intro queryId hprocessed
    cases hprocessed

/-- A transaction whose exits were free is apart from the earlier ones. -/
theorem apart_cons {included : List (Position × ReceiptFields)}
    {entry : Position × ReceiptFields} (hapart : Apart setting included)
    (hbacked : ∀ other ∈ included, Backed setting anchors other.2.receiptLogs)
    (hfresh : ∀ exit, anchoredLog setting exit ∈ entry.2.receiptLogs →
      (anchors exit.settlementId).digest = 0) :
    Apart setting (entry :: included) := by
  intro left hleft right hright exit exit' hexit hexit' hid
  rcases List.mem_cons.mp hleft with rfl | hearlier
  · rcases List.mem_cons.mp hright with rfl | hother
    · rfl
    · have hanchored := anchored_of_mem (hbacked right hother) hexit'
      rw [← hid] at hanchored
      exact absurd (hfresh exit hexit) hanchored
  · rcases List.mem_cons.mp hright with rfl | hother
    · have hanchored := anchored_of_mem (hbacked left hearlier) hexit
      rw [hid] at hanchored
      exact absurd (hfresh exit' hexit') hanchored
    · exact hapart left hearlier right hother exit exit' hexit hexit' hid

theorem recorded_of_include {transaction : SourceTransaction setting.sourceAnchor}
    (hrecorded : Recorded setting world)
    (hbacked : ∀ entry ∈ world.included, Backed setting world.anchors entry.2.receiptLogs)
    (hdigest : ∀ exit, .recordTinExit exit ∈ transaction.items →
      anchorDigest setting exit ≠ 0)
    (hinclude : includeTransaction setting world transaction = .ok next) :
    Recorded setting next := by
  obtain ⟨hplace, hchain, hcases⟩ := includeTransaction_eq_ok hinclude
  have hnext : ∃ receipt anchors, next = { world with
        anchors := anchors
        included := (transaction.position, receipt) :: world.included } ∧
      ∀ exit, anchoredLog setting exit ∈ receipt.receiptLogs →
        (world.anchors exit.settlementId).digest = 0 := by
    rcases hcases with ⟨anchors, logs, hrun, rfl⟩ | rfl
    · exact ⟨_, anchors, rfl, fun exit hlog => fresh_of_runItems hrun hdigest hlog⟩
    · exact ⟨_, world.anchors, rfl, fun exit hlog => absurd hlog List.not_mem_nil⟩
  obtain ⟨receipt, anchors, rfl, hfresh⟩ := hnext
  refine ⟨placed_cons hrecorded.placed ?_, ?_, apart_cons hrecorded.apart hbacked hfresh, ?_,
    hrecorded.used⟩
  · rintro other hother ⟨-, hheight, hindex⟩
    exact hplace other hother ⟨hheight, hindex⟩
  · intro entry hentry
    rcases List.mem_cons.mp hentry with rfl | hearlier
    · exact hchain
    · exact hrecorded.chained entry hearlier
  · intro event hevent
    exact (hrecorded.traced event hevent).mono (List.subset_cons_self _ _)

theorem recorded_of_execute {memory : Memory} {pointer : Nat} {call : ProofCall}
    {verified : Bool} (hrecorded : Recorded setting world)
    (hbacked : ∀ entry ∈ world.included, Backed setting world.anchors entry.2.receiptLogs)
    (hfaithful : Faithful setting world (.execute memory pointer call verified))
    (hexecute : execute setting world memory pointer call verified = .ok next) :
    Recorded setting next := by
  obtain ⟨-, -, hverified, -, event, hattests, rfl⟩ := execute_eq_ok.mp hexecute
  obtain ⟨receipt, hincluded, hreceipt⟩ := hfaithful hverified
  obtain ⟨exit, -, rfl, hleads, -⟩ := event_of_attests hattests hreceipt (hbacked _ hincluded)
  refine ⟨hrecorded.placed, hrecorded.chained, hrecorded.apart, ?_, ?_⟩
  · intro other hother
    rcases List.mem_cons.mp hother with rfl | hearlier
    · exact ⟨_, hincluded, exit, hleads, by rw [computeQueryId_eq]⟩
    · exact hrecorded.traced other hearlier
  · intro queryId hprocessed
    by_cases hsame : queryId = computeQueryId setting memory pointer call
    · exact ⟨_, List.mem_cons_self, hsame.symm⟩
    · simp only [Function.update_of_ne hsame] at hprocessed
      obtain ⟨other, hother, hquery⟩ := hrecorded.used queryId hprocessed
      exact ⟨other, List.mem_cons_of_mem _ hother, hquery⟩

theorem recorded_of_run (hrun : Run (step setting) deployed history world)
    (hfaithful : ∀ entry ∈ history, Faithful setting entry.1 entry.2) :
    Sound setting world ∧ Recorded setting world := by
  refine hrun.induct_of_forall (fun _ world => Sound setting world ∧ Recorded setting world)
    hfaithful ⟨sound_deployed, recorded_deployed⟩ ?_
  rintro history world input next hinput ⟨hsound, hrecorded⟩ hstep
  refine ⟨sound_of_step hsound hinput hstep, ?_⟩
  cases input with
  | transaction transaction =>
      exact recorded_of_include hrecorded hsound.backed hinput hstep
  | execute memory pointer call verified =>
      exact recorded_of_execute hrecorded hsound.backed hinput hstep

end Records

section Completeness

variable {setting} {world : World} {exit exit' : TinExit} {entry : Position × ReceiptFields}

/-- What the query ids of the included transactions are the hashes of. -/
def queryPreimages (world : World) : Set (List Byte) :=
  {bytes | ∃ entry ∈ world.included, bytes = queryPreimage (fun _ => 0) 0 entry.1.chainKey
    entry.1.blockHeight entry.1.txIndex}

/-- The exit is attested from the transaction, or some call attests it. -/
def Attestable (setting : Setting) (world : World) (position : Position) (exit : TinExit) :
    Prop :=
  attestedOf exit (queryIdOf setting position) ∈ world.attested ∨
    ∃ memory pointer call next, Faithful setting world (.execute memory pointer call true) ∧
      execute setting world memory pointer call true = .ok next ∧
      attestedOf exit (queryIdOf setting position) ∈ next.attested

theorem entry_of_queryId {entry' : Position × ReceiptFields} (hplaced : Placed world.included)
    (hinj : Set.InjOn setting.environment.keccak256 (queryPreimages world))
    (hentry : entry ∈ world.included) (hentry' : entry' ∈ world.included)
    (hquery : queryIdOf setting entry.1 = queryIdOf setting entry'.1) : entry = entry' := by
  obtain ⟨hchain, hheight, hindex⟩ :=
    queryPreimage_injective (hinj ⟨entry, hentry, rfl⟩ ⟨entry', hentry', rfl⟩ hquery)
  exact hplaced entry hentry entry' hentry' hchain hheight hindex

theorem exit_of_attestedOf {queryId queryId' : Bytes32}
    (heq : attestedOf exit queryId = attestedOf exit' queryId') :
    exit = exit' ∧ queryId = queryId' := by
  cases exit
  cases exit'
  simp only [attestedOf, TinExitAttested.mk.injEq] at heq
  obtain ⟨rfl, rfl, rfl, rfl, rfl, rfl⟩ := heq
  exact ⟨rfl, rfl⟩

theorem leads_of_traced (hplaced : Placed world.included)
    (hinj : Set.InjOn setting.environment.keccak256 (queryPreimages world))
    (hentry : entry ∈ world.included)
    (htraced : Traced setting world.included
      (attestedOf exit (queryIdOf setting entry.1))) :
    Leads setting entry.2 exit := by
  obtain ⟨entry', hentry', exit', hleads, heq⟩ := htraced
  obtain ⟨rfl, hquery⟩ := exit_of_attestedOf heq
  rw [entry_of_queryId hplaced hinj hentry hentry' hquery]
  exact hleads

/-- An exit is attested only from a transaction whose first log of the event it is. -/
theorem leads_of_attestable (hsound : Sound setting world) (hrecorded : Recorded setting world)
    (hinj : Set.InjOn setting.environment.keccak256 (queryPreimages world))
    (hentry : entry ∈ world.included)
    (hattestable : Attestable setting world entry.1 exit) : Leads setting entry.2 exit := by
  rcases hattestable with hattested | ⟨memory, pointer, call, next, hfaithful, hexecute, hattested⟩
  · exact leads_of_traced hrecorded.placed hinj hentry (hrecorded.traced _ hattested)
  · have hnext := recorded_of_execute hrecorded hsound.backed hfaithful hexecute
    have hsame : next.included = world.included := by
      obtain ⟨-, -, -, -, event, -, rfl⟩ := execute_eq_ok.mp hexecute
      rfl
    exact leads_of_traced hrecorded.placed hinj hentry (hsame ▸ hnext.traced _ hattested)

theorem attestable_of_leads (hsound : Sound setting world) (hrecorded : Recorded setting world)
    (hinj : Set.InjOn setting.environment.keccak256 (queryPreimages world))
    (hserves : Serves setting.environment world.included)
    (hentry : entry ∈ world.included) (hstatus : entry.2.receiptStatus = 1)
    (hleads : Leads setting entry.2 exit) : Attestable setting world entry.1 exit := by
  by_cases hattested : attestedOf exit (queryIdOf setting entry.1) ∈ world.attested
  · exact Or.inl hattested
  -- an event of the same exit or the same query id would come from this transaction
  have hnone : ∀ event ∈ world.attested, event.settlementId ≠ exit.settlementId ∧
      event.queryId ≠ queryIdOf setting entry.1 := by
    intro event hevent
    obtain ⟨entry', hentry', exit', hleads', rfl⟩ := hrecorded.traced event hevent
    have hother : entry ≠ entry' := by
      rintro rfl
      have hlog : anchoredLog setting exit = anchoredLog setting exit' :=
        Option.some.inj (hleads.symm.trans hleads')
      rw [← exit_of_anchoredLog hlog] at hevent
      exact hattested hevent
    refine ⟨?_, ?_⟩
    · intro hid
      exact hother (hrecorded.apart entry hentry entry' hentry' exit exit'
        (mem_of_leads hleads) (mem_of_leads hleads') hid.symm)
    · intro hquery
      exact hother (entry_of_queryId hrecorded.placed hinj hentry hentry' hquery.symm)
  obtain ⟨call, haction, hclaimed⟩ := exists_call hserves hentry ATTEST_EXIT_ACTION
  obtain ⟨other, hlog, -, hfilled⟩ := hsound.backed entry hentry _ (mem_of_leads hleads) rfl
  obtain rfl := exit_of_anchoredLog hlog
  have hqueryId : computeQueryId setting (fun _ => 0) 0 call = queryIdOf setting entry.1 := by
    rw [computeQueryId_eq, hclaimed]
  have hunused : world.processedQueries (queryIdOf setting entry.1) = false := by
    rw [Bool.eq_false_iff]
    intro hprocessed
    obtain ⟨event, hevent, hquery⟩ := hrecorded.used _ hprocessed
    exact (hnone event hevent).2 hquery
  have hfresh : world.processedSettlements exit.settlementId = false := by
    rw [Bool.eq_false_iff]
    intro hprocessed
    obtain ⟨event, hevent, hid⟩ := List.mem_map.mp ((hsound.flagged _).mp hprocessed)
    exact (hnone event hevent).1 hid
  have hencoded : call.encodedTransaction = entry.1.encodedTransaction := by
    rw [← hclaimed]
    rfl
  have hattests : Attests setting world.processedSettlements
      (computeQueryId setting (fun _ => 0) 0 call) call.encodedTransaction
      (attestedOf exit (queryIdOf setting entry.1)) := by
    obtain ⟨hsealed, hamount, htin, hexit⟩ := hfilled
    refine ⟨⟨entry.2, anchoredLog setting exit, ?_, hstatus, hleads, rfl, rfl, hfresh, ?_⟩,
      hsealed, ?_, htin, hexit⟩
    · rw [hencoded]
      exact hserves.decoded entry hentry
    · rw [hqueryId]
      exact decodeAnchored_anchoredWords exit _
    · exact (BitVec.pos_iff_ne_zero _).mpr hamount
  refine Or.inr ⟨fun _ => 0, 0, call, _, ?_, execute_eq_ok.mpr ⟨?_, ?_, rfl, haction, _, hattests,
    rfl⟩, List.mem_cons_self⟩
  · intro _
    rw [hclaimed, hencoded]
    exact ⟨entry.2, hentry, hserves.decoded entry hentry⟩
  · rw [← hrecorded.chained entry hentry, ← hclaimed]
    rfl
  · rw [hqueryId]
    exact hunused

end Completeness

section Samples

def sampleAnchor : Address := 0xa1c0

def sampleExit : TinExit :=
  ⟨0x51, 0xa1, 2000000, 0x71, 0xc1⟩

/-- The log of an exit, with the hash of the event written out. -/
def sampleLog (exit : TinExit) : LogEntry where
  address_ := sampleAnchor
  topics := [0x3eb10cca26b062ddf8edc757a53c1d4d85a4d9522e557d6cba3d5d18c07be543,
    exit.settlementId]
  data := abiEncode (anchoredWords exit)

/-- A log that a token emits in the same transaction. -/
def sampleTransfer : LogEntry :=
  ⟨0x70ce, [0xddf252ad1be2c89b69c2b068fc378daa952ba7f163c4a11628f55a4df523b3ef], []⟩

/-- The contracts where the sample transaction has left the given logs. -/
def sampleSetting (logs : List LogEntry) : Setting where
  environment := sampleEnvironment [([2], ⟨1, logs⟩)]
  sourceAnchor := sampleAnchor
  sourceAnchor_ne := by decide

def sampleTransaction (items : List (SourceItem sampleAnchor)) :
    SourceTransaction sampleAnchor :=
  ⟨9000000, samplePosition, true, items⟩

def sampleExecute : Input sampleAnchor :=
  .execute (fun _ => 0) 128 sampleCall true

/-- Inputs around the sample call are as the runs assume them. -/
theorem faithful_sampleExecute {logs : List LogEntry} {world : World}
    (hincluded : (samplePosition, ⟨1, logs⟩) ∈ world.included) :
    Faithful (sampleSetting logs) world sampleExecute := by
  intro _
  exact ⟨⟨1, logs⟩, hincluded, rfl⟩

/-- A transfer and an exit in one transaction, and a call that attests the exit. -/
theorem attested_sampleRun :
    ∃ history world, Run (step (sampleSetting [sampleTransfer, sampleLog sampleExit])) deployed
        history world ∧
      world.attested.map TinExitAttested.settlementId = [0x51] ∧
      (world.attested.map TinExitAttested.settlementId).Nodup ∧
      ∀ event ∈ world.attested, (world.anchors event.settlementId).digest ≠ 0 ∧
        event.amount = (world.anchors event.settlementId).amount := by
  have hreaches : reaches (step (sampleSetting [sampleTransfer, sampleLog sampleExit])) deployed
      [sampleExecute, .transaction (sampleTransaction
        [.foreign ⟨sampleTransfer, by decide⟩, .recordTinExit sampleExit])]
      (fun history world => history.head?.any fun entry =>
        decide (entry.1.included =
            [(samplePosition, ⟨1, [sampleTransfer, sampleLog sampleExit]⟩)] ∧
          world.attested.map TinExitAttested.settlementId = [0x51])) = true := by
    decide +kernel
  obtain ⟨history, world, hrun, hinputs, hproperty⟩ := exists_run_of_reaches_inputs hreaches
  obtain ⟨⟨middle, input⟩, rest, rfl, hexecute, hrest⟩ := List.map_eq_cons_iff.mp hinputs
  obtain ⟨⟨first, input'⟩, rest, rfl, htransaction, hnone⟩ := List.map_eq_cons_iff.mp hrest
  obtain rfl := List.map_eq_nil_iff.mp hnone
  obtain rfl : input = sampleExecute := hexecute
  obtain rfl : input' = .transaction (sampleTransaction
    [.foreign ⟨sampleTransfer, by decide⟩, .recordTinExit sampleExit]) := htransaction
  obtain ⟨hincluded, hattested⟩ := of_decide_eq_true
    (show decide (middle.included =
        [(samplePosition, ⟨1, [sampleTransfer, sampleLog sampleExit]⟩)] ∧
      world.attested.map TinExitAttested.settlementId = [0x51]) = true from hproperty)
  have hfaithful : ∀ entry ∈ [(middle, sampleExecute), (first, .transaction (sampleTransaction
      [.foreign ⟨sampleTransfer, by decide⟩, .recordTinExit sampleExit]))],
      Faithful (sampleSetting [sampleTransfer, sampleLog sampleExit]) entry.1 entry.2 := by
    intro entry hentry
    rcases List.mem_pair.mp hentry with rfl | rfl
    · exact faithful_sampleExecute (hincluded ▸ List.mem_singleton_self _)
    · intro exit hexit
      obtain rfl : exit = sampleExit := by
        rcases List.mem_pair.mp hexit with hexit | hexit
        · cases hexit
        · exact SourceItem.recordTinExit.inj hexit
      decide +kernel
  obtain ⟨hnodup, hmatch, -⟩ := attestedOnce_of_run hrun hfaithful
  refine ⟨_, world, hrun, hattested, hnodup, ?_⟩
  intro event hevent
  obtain ⟨hanchored, -, hamount, -⟩ := hmatch event hevent
  exact ⟨hanchored, hamount⟩

example : (sampleLog sampleExit).topics ≠ sampleTransfer.topics := by
  decide +kernel

end Samples

end TsnProtocol.Crosschain.ExitAttestation
