import TsnProtocol.Crosschain.ReservationBooks
import TsnProtocol.Crosschain.ProvedEvents
import TsnProtocol.Lib.TextFormat

/-!
`DestinationLiquidityASC`: it checks a proved transaction for the event of the liquidity behind
a route and records what the event says in the registry.
-/

namespace TsnProtocol.Crosschain.LiquidityAttestation

open Crosschain.LiquidityRegistry (LiquidityObservation Route recordVerifiedLiquidity
  recordVerifiedLiquidity_eq_ok)
open Crosschain.ProvedEvents
open Lib.ByteReader
open Lib.Checked
open Lib.Evm
open Lib.EvmMemory
open Lib.TextFormat
open Lib.Transition

inductive Problem
  | unsupportedAction (action : BitVec 8)
  | queryAlreadyProcessed (queryId : Bytes32)
  | invalidProof
  | unknownRoute
  | wrongEmitter (actual : Address)
  | wrongChain (actual expected : BitVec 64)
  | wrongToken (actual : Address)
  | invalidLiquidityEvent
  | undecodable
  | noSuchPlace
  | registry (problem : LiquidityRegistry.Problem)
  deriving DecidableEq

structure Setting where
  environment : Environment
  asc : Address

/-- The registry and the ASC on Creditcoin, with the transactions of the source chains, latest
first. -/
structure World where
  registry : LiquidityRegistry.State
  processedQueries : Bytes32 → Bool
  included : List (Position × ReceiptFields)

def LIQUIDITY_ACTION : BitVec 8 := 0

variable (setting : Setting)

def LIQUIDITY_AVAILABLE_EVENT : Bytes32 :=
  setting.environment.keccak256
    (encodeAscii "LiquidityAvailable(bytes32,address,uint256,uint256,uint256)".toList)

/-- The bytes that `_computeQueryId` hashes, for the transaction that a proof is about. -/
def queryPreimage (position : Position) : List Byte :=
  abiEncode [position.chainKey.setWidth 256, position.blockHeight.setWidth 256,
    position.txIndex, addressWord setting.asc]

def queryIdOf (position : Position) : Bytes32 :=
  setting.environment.keccak256 (queryPreimage setting position)

/-- What the data of the event says. -/
structure Announcement where
  (availableAmount nonce validUntil : Uint256)
  deriving DecidableEq

/-- `abi.decode` of the data of the event. -/
def readAnnouncement : Reader Problem Announcement := do
  let availableAmount ← takeWord .undecodable
  let nonce ← takeWord .undecodable
  let validUntil ← takeWord .undecodable
  return ⟨availableAmount, nonce, validUntil⟩

def decodeAnnouncement (data : List Byte) : Except Problem Announcement :=
  Prod.fst <$> readAnnouncement data

def execute (world : World) (now : Uint256) (routeId : Bytes32) (call : ProofCall)
    (verified : Bool) : Except Problem World := do
  require (¬ call.action ≠ LIQUIDITY_ACTION) (.unsupportedAction call.action)
  let route := world.registry.routes routeId
  require (route.enabled = true) .unknownRoute
  require (¬ call.chainKey ≠ route.sourceChainKey) (.wrongChain call.chainKey route.sourceChainKey)
  let queryId := queryIdOf setting (claimed setting.environment call)
  require (¬ world.processedQueries queryId = true) (.queryAlreadyProcessed queryId)
  require (verified = true) .invalidProof
  let receipt ← okOr (setting.environment.decoder.decodeReceiptFields call.encodedTransaction)
    .undecodable
  require (¬ receipt.receiptStatus ≠ 1) .invalidLiquidityEvent
  let log ← okOr (setting.environment.decoder.getLogsByEventSignature receipt
    (LIQUIDITY_AVAILABLE_EVENT setting)).head? .invalidLiquidityEvent
  require (¬ log.address_ ≠ route.sourceEmitter) (.wrongEmitter log.address_)
  require (¬ log.topics.length ≠ 3) .invalidLiquidityEvent
  let eventRouteId := log.topics.getD 1 0
  let eventToken : Address := (log.topics.getD 2 0).setWidth 160
  require (¬ (eventRouteId ≠ routeId ∨ eventToken ≠ route.token)) (.wrongToken eventToken)
  let announcement ← decodeAnnouncement log.data
  require (¬ (announcement.availableAmount = 0 ∨ announcement.validUntil ≤ now))
    .invalidLiquidityEvent
  let registry ← (recordVerifiedLiquidity world.registry setting.asc now routeId queryId
    announcement.availableAmount (call.blockHeight.setWidth 256) announcement.validUntil
    announcement.nonce).mapError .registry
  return { world with
    registry := registry
    processedQueries := Function.update world.processedQueries queryId true }

/-- A log of the event for a route and token, from one emitter. -/
structure Announces (log : LogEntry) (emitter : Address) (routeId : Bytes32) (token : Address)
    (announcement : Announcement) : Prop where
  carried : carries (LIQUIDITY_AVAILABLE_EVENT setting) log = true
  emitter : log.address_ = emitter
  topics : log.topics.length = 3
  routeId : log.topics.getD 1 0 = routeId
  token : (log.topics.getD 2 0).setWidth 160 = token
  data : decodeAnnouncement log.data = .ok announcement

/-- A block after the genesis has one transaction at each index. -/
def includeTransaction (world : World) (position : Position) (receipt : ReceiptFields) :
    Except Problem World := do
  require (position.blockHeight ≠ 0) .noSuchPlace
  require (∀ entry ∈ world.included, ¬ (entry.1.chainKey = position.chainKey ∧
    entry.1.blockHeight = position.blockHeight ∧ entry.1.txIndex = position.txIndex))
    .noSuchPlace
  return { world with included := (position, receipt) :: world.included }

inductive Input
  | transaction (position : Position) (receipt : ReceiptFields)
  | registry (transaction : LiquidityRegistry.Transaction)
  | execute (now : Uint256) (routeId : Bytes32) (call : ProofCall) (verified : Bool)

/-- The ASC calls the registry only where it records. -/
def registryStep (world : World) (transaction : LiquidityRegistry.Transaction) :
    Except Problem World := do
  require (transaction.sender ≠ setting.asc) (.registry .unauthorized)
  let registry ← (LiquidityRegistry.step world.registry transaction).mapError .registry
  return { world with registry := registry }

def step (world : World) : Input → Except Problem World
  | .transaction position receipt => includeTransaction world position receipt
  | .registry transaction => registryStep setting world transaction
  | .execute now routeId call verified => execute setting world now routeId call verified

/-- What the runs assume of other code: the verifier accepts only transactions that are
included, and the decoder returns the receipts of these. -/
def Faithful (world : World) : Input → Prop
  | .execute _ _ call verified => verified = true → ∃ receipt,
      (claimed setting.environment call, receipt) ∈ world.included ∧
        setting.environment.decoder.decodeReceiptFields call.encodedTransaction = some receipt
  | _ => True

/-- The ASC and a registry as deployed, before any transaction. -/
def Deployed (world : World) : Prop :=
  world.processedQueries = (fun _ => false) ∧ world.included = []

section Inversions

variable {setting} {world next : World} {now : Uint256} {routeId : Bytes32} {call : ProofCall}
  {verified : Bool}

/-- What a call that records has found. -/
structure Records (setting : Setting) (world : World) (now : Uint256) (routeId : Bytes32)
    (call : ProofCall) (announcement : Announcement) : Prop where
  enabled : (world.registry.routes routeId).enabled = true
  chain : call.chainKey = (world.registry.routes routeId).sourceChainKey
  fresh : world.processedQueries (queryIdOf setting (claimed setting.environment call)) = false
  found : ∃ receipt log,
    setting.environment.decoder.decodeReceiptFields call.encodedTransaction = some receipt ∧
    receipt.receiptStatus = 1 ∧
    (receipt.receiptLogs.filter (carries (LIQUIDITY_AVAILABLE_EVENT setting))).head? =
      some log ∧
    Announces setting log (world.registry.routes routeId).sourceEmitter routeId
      (world.registry.routes routeId).token announcement
  available : announcement.availableAmount ≠ 0
  unexpired : now < announcement.validUntil

theorem execute_eq_ok :
    execute setting world now routeId call verified = .ok next ↔
      call.action = LIQUIDITY_ACTION ∧ verified = true ∧
      ∃ announcement registry, Records setting world now routeId call announcement ∧
        recordVerifiedLiquidity world.registry setting.asc now routeId
          (queryIdOf setting (claimed setting.environment call)) announcement.availableAmount
          (call.blockHeight.setWidth 256) announcement.validUntil announcement.nonce =
            .ok registry ∧
        next = { world with
          registry := registry
          processedQueries := Function.update world.processedQueries
            (queryIdOf setting (claimed setting.environment call)) true } := by
  simp only [execute, bind_eq_ok, require_eq_ok, okOr_eq_ok, pure_eq_ok, ne_eq, not_not,
    not_or, Bool.not_eq_true, BitVec.not_le, mapError_eq_ok,
    setting.environment.decoder.getLogsByEventSignature_eq]
  constructor
  · rintro ⟨_, haction, _, henabled, _, hchain, _, hfresh, _, hverified, receipt, hreceipt, _,
      hstatus, log, hlog, _, hemitter, _, htopics, _, ⟨hroute, htoken⟩, announcement, hdata, _,
      ⟨havailable, hvalid⟩, registry, hrecord, rfl⟩
    have hcarried : carries (LIQUIDITY_AVAILABLE_EVENT setting) log = true :=
      (List.mem_filter.mp (List.mem_of_head? hlog)).2
    exact ⟨haction, hverified, announcement, registry,
      ⟨henabled, hchain, hfresh, ⟨receipt, log, hreceipt, hstatus, hlog,
        ⟨hcarried, hemitter, htopics, hroute, htoken, hdata⟩⟩, havailable, hvalid⟩, hrecord, rfl⟩
  · rintro ⟨haction, hverified, announcement, registry,
      ⟨henabled, hchain, hfresh, ⟨receipt, log, hreceipt, hstatus, hlog,
        ⟨-, hemitter, htopics, hroute, htoken, hdata⟩⟩, havailable, hvalid⟩, hrecord, rfl⟩
    exact ⟨(), haction, (), henabled, (), hchain, (), hfresh, (), hverified, receipt, hreceipt,
      (), hstatus, log, hlog, (), hemitter, (), htopics, (), ⟨hroute, htoken⟩, announcement,
      hdata, (), ⟨havailable, hvalid⟩, registry, hrecord, rfl⟩

end Inversions

section Nonces

variable {state next : LiquidityRegistry.State} {transaction : LiquidityRegistry.Transaction}

/-- The nonce of a route never falls. -/
theorem nonce_le_of_step (hstep : LiquidityRegistry.step state transaction = .ok next)
    (routeId : Bytes32) :
    (state.latestObservation routeId).nonce ≤ (next.latestObservation routeId).nonce := by
  rcases ReservationBooks.effect_of_step hstep with
    ⟨-, hobservation, -, -⟩ | ⟨observed, observation, -, hnonce, hobservation, -, -⟩ |
    ⟨_, _, _, _, -, hobservation, -, -, -⟩
  · rw [hobservation]
    exact BitVec.le_refl _
  · rw [hobservation]
    by_cases hsame : routeId = observed
    · subst hsame
      rw [Function.update_self]
      exact BitVec.le_of_lt hnonce
    · rw [Function.update_of_ne hsame]
      exact BitVec.le_refl _
  · rw [hobservation]
    exact BitVec.le_refl _

end Nonces

section Runs

variable {setting} {start world next : World} {history : List (World × Input)} {now : Uint256}
  {routeId : Bytes32} {call : ProofCall} {verified : Bool} {announcement : Announcement}

/-- A query id that is used up stands for an included transaction, and the registry has seen
the nonce that the first log of the event in it carries. -/
def Consumed (setting : Setting) (world : World) (queryId : Bytes32) : Prop :=
  ∃ entry ∈ world.included, queryId = queryIdOf setting entry.1 ∧ ∃ log announcement,
    (entry.2.receiptLogs.filter (carries (LIQUIDITY_AVAILABLE_EVENT setting))).head? =
      some log ∧
    decodeAnnouncement log.data = .ok announcement ∧
    announcement.nonce ≤ (world.registry.latestObservation (log.topics.getD 1 0)).nonce

theorem Consumed.mono {queryId : Bytes32} (hconsumed : Consumed setting world queryId)
    (hincluded : world.included ⊆ next.included)
    (hnonce : ∀ routeId, (world.registry.latestObservation routeId).nonce ≤
      (next.registry.latestObservation routeId).nonce) : Consumed setting next queryId := by
  obtain ⟨entry, hentry, hquery, log, announcement, hlog, hdata, hle⟩ := hconsumed
  exact ⟨entry, hincluded hentry, hquery, log, announcement, hlog, hdata,
    BitVec.le_trans hle (hnonce _)⟩

/-- The invariant of a run. -/
structure Sound (setting : Setting) (world : World) : Prop where
  placed : Placed world.included
  mined : ∀ entry ∈ world.included, entry.1.blockHeight ≠ 0
  consumed : ∀ queryId, world.processedQueries queryId = true → Consumed setting world queryId

theorem sound_of_deployed (hdeployed : Deployed world) : Sound setting world := by
  obtain ⟨hqueries, hincluded⟩ := hdeployed
  constructor
  · rw [hincluded]
    intro entry hentry
    exact absurd hentry List.not_mem_nil
  · rw [hincluded]
    intro entry hentry
    exact absurd hentry List.not_mem_nil
  · rw [hqueries]
    intro queryId hprocessed
    cases hprocessed

theorem sound_of_include {position : Position} {receipt : ReceiptFields}
    (hsound : Sound setting world)
    (hinclude : includeTransaction world position receipt = .ok next) : Sound setting next := by
  simp only [includeTransaction, bind_eq_ok, require_eq_ok, pure_eq_ok] at hinclude
  obtain ⟨_, hmined, _, hfree, rfl⟩ := hinclude
  refine ⟨placed_cons hsound.placed hfree, ?_, ?_⟩
  · intro entry hentry
    rcases List.mem_cons.mp hentry with rfl | hearlier
    · exact hmined
    · exact hsound.mined entry hearlier
  · intro queryId hprocessed
    exact (hsound.consumed queryId hprocessed).mono (List.subset_cons_self _ _)
      fun _ => BitVec.le_refl _

theorem sound_of_registryStep {transaction : LiquidityRegistry.Transaction}
    (hsound : Sound setting world)
    (hstep : registryStep setting world transaction = .ok next) : Sound setting next := by
  simp only [registryStep, bind_eq_ok, require_eq_ok, pure_eq_ok, mapError_eq_ok] at hstep
  obtain ⟨_, -, registry, hregistry, rfl⟩ := hstep
  refine ⟨hsound.placed, hsound.mined, ?_⟩
  intro queryId hprocessed
  exact (hsound.consumed queryId hprocessed).mono (List.Subset.refl _)
    (nonce_le_of_step hregistry)

theorem sound_of_execute (hsound : Sound setting world)
    (hfaithful : Faithful setting world (.execute now routeId call verified))
    (hexecute : execute setting world now routeId call verified = .ok next) :
    Sound setting next := by
  obtain ⟨-, hverified, announcement, registry, hrecords, hrecord, rfl⟩ :=
    execute_eq_ok.mp hexecute
  obtain ⟨receipt, hincluded, hreceipt⟩ := hfaithful hverified
  obtain ⟨receipt', log, hdecoded, -, hlog, hannounces⟩ := hrecords.found
  obtain rfl : receipt = receipt' := Option.some.inj (hreceipt.symm.trans hdecoded)
  obtain ⟨hnonce, -, rfl⟩ := recordVerifiedLiquidity_eq_ok hrecord
  refine ⟨hsound.placed, hsound.mined, ?_⟩
  intro queryId hprocessed
  by_cases hsame : queryId = queryIdOf setting (claimed setting.environment call)
  · refine ⟨_, hincluded, hsame, log, announcement, hlog, hannounces.data, ?_⟩
    simp only [hannounces.routeId, Function.update_self]
    exact BitVec.le_refl _
  · simp only [Function.update_of_ne hsame] at hprocessed
    refine (hsound.consumed queryId hprocessed).mono (List.Subset.refl _) ?_
    intro other
    by_cases hother : other = routeId
    · subst hother
      simp only [Function.update_self]
      exact BitVec.le_of_lt hnonce
    · simp only [Function.update_of_ne hother]
      exact BitVec.le_refl _

theorem soundState_of_run (hrun : Run (step setting) start history world)
    (hdeployed : Deployed start)
    (hfaithful : ∀ entry ∈ history, Faithful setting entry.1 entry.2) :
    Sound setting world := by
  refine hrun.induct_of_forall (fun _ world => Sound setting world) hfaithful
    (sound_of_deployed hdeployed) ?_
  intro history world input next hinput hsound hstep
  cases input with
  | transaction position receipt => exact sound_of_include hsound hstep
  | registry transaction => exact sound_of_registryStep hsound hstep
  | execute now routeId call verified => exact sound_of_execute hsound hinput hstep

end Runs

section Completeness

variable {setting} {world : World} {now : Uint256} {routeId : Bytes32}
  {announcement : Announcement} {entry : Position × ReceiptFields}

/-- What the query ids of the included transactions are the hashes of. -/
def queryPreimages (setting : Setting) (world : World) : Set (List Byte) :=
  {bytes | ∃ entry ∈ world.included, bytes = queryPreimage setting entry.1}

/-- The first log of the event in a receipt announces the liquidity. -/
def Leads (setting : Setting) (receipt : ReceiptFields) (emitter : Address) (routeId : Bytes32)
    (token : Address) (announcement : Announcement) : Prop :=
  ∃ log, (receipt.receiptLogs.filter (carries (LIQUIDITY_AVAILABLE_EVENT setting))).head? =
    some log ∧ Announces setting log emitter routeId token announcement

/-- Some call records the announcement from the transaction. -/
def Recordable (setting : Setting) (world : World) (now : Uint256) (position : Position)
    (routeId : Bytes32) (announcement : Announcement) : Prop :=
  ∃ call next, Faithful setting world (.execute now routeId call true) ∧
    execute setting world now routeId call true = .ok next ∧
    next.registry.latestObservation routeId =
      ⟨announcement.availableAmount, position.blockHeight.setWidth 256, now,
        announcement.validUntil, announcement.nonce, queryIdOf setting position⟩

theorem entry_of_queryId {entry' : Position × ReceiptFields} (hplaced : Placed world.included)
    (hinj : Set.InjOn setting.environment.keccak256 (queryPreimages setting world))
    (hentry : entry ∈ world.included) (hentry' : entry' ∈ world.included)
    (hquery : queryIdOf setting entry.1 = queryIdOf setting entry'.1) : entry = entry' := by
  have hwords := abiEncode_injective (hinj ⟨entry, hentry, rfl⟩ ⟨entry', hentry', rfl⟩ hquery)
  simp only [List.cons.injEq, and_true] at hwords
  obtain ⟨hchain, hheight, hindex⟩ := hwords
  exact hplaced entry hentry entry' hentry' (setWidth_injective hchain)
    (setWidth_injective hheight) hindex

/-- What is recorded is what the first log of the event announces. -/
theorem leads_of_recordable (hsound : Sound setting world)
    (hinj : Set.InjOn setting.environment.keccak256 (queryPreimages setting world))
    (hentry : entry ∈ world.included)
    (hrecordable : Recordable setting world now entry.1 routeId announcement) :
    world.registry.liquidityASC = setting.asc ∧ announcement.availableAmount ≠ 0 ∧
      Leads setting entry.2 (world.registry.routes routeId).sourceEmitter routeId
        (world.registry.routes routeId).token announcement := by
  obtain ⟨call, next, hfaithful, hexecute, hobservation⟩ := hrecordable
  obtain ⟨-, -, recorded, registry, hrecords, hrecord, rfl⟩ := execute_eq_ok.mp hexecute
  have hasc : setting.asc = world.registry.liquidityASC := by
    simp only [recordVerifiedLiquidity, bind_eq_ok, require_eq_ok] at hrecord
    exact hrecord.choose_spec.1
  obtain ⟨-, -, rfl⟩ := recordVerifiedLiquidity_eq_ok hrecord
  simp only [Function.update_self, LiquidityObservation.mk.injEq] at hobservation
  obtain ⟨havailable, -, -, hvalid, hnonce, hquery⟩ := hobservation
  obtain rfl : recorded = announcement := by
    cases recorded
    cases announcement
    simp only at havailable hvalid hnonce
    rw [havailable, hvalid, hnonce]
  obtain ⟨receipt, hincluded, hreceipt⟩ := hfaithful rfl
  obtain rfl := entry_of_queryId hsound.placed hinj hincluded hentry hquery
  obtain ⟨receipt', log, hdecoded, -, hlog, hannounces⟩ := hrecords.found
  obtain rfl : receipt = receipt' := Option.some.inj (hreceipt.symm.trans hdecoded)
  exact ⟨hasc.symm, hrecords.available, log, hlog, hannounces⟩

/-- What the registry records from the ASC. -/
theorem exists_recorded {registry : LiquidityRegistry.State} {queryId : Bytes32}
    {availableAmount sourceBlock validUntil nonce : Uint256}
    (henabled : (registry.routes routeId).enabled = true) (hblock : sourceBlock ≠ 0)
    (hquery : queryId ≠ 0) (hvalid : now < validUntil)
    (hnewer : (registry.latestObservation routeId).nonce < nonce) :
    ∃ next, recordVerifiedLiquidity registry registry.liquidityASC now routeId queryId
        availableAmount sourceBlock validUntil nonce = .ok next ∧
      next.latestObservation routeId =
        ⟨availableAmount, sourceBlock, now, validUntil, nonce, queryId⟩ := by
  refine ⟨{ registry with
    latestObservation := Function.update registry.latestObservation routeId
      ⟨availableAmount, sourceBlock, now, validUntil, nonce, queryId⟩ }, ?_, ?_⟩
  · simp only [recordVerifiedLiquidity, bind_eq_ok, require_eq_ok, pure_eq_ok, not_or,
      BitVec.not_le, henabled]
    exact ⟨(), trivial, (), ⟨Bool.noConfusion, hblock, hquery, hvalid⟩, (), hnewer, trivial⟩
  · simp only [Function.update_self]

theorem recordable_of_leads (hsound : Sound setting world)
    (hinj : Set.InjOn setting.environment.keccak256 (queryPreimages setting world))
    (hserves : Serves setting.environment world.included)
    (hquery : queryIdOf setting entry.1 ≠ 0) (hentry : entry ∈ world.included)
    (hstatus : entry.2.receiptStatus = 1)
    (henabled : (world.registry.routes routeId).enabled = true)
    (hchain : entry.1.chainKey = (world.registry.routes routeId).sourceChainKey)
    (hnewer : (world.registry.latestObservation routeId).nonce < announcement.nonce)
    (hvalid : now < announcement.validUntil)
    (hasc : world.registry.liquidityASC = setting.asc)
    (havailable : announcement.availableAmount ≠ 0)
    (hleads : Leads setting entry.2 (world.registry.routes routeId).sourceEmitter routeId
      (world.registry.routes routeId).token announcement) :
    Recordable setting world now entry.1 routeId announcement := by
  obtain ⟨log, hlog, hannounces⟩ := hleads
  obtain ⟨call, haction, hclaimed⟩ := exists_call hserves hentry LIQUIDITY_ACTION
  have hunused : world.processedQueries (queryIdOf setting entry.1) = false := by
    rw [Bool.eq_false_iff]
    intro hprocessed
    obtain ⟨entry', hentry', hsame, log', announcement', hlog', hdata', hle⟩ :=
      hsound.consumed _ hprocessed
    obtain rfl := entry_of_queryId hsound.placed hinj hentry hentry' hsame
    obtain rfl : log = log' := Option.some.inj (hlog.symm.trans hlog')
    obtain rfl : announcement = announcement' :=
      Except.ok.inj (hannounces.data.symm.trans hdata')
    rw [hannounces.routeId] at hle
    exact BitVec.not_le.mpr hnewer hle
  have hencoded : call.encodedTransaction = entry.1.encodedTransaction := by
    rw [← hclaimed]
    rfl
  have hheight : call.blockHeight = entry.1.blockHeight := by
    rw [← hclaimed]
    rfl
  have hkey : call.chainKey = (world.registry.routes routeId).sourceChainKey := by
    rw [← hchain, ← hclaimed]
    rfl
  have hrecords : Records setting world now routeId call announcement := by
    refine ⟨henabled, hkey, ?_, ⟨entry.2, log, ?_, hstatus, hlog, hannounces⟩, havailable, hvalid⟩
    · rw [hclaimed]
      exact hunused
    · rw [hencoded]
      exact hserves.decoded entry hentry
  have hblock : call.blockHeight.setWidth 256 ≠ 0 := by
    rw [hheight]
    intro hzero
    exact hsound.mined entry hentry (setWidth_injective hzero)
  obtain ⟨registry, hrecord, hobservation⟩ := exists_recorded henabled hblock hquery hvalid hnewer
  rw [hasc] at hrecord
  refine ⟨call, _, ?_, execute_eq_ok.mpr ⟨haction, rfl, announcement, registry, hrecords, ?_,
    rfl⟩, ?_⟩
  · intro _
    rw [hclaimed, hencoded]
    exact ⟨entry.2, hentry, hserves.decoded entry hentry⟩
  · rw [hclaimed]
    exact hrecord
  · rw [← hheight]
    exact hobservation

end Completeness

end TsnProtocol.Crosschain.LiquidityAttestation
