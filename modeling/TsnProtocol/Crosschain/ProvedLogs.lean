import TsnProtocol.Crosschain.ExitAttestation
import TsnProtocol.Crosschain.LiquidityAttestation

/-!
Which logs of a proved transaction reach Creditcoin. Both ASCs look at the first log of their
event and use the transaction up with it, so a log behind another one of its event is lost.
-/

namespace TsnProtocol.Crosschain.ProvedLogs

open Crosschain.ExitAttestation (Attestable TinExit anchoredLog sampleExit sampleLog
  sampleTransfer)
open Crosschain.LiquidityAttestation (Announcement Announces Recordable)
open Crosschain.ProvedEvents
open Lib.Evm
open Lib.Transition

/-- A log of an exit can be attested, and one of liquidity recorded, exactly where it is the
first of its event in the transaction; liquidity has to be some, and the registry has to
accept the ASC. -/
theorem recorded_iff_first (exits : ExitAttestation.Setting)
    (setting : LiquidityAttestation.Setting) :
    (∀ (history : List (ExitAttestation.World × ExitAttestation.Input exits.sourceAnchor))
      (world : ExitAttestation.World),
      Run (ExitAttestation.step exits) ExitAttestation.deployed history world →
      (∀ entry ∈ history, ExitAttestation.Faithful exits entry.1 entry.2) →
      Set.InjOn exits.environment.keccak256 (ExitAttestation.queryPreimages world) →
      Serves exits.environment world.included →
      ∀ entry ∈ world.included, entry.2.receiptStatus = 1 →
      ∀ exit, anchoredLog exits exit ∈ entry.2.receiptLogs →
        (Attestable exits world entry.1 exit ↔
          ExitAttestation.Leads exits entry.2 exit)) ∧
    (∀ (history : List (LiquidityAttestation.World × LiquidityAttestation.Input))
      (start world : LiquidityAttestation.World) (now : Uint256),
      LiquidityAttestation.Deployed start →
      Run (LiquidityAttestation.step setting) start history world →
      (∀ entry ∈ history, LiquidityAttestation.Faithful setting entry.1 entry.2) →
      Set.InjOn setting.environment.keccak256
        (LiquidityAttestation.queryPreimages setting world) →
      (∀ entry ∈ world.included, LiquidityAttestation.queryIdOf setting entry.1 ≠ 0) →
      Serves setting.environment world.included →
      ∀ entry ∈ world.included, entry.2.receiptStatus = 1 →
      ∀ log ∈ entry.2.receiptLogs, ∀ (routeId : Bytes32) (announcement : Announcement),
        (world.registry.routes routeId).enabled = true →
        entry.1.chainKey = (world.registry.routes routeId).sourceChainKey →
        Announces setting log (world.registry.routes routeId).sourceEmitter routeId
          (world.registry.routes routeId).token announcement →
        (world.registry.latestObservation routeId).nonce < announcement.nonce →
        now < announcement.validUntil →
        (Recordable setting world now entry.1 routeId announcement ↔
          world.registry.liquidityASC = setting.asc ∧ announcement.availableAmount ≠ 0 ∧
            LiquidityAttestation.Leads setting entry.2
              (world.registry.routes routeId).sourceEmitter routeId
              (world.registry.routes routeId).token announcement)) := by
  refine ⟨?_, ?_⟩
  · intro history world hrun hfaithful hinj hserves entry hentry hstatus exit _
    obtain ⟨hsound, hrecorded⟩ := ExitAttestation.recorded_of_run hrun hfaithful
    constructor
    · intro hattestable
      exact ExitAttestation.leads_of_attestable hsound hrecorded hinj hentry hattestable
    · intro hleads
      exact ExitAttestation.attestable_of_leads hsound hrecorded hinj hserves hentry hstatus hleads
  · intro history start world now hdeployed hrun hfaithful hinj hquery hserves entry
      hentry hstatus log _ routeId announcement henabled hchain _ hnewer hvalid
    have hsound := LiquidityAttestation.soundState_of_run hrun hdeployed hfaithful
    constructor
    · intro hrecordable
      exact LiquidityAttestation.leads_of_recordable hsound hinj hentry hrecordable
    · rintro ⟨hasc, havailable, hleads⟩
      exact LiquidityAttestation.recordable_of_leads hsound hinj hserves (hquery entry hentry)
        hentry hstatus henabled hchain hnewer hvalid hasc havailable hleads

section Samples

theorem serves_sample (logs : List LogEntry) :
    Serves (sampleEnvironment [([2], ⟨1, logs⟩)]) [(samplePosition, ⟨1, logs⟩)] := by
  constructor
  · intro entry hentry
    obtain rfl := List.mem_singleton.mp hentry
    exact ⟨sampleCall.merkleProof,
      (by decide : sampleTxIndex sampleCall.merkleProof = samplePosition.txIndex)⟩
  · intro entry hentry
    obtain rfl := List.mem_singleton.mp hentry
    rfl

theorem anchoredLog_sample (logs : List LogEntry) (exit : TinExit) :
    anchoredLog (ExitAttestation.sampleSetting logs) exit = sampleLog exit := by
  have hevent : ExitAttestation.TIN_EXIT_ANCHORED_EVENT (ExitAttestation.sampleSetting []) =
      0x3eb10cca26b062ddf8edc757a53c1d4d85a4d9522e557d6cba3d5d18c07be543 := by
    decide +kernel
  rw [anchoredLog, sampleLog]
  congr 2

/-- One included transaction, with exits of the anchor and logs of others. -/
theorem exists_sampleWorld
    (items : List (ExitAttestation.SourceItem ExitAttestation.sampleAnchor))
    (logs : List LogEntry)
    (hreaches : reaches (ExitAttestation.step (ExitAttestation.sampleSetting logs))
      ExitAttestation.deployed [.transaction (ExitAttestation.sampleTransaction items)]
      (fun _ world => decide (world.included = [(samplePosition, ⟨1, logs⟩)])) = true)
    (hdigest : ∀ exit, .recordTinExit exit ∈ items →
      ExitAttestation.anchorDigest (ExitAttestation.sampleSetting logs) exit ≠ 0) :
    ∃ history world, Run (ExitAttestation.step (ExitAttestation.sampleSetting logs))
        ExitAttestation.deployed history world ∧
      (∀ entry ∈ history,
        ExitAttestation.Faithful (ExitAttestation.sampleSetting logs) entry.1 entry.2) ∧
      world.included = [(samplePosition, ⟨1, logs⟩)] ∧
      Set.InjOn (ExitAttestation.sampleSetting logs).environment.keccak256
        (ExitAttestation.queryPreimages world) := by
  obtain ⟨history, world, hrun, hinputs, hproperty⟩ := exists_run_of_reaches_inputs hreaches
  have hincluded := of_decide_eq_true hproperty
  refine ⟨history, world, hrun, ?_, hincluded, ?_⟩
  · intro entry hentry
    have hinput : entry.2 ∈ history.map Prod.snd := List.mem_map_of_mem hentry
    rw [hinputs, List.mem_singleton] at hinput
    obtain ⟨before, input⟩ := entry
    obtain rfl : input = _ := hinput
    exact hdigest
  · rintro left ⟨entry, hentry, rfl⟩ right ⟨entry', hentry', rfl⟩ _
    rw [hincluded] at hentry hentry'
    rw [List.mem_singleton.mp hentry, List.mem_singleton.mp hentry']

def sampleSecondExit : TinExit :=
  ⟨0x52, 0xa2, 3000000, 0x72, 0xc2⟩

def sampleAnnouncement : Announcement :=
  ⟨1000, 1, 5000⟩

/-- The log of a vault that announces liquidity for route 7. -/
def sampleLiquidityLog : LogEntry where
  address_ := 0xe7
  topics := [0xb55e14786e7832907329487b08687a8773d872b63ad15e578fc8bde1fa9469ca, 7, 0x70]
  data := abiEncode [1000, 1, 5000]

def sampleLiquiditySetting : LiquidityAttestation.Setting where
  environment := sampleEnvironment [([2], ⟨1, [sampleTransfer, sampleLiquidityLog]⟩)]
  asc := 0xa5c

def sampleStart : LiquidityAttestation.World where
  registry := LiquidityRegistry.deployed 0x0a 0xa5c
  processedQueries := fun _ => false
  included := []

/-- The route is configured, and the transaction with the log included. -/
def sampleInputs : List LiquidityAttestation.Input :=
  [.transaction samplePosition ⟨1, [sampleTransfer, sampleLiquidityLog]⟩,
    .registry ⟨0x0a, 900, .configureSettlementRoute 7 1 0xe7 0xf7 0x70 0xd1 97 0xec 0x0b true⟩]

/-- An exit is attested from behind a transfer, and liquidity recorded. -/
theorem recorded_samples :
    (∃ history world,
      Run (ExitAttestation.step (ExitAttestation.sampleSetting
        [sampleTransfer, sampleLog sampleExit])) ExitAttestation.deployed history world ∧
      Attestable (ExitAttestation.sampleSetting [sampleTransfer, sampleLog sampleExit]) world
        samplePosition sampleExit) ∧
    ∃ history world, Run (LiquidityAttestation.step sampleLiquiditySetting) sampleStart history
        world ∧
      Recordable sampleLiquiditySetting world 1000 samplePosition 7 sampleAnnouncement := by
  refine ⟨?_, ?_⟩
  · obtain ⟨history, world, hrun, hfaithful, hincluded, hinj⟩ :=
      exists_sampleWorld [.foreign ⟨sampleTransfer, by decide⟩, .recordTinExit sampleExit]
        [sampleTransfer, sampleLog sampleExit] (by decide +kernel) (by
          intro exit hexit
          obtain rfl : exit = sampleExit := by
            rcases List.mem_pair.mp hexit with hexit | hexit
            · cases hexit
            · exact ExitAttestation.SourceItem.recordTinExit.inj hexit
          decide +kernel)
    refine ⟨history, world, hrun, ((recorded_iff_first _ sampleLiquiditySetting).1 history world
      hrun hfaithful hinj (hincluded ▸ serves_sample _)
      (samplePosition, ⟨1, [sampleTransfer, sampleLog sampleExit]⟩)
      (hincluded ▸ List.mem_singleton_self _) rfl sampleExit ?_).mpr ?_⟩
    · rw [anchoredLog_sample]
      exact List.mem_cons_of_mem _ (List.mem_singleton_self _)
    · rw [ExitAttestation.Leads, anchoredLog_sample]
      decide +kernel
  · have hreaches : reaches (LiquidityAttestation.step sampleLiquiditySetting) sampleStart
        sampleInputs (fun _ world =>
          decide (world.included = [(samplePosition, ⟨1, [sampleTransfer, sampleLiquidityLog]⟩)] ∧
            world.registry.routes 7 = ⟨true, 1, 0xe7, 0xf7, 0x70, 0xd1, 97, 0xec, 0x0b⟩ ∧
            world.registry.liquidityASC = 0xa5c ∧
            (world.registry.latestObservation 7).nonce = 0)) = true := by
      decide +kernel
    obtain ⟨history, world, hrun, hinputs, hproperty⟩ := exists_run_of_reaches_inputs hreaches
    obtain ⟨hincluded, hroute, hasc, hnonce⟩ := of_decide_eq_true hproperty
    have hfaithful : ∀ entry ∈ history,
        LiquidityAttestation.Faithful sampleLiquiditySetting entry.1 entry.2 := by
      rintro ⟨before, input⟩ hentry
      have hinput : input ∈ sampleInputs := hinputs ▸ List.mem_map_of_mem hentry
      rcases List.mem_pair.mp hinput with rfl | rfl
      · trivial
      · trivial
    have hinj : Set.InjOn sampleLiquiditySetting.environment.keccak256
        (LiquidityAttestation.queryPreimages sampleLiquiditySetting world) := by
      rintro left ⟨entry, hentry, rfl⟩ right ⟨entry', hentry', rfl⟩ _
      rw [hincluded] at hentry hentry'
      rw [List.mem_singleton.mp hentry, List.mem_singleton.mp hentry']
    have hquery : ∀ entry ∈ world.included,
        LiquidityAttestation.queryIdOf sampleLiquiditySetting entry.1 ≠ 0 := by
      intro entry hentry
      rw [hincluded] at hentry
      obtain rfl := List.mem_singleton.mp hentry
      decide +kernel
    have hannounces : Announces sampleLiquiditySetting sampleLiquidityLog
        (world.registry.routes 7).sourceEmitter 7 (world.registry.routes 7).token
        sampleAnnouncement := by
      rw [hroute]
      exact ⟨by decide +kernel, rfl, rfl, rfl, by decide, by rfl⟩
    refine ⟨history, world, hrun, ((recorded_iff_first (ExitAttestation.sampleSetting [])
      sampleLiquiditySetting).2 history sampleStart world 1000 ⟨rfl, rfl⟩ hrun hfaithful hinj hquery
      (hincluded ▸ serves_sample _)
      (samplePosition, ⟨1, [sampleTransfer, sampleLiquidityLog]⟩)
      (hincluded ▸ List.mem_singleton_self _) rfl sampleLiquidityLog
      (List.mem_cons_of_mem _ (List.mem_singleton_self _)) 7 sampleAnnouncement ?_ ?_ hannounces
      ?_ (by decide)).mpr ⟨hasc, by decide, sampleLiquidityLog, ?_, hannounces⟩⟩
    · rw [hroute]
    · rw [hroute]
      rfl
    · rw [hnonce]
      decide
    · decide +kernel

def batchedLogs : List LogEntry :=
  [sampleLog sampleExit, sampleLog sampleSecondExit]

example : batchedLogs.length = 2 := by
  decide +kernel

/-- Of two exits anchored in one transaction, no call attests the second. -/
theorem not_attestable_second :
    ∃ history world,
      Run (ExitAttestation.step (ExitAttestation.sampleSetting batchedLogs))
        ExitAttestation.deployed history world ∧
      (∀ entry ∈ history,
        ExitAttestation.Faithful (ExitAttestation.sampleSetting batchedLogs) entry.1 entry.2) ∧
      Set.InjOn sampleKeccak256 (ExitAttestation.queryPreimages world) ∧
      Serves (sampleEnvironment [([2], ⟨1, batchedLogs⟩)]) world.included ∧
      (samplePosition, ⟨1, batchedLogs⟩) ∈ world.included ∧
      anchoredLog (ExitAttestation.sampleSetting batchedLogs) sampleSecondExit ∈ batchedLogs ∧
      ¬ Attestable (ExitAttestation.sampleSetting batchedLogs) world samplePosition
        sampleSecondExit := by
  obtain ⟨history, world, hrun, hfaithful, hincluded, hinj⟩ :=
    exists_sampleWorld [.recordTinExit sampleExit, .recordTinExit sampleSecondExit] batchedLogs
      (by decide +kernel) (by
        intro exit hexit
        rcases List.mem_pair.mp hexit with hexit | hexit
        · obtain rfl := ExitAttestation.SourceItem.recordTinExit.inj hexit
          decide +kernel
        · obtain rfl := ExitAttestation.SourceItem.recordTinExit.inj hexit
          decide +kernel)
  have hmember : (samplePosition, ⟨1, batchedLogs⟩) ∈ world.included :=
    hincluded ▸ List.mem_singleton_self _
  refine ⟨history, world, hrun, hfaithful, hinj, hincluded ▸ serves_sample _, hmember, ?_, ?_⟩
  · rw [anchoredLog_sample]
    exact List.mem_cons_of_mem _ (List.mem_singleton_self _)
  · intro hattestable
    obtain ⟨hsound, hrecorded⟩ := ExitAttestation.recorded_of_run hrun hfaithful
    have hleads := ExitAttestation.leads_of_attestable hsound hrecorded hinj hmember hattestable
    have hfirst : (batchedLogs.filter (carries (ExitAttestation.TIN_EXIT_ANCHORED_EVENT
        (ExitAttestation.sampleSetting batchedLogs)))).head? ≠
          some (sampleLog sampleSecondExit) := by
      decide +kernel
    rw [ExitAttestation.Leads, anchoredLog_sample] at hleads
    exact hfirst hleads

end Samples

end TsnProtocol.Crosschain.ProvedLogs
