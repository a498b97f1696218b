import TsnProtocol.Crosschain.DirectLane

/-!
Runs of the direct lane. Every settlement is paid at most once, but nothing ever gives its
reservation back, so that the lane has its full capacity only until the first settlement.
-/

namespace TsnProtocol.Crosschain.DirectCapacity

open Crosschain.DestinationNetwork (Network Release Vault transferToken_eq_ok
  release_eq_ok)
open Crosschain.DirectLane
open Crosschain.SettlementHub (PayoutAuthorization Setting)
open Lib.ByteReader
open Lib.Checked
open Lib.Evm
open Lib.FiniteStore
open Lib.Transition

/-- The lane as deployed: nothing reserved, consumed or paid, and every vault served by an
executor. -/
structure Deployed (setting : Setting) (lane : Lane) : Prop where
  hub : lane.registry.settlementHub = setting.hub
  reservations : ∀ routeId, lane.registry.reservations routeId = ∅
  reservedAmount : ∀ routeId, lane.registry.reservedAmount routeId = 0
  processed : ∀ settlementId, lane.processedSettlements settlementId = false
  payouts : lane.payouts = []
  served : ∀ vaultAddress vault, lane.network.vaults vaultAddress = some vault →
    (lane.executors vault.executor).isSome

/-- The authorization an input has the hub execute. -/
def settled : Input → Option PayoutAuthorization
  | .executeSettlement authorization _ => some authorization
  | _ => none

/-- The authorizations executed in a run, latest first. -/
def executed (history : List (Lane × Input)) : List PayoutAuthorization :=
  history.filterMap fun entry => settled entry.2

/-- The reservations of a route are of settlements that are not paid. -/
def CountsUnpaid (lane : Lane) (routeId : Bytes32) : Prop :=
  ∀ settlementId, reservation lane.registry routeId settlementId ≠ 0 →
    ∀ payout ∈ lane.payouts, payout.settlementId ≠ settlementId

/-- Executor and vault stand as the route of the authorization has them. -/
structure Served (setting : Setting) (lane : Lane) (authorization : PayoutAuthorization)
    (executor : Executor) (vault : Vault) : Prop where
  deployed : lane.executors authorization.destinationExecutor = some executor
  hub : executor.settlementHub = setting.hub
  paysFrom : executor.liquidityVault =
    (lane.registry.routes authorization.routeId).payoutVault
  paysIn : executor.settlementToken = (lane.registry.routes authorization.routeId).token
  funded : lane.network.vaults executor.liquidityVault = some vault
  holds : vault.token = executor.settlementToken
  serves : vault.executor = authorization.destinationExecutor

/-- What the vault of a route holds. -/
def vaultBalance (lane : Lane) (routeId : Bytes32) : Uint256 :=
  (lane.network.tokens (lane.registry.routes routeId).token).balanceOf
    (lane.registry.routes routeId).payoutVault

/-- Right after an observation of the route, every settlement that the hub's checks pass
succeeds up to the balance of the vault. -/
def ServesBalance (setting : Setting) (lane : Lane) (routeId : Bytes32) : Prop :=
  ∀ sender validUntil nonce observed,
    step setting lane (.observeLocalLiquidity sender routeId validUntil nonce) = .ok observed →
    ∀ authorization signature executor vault, authorization.routeId = routeId →
      checkAuthorization setting observed authorization signature = .ok () →
      Served setting observed authorization executor vault →
      authorization.amount ≤ vaultBalance observed routeId →
      ∃ next, step setting observed (.executeSettlement authorization signature) = .ok next

section Effects

variable {setting : Setting} {lane next : Lane} {input : Input}

/-- What one transition does to the reservations and the payouts. -/
inductive Effect (setting : Setting) (lane : Lane) (input : Input) (next : Lane) : Prop
  | quiet (hquiet : settled input = none)
      (hhub : next.registry.settlementHub = lane.registry.settlementHub)
      (hreservations : next.registry.reservations = lane.registry.reservations)
      (hreserved : next.registry.reservedAmount = lane.registry.reservedAmount)
      (hprocessed : next.processedSettlements = lane.processedSettlements)
      (hpayouts : next.payouts = lane.payouts)
      (hvaults : next.network.vaults = lane.network.vaults)
      (hexecutors : next.executors = lane.executors)
  | settles (authorization : PayoutAuthorization) (reserved : Uint256) (payout : Release)
      (hsettled : settled input = some authorization)
      (hnew : lane.processedSettlements authorization.settlementId = false)
      (hamount : authorization.amount ≠ 0)
      (hfree : reservation lane.registry authorization.routeId authorization.settlementId = 0)
      (hsum : reserved.toNat =
        (lane.registry.reservedAmount authorization.routeId).toNat + authorization.amount.toNat)
      (hhub : next.registry.settlementHub = lane.registry.settlementHub)
      (hreservations : next.registry.reservations =
        Function.update lane.registry.reservations authorization.routeId
          ((lane.registry.reservations authorization.routeId).insert
            authorization.settlementId authorization.amount))
      (hreserved : next.registry.reservedAmount =
        Function.update lane.registry.reservedAmount authorization.routeId reserved)
      (hprocessed : next.processedSettlements =
        Function.update lane.processedSettlements authorization.settlementId true)
      (hpaid : payout.settlementId = authorization.settlementId)
      (hpayouts : next.payouts = payout :: lane.payouts)
      (hvaults : next.network.vaults = lane.network.vaults)
      (hexecutors : next.executors = lane.executors)

theorem vaults_of_transferToken {network paid : Network} {token sender recipient : Address}
    {amount : Uint256} (htransfer : DestinationNetwork.transferToken network token sender
      recipient amount = .ok paid) : paid.vaults = network.vaults := by
  obtain ⟨-, moved, -, rfl⟩ := transferToken_eq_ok.mp htransfer
  rfl

theorem effect_of_executeSettlement {authorization : PayoutAuthorization}
    {signature : List Byte}
    (hstep : step setting lane (.executeSettlement authorization signature) = .ok next) :
    Effect setting lane (.executeSettlement authorization signature) next := by
  obtain ⟨hcheck, registry, hreserve, network, released, hpayout, rfl⟩ :=
    executeSettlement_eq_ok.mp hstep
  obtain ⟨-, -, hfree, hcapacity, reserved, hreserved, rfl⟩ :=
    reserveLiquidity_eq_ok.mp hreserve
  obtain ⟨executor, -, -, -, -, -, hamount, hrelease⟩ := executePayout_eq_ok.mp hpayout
  obtain ⟨vault, -, -, -, -, rfl, moved, -, rfl⟩ := release_eq_ok.mp hrelease
  simp only [checkAuthorization, bind_eq_ok, require_eq_ok, not_or, Bool.not_eq_true] at hcheck
  obtain ⟨-, -, ⟨⟩, -, -, ⟨hnew, -⟩, -⟩ := hcheck
  exact .settles authorization reserved _ rfl hnew hamount hfree hreserved rfl rfl rfl rfl rfl
    rfl rfl rfl

theorem effect_of_step (hhub : lane.registry.settlementHub = setting.hub)
    (hserved : ∀ vaultAddress vault, lane.network.vaults vaultAddress = some vault →
      (lane.executors vault.executor).isSome)
    (hstep : step setting lane input = .ok next) : Effect setting lane input next := by
  rcases input with _ | _ | _ | ⟨sender, routeId, settlementId, amount⟩ |
    ⟨sender, routeId, settlementId, amount⟩ | ⟨authorization, signature⟩ |
    ⟨vault, sender, recipient, amount, settlementId⟩ | _ | _ | _
  case executeSettlement => exact effect_of_executeSettlement hstep
  all_goals
    simp only [step, checkExternal, bind_eq_ok, require_eq_ok, mapError_eq_ok,
      pure_eq_ok] at hstep
  case block =>
    obtain ⟨-, -, rfl⟩ := hstep
    exact .quiet rfl rfl rfl rfl rfl rfl rfl rfl
  case configureRoute =>
    simp only [configureRoute, bind_eq_ok, pure_eq_ok] at hstep
    obtain ⟨registry, ⟨-, -, -, -, rfl⟩, rfl⟩ := hstep
    exact .quiet rfl rfl rfl rfl rfl rfl rfl rfl
  case observeLocalLiquidity =>
    simp only [observeLocalLiquidity, bind_eq_ok, pure_eq_ok] at hstep
    obtain ⟨registry, ⟨-, -, -, -, rfl⟩, rfl⟩ := hstep
    exact .quiet rfl rfl rfl rfl rfl rfl rfl rfl
  case reserveLiquidity =>
    -- the registry answers the hub alone
    obtain ⟨-, ⟨hexternal, -⟩, registry, hreserve, -⟩ := hstep
    exact absurd ((reserveLiquidity_eq_ok.mp hreserve).1.trans hhub) hexternal
  case releaseLiquidity =>
    obtain ⟨-, ⟨hexternal, -⟩, registry, hrelease, -⟩ := hstep
    simp only [releaseLiquidity, bind_eq_ok, require_eq_ok] at hrelease
    obtain ⟨-, hsender, -⟩ := hrelease
    exact absurd (hsender.trans hhub) hexternal
  case release =>
    obtain ⟨-, ⟨-, -, hexternal⟩, ⟨network, released⟩, hrelease, -⟩ := hstep
    obtain ⟨found, hfound, rfl, -⟩ := release_eq_ok.mp hrelease
    rw [Option.isNone_iff_eq_none] at hexternal
    exact absurd (hexternal ▸ hserved vault found hfound) (by rintro ⟨⟩)
  case fund =>
    obtain ⟨⟨⟩, -, network, hfund, rfl⟩ := hstep
    simp only [DestinationNetwork.fund, bind_eq_ok] at hfund
    obtain ⟨found, -, ⟨⟩, -, ⟨⟩, -, htransfer⟩ := hfund
    exact .quiet rfl rfl rfl rfl rfl rfl (vaults_of_transferToken htransfer) rfl
  case withdraw =>
    obtain ⟨⟨⟩, -, network, hwithdraw, rfl⟩ := hstep
    simp only [DestinationNetwork.withdraw, bind_eq_ok] at hwithdraw
    obtain ⟨found, -, ⟨⟩, -, ⟨⟩, -, htransfer⟩ := hwithdraw
    exact .quiet rfl rfl rfl rfl rfl rfl (vaults_of_transferToken htransfer) rfl
  case transfer =>
    obtain ⟨⟨⟩, -, network, htransfer, rfl⟩ := hstep
    exact .quiet rfl rfl rfl rfl rfl rfl (vaults_of_transferToken htransfer) rfl

end Effects

section Runs

variable {setting : Setting} {start lane : Lane} {history : List (Lane × Input)}

/-- The books of the lane stand for the settlements executed. -/
structure Books (setting : Setting) (history : List (Lane × Input)) (lane : Lane) : Prop where
  hub : lane.registry.settlementHub = setting.hub
  served : ∀ vaultAddress vault, lane.network.vaults vaultAddress = some vault →
    (lane.executors vault.executor).isSome
  reserved : ∀ routeId, total BitVec.toNat (lane.registry.reservations routeId) =
    (lane.registry.reservedAmount routeId).toNat
  reservations : ∀ routeId settlementId,
    reservation lane.registry routeId settlementId ≠ 0 ↔
      ∃ authorization ∈ executed history, authorization.routeId = routeId ∧
        authorization.settlementId = settlementId
  processed : ∀ settlementId, lane.processedSettlements settlementId = true ↔
    settlementId ∈ (executed history).map PayoutAuthorization.settlementId
  payouts : lane.payouts.map Release.settlementId =
    (executed history).map PayoutAuthorization.settlementId
  once : ((executed history).map PayoutAuthorization.settlementId).Nodup

theorem executed_cons_none {input : Input} (hquiet : settled input = none) :
    executed ((lane, input) :: history) = executed history := by
  simp [executed, hquiet]

theorem executed_cons_some {input : Input} {authorization : PayoutAuthorization}
    (hsettled : settled input = some authorization) :
    executed ((lane, input) :: history) = authorization :: executed history := by
  simp [executed, hsettled]

theorem books_start (hdeployed : Deployed setting start) : Books setting [] start where
  hub := hdeployed.hub
  served := hdeployed.served
  reserved := by
    intro routeId
    rw [hdeployed.reservations, hdeployed.reservedAmount]
    rfl
  reservations := by
    intro routeId settlementId
    have hnone : reservation start.registry routeId settlementId = 0 := by
      rw [reservation, hdeployed.reservations, Finmap.lookup_empty]
      rfl
    rw [hnone]
    exact ⟨fun hopen => absurd rfl hopen, fun ⟨_, hmember, _⟩ => absurd hmember List.not_mem_nil⟩
  processed := by
    intro settlementId
    rw [hdeployed.processed]
    exact ⟨nofun, fun hmember => absurd hmember List.not_mem_nil⟩
  payouts := by
    rw [hdeployed.payouts]
    rfl
  once := List.nodup_nil

/-- A reservation read after one was written. -/
theorem reservation_update {registry : Registry} {routeId settlementId : Bytes32}
    {amount : Uint256} {after : Registry}
    (hafter : after.reservations = Function.update registry.reservations routeId
      ((registry.reservations routeId).insert settlementId amount))
    (otherRoute otherId : Bytes32) :
    reservation after otherRoute otherId =
      if otherRoute = routeId ∧ otherId = settlementId then amount
      else reservation registry otherRoute otherId := by
  rw [reservation, hafter]
  by_cases hroute : otherRoute = routeId
  · subst otherRoute
    rw [Function.update_self, lookup_insert_eq]
    by_cases hid : otherId = settlementId
    · rw [if_pos hid, if_pos ⟨rfl, hid⟩]
      rfl
    · rw [if_neg hid, if_neg fun hboth => hid hboth.2]
      rfl
  · rw [Function.update_of_ne hroute, if_neg fun hboth => hroute hboth.1]
    rfl

theorem books_step {input : Input} {next : Lane} (hbooks : Books setting history lane)
    (hstep : step setting lane input = .ok next) :
    Books setting ((lane, input) :: history) next := by
  rcases effect_of_step hbooks.hub hbooks.served hstep with
    ⟨hquiet, hhub, hreservations, hreserved, hprocessed, hpayouts, hvaults, hexecutors⟩ |
    ⟨authorization, reserved, payout, hsettled, hnew, hamount, hfree, hsum, hhub,
      hreservations, hreserved, hprocessed, hpaid, hpayouts, hvaults, hexecutors⟩
  · have hexecuted : executed ((lane, input) :: history) = executed history :=
      executed_cons_none hquiet
    constructor
    · exact hhub.trans hbooks.hub
    · rw [hvaults, hexecutors]
      exact hbooks.served
    · rw [hreservations, hreserved]
      exact hbooks.reserved
    · simp only [hexecuted, reservation, hreservations]
      exact hbooks.reservations
    · rw [hexecuted, hprocessed]
      exact hbooks.processed
    · rw [hexecuted, hpayouts]
      exact hbooks.payouts
    · rw [hexecuted]
      exact hbooks.once
  · have hexecuted : executed ((lane, input) :: history) = authorization :: executed history :=
      executed_cons_some hsettled
    constructor
    · exact hhub.trans hbooks.hub
    · rw [hvaults, hexecutors]
      exact hbooks.served
    · intro routeId
      rw [hreservations, hreserved]
      by_cases hroute : routeId = authorization.routeId
      · subst routeId
        have htotal := total_insert BitVec.toNat
          (lane.registry.reservations authorization.routeId) authorization.settlementId
          authorization.amount
        have hweigh : weigh BitVec.toNat ((lane.registry.reservations
            authorization.routeId).lookup authorization.settlementId) = 0 := by
          unfold reservation at hfree
          cases hlookup : (lane.registry.reservations authorization.routeId).lookup
              authorization.settlementId with
          | none => rfl
          | some held =>
              rw [hlookup, Option.getD_some] at hfree
              rw [hfree]
              rfl
        have hbefore := hbooks.reserved authorization.routeId
        rw [Function.update_self, Function.update_self]
        omega
      · rw [Function.update_of_ne hroute, Function.update_of_ne hroute]
        exact hbooks.reserved routeId
    · intro routeId settlementId
      rw [reservation_update hreservations, hexecuted, List.exists_mem_cons_iff,
        ← hbooks.reservations]
      by_cases hsame : routeId = authorization.routeId ∧
          settlementId = authorization.settlementId
      · rw [if_pos hsame]
        exact ⟨fun _ => .inl ⟨hsame.1.symm, hsame.2.symm⟩, fun _ => hamount⟩
      · rw [if_neg hsame]
        refine ⟨.inr, fun heither => heither.resolve_left ?_⟩
        rintro ⟨hroute, hid⟩
        exact hsame ⟨hroute.symm, hid.symm⟩
    · intro settlementId
      rw [hexecuted, hprocessed, List.map_cons, List.mem_cons, ← hbooks.processed]
      by_cases hid : settlementId = authorization.settlementId
      · subst settlementId
        simp
      · rw [Function.update_of_ne hid]
        exact ⟨.inr, fun heither => heither.resolve_left hid⟩
    · rw [hexecuted, hpayouts, List.map_cons, List.map_cons, hbooks.payouts, hpaid]
    · rw [hexecuted, List.map_cons]
      refine List.nodup_cons.mpr ⟨?_, hbooks.once⟩
      intro hagain
      exact absurd (hnew.symm.trans ((hbooks.processed _).mpr hagain)) nofun

theorem books_of_run (hdeployed : Deployed setting start)
    (hrun : Run (step setting) start history lane) : Books setting history lane :=
  hrun.induct_on (Books setting) (books_start hdeployed)
    fun _ _ _ _ _ hbooks hstep => books_step hbooks hstep

/-- A route on which nothing was executed has nothing reserved. -/
theorem reservedAmount_eq_zero {routeId : Bytes32} (hbooks : Books setting history lane)
    (hfresh : ∀ authorization ∈ executed history, authorization.routeId ≠ routeId) :
    (lane.registry.reservedAmount routeId).toNat = 0 := by
  rw [← hbooks.reserved]
  refine total_eq_zero ?_
  intro settlementId held hheld
  by_contra hopen
  have hreserved : reservation lane.registry routeId settlementId ≠ 0 := by
    rw [reservation, hheld, Option.getD_some]
    intro hzero
    rw [hzero] at hopen
    exact hopen rfl
  obtain ⟨authorization, hmember, hroute, -⟩ :=
    (hbooks.reservations routeId settlementId).mp hreserved
  exact hfresh authorization hmember hroute

theorem checked_fields {authorization : PayoutAuthorization} {signature : List Byte}
    (hcheck : checkAuthorization setting lane authorization signature = .ok ()) :
    authorization.settlementId ≠ 0 ∧ authorization.recipient ≠ 0 ∧ authorization.amount ≠ 0 ∧
      (lane.registry.routes authorization.routeId).enabled = true ∧
      (lane.registry.routes authorization.routeId).token = authorization.token := by
  simp only [checkAuthorization, checkFields, checkRoute, bind_eq_ok, require_eq_ok, not_or,
    ne_eq, not_not, Bool.not_eq_false] at hcheck
  obtain ⟨-, -, -, ⟨-, ⟨-, hid, -⟩, -, -, -, -, -, -, hrecipient, hamount⟩, -, -, ⟨⟩, -,
    henabled, -, -, htoken, -⟩ := hcheck
  exact ⟨hid, hrecipient, hamount, henabled, htoken⟩

/-- A settlement that the checks and the registry pass is paid from a vault that holds
enough. -/
theorem succeeds_of_capacity {authorization : PayoutAuthorization} {signature : List Byte}
    {executor : Executor} {vault : Vault}
    (hhub : lane.registry.settlementHub = setting.hub)
    (hcheck : checkAuthorization setting lane authorization signature = .ok ())
    (hserved : Served setting lane authorization executor vault)
    (hfree : reservation lane.registry authorization.routeId authorization.settlementId = 0)
    (hcapacity : checkCapacity lane.registry lane.network.now authorization.routeId
      authorization.amount = .ok ())
    (hbalance : authorization.amount ≤ vaultBalance lane authorization.routeId) :
    ∃ next, step setting lane (.executeSettlement authorization signature) = .ok next := by
  obtain ⟨hid, hrecipient, hamount, -, htoken⟩ := checked_fields hcheck
  obtain ⟨-, -, -, hcovers⟩ := checkCapacity_eq_ok.mp hcapacity
  have havailable :=
    (lane.registry.latestObservation authorization.routeId).availableAmount.isLt
  have hreserved : (BitVec.ofNat 256 ((lane.registry.reservedAmount
      authorization.routeId).toNat + authorization.amount.toNat)).toNat =
      (lane.registry.reservedAmount authorization.routeId).toNat +
        authorization.amount.toNat := by
    rw [BitVec.toNat_ofNat, Nat.mod_eq_of_lt (by omega)]
  have hheld : authorization.amount ≤
      (lane.network.tokens vault.token).balanceOf executor.liquidityVault := by
    rw [hserved.holds, hserved.paysIn, hserved.paysFrom]
    exact hbalance
  obtain ⟨moved, hmoved⟩ := Option.isSome_iff_exists.mp
    ((@Token.isSome_transfer _ _ authorization.recipient _).mpr hheld)
  exact ⟨_, executeSettlement_eq_ok.mpr ⟨hcheck, _, reserveLiquidity_eq_ok.mpr
    ⟨hhub.symm, hid, hfree, hcapacity, _, hreserved, rfl⟩, _, _,
    executePayout_eq_ok.mpr ⟨executor, hserved.deployed, hserved.hub.symm, hid, hrecipient,
      htoken.symm.trans hserved.paysIn.symm, hamount, release_eq_ok.mpr ⟨vault, hserved.funded,
        hserved.serves.symm, hrecipient, hamount, rfl, moved, hmoved, rfl⟩⟩, rfl⟩⟩

/-- What an observation leaves in the lane. -/
theorem observed_facts {observed : Lane} {sender : Address} {routeId : Bytes32}
    {validUntil nonce : Uint256}
    (hobserve : step setting lane (.observeLocalLiquidity sender routeId validUntil nonce) =
      .ok observed) :
    observed.registry.settlementHub = lane.registry.settlementHub ∧
      observed.registry.reservedAmount = lane.registry.reservedAmount ∧
      observed.registry.reservations = lane.registry.reservations ∧
      observed.network.now ≤ (observed.registry.latestObservation routeId).validUntil ∧
      (observed.registry.latestObservation routeId).availableAmount =
        vaultBalance observed routeId := by
  simp only [step, observeLocalLiquidity, bind_eq_ok, require_eq_ok, pure_eq_ok, not_or,
    BitVec.not_le] at hobserve
  obtain ⟨registry, ⟨-, -, -, ⟨-, hvalid, -⟩, rfl⟩, rfl⟩ := hobserve
  refine ⟨rfl, rfl, rfl, ?_, ?_⟩
  · simp only [Function.update_self]
    exact Nat.le_of_lt hvalid
  · simp only [Function.update_self, vaultBalance]

/-- With nothing reserved on its route, a settlement up to the vault's balance succeeds right
after an observation. -/
theorem serves_of_unreserved {routeId : Bytes32} (hbooks : Books setting history lane)
    (hfresh : ∀ authorization ∈ executed history, authorization.routeId ≠ routeId) :
    ServesBalance setting lane routeId := by
  rintro sender validUntil nonce observed hobserve authorization signature executor vault rfl
    hcheck hserved hbalance
  obtain ⟨hhub, hreservedAmount, hreservations, hvalid, havailable⟩ := observed_facts hobserve
  obtain ⟨-, -, hamount, henabled, -⟩ := checked_fields hcheck
  refine succeeds_of_capacity (hhub.trans hbooks.hub) hcheck hserved ?_ ?_ hbalance
  · by_contra hopen
    rw [reservation, hreservations] at hopen
    obtain ⟨other, hmember, hroute, -⟩ := (hbooks.reservations _ _).mp hopen
    exact hfresh other hmember hroute
  · refine checkCapacity_eq_ok.mpr ⟨hamount, henabled, hvalid, ?_⟩
    rw [hreservedAmount, reservedAmount_eq_zero hbooks hfresh, Nat.zero_add, havailable]
    exact hbalance

/-- A route that something was executed on counts a paid settlement as reserved. -/
theorem not_countsUnpaid {authorization : PayoutAuthorization}
    (hbooks : Books setting history lane) (hmember : authorization ∈ executed history) :
    ¬ CountsUnpaid lane authorization.routeId := by
  intro hcounts
  have hopen := (hbooks.reservations _ _).mpr ⟨authorization, hmember, rfl, rfl⟩
  have hpaid : authorization.settlementId ∈ lane.payouts.map Release.settlementId := by
    rw [hbooks.payouts]
    exact List.mem_map_of_mem hmember
  obtain ⟨payout, hpayout, hid⟩ := List.mem_map.mp hpaid
  exact hcounts _ hopen payout hpayout hid

/-- In every run each settlement is paid at most once; a route counts only unpaid settlements
and serves the whole balance of its vault exactly as long as nothing was executed on it. -/
theorem capacity_iff_unused (hdeployed : Deployed setting start)
    (hrun : Run (step setting) start history lane) :
    (lane.payouts.map Release.settlementId).Nodup ∧
    (∀ routeId, total BitVec.toNat (lane.registry.reservations routeId) =
      (lane.registry.reservedAmount routeId).toNat) ∧
    ∀ routeId, (CountsUnpaid lane routeId ∧ ServesBalance setting lane routeId) ↔
      ∀ authorization ∈ executed history, authorization.routeId ≠ routeId := by
  have hbooks := books_of_run hdeployed hrun
  refine ⟨hbooks.payouts ▸ hbooks.once, hbooks.reserved, fun routeId => ⟨?_, ?_⟩⟩
  · rintro ⟨hcounts, -⟩ authorization hmember rfl
    exact not_countsUnpaid hbooks hmember hcounts
  · intro hfresh
    refine ⟨?_, serves_of_unreserved hbooks hfresh⟩
    intro settlementId hopen
    obtain ⟨authorization, hmember, hroute, -⟩ := (hbooks.reservations _ _).mp hopen
    exact absurd hroute (hfresh authorization hmember)

end Runs

section Samples

instance (setting : Setting) (lane : Lane) (authorization : PayoutAuthorization)
    (executor : Executor) (vault : Vault) :
    Decidable (Served setting lane authorization executor vault) :=
  decidable_of_iff
    (lane.executors authorization.destinationExecutor = some executor ∧
      executor.settlementHub = setting.hub ∧
      executor.liquidityVault = (lane.registry.routes authorization.routeId).payoutVault ∧
      executor.settlementToken = (lane.registry.routes authorization.routeId).token ∧
      lane.network.vaults executor.liquidityVault = some vault ∧
      vault.token = executor.settlementToken ∧
      vault.executor = authorization.destinationExecutor)
    ⟨fun ⟨deployed, hub, paysFrom, paysIn, funded, holds, serves⟩ =>
        ⟨deployed, hub, paysFrom, paysIn, funded, holds, serves⟩,
      fun ⟨deployed, hub, paysFrom, paysIn, funded, holds, serves⟩ =>
        ⟨deployed, hub, paysFrom, paysIn, funded, holds, serves⟩⟩

/-- A settlement on the direct lane. -/
def sampleAuthorization (settlementId : Bytes32) (amount nonce : Uint256) :
    PayoutAuthorization where
  settlementId := settlementId
  sourceNetwork := 0x0aab664348b0a15c2ab394e40d48acb2a8108afc63debbbb191e7934eb670ba9
  sealedTipHeadHash := 0x4ead
  tinHash := 0x719
  exitCommitment := 0xe817
  routeId := 7
  destinationNetwork := 0x76374bcab159a786a5eac0bd52fbaa263cad0957e8a98527f1494b73b61ba1a7
  destinationExecutor := 0xec
  token := 0x70
  recipient := 0xbe
  amount := amount
  feeAmount := 1
  nonce := nonce
  deadline := 2000
  merchantOverride := false

def firstAuthorization : PayoutAuthorization :=
  sampleAuthorization 0x5e77 60 1

def secondAuthorization : PayoutAuthorization :=
  sampleAuthorization 0x5e78 30 2

def firstSignature : List Byte :=
  beBytes 65 0x12dfd47ee3eda8b847c85a886667de95e6602ba94a7c6a9f6c8fd5877fa9a87b51c98506be679786f071c2b1e530b7037a9469ecca646cf59e06544dcee10a791b

def secondSignature : List Byte :=
  beBytes 65 0x87be63f0c86ba93353ad8d337061eb8a054ff02da1be4e93a020cec55ce061755a61f966c39b566231ec9dd21ac8a6a353b720a3415558d1765654ef9e2a9e5e1c

/-- Hash and recovery on the inputs of these samples, the hashed data told apart by length and
one byte. -/
def sampleSetting : Setting where
  keccak256 := fun data =>
    match data.length with
    | 13 => 0x0aab664348b0a15c2ab394e40d48acb2a8108afc63debbbb191e7934eb670ba9
    | 82 => 0x8b73c3c69bb8fe3d512ecc4cf759cc79239f7b179b0ffacaa9a75d522b39400f
    | 317 => 0x1838eb96fa076738f21a5d8984a844bd870a99db7ee2df1357e5537c3bcb432c
    | 36 => 0xc0085ed7f4c2e54e5d4a90b9fd6b04b08bcce0ce4aadf52f917030db4626357f
    | 1 => 0xc89efdaa54c0f20c7adf612882df0950f5a951637e0307cdcb4c672f298b8bc6
    | 96 => if data.getD 63 0 = 1 then
        0x0c6d908678abf149898b1ac90eef022051ceee8634dbfec9cbf1fb426cb4347c
      else 0xcaa20d5f9e2efa862bfdd0ef3030a40c8c2b392d5435537a310abb2e196f7dda
    | 160 => 0x260768cdfb7cbbb1b6485db75c8e53657ed09b423bd7e8f10db019eaca11846a
    | 512 => if data.getD 63 0 = 0x77 then
        0xc36e0175436e0e74831873e5404d90c485b75e7fd824098e36689ccc578bec4c
      else 0x0097a9703277bf5facf1f1a5c7fa02e540677f5ca8cf02d8fd8578cf370dea96
    | 66 => if data.getD 65 0 = 0x4c then
        0x866ff5c8fae75a816910b583cfe5db78fd79c3de5dd5edf8d6da9be16f8b83b1
      else 0xc06b8af1758196f2c909cacec5b84b1bcf1dab0448dc7262ffbdfc261868ae6c
    | _ => 0
  recover := fun digest signature =>
    if (digest = 0x866ff5c8fae75a816910b583cfe5db78fd79c3de5dd5edf8d6da9be16f8b83b1 ∧
          signature = firstSignature) ∨
        (digest = 0xc06b8af1758196f2c909cacec5b84b1bcf1dab0448dc7262ffbdfc261868ae6c ∧
          signature = secondSignature) then
      some 0x7e5f4552091a69125d5dfcb7b8c2659029395bdf
    else none
  chainId := CREDITCOIN_CHAIN_ID
  hub := 0x4c

def sampleExecutor : Executor :=
  ⟨0x4c, 0xa1, 0x70⟩

def sampleVault : Vault :=
  ⟨0x0e, 0x70, 0xec⟩

/-- A vault of 100 units, its executor and the hub as deployed. -/
def sampleLane : Lane where
  blockNumber := 10
  registry := ⟨0x0e, 0x4c, fun _ => LiquidityRegistry.noRoute,
    fun _ => LiquidityRegistry.noObservation, fun _ => 0, fun _ => ∅⟩
  authorizationSigner := 0x7e5f4552091a69125d5dfcb7b8c2659029395bdf
  processedSettlements := fun _ => false
  usedNonces := fun _ => false
  executors := fun address => if address = 0xec then some sampleExecutor else none
  network := {
    now := 1000
    tokens := fun token => if token = 0x70 then Token.minted 0xa1 100 else Token.minted 0 0
    vaults := fun address => if address = 0xa1 then some sampleVault else none
    executors := fun _ => none }
  payouts := []

theorem deployed_sampleLane : Deployed sampleSetting sampleLane where
  hub := rfl
  reservations := fun _ => rfl
  reservedAmount := fun _ => rfl
  processed := fun _ => rfl
  payouts := rfl
  served := by
    intro vaultAddress vault hvault
    simp only [sampleLane] at hvault
    split at hvault
    · cases hvault
      rfl
    · cases hvault

def observedRun : List Input :=
  [.observeLocalLiquidity 0x0e 7 5000 1,
    .configureRoute 0x0e 7 0xa1 0x70 secondAuthorization.destinationNetwork 0xec true]

/-- A settlement of 60 units has been paid. -/
def settledRun : List Input :=
  .executeSettlement firstAuthorization firstSignature :: observedRun

/-- An unused route, which serves the balance of its vault. -/
theorem capacity_while_unused :
    ∃ history lane, Run (step sampleSetting) sampleLane history lane ∧
      CountsUnpaid lane 7 ∧ ServesBalance sampleSetting lane 7 := by
  have hreaches : reaches (step sampleSetting) sampleLane observedRun
      (fun history _ => decide (executed history = [])) = true := by
    decide +kernel
  obtain ⟨history, lane, hrun, hproperty⟩ := exists_run_of_reaches hreaches
  have hunused : ∀ authorization ∈ executed history, authorization.routeId ≠ 7 := by
    intro authorization hmember
    rw [of_decide_eq_true hproperty] at hmember
    exact absurd hmember List.not_mem_nil
  exact ⟨history, lane, hrun,
    ((capacity_iff_unused deployed_sampleLane hrun).2.2 7).mpr hunused⟩

/-- A second settlement, within the balance just observed, is refused. -/
def refused (lane : Lane) : Bool :=
  match step sampleSetting lane (.executeSettlement secondAuthorization secondSignature) with
  | .ok _ => false
  | .error _ => true

def refusedAfterObservation (lane : Lane) : Bool :=
  match step sampleSetting lane (.observeLocalLiquidity 0x0e 7 5000 2) with
  | .ok observed =>
      decide (checkAuthorization sampleSetting observed secondAuthorization secondSignature =
        .ok ()) &&
      decide (Served sampleSetting observed secondAuthorization sampleExecutor sampleVault) &&
      decide (secondAuthorization.amount ≤ vaultBalance observed 7) && refused observed
  | .error _ => false

/-- After one paid settlement the lane counts it as reserved, and refuses a settlement within
the balance of its vault right after an observation. -/
theorem capacity_lost_after_settlement :
    ∃ history lane, Run (step sampleSetting) sampleLane history lane ∧
      ¬ CountsUnpaid lane 7 ∧ ¬ ServesBalance sampleSetting lane 7 := by
  have hreaches : reaches (step sampleSetting) sampleLane settledRun
      (fun history lane => decide (firstAuthorization ∈ executed history) &&
        refusedAfterObservation lane) = true := by
    decide +kernel
  obtain ⟨history, lane, hrun, hproperty⟩ := exists_run_of_reaches hreaches
  rw [Bool.and_eq_true, decide_eq_true_eq] at hproperty
  obtain ⟨hmember, hrefused⟩ := hproperty
  refine ⟨history, lane, hrun,
    not_countsUnpaid (books_of_run deployed_sampleLane hrun) hmember, ?_⟩
  intro hserves
  unfold refusedAfterObservation at hrefused
  split at hrefused
  · rename_i observed hobserved
    simp only [Bool.and_eq_true, decide_eq_true_eq] at hrefused
    obtain ⟨⟨⟨hcheck, hserved⟩, hbalance⟩, hrefuses⟩ := hrefused
    obtain ⟨next, hnext⟩ := hserves _ _ _ _ hobserved _ _ _ _ rfl hcheck hserved hbalance
    rw [refused, hnext] at hrefuses
    cases hrefuses
  · cases hrefused

end Samples

end TsnProtocol.Crosschain.DirectCapacity
