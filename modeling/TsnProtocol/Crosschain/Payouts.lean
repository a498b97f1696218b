import TsnProtocol.Crosschain.DestinationNetwork

/-!
Runs of the settlement hub and every destination network: messages are delivered any number
of times, in any order and to any executor, between calls of the hub, the registry, the vaults
and the tokens.
-/

namespace TsnProtocol.Crosschain.Payouts

open Crosschain.DestinationNetwork
open Crosschain.SettlementHub (Accepted Books PayoutAuthorization Setting payload)
open Lib.ByteReader
open Lib.Checked
open Lib.Evm
open Lib.Transition

/-- A release with the network and the account that asked for it. -/
structure Payout where
  network : Bytes32
  executor : Address
  release : Release
  deriving DecidableEq

/-- The hub's chain, the destination networks by name, and the releases of all vaults, latest
first. -/
structure World where
  now : Uint256
  books : Books
  networks : Bytes32 → Network
  payouts : List Payout

inductive Input
  | block (now : Uint256)
  | hub (sender : Address) (call : SettlementHub.Call)
  | registry (sender : Address) (call : LiquidityRegistry.Call)
  | networkBlock (name : Bytes32) (now : Uint256)
  | deliver (name : Bytes32) (self : Address) (message : List Byte)
  | release (name : Bytes32) (vault sender recipient : Address) (amount : Uint256)
      (settlementId : Bytes32)
  | fund (name : Bytes32) (vault sender : Address) (amount : Uint256) (approved : Bool)
  | withdraw (name : Bytes32) (vault sender recipient : Address) (amount : Uint256)
  | transfer (name : Bytes32) (token sender recipient : Address) (amount : Uint256)
  deriving DecidableEq

/-- Why a transition cannot be made: a call reverts, or it is one that nobody can make. -/
inductive Fault
  | hub (problem : SettlementHub.Problem)
  | registry (problem : LiquidityRegistry.Problem)
  | network (problem : DestinationNetwork.Problem)
  | notPublished
  | notExternal
  | clock
  deriving DecidableEq

/-- Only an account without code starts a transaction. -/
def checkExternal (network : Network) (sender : Address) : Except Fault Unit :=
  require ((network.vaults sender).isNone ∧ (network.executors sender).isNone) .notExternal

def withNetwork (world : World) (name : Bytes32) (network : Network) : World :=
  { world with networks := Function.update world.networks name network }

def step (setting : Setting) (world : World) : Input → Except Fault World
  | .block now => do
      require (world.now ≤ now) .clock
      return { world with now := now }
  | .hub sender call => do
      let books ← (SettlementHub.step setting world.books sender world.now call).mapError .hub
      return { world with books := books }
  | .registry sender call => do
      require (sender ≠ setting.hub) .notExternal
      let registry ← (LiquidityRegistry.step world.books.registry
        ⟨sender, world.now, call⟩).mapError .registry
      return { world with books := { world.books with registry := registry } }
  | .networkBlock name now => do
      require ((world.networks name).now ≤ now) .clock
      return withNetwork world name { world.networks name with now := now }
  | .deliver name self message => do
      require (message ∈ world.books.published) .notPublished
      let (network, released) ← (processMessage (world.networks name) self setting.chainId
        setting.hub message).mapError .network
      return { withNetwork world name network with
        payouts := ⟨name, self, released⟩ :: world.payouts }
  | .release name vault sender recipient amount settlementId => do
      checkExternal (world.networks name) sender
      let (network, released) ← (release (world.networks name) vault sender recipient amount
        settlementId).mapError .network
      return { withNetwork world name network with
        payouts := ⟨name, sender, released⟩ :: world.payouts }
  | .fund name vault sender amount approved => do
      checkExternal (world.networks name) sender
      let network ← (fund (world.networks name) vault sender amount approved).mapError .network
      return withNetwork world name network
  | .withdraw name vault sender recipient amount => do
      checkExternal (world.networks name) sender
      let network ← (withdraw (world.networks name) vault sender recipient amount).mapError
        .network
      return withNetwork world name network
  | .transfer name token sender recipient amount => do
      checkExternal (world.networks name) sender
      let network ← (transferToken (world.networks name) token sender recipient
        amount).mapError .network
      return withNetwork world name network

/-- A transaction that reverts leaves the world as it was. -/
def transact (setting : Setting) (world : World) (input : Input) : World × Option Fault :=
  match step setting world input with
  | .ok next => (next, none)
  | .error fault => (world, some fault)

/-- Executors carry the name of their network, and every vault is served by an executor for
the token it holds. -/
structure Wired (networks : Bytes32 → Network) : Prop where
  named : ∀ name self executor, (networks name).executors self = some executor →
    executor.destinationNetwork = name
  paired : ∀ name vaultAddress vault, (networks name).vaults vaultAddress = some vault →
    ∃ executor, (networks name).executors vault.executor = some executor ∧
      executor.settlementToken = vault.token

/-- The contracts as deployed: nothing consumed, published, executed or released. -/
structure Deployed (world : World) : Prop where
  wired : Wired world.networks
  processed : ∀ settlementId, world.books.hub.processedSettlements settlementId = false
  nonces : ∀ nonce, world.books.hub.usedNonces nonce = false
  published : world.books.published = []
  executed : ∀ name self executor, (world.networks name).executors self = some executor →
    ∀ nonce, executor.usedNonces nonce = false
  payouts : world.payouts = []

/-- The authorization an input has the hub settle. -/
def settled : Input → Option PayoutAuthorization
  | .hub _ (.executeSettlement authorization _ _) => some authorization
  | _ => none

/-- The authorizations the hub has accepted in a run, latest first. -/
def accepted (history : List (World × Input)) : List PayoutAuthorization :=
  history.filterMap fun entry => settled entry.2

/-- The payout an authorization is for. -/
def PaysOut (authorization : PayoutAuthorization) (payout : Payout) : Prop :=
  payout.network = authorization.destinationNetwork ∧
    payout.executor = authorization.destinationExecutor ∧
    payout.release.token = authorization.token ∧
    payout.release.recipient = authorization.recipient ∧
    payout.release.amount = authorization.amount ∧
    payout.release.settlementId = authorization.settlementId

section Effects

variable {setting : Setting} {world next : World} {input : Input}
  {authorizations : List PayoutAuthorization}

/-- What one transition does to the consumed settlements, the executors and the releases. -/
inductive Effect (setting : Setting) (authorizations : List PayoutAuthorization)
    (world : World) (input : Input) (next : World) : Prop
  | quiet (hquiet : settled input = none)
      (hprocessed : next.books.hub.processedSettlements =
        world.books.hub.processedSettlements)
      (hnonces : next.books.hub.usedNonces = world.books.hub.usedNonces)
      (hpublished : next.books.published = world.books.published)
      (hvaults : ∀ name, (next.networks name).vaults = (world.networks name).vaults)
      (hexecutors : ∀ name, (next.networks name).executors = (world.networks name).executors)
      (hpayouts : next.payouts = world.payouts)
  | settles (authorization : PayoutAuthorization) (signature : List Byte)
      (hsettled : settled input = some authorization)
      (haccepted : Accepted setting world.books world.now authorization signature)
      (hprocessed : next.books.hub.processedSettlements = Function.update
        world.books.hub.processedSettlements authorization.settlementId true)
      (hnonces : next.books.hub.usedNonces =
        Function.update world.books.hub.usedNonces authorization.nonce true)
      (hpublished : next.books.published = payload authorization :: world.books.published)
      (hnetworks : next.networks = world.networks)
      (hpayouts : next.payouts = world.payouts)
  | pays (authorization : PayoutAuthorization) (executor : Executor) (payout : Payout)
      (hquiet : settled input = none)
      (hmember : authorization ∈ authorizations)
      (hpaysOut : PaysOut authorization payout)
      (hexecutor : (world.networks payout.network).executors payout.executor = some executor)
      (hunused : executor.usedNonces authorization.nonce = false)
      (htimely : (world.networks payout.network).now ≤ authorization.deadline)
      (hbooks : next.books = world.books)
      (hvaults : ∀ name, (next.networks name).vaults = (world.networks name).vaults)
      (hmarked : (next.networks payout.network).executors =
        Function.update (world.networks payout.network).executors payout.executor
          (some (executor.mark authorization.nonce)))
      (hothers : ∀ name, name ≠ payout.network →
        (next.networks name).executors = (world.networks name).executors)
      (hpayouts : next.payouts = payout :: world.payouts)

/-- A change of one network that keeps its contracts. -/
theorem quiet_of_network {name : Bytes32} {network : Network} (hquiet : settled input = none)
    (hvaults : network.vaults = (world.networks name).vaults)
    (hexecutors : network.executors = (world.networks name).executors) :
    Effect setting authorizations world input (withNetwork world name network) := by
  have hsame : ∀ {α : Type} (read : Network → α), read network = read (world.networks name) →
      ∀ other, read ((withNetwork world name network).networks other) =
        read (world.networks other) := by
    intro α read hread other
    by_cases hname : other = name
    · subst other
      simp only [withNetwork, Function.update_self, hread]
    · simp only [withNetwork, Function.update_of_ne hname]
  exact .quiet hquiet rfl rfl rfl (hsame Network.vaults hvaults)
    (hsame Network.executors hexecutors) rfl

theorem transferToken_keeps {network paid : Network} {token sender recipient : Address}
    {amount : Uint256} (htransfer : transferToken network token sender recipient amount =
      .ok paid) : paid.vaults = network.vaults ∧ paid.executors = network.executors := by
  obtain ⟨-, moved, -, rfl⟩ := transferToken_eq_ok.mp htransfer
  exact ⟨rfl, rfl⟩

theorem effect_of_deliver {name : Bytes32} {self : Address} {message : List Byte}
    (hwired : Wired world.networks)
    (hpublished : world.books.published = authorizations.map payload)
    (hstep : step setting world (.deliver name self message) = .ok next) :
    Effect setting authorizations world (.deliver name self message) next := by
  simp only [step, bind_eq_ok, require_eq_ok, mapError_eq_ok, pure_eq_ok] at hstep
  obtain ⟨-, hmessage, ⟨network, released⟩, hprocess, rfl⟩ := hstep
  rw [hpublished] at hmessage
  obtain ⟨authorization, hmember, rfl⟩ := List.mem_map.mp hmessage
  obtain ⟨executor, hexecutor, -, -, hcheck, htimely, hunused, hrelease⟩ :=
    processMessage_eq_ok.mp hprocess
  obtain ⟨-, -, -, -, -, hnetwork, hself, htoken, -⟩ := checkMessage_eq_ok.mp hcheck
  obtain ⟨vault, hvault, hserved, -, -, rfl, moved, -, rfl⟩ := release_eq_ok.mp hrelease
  obtain ⟨served, hserving, hpaired⟩ := hwired.paired name _ vault hvault
  have hsame : served = executor := by
    rw [← hserved, hexecutor] at hserving
    exact (Option.some.inj hserving).symm
  have hname : executor.destinationNetwork = name := hwired.named name self executor hexecutor
  refine .pays authorization executor _ rfl hmember
    ⟨hname.symm.trans hnetwork.symm, hself.symm, ?_, rfl, rfl, rfl⟩ hexecutor hunused htimely
    rfl ?_ ?_ ?_ rfl
  · rw [← hpaired, hsame]
    exact htoken.symm
  · intro other
    by_cases hother : other = name
    · subst other
      simp only [withNetwork, Function.update_self]
    · simp only [withNetwork, Function.update_of_ne hother]
  · simp only [withNetwork, Function.update_self]
  · intro other hother
    simp only [withNetwork, Function.update_of_ne hother]

theorem effect_of_step (hwired : Wired world.networks)
    (hpublished : world.books.published = authorizations.map payload)
    (hstep : step setting world input = .ok next) :
    Effect setting authorizations world input next := by
  rcases input with now | ⟨sender, call⟩ | ⟨sender, call⟩ | ⟨name, now⟩ |
    ⟨name, self, message⟩ | ⟨name, vault, sender, recipient, amount, settlementId⟩ |
    ⟨name, vault, sender, amount, approved⟩ | ⟨name, vault, sender, recipient, amount⟩ |
    ⟨name, token, sender, recipient, amount⟩
  case deliver => exact effect_of_deliver hwired hpublished hstep
  all_goals
    simp only [step, checkExternal, bind_eq_ok, require_eq_ok, mapError_eq_ok,
      pure_eq_ok] at hstep
  case block =>
    obtain ⟨-, -, rfl⟩ := hstep
    exact .quiet rfl rfl rfl rfl (fun _ => rfl) (fun _ => rfl) rfl
  case hub =>
    obtain ⟨books, hbooks, rfl⟩ := hstep
    by_cases hsettles : ∃ authorization signature taken,
        call = .executeSettlement authorization signature taken
    · obtain ⟨authorization, signature, taken, rfl⟩ := hsettles
      obtain ⟨haccepted, registry, rfl⟩ := SettlementHub.executeSettlement_eq_ok hbooks
      exact .settles authorization signature rfl haccepted rfl rfl rfl rfl rfl
    · have hother : ∀ authorization signature taken,
          call ≠ .executeSettlement authorization signature taken :=
        fun authorization signature taken heq =>
          hsettles ⟨authorization, signature, taken, heq⟩
      obtain ⟨hprocessed, hnonces, hpublished⟩ :=
        SettlementHub.consumed_of_other hbooks hother
      refine .quiet ?_ hprocessed hnonces hpublished (fun _ => rfl) (fun _ => rfl) rfl
      rcases call with ⟨authorization, signature, taken⟩ | _ | _ | _ | _
      · exact absurd rfl (hother authorization signature taken)
      all_goals rfl
  case registry =>
    obtain ⟨-, -, registry, -, rfl⟩ := hstep
    exact .quiet rfl rfl rfl rfl (fun _ => rfl) (fun _ => rfl) rfl
  case networkBlock =>
    obtain ⟨-, -, rfl⟩ := hstep
    exact quiet_of_network rfl rfl rfl
  case release =>
    -- only an executor may release, and every vault is served by a contract
    obtain ⟨-, ⟨-, hexternal⟩, ⟨network, released⟩, hrelease, -⟩ := hstep
    obtain ⟨found, hfound, rfl, -⟩ := release_eq_ok.mp hrelease
    obtain ⟨served, hserving, -⟩ := hwired.paired name vault found hfound
    rw [hserving] at hexternal
    cases hexternal
  case fund =>
    obtain ⟨-, -, network, hfund, rfl⟩ := hstep
    simp only [fund, bind_eq_ok] at hfund
    obtain ⟨found, -, ⟨⟩, -, ⟨⟩, -, htransfer⟩ := hfund
    obtain ⟨hvaults, hexecutors⟩ := transferToken_keeps htransfer
    exact quiet_of_network rfl hvaults hexecutors
  case withdraw =>
    obtain ⟨-, -, network, hwithdraw, rfl⟩ := hstep
    simp only [withdraw, bind_eq_ok] at hwithdraw
    obtain ⟨found, -, ⟨⟩, -, ⟨⟩, -, htransfer⟩ := hwithdraw
    obtain ⟨hvaults, hexecutors⟩ := transferToken_keeps htransfer
    exact quiet_of_network rfl hvaults hexecutors
  case transfer =>
    obtain ⟨-, -, network, htransfer, rfl⟩ := hstep
    obtain ⟨hvaults, hexecutors⟩ := transferToken_keeps htransfer
    exact quiet_of_network rfl hvaults hexecutors

end Effects

section Runs

variable {setting : Setting} {start world : World} {history : List (World × Input)}

/-- The hub's flags stand for the authorizations accepted, and the executors' nonces for those
paid. -/
structure Consistent (history : List (World × Input)) (world : World) : Prop where
  wired : Wired world.networks
  published : world.books.published = (accepted history).map payload
  processed : ∀ settlementId, world.books.hub.processedSettlements settlementId = true ↔
    ∃ authorization ∈ accepted history, authorization.settlementId = settlementId
  nonces : ∀ nonce, world.books.hub.usedNonces nonce = true ↔
    ∃ authorization ∈ accepted history, authorization.nonce = nonce
  settlementsDistinct : ((accepted history).map PayoutAuthorization.settlementId).Nodup
  noncesDistinct : ((accepted history).map PayoutAuthorization.nonce).Nodup
  paid : ∀ payout ∈ world.payouts, ∃ authorization ∈ accepted history,
    PaysOut authorization payout ∧ ∃ executor,
      (world.networks payout.network).executors payout.executor = some executor ∧
      executor.usedNonces authorization.nonce = true
  used : ∀ name self executor nonce,
    (world.networks name).executors self = some executor → executor.usedNonces nonce = true →
      ∃ authorization ∈ accepted history, authorization.nonce = nonce ∧
        ∃ payout ∈ world.payouts, PaysOut authorization payout
  once : (world.payouts.map fun payout => payout.release.settlementId).Nodup

theorem consistent_start (hdeployed : Deployed start) : Consistent [] start where
  wired := hdeployed.wired
  published := hdeployed.published
  processed := by
    intro settlementId
    rw [hdeployed.processed]
    exact ⟨nofun, fun ⟨_, hmember, _⟩ => absurd hmember List.not_mem_nil⟩
  nonces := by
    intro nonce
    rw [hdeployed.nonces]
    exact ⟨nofun, fun ⟨_, hmember, _⟩ => absurd hmember List.not_mem_nil⟩
  settlementsDistinct := List.nodup_nil
  noncesDistinct := List.nodup_nil
  paid := by
    intro payout hpayout
    rw [hdeployed.payouts] at hpayout
    exact absurd hpayout List.not_mem_nil
  used := by
    intro name self executor nonce hexecutor hused
    rw [hdeployed.executed name self executor hexecutor nonce] at hused
    cases hused
  once := by
    rw [hdeployed.payouts]
    exact List.nodup_nil

theorem accepted_cons_none {input : Input} (hquiet : settled input = none) :
    accepted ((world, input) :: history) = accepted history := by
  simp [accepted, hquiet]

theorem accepted_cons_some {input : Input} {authorization : PayoutAuthorization}
    (hsettled : settled input = some authorization) :
    accepted ((world, input) :: history) = authorization :: accepted history := by
  simp [accepted, hsettled]

/-- Wiring depends on the contracts only. -/
theorem wired_of_same {networks others : Bytes32 → Network} (hwired : Wired networks)
    (hvaults : ∀ name, (others name).vaults = (networks name).vaults)
    (hexecutors : ∀ name, (others name).executors = (networks name).executors) :
    Wired others where
  named := by
    intro name self executor hexecutor
    rw [hexecutors] at hexecutor
    exact hwired.named name self executor hexecutor
  paired := by
    intro name vaultAddress vault hvault
    rw [hvaults] at hvault
    rw [hexecutors]
    exact hwired.paired name vaultAddress vault hvault

theorem consistent_quiet {input : Input} {next : World}
    (hconsistent : Consistent history world) (hquiet : settled input = none)
    (hprocessed : next.books.hub.processedSettlements =
      world.books.hub.processedSettlements)
    (hnonces : next.books.hub.usedNonces = world.books.hub.usedNonces)
    (hpublished : next.books.published = world.books.published)
    (hvaults : ∀ name, (next.networks name).vaults = (world.networks name).vaults)
    (hexecutors : ∀ name, (next.networks name).executors = (world.networks name).executors)
    (hpayouts : next.payouts = world.payouts) :
    Consistent ((world, input) :: history) next := by
  have haccepted : accepted ((world, input) :: history) = accepted history :=
    accepted_cons_none hquiet
  constructor
  · exact wired_of_same hconsistent.wired hvaults hexecutors
  · rw [haccepted, hpublished]
    exact hconsistent.published
  · rw [haccepted, hprocessed]
    exact hconsistent.processed
  · rw [haccepted, hnonces]
    exact hconsistent.nonces
  · rw [haccepted]
    exact hconsistent.settlementsDistinct
  · rw [haccepted]
    exact hconsistent.noncesDistinct
  · rw [haccepted, hpayouts]
    simp only [hexecutors]
    exact hconsistent.paid
  · rw [haccepted, hpayouts]
    simp only [hexecutors]
    exact hconsistent.used
  · rw [hpayouts]
    exact hconsistent.once

/-- A flag map with one more flag set, against a list with one more value. -/
theorem update_true_iff {α : Type} [DecidableEq α] {flags : α → Bool}
    {values : List PayoutAuthorization} {read : PayoutAuthorization → α}
    (authorization : PayoutAuthorization)
    (hflags : ∀ key, flags key = true ↔ ∃ value ∈ values, read value = key) (key : α) :
    Function.update flags (read authorization) true key = true ↔
      ∃ value ∈ authorization :: values, read value = key := by
  rw [List.exists_mem_cons_iff, ← hflags]
  by_cases hkey : key = read authorization
  · subst key
    simp
  · rw [Function.update_of_ne hkey]
    exact ⟨.inr, fun heither => heither.resolve_left (Ne.symm hkey)⟩

theorem consistent_settles {input : Input} {next : World}
    {authorization : PayoutAuthorization} {signature : List Byte}
    (hconsistent : Consistent history world) (hsettled : settled input = some authorization)
    (haccepted : Accepted setting world.books world.now authorization signature)
    (hprocessed : next.books.hub.processedSettlements = Function.update
      world.books.hub.processedSettlements authorization.settlementId true)
    (hnonces : next.books.hub.usedNonces =
      Function.update world.books.hub.usedNonces authorization.nonce true)
    (hpublished : next.books.published = payload authorization :: world.books.published)
    (hnetworks : next.networks = world.networks) (hpayouts : next.payouts = world.payouts) :
    Consistent ((world, input) :: history) next := by
  have hcons : accepted ((world, input) :: history) = authorization :: accepted history :=
    accepted_cons_some hsettled
  constructor
  · rw [hnetworks]
    exact hconsistent.wired
  · rw [hcons, hpublished, hconsistent.published, List.map_cons]
  · rw [hcons, hprocessed]
    exact update_true_iff authorization hconsistent.processed
  · rw [hcons, hnonces]
    exact update_true_iff authorization hconsistent.nonces
  · rw [hcons, List.map_cons]
    refine List.nodup_cons.mpr ⟨?_, hconsistent.settlementsDistinct⟩
    intro hagain
    have hflag := (hconsistent.processed _).mpr (List.mem_map.mp hagain)
    exact absurd (haccepted.newSettlement.symm.trans hflag) nofun
  · rw [hcons, List.map_cons]
    refine List.nodup_cons.mpr ⟨?_, hconsistent.noncesDistinct⟩
    intro hagain
    have hflag := (hconsistent.nonces _).mpr (List.mem_map.mp hagain)
    exact absurd (haccepted.newNonce.symm.trans hflag) nofun
  · rw [hcons, hpayouts, hnetworks]
    intro payout hpayout
    obtain ⟨paid, hpaid, hrest⟩ := hconsistent.paid payout hpayout
    exact ⟨paid, List.mem_cons_of_mem _ hpaid, hrest⟩
  · rw [hcons, hpayouts, hnetworks]
    intro name self executor nonce hexecutor hused
    obtain ⟨paid, hpaid, hrest⟩ := hconsistent.used name self executor nonce hexecutor hused
    exact ⟨paid, List.mem_cons_of_mem _ hpaid, hrest⟩
  · rw [hpayouts]
    exact hconsistent.once

/-- Accepted authorizations with one settlement are one authorization. -/
theorem eq_of_settlementId {left right : PayoutAuthorization}
    (hconsistent : Consistent history world) (hleft : left ∈ accepted history)
    (hright : right ∈ accepted history) (hsame : left.settlementId = right.settlementId) :
    left = right :=
  List.inj_on_of_nodup_map hconsistent.settlementsDistinct hleft hright hsame

theorem eq_of_nonce {left right : PayoutAuthorization}
    (hconsistent : Consistent history world) (hleft : left ∈ accepted history)
    (hright : right ∈ accepted history) (hsame : left.nonce = right.nonce) :
    left = right :=
  List.inj_on_of_nodup_map hconsistent.noncesDistinct hleft hright hsame

/-- What is paid out for an authorization goes through its executor, which uses its nonce. -/
theorem used_of_paid {authorization : PayoutAuthorization} {payout : Payout}
    (hconsistent : Consistent history world) (hmember : authorization ∈ accepted history)
    (hpayout : payout ∈ world.payouts)
    (hsame : payout.release.settlementId = authorization.settlementId) :
    PaysOut authorization payout ∧ ∃ executor,
      (world.networks payout.network).executors payout.executor = some executor ∧
      executor.usedNonces authorization.nonce = true := by
  obtain ⟨paid, hpaid, hpays, hexecutor⟩ := hconsistent.paid payout hpayout
  have heq : paid = authorization :=
    eq_of_settlementId hconsistent hpaid hmember (hpays.2.2.2.2.2.symm.trans hsame)
  subst paid
  exact ⟨hpays, hexecutor⟩

theorem consistent_pays {input : Input} {next : World} {authorization : PayoutAuthorization}
    {executor : Executor} {payout : Payout} (hconsistent : Consistent history world)
    (hquiet : settled input = none) (hmember : authorization ∈ accepted history)
    (hpaysOut : PaysOut authorization payout)
    (hexecutor : (world.networks payout.network).executors payout.executor = some executor)
    (hunused : executor.usedNonces authorization.nonce = false)
    (hbooks : next.books = world.books)
    (hvaults : ∀ name, (next.networks name).vaults = (world.networks name).vaults)
    (hmarked : (next.networks payout.network).executors =
      Function.update (world.networks payout.network).executors payout.executor
        (some (executor.mark authorization.nonce)))
    (hothers : ∀ name, name ≠ payout.network →
      (next.networks name).executors = (world.networks name).executors)
    (hpayouts : next.payouts = payout :: world.payouts) :
    Consistent ((world, input) :: history) next := by
  have haccepted : accepted ((world, input) :: history) = accepted history :=
    accepted_cons_none hquiet
  -- an executor is as before, or the paying one with the nonce marked
  have hnow : ∀ name self found, (next.networks name).executors self = some found →
      (world.networks name).executors self = some found ∨
        name = payout.network ∧ self = payout.executor ∧
          found = executor.mark authorization.nonce := by
    intro name self found hfound
    by_cases hname : name = payout.network
    · subst name
      rw [hmarked] at hfound
      by_cases hself : self = payout.executor
      · subst self
        rw [Function.update_self] at hfound
        exact .inr ⟨rfl, rfl, (Option.some.inj hfound).symm⟩
      · rw [Function.update_of_ne hself] at hfound
        exact .inl hfound
    · rw [hothers name hname] at hfound
      exact .inl hfound
  -- and every executor that stood stands, no nonce unused
  have hkept : ∀ name self found, (world.networks name).executors self = some found →
      ∃ kept, (next.networks name).executors self = some kept ∧
        kept.settlementToken = found.settlementToken ∧
        ∀ nonce, found.usedNonces nonce = true → kept.usedNonces nonce = true := by
    intro name self found hfound
    by_cases hname : name = payout.network
    · subst name
      by_cases hself : self = payout.executor
      · subst self
        have hsame : executor = found := Option.some.inj (hexecutor.symm.trans hfound)
        subst found
        refine ⟨executor.mark authorization.nonce, ?_, rfl, ?_⟩
        · rw [hmarked, Function.update_self]
        · intro nonce hused
          simp only [Executor.mark]
          by_cases hnonce : nonce = authorization.nonce
          · rw [hnonce, Function.update_self]
          · rw [Function.update_of_ne hnonce, hused]
      · refine ⟨found, ?_, rfl, fun _ hused => hused⟩
        rw [hmarked, Function.update_of_ne hself, hfound]
    · refine ⟨found, ?_, rfl, fun _ hused => hused⟩
      rw [hothers name hname, hfound]
  constructor
  · constructor
    · intro name self found hfound
      rcases hnow name self found hfound with hbefore | ⟨rfl, rfl, rfl⟩
      · exact hconsistent.wired.named name self found hbefore
      · exact hconsistent.wired.named _ _ executor hexecutor
    · intro name vaultAddress vault hvault
      rw [hvaults] at hvault
      obtain ⟨served, hserved, htoken⟩ := hconsistent.wired.paired name vaultAddress vault hvault
      obtain ⟨kept, hkept, hsame, -⟩ := hkept name _ served hserved
      exact ⟨kept, hkept, hsame.trans htoken⟩
  · rw [haccepted, hbooks]
    exact hconsistent.published
  · rw [haccepted, hbooks]
    exact hconsistent.processed
  · rw [haccepted, hbooks]
    exact hconsistent.nonces
  · rw [haccepted]
    exact hconsistent.settlementsDistinct
  · rw [haccepted]
    exact hconsistent.noncesDistinct
  · rw [haccepted, hpayouts]
    intro found hfound
    rcases List.mem_cons.mp hfound with rfl | hearlier
    · refine ⟨authorization, hmember, hpaysOut, executor.mark authorization.nonce, ?_, ?_⟩
      · rw [hmarked, Function.update_self]
      · simp only [Executor.mark, Function.update_self]
    · obtain ⟨paid, hpaid, hpays, served, hserved, hused⟩ := hconsistent.paid found hearlier
      obtain ⟨kept, hkept, -, hstill⟩ := hkept _ _ served hserved
      exact ⟨paid, hpaid, hpays, kept, hkept, hstill _ hused⟩
  · rw [haccepted, hpayouts]
    intro name self found nonce hfound hused
    have hold : ∀ served : Executor, (world.networks name).executors self = some served →
        served.usedNonces nonce = true →
        ∃ paid ∈ accepted history, paid.nonce = nonce ∧
          ∃ other ∈ payout :: world.payouts, PaysOut paid other := by
      intro served hserved hmarkedBefore
      obtain ⟨paid, hpaid, hnonce, other, hother, hpays⟩ :=
        hconsistent.used name self served nonce hserved hmarkedBefore
      exact ⟨paid, hpaid, hnonce, other, List.mem_cons_of_mem _ hother, hpays⟩
    rcases hnow name self found hfound with hbefore | ⟨rfl, rfl, rfl⟩
    · exact hold found hbefore hused
    · by_cases hnonce : nonce = authorization.nonce
      · exact ⟨authorization, hmember, hnonce.symm, payout, List.mem_cons_self, hpaysOut⟩
      · simp only [Executor.mark, Function.update_of_ne hnonce] at hused
        exact hold executor hexecutor hused
  · rw [hpayouts, List.map_cons]
    refine List.nodup_cons.mpr ⟨?_, hconsistent.once⟩
    intro hagain
    obtain ⟨earlier, hearlier, hsame⟩ := List.mem_map.mp hagain
    obtain ⟨hpays, served, hserved, hused⟩ := used_of_paid hconsistent hmember hearlier
      (hsame.trans hpaysOut.2.2.2.2.2)
    have hnetwork : earlier.network = payout.network := hpays.1.trans hpaysOut.1.symm
    have hself : earlier.executor = payout.executor := hpays.2.1.trans hpaysOut.2.1.symm
    rw [hnetwork, hself, hexecutor] at hserved
    rw [← Option.some.inj hserved, hunused] at hused
    cases hused

theorem consistent_of_run (hdeployed : Deployed start)
    (hrun : Run (step setting) start history world) : Consistent history world := by
  refine hrun.induct_on Consistent (consistent_start hdeployed) ?_
  intro history world input next _ hconsistent hstep
  rcases effect_of_step hconsistent.wired hconsistent.published hstep with
    ⟨hquiet, hprocessed, hnonces, hpublished, hvaults, hexecutors, hpayouts⟩ |
    ⟨authorization, signature, hsettled, haccepted, hprocessed, hnonces, hpublished, hnetworks,
      hpayouts⟩ |
    ⟨authorization, executor, payout, hquiet, hmember, hpaysOut, hexecutor, hunused, -, hbooks,
      hvaults, hmarked, hothers, hpayouts⟩
  · exact consistent_quiet hconsistent hquiet hprocessed hnonces hpublished hvaults hexecutors
      hpayouts
  · exact consistent_settles hconsistent hsettled haccepted hprocessed hnonces hpublished
      hnetworks hpayouts
  · exact consistent_pays hconsistent hquiet hmember hpaysOut hexecutor hunused hbooks hvaults
      hmarked hothers hpayouts

/-- An authorization counted as accepted was signed, and the hub took it in time. -/
theorem signed_of_accepted {authorization : PayoutAuthorization}
    (hrun : Run (step setting) start history world)
    (hmember : authorization ∈ accepted history) :
    ∃ before sender signature taken,
      (before, Input.hub sender (.executeSettlement authorization signature taken)) ∈ history ∧
      Accepted setting before.books before.now authorization signature := by
  obtain ⟨⟨before, input⟩, hentry, hsettled⟩ := List.mem_filterMap.mp hmember
  obtain ⟨after, hstep⟩ := hrun.exists_next hentry
  rcases input with _ | ⟨sender, call⟩ | _ | _ | _ | _ | _ | _ | _
  case hub =>
    rcases call with ⟨found, signature, taken⟩ | _ | _ | _ | _
    case executeSettlement =>
      cases hsettled
      simp only [step, bind_eq_ok, mapError_eq_ok] at hstep
      obtain ⟨books, hbooks, -⟩ := hstep
      exact ⟨before, sender, signature, taken, hentry,
        (SettlementHub.executeSettlement_eq_ok hbooks).1⟩
    all_goals cases hsettled
  all_goals cases hsettled

/-- A delivery that succeeds moves the released tokens from the vault to the recipient, and
no others. -/
theorem moved_of_deliver {name : Bytes32} {self : Address} {message : List Byte} {next : World}
    (hstep : step setting world (.deliver name self message) = .ok next) :
    ∃ payout, next.payouts = payout :: world.payouts ∧ payout.network = name ∧
      payout.executor = self ∧ ∃ moved,
        ((world.networks name).tokens payout.release.token).transfer payout.release.vault
          payout.release.recipient payout.release.amount = some moved ∧
        (next.networks name).tokens =
          Function.update (world.networks name).tokens payout.release.token moved := by
  simp only [step, bind_eq_ok, require_eq_ok, mapError_eq_ok, pure_eq_ok] at hstep
  obtain ⟨-, -, ⟨network, released⟩, hprocess, rfl⟩ := hstep
  simp only [processMessage, bind_eq_ok] at hprocess
  obtain ⟨executor, -, ⟨⟩, -, settlement, -, ⟨⟩, -, ⟨⟩, -, ⟨⟩, -, hrelease⟩ := hprocess
  obtain ⟨vault, -, -, -, -, rfl, moved, hmoved, rfl⟩ := release_eq_ok.mp hrelease
  refine ⟨_, rfl, rfl, rfl, moved, hmoved, ?_⟩
  simp only [withNetwork, Function.update_self]

theorem transact_of_fault {input : Input}
    (hfault : (transact setting world input).2 ≠ none) :
    (transact setting world input).1 = world := by
  unfold transact at hfault ⊢
  split
  · rename_i next hnext
    rw [hnext] at hfault
    exact absurd rfl hfault
  · rfl

/-- No settlement is released twice over all executors, every release is of an authorization
that was signed and accepted in time, its tokens move exactly, and a call that reverts changes
nothing. -/
theorem payouts_exact_and_once (hdeployed : Deployed start)
    (hrun : Run (step setting) start history world) :
    (world.payouts.map fun payout => payout.release.settlementId).Nodup ∧
    (∀ payout ∈ world.payouts, ∃ before sender authorization signature taken,
      (before, Input.hub sender (.executeSettlement authorization signature taken)) ∈ history ∧
      setting.recover (SettlementHub.hashTypedData setting authorization) signature =
        some before.books.hub.authorizationSigner ∧
      before.now ≤ authorization.deadline ∧ PaysOut authorization payout) ∧
    (∀ name self message next, step setting world (.deliver name self message) = .ok next →
      ∃ payout, next.payouts = payout :: world.payouts ∧ payout.network = name ∧
        payout.executor = self ∧ ∃ moved,
          ((world.networks name).tokens payout.release.token).transfer payout.release.vault
            payout.release.recipient payout.release.amount = some moved ∧
          (next.networks name).tokens =
            Function.update (world.networks name).tokens payout.release.token moved) ∧
    ∀ input, (transact setting world input).2 ≠ none →
      (transact setting world input).1 = world := by
  have hconsistent := consistent_of_run hdeployed hrun
  refine ⟨hconsistent.once, ?_, fun _ _ _ _ => moved_of_deliver, fun _ => transact_of_fault⟩
  intro payout hpayout
  obtain ⟨authorization, hmember, hpays, -⟩ := hconsistent.paid payout hpayout
  obtain ⟨before, sender, signature, taken, hentry, haccepted⟩ :=
    signed_of_accepted hrun hmember
  exact ⟨before, sender, authorization, signature, taken, hentry, haccepted.signed,
    haccepted.timely, hpays⟩

end Runs

section Samples

/-- A settlement of 100 units to the network named `base`. -/
def sampleAuthorization : PayoutAuthorization where
  settlementId := 0x5e77
  sourceNetwork := 0x0aab664348b0a15c2ab394e40d48acb2a8108afc63debbbb191e7934eb670ba9
  sealedTipHeadHash := 0x4ead
  tinHash := 0x719
  exitCommitment := 0xe817
  routeId := 7
  destinationNetwork := 0xf1f3eb40f5bc1ad1344716ced8b8a0431d840b5783aea1fd01786bc26f35ac0f
  destinationExecutor := 0xec
  token := 0x70
  recipient := 0xbe
  amount := 100
  feeAmount := 1
  nonce := 1
  deadline := 2000
  merchantOverride := false

def sampleSignature : List Byte :=
  beBytes 65 0x37b1b75b58d784b3c9d6db519a4a8702eca86982e4b9ab74871bcba1feabfcc237713c6d940acb4564ca8114bce587c6f13839ed671618b778da6a7df5e132681c

/-- Hash and recovery on the inputs of this sample, the hashed data told apart by its
length. -/
def sampleSetting : Setting where
  keccak256 := fun data =>
    match data.length with
    | 13 => 0x0aab664348b0a15c2ab394e40d48acb2a8108afc63debbbb191e7934eb670ba9
    | 82 => 0x8b73c3c69bb8fe3d512ecc4cf759cc79239f7b179b0ffacaa9a75d522b39400f
    | 317 => 0x1838eb96fa076738f21a5d8984a844bd870a99db7ee2df1357e5537c3bcb432c
    | 29 => 0x4e6269f3f3dd72feec9dc668f79d024f00c722ce6573e4aa00a3f4ad030dd7cd
    | 1 => 0xc89efdaa54c0f20c7adf612882df0950f5a951637e0307cdcb4c672f298b8bc6
    | 160 => 0x4aa143d972619b348fa9315f8429eb83004f6df37edcec8d0ed912f02a8e42a6
    | 512 => 0x761da840c0d66a3666bb392c7680eb72205368c58329c4c6fa9c4360ca744e74
    | 66 => 0x92764913a95552aaa6cbe7eaf8c12cbd3accb6c8223b17e08d65578a1e5fb899
    | _ => 0
  recover := fun digest signature =>
    if digest = 0x92764913a95552aaa6cbe7eaf8c12cbd3accb6c8223b17e08d65578a1e5fb899 ∧
        signature = sampleSignature then
      some 0x7e5f4552091a69125d5dfcb7b8c2659029395bdf
    else none
  chainId := 102031
  hub := 0x4b

def sampleNetwork : Network where
  now := 1000
  tokens := fun token => if token = 0x70 then Token.minted 0xa1 1000 else Token.minted 0 0
  vaults := fun address => if address = 0xa1 then some ⟨0x0e, 0x70, 0xec⟩ else none
  executors := fun address =>
    if address = 0xec then
      some ⟨sampleAuthorization.destinationNetwork, 102031, 0x4b, 0xa1, 0x70, fun _ => false⟩
    else none

def emptyNetwork : Network where
  now := 1000
  tokens := fun _ => Token.minted 0 0
  vaults := fun _ => none
  executors := fun _ => none

def sampleWorld : World where
  now := 1000
  books := {
    hub := SettlementHub.deployed 0x0e 0x7e5f4552091a69125d5dfcb7b8c2659029395bdf
    registry := LiquidityRegistry.deployed 0x0e 0xa5c
    published := [] }
  networks := fun name =>
    if name = sampleAuthorization.destinationNetwork then sampleNetwork else emptyNetwork
  payouts := []

theorem eq_of_sample_executor {name : Bytes32} {self : Address} {executor : Executor}
    (hexecutor : (sampleWorld.networks name).executors self = some executor) :
    name = sampleAuthorization.destinationNetwork ∧ executor =
      ⟨sampleAuthorization.destinationNetwork, 102031, 0x4b, 0xa1, 0x70, fun _ => false⟩ := by
  simp only [sampleWorld] at hexecutor
  split at hexecutor
  · rename_i hname
    simp only [sampleNetwork] at hexecutor
    split at hexecutor
    · exact ⟨hname, (Option.some.inj hexecutor).symm⟩
    · cases hexecutor
  · cases hexecutor

theorem deployed_sampleWorld : Deployed sampleWorld where
  wired := by
    constructor
    · intro name self executor hexecutor
      obtain ⟨rfl, rfl⟩ := eq_of_sample_executor hexecutor
      rfl
    · intro name vaultAddress vault hvault
      simp only [sampleWorld] at hvault ⊢
      split at hvault
      · rename_i hname
        rw [if_pos hname]
        simp only [sampleNetwork] at hvault
        split at hvault
        · cases hvault
          exact ⟨_, rfl, rfl⟩
        · cases hvault
      · cases hvault
  processed := fun _ => rfl
  nonces := fun _ => rfl
  published := rfl
  executed := by
    intro name self executor hexecutor nonce
    obtain ⟨-, rfl⟩ := eq_of_sample_executor hexecutor
    rfl
  payouts := rfl

/-- The route is configured and observed, and the settlement accepted. -/
def settledRun : List Input :=
  [.hub 0xca (.executeSettlement sampleAuthorization sampleSignature true),
    .registry 0xa5c (.recordVerifiedLiquidity 7 0x51 500 42 5000 1),
    .registry 0x0e (.configureSettlementRoute 7 15971525489660198786 0xe1 0xa1 0x70
      sampleAuthorization.destinationNetwork 8453 0xec 0x0b true),
    .registry 0x0e (.setSettlementHub 0x4b)]

def paidRun : List Input :=
  .deliver sampleAuthorization.destinationNetwork 0xec (payload sampleAuthorization) ::
    settledRun

/-- A settlement that is accepted, delivered and paid. -/
theorem payout_exact_and_once :
    ∃ history world, Run (step sampleSetting) sampleWorld history world ∧
      world.payouts.length = 1 ∧
      (world.payouts.map fun payout => payout.release.settlementId).Nodup := by
  have hreaches : reaches (step sampleSetting) sampleWorld paidRun
      (fun _ world => world.payouts.length == 1) = true := by
    decide +kernel
  obtain ⟨history, world, hrun, hproperty⟩ := exists_run_of_reaches hreaches
  exact ⟨history, world, hrun, beq_iff_eq.mp hproperty,
    (payouts_exact_and_once deployed_sampleWorld hrun).1⟩

end Samples

end TsnProtocol.Crosschain.Payouts
