import TsnProtocol.Lib.Evm
import TsnProtocol.Lib.Transition

/-!
`DestinationLiquidityRegistry`: routes to destination networks, the latest observation of the
liquidity behind each route, and the reservations the settlement hub has made of it.
-/

namespace TsnProtocol.Crosschain.LiquidityRegistry

open Lib.Checked
open Lib.Evm
open Lib.FiniteStore

structure Route where
  enabled : Bool
  sourceChainKey : BitVec 64
  (sourceEmitter payoutVault token : Address)
  destinationNetwork : Bytes32
  destinationChainId : Uint256
  (destinationExecutor outbox : Address)
  deriving DecidableEq

structure LiquidityObservation where
  (availableAmount sourceBlock observedAt validUntil nonce : Uint256)
  queryId : Bytes32
  deriving DecidableEq

structure State where
  (owner liquidityASC settlementHub : Address)
  routes : Bytes32 → Route
  latestObservation : Bytes32 → LiquidityObservation
  reservedAmount : Bytes32 → Uint256
  reservations : Bytes32 → Store Bytes32 Uint256

inductive Problem
  | unauthorized
  | invalidRoute
  | invalidObservation
  | insufficientVerifiedLiquidity (requested available : Uint256)
  | reservationExists (settlementId : Bytes32)
  | panic
  deriving DecidableEq

/-- What a mapping holds where nothing was written. -/
def noRoute : Route :=
  ⟨false, 0, 0, 0, 0, 0, 0, 0, 0⟩

def noObservation : LiquidityObservation :=
  ⟨0, 0, 0, 0, 0, 0⟩

/-- The registry after its constructor. -/
def deployed (deployer liquidityASC : Address) : State where
  owner := deployer
  liquidityASC := liquidityASC
  settlementHub := 0
  routes := fun _ => noRoute
  latestObservation := fun _ => noObservation
  reservedAmount := fun _ => 0
  reservations := fun _ => ∅

def reservation (state : State) (routeId settlementId : Bytes32) : Uint256 :=
  ((state.reservations routeId).lookup settlementId).getD 0

def configureRoute (state : State) (sender : Address) (routeId : Bytes32)
    (sourceChainKey : BitVec 64) (sourceEmitter payoutVault token : Address)
    (enabled : Bool) : Except Problem State := do
  require (sender = state.owner) .unauthorized
  require (¬ (routeId = 0 ∨ sourceChainKey = 0 ∨ sourceEmitter = 0 ∨ payoutVault = 0 ∨
    token = 0)) .invalidRoute
  return { state with
    routes := Function.update state.routes routeId
      ⟨enabled, sourceChainKey, sourceEmitter, payoutVault, token, 0, 0, 0, 0⟩ }

def configureSettlementRoute (state : State) (sender : Address) (routeId : Bytes32)
    (sourceChainKey : BitVec 64) (sourceEmitter payoutVault token : Address)
    (destinationNetwork : Bytes32) (destinationChainId : Uint256)
    (destinationExecutor outbox : Address) (enabled : Bool) : Except Problem State := do
  require (sender = state.owner) .unauthorized
  require (¬ (routeId = 0 ∨ sourceChainKey = 0 ∨ sourceEmitter = 0 ∨ payoutVault = 0 ∨
    token = 0 ∨ destinationNetwork = 0 ∨ destinationChainId = 0 ∨ destinationExecutor = 0 ∨
    outbox = 0)) .invalidRoute
  return { state with
    routes := Function.update state.routes routeId
      ⟨enabled, sourceChainKey, sourceEmitter, payoutVault, token, destinationNetwork,
        destinationChainId, destinationExecutor, outbox⟩ }

def setLiquidityASC (state : State) (sender nextASC : Address) : Except Problem State := do
  require (sender = state.owner) .unauthorized
  require (nextASC ≠ 0) .invalidRoute
  return { state with liquidityASC := nextASC }

def setSettlementHub (state : State) (sender nextHub : Address) : Except Problem State := do
  require (sender = state.owner) .unauthorized
  require (nextHub ≠ 0) .invalidRoute
  return { state with settlementHub := nextHub }

def transferOwnership (state : State) (sender nextOwner : Address) : Except Problem State := do
  require (sender = state.owner) .unauthorized
  require (nextOwner ≠ 0) .unauthorized
  return { state with owner := nextOwner }

def recordVerifiedLiquidity (state : State) (sender : Address) (now : Uint256)
    (routeId queryId : Bytes32) (availableAmount sourceBlock validUntil nonce : Uint256) :
    Except Problem State := do
  require (sender = state.liquidityASC) .unauthorized
  require (¬ ((state.routes routeId).enabled = false ∨ sourceBlock = 0 ∨ queryId = 0 ∨
    validUntil ≤ now)) .invalidObservation
  require (¬ nonce ≤ (state.latestObservation routeId).nonce) .invalidObservation
  return { state with
    latestObservation := Function.update state.latestObservation routeId
      ⟨availableAmount, sourceBlock, now, validUntil, nonce, queryId⟩ }

def isLiquidityAvailable (state : State) (now : Uint256) (routeId : Bytes32)
    (amount : Uint256) : Except Problem Bool :=
  if (state.routes routeId).enabled = false ∨
      (state.latestObservation routeId).validUntil < now then
    .ok false
  else do
    let required ← okOr (add (state.reservedAmount routeId) amount) .panic
    return decide (required ≤ (state.latestObservation routeId).availableAmount)

def reserveLiquidity (state : State) (sender : Address) (now : Uint256)
    (routeId settlementId : Bytes32) (amount : Uint256) : Except Problem State := do
  require (sender = state.settlementHub) .unauthorized
  require (¬ (settlementId = 0 ∨ amount = 0)) .invalidObservation
  require (reservation state routeId settlementId = 0) (.reservationExists settlementId)
  let available ← isLiquidityAvailable state now routeId amount
  require (available = true)
    (.insufficientVerifiedLiquidity amount (state.latestObservation routeId).availableAmount)
  let reserved ← okOr (add (state.reservedAmount routeId) amount) .panic
  return { state with
    reservations := Function.update state.reservations routeId
      ((state.reservations routeId).insert settlementId amount)
    reservedAmount := Function.update state.reservedAmount routeId reserved }

def releaseLiquidity (state : State) (sender : Address) (routeId settlementId : Bytes32)
    (amount : Uint256) : Except Problem State := do
  require (sender = state.settlementHub) .unauthorized
  require (¬ (reservation state routeId settlementId = 0 ∨
    amount ≠ reservation state routeId settlementId ∨
    state.reservedAmount routeId < amount)) .invalidObservation
  let reserved ← okOr (sub (state.reservedAmount routeId) amount) .panic
  return { state with
    reservedAmount := Function.update state.reservedAmount routeId reserved
    reservations := Function.update state.reservations routeId
      ((state.reservations routeId).insert settlementId 0) }

inductive Call
  | configureRoute (routeId : Bytes32) (sourceChainKey : BitVec 64)
      (sourceEmitter payoutVault token : Address) (enabled : Bool)
  | configureSettlementRoute (routeId : Bytes32) (sourceChainKey : BitVec 64)
      (sourceEmitter payoutVault token : Address) (destinationNetwork : Bytes32)
      (destinationChainId : Uint256) (destinationExecutor outbox : Address) (enabled : Bool)
  | setLiquidityASC (nextASC : Address)
  | setSettlementHub (nextHub : Address)
  | transferOwnership (nextOwner : Address)
  | recordVerifiedLiquidity (routeId queryId : Bytes32)
      (availableAmount sourceBlock validUntil nonce : Uint256)
  | reserveLiquidity (routeId settlementId : Bytes32) (amount : Uint256)
  | releaseLiquidity (routeId settlementId : Bytes32) (amount : Uint256)
  deriving DecidableEq

/-- A transaction: who calls, at which block time, and what. -/
structure Transaction where
  sender : Address
  now : Uint256
  call : Call
  deriving DecidableEq

def step (state : State) (transaction : Transaction) : Except Problem State :=
  match transaction.call with
  | .configureRoute routeId sourceChainKey sourceEmitter payoutVault token enabled =>
      configureRoute state transaction.sender routeId sourceChainKey sourceEmitter payoutVault
        token enabled
  | .configureSettlementRoute routeId sourceChainKey sourceEmitter payoutVault token
      destinationNetwork destinationChainId destinationExecutor outbox enabled =>
      configureSettlementRoute state transaction.sender routeId sourceChainKey sourceEmitter
        payoutVault token destinationNetwork destinationChainId destinationExecutor outbox
        enabled
  | .setLiquidityASC nextASC => setLiquidityASC state transaction.sender nextASC
  | .setSettlementHub nextHub => setSettlementHub state transaction.sender nextHub
  | .transferOwnership nextOwner => transferOwnership state transaction.sender nextOwner
  | .recordVerifiedLiquidity routeId queryId availableAmount sourceBlock validUntil nonce =>
      recordVerifiedLiquidity state transaction.sender transaction.now routeId queryId
        availableAmount sourceBlock validUntil nonce
  | .reserveLiquidity routeId settlementId amount =>
      reserveLiquidity state transaction.sender transaction.now routeId settlementId amount
  | .releaseLiquidity routeId settlementId amount =>
      releaseLiquidity state transaction.sender routeId settlementId amount

section Effects

variable {state next : State} {transaction : Transaction}

theorem isLiquidityAvailable_eq_true {now amount : Uint256} {routeId : Bytes32} :
    isLiquidityAvailable state now routeId amount = .ok true ↔
      (state.routes routeId).enabled = true ∧
      now ≤ (state.latestObservation routeId).validUntil ∧
      (state.reservedAmount routeId).toNat + amount.toNat ≤
        (state.latestObservation routeId).availableAmount.toNat := by
  have havailable := (state.latestObservation routeId).availableAmount.isLt
  unfold isLiquidityAvailable
  split
  · rename_i hrefused
    constructor
    · nofun
    · rintro ⟨henabled, hvalid, -⟩
      rcases hrefused with hdisabled | hexpired
      · exact absurd (henabled.symm.trans hdisabled) nofun
      · exact absurd hexpired (BitVec.not_lt.mpr hvalid)
  · rename_i hopen
    rw [not_or, Bool.not_eq_false, BitVec.not_lt] at hopen
    simp only [bind_eq_ok, okOr_eq_ok, pure_eq_ok, decide_eq_true_eq, add_eq_some]
    constructor
    · rintro ⟨required, hsum, hle⟩
      exact ⟨hopen.1, hopen.2, hsum ▸ hle⟩
    · rintro ⟨-, -, hle⟩
      refine ⟨BitVec.ofNat 256 ((state.reservedAmount routeId).toNat + amount.toNat), ?_, ?_⟩
      · rw [BitVec.toNat_ofNat, Nat.mod_eq_of_lt (by omega)]
      · rw [BitVec.le_def, BitVec.toNat_ofNat, Nat.mod_eq_of_lt (by omega)]
        exact hle

theorem reserveLiquidity_eq_ok {sender : Address} {now amount : Uint256}
    {routeId settlementId : Bytes32} :
    reserveLiquidity state sender now routeId settlementId amount = .ok next ↔
      sender = state.settlementHub ∧ settlementId ≠ 0 ∧ amount ≠ 0 ∧
      reservation state routeId settlementId = 0 ∧
      isLiquidityAvailable state now routeId amount = .ok true ∧
      ∃ reserved, reserved.toNat = (state.reservedAmount routeId).toNat + amount.toNat ∧
        next = { state with
          reservations := Function.update state.reservations routeId
            ((state.reservations routeId).insert settlementId amount)
          reservedAmount := Function.update state.reservedAmount routeId reserved } := by
  simp only [reserveLiquidity, bind_eq_ok, require_eq_ok, okOr_eq_ok, pure_eq_ok, not_or,
    add_eq_some]
  constructor
  · rintro ⟨-, hsender, -, ⟨hid, hamount⟩, -, hfree, available, havailable, -, rfl, reserved,
      hreserved, rfl⟩
    exact ⟨hsender, hid, hamount, hfree, havailable, reserved, hreserved, rfl⟩
  · rintro ⟨hsender, hid, hamount, hfree, havailable, reserved, hreserved, rfl⟩
    exact ⟨(), hsender, (), ⟨hid, hamount⟩, (), hfree, true, havailable, (), rfl, reserved,
      hreserved, rfl⟩

theorem releaseLiquidity_eq_ok {sender : Address} {amount : Uint256}
    {routeId settlementId : Bytes32}
    (hstep : releaseLiquidity state sender routeId settlementId amount = .ok next) :
    sender = state.settlementHub ∧ amount ≠ 0 ∧
      reservation state routeId settlementId = amount ∧
      ∃ reserved, reserved.toNat + amount.toNat = (state.reservedAmount routeId).toNat ∧
        next = { state with
          reservedAmount := Function.update state.reservedAmount routeId reserved
          reservations := Function.update state.reservations routeId
            ((state.reservations routeId).insert settlementId 0) } := by
  simp only [releaseLiquidity, bind_eq_ok, require_eq_ok, okOr_eq_ok, pure_eq_ok, not_or,
    sub_eq_some, ne_eq, not_not] at hstep
  obtain ⟨-, hsender, -, ⟨hheld, hamount, -⟩, reserved, hreserved, rfl⟩ := hstep
  exact ⟨hsender, hamount ▸ hheld, hamount.symm, reserved, hreserved, rfl⟩

theorem recordVerifiedLiquidity_eq_ok {sender : Address} {routeId queryId : Bytes32}
    {now availableAmount sourceBlock validUntil nonce : Uint256}
    (hstep : recordVerifiedLiquidity state sender now routeId queryId availableAmount
      sourceBlock validUntil nonce = .ok next) :
    (state.latestObservation routeId).nonce < nonce ∧ now < validUntil ∧
      next = { state with
        latestObservation := Function.update state.latestObservation routeId
          ⟨availableAmount, sourceBlock, now, validUntil, nonce, queryId⟩ } := by
  simp only [recordVerifiedLiquidity, bind_eq_ok, require_eq_ok, pure_eq_ok, not_or,
    BitVec.not_le] at hstep
  obtain ⟨-, -, -, ⟨-, -, -, hvalid⟩, -, hnonce, rfl⟩ := hstep
  exact ⟨hnonce, hvalid, rfl⟩

end Effects

end TsnProtocol.Crosschain.LiquidityRegistry
