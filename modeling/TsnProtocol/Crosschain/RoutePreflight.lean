import TsnProtocol.Crosschain.PayoutSigning
import TsnProtocol.Lib.HexWords

/-!
The two checks of a destination route before the settlement: that of the Node for an intent,
and that of the Cranker for an authorization. Both read the registry as ABI words and leave the
reservations and the name of the network out, which the hub checks.
-/

namespace TsnProtocol.Crosschain.RoutePreflight

open Crosschain.LiquidityRegistry (LiquidityObservation Route reservation)
open Crosschain.PayoutSigning (Ethers Evidence PayoutInput Result dropHexPrefix
  isHexDigit isHexInteger isHexOf submit)
open Crosschain.SettlementHub (Books PayoutAuthorization Setting checkFields
  checkRoute executeSettlement hashTypedData)
open Lib.ByteReader
open Lib.Checked
open Lib.Evm
open Lib.EvmMemory (wordBytes_injective)
open Lib.HexWords
open Lib.JsonData (isSpace)
open Lib.PythonText (AsciiDigits Unicode isDigit_range signOf stripText
  trimmed_eq_self)
open Lib.TextFormat

def GET_ROUTE_SELECTOR : Text :=
  "0xe9207600".toList

def LATEST_OBSERVATION_SELECTOR : Text :=
  "0xa2fb18c1".toList

def ACTIVE_SELECTOR : Text :=
  "0x655d0aa8".toList

/-- The digits behind the prefix that a node puts in front of data. -/
def rawDigits (data : Text) : Text :=
  if data.take 2 = ['0', 'x'] then data.drop 2 else data

section Node

/-- A route of the configuration, which has no other than positive chain ids. -/
structure DestinationRoute where
  (network routeId registry : Text)
  (executor token : Option Text)
  destinationChainId : Int
  rpcUrl : Text
  positive : 0 < destinationChainId
  deriving DecidableEq

variable (unicode : Unicode)

def lowered (text : Text) : Text :=
  (unicode.lower (String.ofList text)).toList

/-- `int(text, 16)` -/
def intOfHex (text : Text) : Option Int :=
  if isHexInteger unicode text = true then
    let ascii := (stripText text).map fun character =>
      ((unicode.digitOf character).map fun digit => Char.ofNat (48 + digit)).getD character
    let value := hexTextValue
      (((dropHexPrefix (signOf ascii).2).filter (· ≠ '_')).map Char.toLower)
    some (if (signOf ascii).1 then -(value : Int) else value)
  else none

def address (value : Text) (field : String) : Result Text := do
  let normalized := lowered unicode (stripText value)
  require (normalized.length = 42 ∧ normalized.take 2 = ['0', 'x'])
    (field ++ " must be a 20-byte EVM address")
  require (isHexInteger unicode (normalized.drop 2) = true)
    (field ++ " must be a 20-byte EVM address")
  return normalized

def bytes32 (value : Text) (field : String) : Result Text := do
  let normalized := rawDigits (lowered unicode (stripText value))
  require (normalized.length = 64) (field ++ " must be bytes32")
  require (isHexInteger unicode normalized = true) (field ++ " must be bytes32")
  return '0' :: 'x' :: normalized

def word (data : Text) (index : Nat) : Result Int :=
  okOr (intOfHex unicode (((rawDigits data).drop (index * 64)).take 64))
    "invalid literal for int() with base 16"

def wordAddress (data : Text) (index : Nat) : Text :=
  '0' :: 'x' :: lowered unicode (((rawDigits data).drop (index * 64 + 24)).take 40)

/-- The address given is the one expected, where one is. -/
def requireSame (expected : Option Text) (given : Text) (field message : String) :
    Result Unit :=
  match expected with
  | none => return ()
  | some expected => do
      let normalized ← address unicode given field
      require (normalized = expected) message

/-- The address on the chain is the one configured, where one is. -/
def requireMirrored (configured : Option Text) (onchain : Text) (message : String) :
    Result Unit :=
  require (∀ expected ∈ configured, onchain = expected) message

/-- The address on the chain is the one given, where one is. -/
def requireGiven (given : Option Text) (onchain : Text) (field message : String) :
    Result Unit :=
  match given.filter (· ≠ []) with
  | none => return ()
  | some given => do
      let normalized ← address unicode given field
      require (normalized = onchain) message

/-- `routes` holds what `load_destination_routes` has read, and `ethCall` asks an endpoint. -/
def verifyDestinationRoute (routes : Text → Option DestinationRoute)
    (ethCall : Text → Text → Text → Result Text) (network routeId : Text)
    (executor token : Option Text) (requestedAmount nowSeconds : Int) :
    Result DestinationRoute := do
  let route ← okOr (routes (lowered unicode (stripText network)))
    "destination network is not active in the TSN registry"
  let given ← bytes32 unicode routeId "routeId"
  require (given = route.routeId)
    "settlement route ID is not registered for the destination network"
  requireSame unicode route.executor (executor.getD []) "destinationExecutor"
    "destination executor is not the registered executor"
  requireSame unicode route.token (token.getD []) "destinationToken"
    "destination token is not the registered route asset"
  require (¬ requestedAmount ≤ 0) "destination amount must be positive"
  let routeArg := route.routeId.drop 2
  let routeRaw ← ethCall route.rpcUrl route.registry (GET_ROUTE_SELECTOR ++ routeArg)
  let enabled ← word unicode routeRaw 0
  require (enabled = 1) "destination route is disabled on Creditcoin"
  let onchainExecutor := wordAddress unicode routeRaw 7
  let onchainToken := wordAddress unicode routeRaw 4
  let chainId ← word unicode routeRaw 6
  require (chainId = route.destinationChainId)
    "Creditcoin route chain ID does not match the Node mirror"
  requireMirrored route.executor onchainExecutor
    "Creditcoin route executor does not match the registry mirror"
  requireMirrored route.token onchainToken
    "Creditcoin route configuration does not match the signed intent"
  requireGiven unicode executor onchainExecutor "destinationExecutor"
    "destination executor is not the registered executor"
  requireGiven unicode token onchainToken "destinationToken"
    "destination token is not the registered route asset"
  let observationRaw ← ethCall route.rpcUrl route.registry
    (LATEST_OBSERVATION_SELECTOR ++ routeArg)
  let available ← word unicode observationRaw 0
  let validUntil ← word unicode observationRaw 3
  require (¬ validUntil ≤ nowSeconds) "destination liquidity observation is expired"
  require (¬ available < requestedAmount) "verified destination liquidity is insufficient"
  return { route with
    executor := some onchainExecutor
    token := some onchainToken }

end Node

section RouteClient

/-- The endpoint of a route client. -/
structure Rpc where
  chainId : Result Nat
  call : Text → Text → Result Text

structure RouteClientConfig where
  (registry routeId : Text)
  expectedChainId : Nat
  registry_hex : isHexOf 40 registry = true
  routeId_hex : isHexOf 64 routeId = true

structure RouteState where
  chainId : Nat
  routeId : Text
  enabled : Bool
  (payoutVault settlementToken destinationNetwork : Text)
  destinationChainId : Nat
  (destinationExecutor outbox : Text)

structure LiquidityState where
  (availableAmount sourceBlock observedAt validUntil nonce : Nat)
  queryId : Text
  isFresh : Bool

/-- `BigInt` of digits behind `0x`, blanks after them aside. -/
def hexBigInt (digits : Text) : Result Nat := do
  let digits := digits.rdropWhile isSpace
  require (digits ≠ [] ∧ digits.all isHexDigit = true) "Cannot convert to a BigInt"
  return hexTextValue (digits.map Char.toLower)

def clientWord (data : Text) (index : Nat) : Result Nat := do
  let value := ((rawDigits data).drop (index * 64)).take 64
  require (value.length = 64) "Creditcoin RPC returned malformed ABI data"
  hexBigInt value

def clientWordAddress (data : Text) (index : Nat) : Result Text := do
  let value := '0' :: 'x' :: ((rawDigits data).drop (index * 64 + 24)).take 40
  require (isHexOf 40 value = true) "route word must be a 20-byte EVM address"
  return value

def clientWordBytes32 (data : Text) (index : Nat) : Result Text := do
  let value := '0' :: 'x' :: ((rawDigits data).drop (index * 64)).take 64
  require (isHexOf 64 value = true) "route word must be bytes32"
  return value

/-- Whether the text of a token can be read; the text itself goes only into the log. -/
def decodeAbiString (data : Text) : Result Unit :=
  let raw := rawDigits data
  if raw.length < 128 then return ()
  else do
    let offset ← hexBigInt (raw.take 64)
    if raw.length < 2 * offset + 64 then return ()
    else do
      let _ ← hexBigInt ((raw.drop (2 * offset)).take 64)
      return ()

def ERC20_NAME : Text :=
  "0x06fdde03".toList

def ERC20_SYMBOL : Text :=
  "0x95d89b41".toList

def ERC20_DECIMALS : Text :=
  "0x313ce567".toList

def readToken (rpc : Rpc) (token : Text) : Result Unit := do
  let name ← rpc.call token ERC20_NAME
  decodeAbiString name
  let symbol ← rpc.call token ERC20_SYMBOL
  decodeAbiString symbol
  let decimals ← rpc.call token ERC20_DECIMALS
  let _ ← clientWord decimals 0

variable (rpc : Rpc) (config : RouteClientConfig)

def readRoute : Result RouteState := do
  let chainId ← rpc.chainId
  require (chainId = config.expectedChainId) "another Creditcoin chain than expected"
  let raw ← rpc.call config.registry (GET_ROUTE_SELECTOR ++ config.routeId.drop 2)
  let token ← clientWordAddress raw 4
  readToken rpc token
  let enabled ← clientWord raw 0
  let payoutVault ← clientWordAddress raw 3
  let destinationNetwork ← clientWordBytes32 raw 5
  let destinationChainId ← clientWord raw 6
  let destinationExecutor ← clientWordAddress raw 7
  let outbox ← clientWordAddress raw 8
  return ⟨chainId, config.routeId, enabled = 1, payoutVault, token, destinationNetwork,
    destinationChainId, destinationExecutor, outbox⟩

def readLiquidity (now : Int) : Result LiquidityState := do
  let raw ← rpc.call config.registry (LATEST_OBSERVATION_SELECTOR ++ config.routeId.drop 2)
  let validUntil ← clientWord raw 3
  let availableAmount ← clientWord raw 0
  let sourceBlock ← clientWord raw 1
  let observedAt ← clientWord raw 2
  let nonce ← clientWord raw 4
  let queryId ← clientWordBytes32 raw 5
  return ⟨availableAmount, sourceBlock, observedAt, validUntil, nonce, queryId, now < validUntil⟩

/-- The evidence where all reads succeed. -/
def readActive (now : Int) : Result Evidence := do
  let route ← readRoute rpc config
  let liquidity ← readLiquidity rpc config now
  let activeRaw ← rpc.call config.registry (ACTIVE_SELECTOR ++ config.routeId.drop 2)
  let active ← clientWord activeRaw 0
  return {
    ready := active = 1 ∧ route.enabled = true ∧ liquidity.isFresh = true ∧
      0 < liquidity.availableAmount
    failure := none
    routeId := route.routeId
    destinationExecutor := route.destinationExecutor
    settlementToken := route.settlementToken
    availableAmount := liquidity.availableAmount }

/-- A failed read is reported with the route read once more. -/
def readEvidence (now : Int) : Result Evidence :=
  match readActive rpc config now with
  | .ok evidence => return evidence
  | .error failure => do
      let route ← readRoute rpc config
      let liquidity ← readLiquidity rpc config now
      return {
        ready := false
        failure := some failure
        routeId := route.routeId
        destinationExecutor := route.destinationExecutor
        settlementToken := route.settlementToken
        availableAmount := liquidity.availableAmount }

end RouteClient

section Registry

/-- The words of `getRoute`. -/
def routeWords (route : Route) : List Bytes32 :=
  [boolWord route.enabled, route.sourceChainKey.setWidth 256, addressWord route.sourceEmitter,
    addressWord route.payoutVault, addressWord route.token, route.destinationNetwork,
    route.destinationChainId, addressWord route.destinationExecutor, addressWord route.outbox]

/-- The words of the getter of `latestObservation`. -/
def observationWords (observation : LiquidityObservation) : List Bytes32 :=
  [observation.availableAmount, observation.sourceBlock, observation.observedAt,
    observation.validUntil, observation.nonce, observation.queryId]

def isSettlementRouteActive (state : LiquidityRegistry.State) (routeId : Bytes32) : Bool :=
  let route := state.routes routeId
  route.enabled && route.destinationChainId ≠ 0 && route.destinationExecutor ≠ 0 &&
    route.outbox ≠ 0

/-- An endpoint answers calls of the registry with what the registry holds, however the digits
of the route are written. -/
structure Answers (call : Text → Result Text) (state : LiquidityRegistry.State) : Prop where
  getRoute : ∀ (routeId : Bytes32) (digits : Text),
    digits.map Char.toLower = hexText (wordBytes routeId) →
      call (GET_ROUTE_SELECTOR ++ digits) = .ok (hexWords (routeWords (state.routes routeId)))
  latestObservation : ∀ (routeId : Bytes32) (digits : Text),
    digits.map Char.toLower = hexText (wordBytes routeId) →
      call (LATEST_OBSERVATION_SELECTOR ++ digits) =
        .ok (hexWords (observationWords (state.latestObservation routeId)))
  active : ∀ (routeId : Bytes32) (digits : Text),
    digits.map Char.toLower = hexText (wordBytes routeId) →
      call (ACTIVE_SELECTOR ++ digits) =
        .ok (hexWords [boolWord (isSettlementRouteActive state routeId)])

end Registry

section Hub

variable {setting : Setting} {books : Books} {now : Uint256}
  {authorization : PayoutAuthorization} {signature : List Byte} {taken : Bool}

/-- The hub reverts because of the route or of its liquidity. -/
def Refuses (setting : Setting) (books : Books) (now : Uint256)
    (authorization : PayoutAuthorization) (signature : List Byte) (taken : Bool) : Prop :=
  executeSettlement setting books now authorization signature taken =
      .error (.routeNotExecutable authorization.routeId) ∨
    ∃ requested available, executeSettlement setting books now authorization signature taken =
      .error (.registry (.insufficientVerifiedLiquidity requested available))

/-- A correctly signed authorization that was not used. -/
structure Signed (setting : Setting) (books : Books) (authorization : PayoutAuthorization)
    (signature : List Byte) : Prop where
  signed : setting.recover (hashTypedData setting authorization) signature =
    some books.hub.authorizationSigner
  newSettlement : books.hub.processedSettlements authorization.settlementId = false
  newNonce : books.hub.usedNonces authorization.nonce = false

/-- The hub is open, the authorization has not expired, and its fields are filled. -/
structure Presentable (setting : Setting) (books : Books) (now : Uint256)
    (authorization : PayoutAuthorization) : Prop where
  unpaused : books.hub.paused = false
  timely : now ≤ authorization.deadline
  filled : checkFields setting authorization = .ok ()

/-- What is available covers the reservations and the amount, where the registry comes to
compare them. -/
def Covered (setting : Setting) (registry : LiquidityRegistry.State)
    (authorization : PayoutAuthorization) : Prop :=
  registry.settlementHub = setting.hub →
  reservation registry authorization.routeId authorization.settlementId = 0 →
  (registry.reservedAmount authorization.routeId).toNat + authorization.amount.toNat < 2 ^ 256 →
    (registry.reservedAmount authorization.routeId).toNat + authorization.amount.toNat ≤
      (registry.latestObservation authorization.routeId).availableAmount.toNat

section Refusals

variable {α β Error Other : Type} {first : Except Error α} {problem : Error}

theorem bind_eq_error {rest : α → Except Error β} :
    (first >>= rest) = .error problem ↔
      first = .error problem ∨ ∃ value, first = .ok value ∧ rest value = .error problem := by
  cases first with
  | error other => simp [bind, Except.bind]
  | ok value => simp [bind, Except.bind]

theorem require_eq_error {condition : Prop} [Decidable condition] {other : Error} :
    require condition other = .error problem ↔ ¬ condition ∧ other = problem := by
  by_cases hcondition : condition
  · simp [require, hcondition]
  · simp [require, hcondition]

theorem require_of {condition : Prop} [Decidable condition] (hcondition : condition)
    (other : Error) : require condition other = .ok () :=
  require_eq_ok.mpr hcondition

theorem bind_of_ok {rest : α → Except Error β} {value : α} (hfirst : first = .ok value) :
    (first >>= rest) = rest value := by
  rw [hfirst]
  rfl

end Refusals

/-- What the hub still does with a signed authorization that it has found in order. -/
theorem executeSettlement_eq (hsigned : Signed setting books authorization signature)
    (hpresentable : Presentable setting books now authorization) :
    executeSettlement setting books now authorization signature taken = (do
      checkRoute books.registry authorization
      let registry ← (LiquidityRegistry.reserveLiquidity books.registry setting.hub now
        authorization.routeId authorization.settlementId authorization.amount).mapError .registry
      require (taken = true) .outboxRejected
      return {
        hub := { books.hub with
          processedSettlements :=
            Function.update books.hub.processedSettlements authorization.settlementId true
          usedNonces := Function.update books.hub.usedNonces authorization.nonce true }
        registry := registry
        published := SettlementHub.payload authorization :: books.published }) := by
  have hunused : ¬ (books.hub.processedSettlements authorization.settlementId = true ∨
      books.hub.usedNonces authorization.nonce = true) := by
    rw [hsigned.newSettlement, hsigned.newNonce]
    exact not_or.mpr ⟨Bool.false_ne_true, Bool.false_ne_true⟩
  have hsignature : SettlementHub.checkSignature setting books.hub authorization signature =
      .ok () := by
    simp only [SettlementHub.checkSignature, bind_eq_ok, okOr_eq_ok, require_eq_ok]
    exact ⟨_, hsigned.signed, rfl⟩
  rw [executeSettlement, bind_of_ok (require_of hpresentable.unpaused _),
    bind_of_ok (require_of (BitVec.not_lt.mpr hpresentable.timely) _),
    bind_of_ok hpresentable.filled, bind_of_ok (require_of hunused _),
    bind_of_ok hsignature]

theorem checkFields_eq_error {problem : SettlementHub.Problem}
    (hrefused : checkFields setting authorization = .error problem) :
    problem = .invalidAuthorization := by
  simp only [checkFields, bind_eq_error, require_eq_error] at hrefused
  rcases hrefused with ⟨-, hproblem⟩ | ⟨-, -, ⟨-, hproblem⟩ | ⟨-, -, -, hproblem⟩⟩
  · exact hproblem.symm
  · exact hproblem.symm
  · exact hproblem.symm

/-- An authorization that is not in order is refused for another reason. -/
theorem presentable_of_refuses
    (hrefuses : Refuses setting books now authorization signature taken) :
    Presentable setting books now authorization := by
  by_contra hnot
  have hearly : ∃ problem, executeSettlement setting books now authorization signature taken =
        .error problem ∧
      (problem = .paused ∨ problem = .authorizationExpired ∨ problem = .invalidAuthorization) := by
    by_cases hpaused : books.hub.paused = false
    · by_cases hexpired : authorization.deadline < now
      · refine ⟨.authorizationExpired, ?_, Or.inr (Or.inl rfl)⟩
        rw [executeSettlement, bind_of_ok (require_of hpaused _)]
        exact bind_eq_error.mpr (Or.inl (require_eq_error.mpr ⟨not_not.mpr hexpired, rfl⟩))
      · cases hfields : checkFields setting authorization with
        | ok _ => exact absurd ⟨hpaused, BitVec.not_lt.mp hexpired, hfields⟩ hnot
        | error problem =>
            refine ⟨problem, ?_, Or.inr (Or.inr (checkFields_eq_error hfields))⟩
            rw [executeSettlement, bind_of_ok (require_of hpaused _),
              bind_of_ok (require_of hexpired _)]
            exact bind_eq_error.mpr (Or.inl hfields)
    · exact ⟨.paused, bind_eq_error.mpr (Or.inl (require_eq_error.mpr ⟨hpaused, rfl⟩)),
        Or.inl rfl⟩
  obtain ⟨problem, hproblem, hkind⟩ := hearly
  rcases hrefuses with hrefused | ⟨requested, available, hrefused⟩
  · rw [hproblem, Except.error.injEq] at hrefused
    subst hrefused
    simp at hkind
  · rw [hproblem, Except.error.injEq] at hrefused
    subst hrefused
    simp at hkind

theorem refuses_iff (hsigned : Signed setting books authorization signature)
    (hpresentable : Presentable setting books now authorization) :
    Refuses setting books now authorization signature taken ↔
      checkRoute books.registry authorization ≠ .ok () ∨
      ∃ requested available, LiquidityRegistry.reserveLiquidity books.registry setting.hub now
          authorization.routeId authorization.settlementId authorization.amount =
        .error (.insufficientVerifiedLiquidity requested available) := by
  rw [Refuses, executeSettlement_eq hsigned hpresentable]
  by_cases hroute : checkRoute books.registry authorization = .ok ()
  · rw [bind_of_ok hroute]
    simp only [hroute, ne_eq, not_true_eq_false, false_or]
    cases hreserve : LiquidityRegistry.reserveLiquidity books.registry setting.hub now
        authorization.routeId authorization.settlementId authorization.amount with
    | error other =>
        constructor
        · rintro (hrefused | ⟨requested, available, hrefused⟩)
          · cases hrefused
          · have hother := Except.error.inj hrefused
            rw [SettlementHub.Problem.registry.injEq] at hother
            exact ⟨requested, available, congrArg _ hother⟩
        · rintro ⟨requested, available, hother⟩
          rw [Except.error.injEq] at hother
          subst hother
          exact Or.inr ⟨requested, available, rfl⟩
    | ok registry =>
        constructor
        · intro hrefused
          cases taken with
          | false => rcases hrefused with hrefused | ⟨_, _, hrefused⟩ <;> cases hrefused
          | true => rcases hrefused with hrefused | ⟨_, _, hrefused⟩ <;> cases hrefused
        · rintro ⟨_, _, hother⟩
          cases hother
  · have hrefused : checkRoute books.registry authorization =
        .error (.routeNotExecutable authorization.routeId) :=
      require_eq_error.mpr ⟨fun hmatches => hroute (require_of hmatches _), rfl⟩
    constructor
    · intro _
      exact Or.inl hroute
    · intro _
      exact Or.inl (bind_eq_error.mpr (Or.inl hrefused))

theorem isLiquidityAvailable_ne {registry : LiquidityRegistry.State} {routeId : Bytes32}
    {amount : Uint256} (requested available : Uint256) :
    LiquidityRegistry.isLiquidityAvailable registry now routeId amount ≠
      .error (.insufficientVerifiedLiquidity requested available) := by
  rw [LiquidityRegistry.isLiquidityAvailable]
  split
  · exact nofun
  · exact avoids_bind (avoids_okOr nofun) fun _ _ => avoids_pure

theorem isLiquidityAvailable_eq_false {registry : LiquidityRegistry.State} {routeId : Bytes32}
    {amount : Uint256} (henabled : (registry.routes routeId).enabled = true)
    (hvalid : now ≤ (registry.latestObservation routeId).validUntil) :
    LiquidityRegistry.isLiquidityAvailable registry now routeId amount = .ok false ↔
      (registry.reservedAmount routeId).toNat + amount.toNat < 2 ^ 256 ∧
        (registry.latestObservation routeId).availableAmount.toNat <
          (registry.reservedAmount routeId).toNat + amount.toNat := by
  have hopen : ¬ ((registry.routes routeId).enabled = false ∨
      (registry.latestObservation routeId).validUntil < now) := by
    rw [henabled, not_or]
    exact ⟨Bool.noConfusion, BitVec.not_lt.mpr hvalid⟩
  rw [LiquidityRegistry.isLiquidityAvailable, if_neg hopen]
  simp only [bind_eq_ok, okOr_eq_ok, pure_eq_ok, decide_eq_false_iff_not, add_eq_some]
  constructor
  · rintro ⟨required, hsum, hless⟩
    have hlt := required.isLt
    rw [BitVec.le_def] at hless
    omega
  · rintro ⟨hfits, hless⟩
    refine ⟨BitVec.ofNat 256 ((registry.reservedAmount routeId).toNat + amount.toNat), ?_, ?_⟩
    · rw [BitVec.toNat_ofNat, Nat.mod_eq_of_lt hfits]
    · rw [BitVec.le_def, BitVec.toNat_ofNat, Nat.mod_eq_of_lt hfits]
      omega

/-- The registry refuses for want of liquidity where it comes to compare. -/
theorem not_insufficient_iff {registry : LiquidityRegistry.State}
    (hfilled : checkFields setting authorization = .ok ())
    (henabled : (registry.routes authorization.routeId).enabled = true)
    (hvalid : now ≤ (registry.latestObservation authorization.routeId).validUntil) :
    (¬ ∃ requested available, LiquidityRegistry.reserveLiquidity registry setting.hub now
        authorization.routeId authorization.settlementId authorization.amount =
      .error (.insufficientVerifiedLiquidity requested available)) ↔
    Covered setting registry authorization := by
  have hnonzero : ¬ (authorization.settlementId = 0 ∨ authorization.amount = 0) := by
    simp only [checkFields, bind_eq_ok, require_eq_ok, not_or] at hfilled
    obtain ⟨-, -, -, ⟨hid, -⟩, -, -, -, -, -, -, -, hamount⟩ := hfilled
    exact not_or.mpr ⟨hid, hamount⟩
  have hcompared : (∃ requested available, LiquidityRegistry.reserveLiquidity registry
        setting.hub now authorization.routeId authorization.settlementId authorization.amount =
      .error (.insufficientVerifiedLiquidity requested available)) ↔
      setting.hub = registry.settlementHub ∧
      reservation registry authorization.routeId authorization.settlementId = 0 ∧
      LiquidityRegistry.isLiquidityAvailable registry now authorization.routeId
        authorization.amount = .ok false := by
    constructor
    · rintro ⟨requested, available, hrefused⟩
      simp only [LiquidityRegistry.reserveLiquidity, bind_eq_error, require_eq_error,
        require_eq_ok, reduceCtorEq, and_false, false_or] at hrefused
      obtain ⟨-, hhub, -, -, -, hfree, hrefused | ⟨found, hfound, hrefused⟩⟩ := hrefused
      · exact absurd hrefused (isLiquidityAvailable_ne _ _)
      · rcases hrefused with ⟨hshort, -⟩ | ⟨-, -, hrefused⟩
        · rw [Bool.not_eq_true] at hshort
          exact ⟨hhub, hfree, hshort ▸ hfound⟩
        · rcases hrefused with hrefused | ⟨_, -, hrefused⟩
          · exact absurd hrefused (avoids_okOr (by rintro ⟨⟩))
          · cases hrefused
    · rintro ⟨hhub, hfree, hshort⟩
      refine ⟨authorization.amount,
        (registry.latestObservation authorization.routeId).availableAmount, ?_⟩
      rw [LiquidityRegistry.reserveLiquidity, bind_of_ok (require_of hhub _),
        bind_of_ok (require_of hnonzero _), bind_of_ok (require_of hfree _), bind_of_ok hshort]
      rfl
  rw [hcompared, isLiquidityAvailable_eq_false henabled hvalid]
  constructor
  · intro hnot hhub hfree hfits
    by_contra hless
    exact hnot ⟨hhub.symm, hfree, hfits, by omega⟩
  · rintro hcovered ⟨hhub, hfree, hfits, hless⟩
    have hle := hcovered hhub.symm hfree hfits
    omega

theorem not_refuses_iff (hsigned : Signed setting books authorization signature)
    (henabled : (books.registry.routes authorization.routeId).enabled = true)
    (hchain : (books.registry.routes authorization.routeId).destinationChainId ≠ 0)
    (hexecutor : (books.registry.routes authorization.routeId).destinationExecutor =
      authorization.destinationExecutor)
    (htoken : (books.registry.routes authorization.routeId).token = authorization.token)
    (hvalid : now ≤ (books.registry.latestObservation authorization.routeId).validUntil) :
    ¬ Refuses setting books now authorization signature taken ↔
      (Presentable setting books now authorization →
        (books.registry.routes authorization.routeId).destinationNetwork =
          authorization.destinationNetwork ∧
        (books.registry.routes authorization.routeId).outbox ≠ 0 ∧
        Covered setting books.registry authorization) := by
  by_cases hpresentable : Presentable setting books now authorization
  · have hnonzero : authorization.destinationExecutor ≠ 0 := by
      have hfilled := hpresentable.filled
      simp only [checkFields, bind_eq_ok, require_eq_ok, not_or] at hfilled
      exact hfilled.choose_spec.2.choose_spec.2.2.2.2.2.1
    have hroute : checkRoute books.registry authorization = .ok () ↔
        (books.registry.routes authorization.routeId).destinationNetwork =
          authorization.destinationNetwork ∧
        (books.registry.routes authorization.routeId).outbox ≠ 0 := by
      simp only [checkRoute, require_eq_ok, not_or, henabled, hexecutor, htoken, ne_eq,
        not_not]
      exact ⟨fun h => ⟨h.2.1, h.2.2.2.2.1⟩,
        fun h => ⟨Bool.noConfusion, h.1, hchain, hnonzero, h.2, trivial, trivial⟩⟩
    rw [refuses_iff hsigned hpresentable, not_or,
      not_insufficient_iff hpresentable.filled henabled hvalid, ne_eq, not_not, hroute, and_assoc]
    exact ⟨fun h _ => h, fun h => h hpresentable⟩
  · constructor
    · intro _ hother
      exact absurd hother hpresentable
    · intro _ hrefuses
      exact hpresentable (presentable_of_refuses hrefuses)

end Hub

section Digits

variable {unicode : Unicode} {text : Text}

theorem asciiDigit_eq_self (hascii : AsciiDigits unicode) {digit : Char}
    (hdigit : isLowerHexDigit digit = true) :
    ((unicode.digitOf digit).map fun value => Char.ofNat (48 + value)).getD digit = digit := by
  have hlt : digit.toNat < 128 := by
    rcases lowerHexDigit_range hdigit with ⟨-, hhigh, -⟩ | ⟨-, hhigh, -⟩ <;> omega
  rw [hascii digit hlt]
  by_cases hnumber : digit.isDigit = true
  · have hbounds := isDigit_range hnumber
    have hvalue : 48 + (digit.toNat - 48) = digit.toNat := by omega
    rw [if_pos hnumber]
    simp [hvalue, Char.ofNat_toNat]
  · rw [if_neg hnumber]
    rfl

theorem isSpace_of_lowerHex {digit : Char} (hdigit : isLowerHexDigit digit = true) :
    Lib.PythonText.isSpace digit = false := by
  have hrange : (48 ≤ digit.toNat ∧ digit.toNat ≤ 57) ∨
      (97 ≤ digit.toNat ∧ digit.toNat ≤ 102) := by
    rcases lowerHexDigit_range hdigit with ⟨hlow, hhigh, -⟩ | ⟨hlow, hhigh, -⟩
    · exact Or.inl ⟨hlow, hhigh⟩
    · exact Or.inr ⟨hlow, hhigh⟩
  rw [Lib.PythonText.isSpace]
  rcases hrange with ⟨hlow, hhigh⟩ | ⟨hlow, hhigh⟩
  · interval_cases digit.toNat <;> rfl
  · interval_cases digit.toNat <;> rfl

theorem signOf_of_lowerHex (htext : ∀ digit ∈ text, isLowerHexDigit digit = true) :
    signOf text = (false, text) := by
  rw [signOf]
  · rintro rest rfl
    exact absurd (htext '-' List.mem_cons_self) (by decide)
  · rintro rest rfl
    exact absurd (htext '+' List.mem_cons_self) (by decide)

theorem dropHexPrefix_of_lowerHex (htext : ∀ digit ∈ text, isLowerHexDigit digit = true) :
    dropHexPrefix text = text := by
  have hlower : 'x' ∉ text := fun hmember => absurd (htext 'x' hmember) (by decide)
  have hupper : 'X' ∉ text := fun hmember => absurd (htext 'X' hmember) (by decide)
  rw [dropHexPrefix]
  · rintro rest rfl
    exact hlower (by simp)
  · rintro rest rfl
    exact hupper (by simp)
  · rintro rest rfl
    exact hlower (by simp)
  · rintro rest rfl
    exact hupper (by simp)

theorem isHexDigit_of_lowerHex {digit : Char} (hdigit : isLowerHexDigit digit = true) :
    isHexDigit digit = true := by
  rw [isLowerHexDigit, lowerHexValue] at hdigit
  rw [isHexDigit]
  split at hdigit
  · rename_i hnumber
    simp [hnumber.1, hnumber.2]
  · split at hdigit
    · rename_i hletter
      simp [hletter.1, hletter.2]
    · cases hdigit

/-- Python reads the digits of a word as its value. -/
theorem intOfHex_of_lowerHex (hascii : AsciiDigits unicode) (hnonempty : text ≠ [])
    (htext : ∀ digit ∈ text, isLowerHexDigit digit = true) :
    intOfHex unicode text = some ((hexTextValue text : Nat) : Int) := by
  have hascii' : ((stripText text).map fun character =>
      ((unicode.digitOf character).map fun digit => Char.ofNat (48 + digit)).getD character) =
        text := by
    rw [stripText, trimmed_eq_self fun digit hdigit => isSpace_of_lowerHex (htext digit hdigit)]
    nth_rewrite 2 [← List.map_id text]
    exact List.map_congr_left fun digit hdigit => asciiDigit_eq_self hascii (htext digit hdigit)
  have hplain : '_' ∉ text := fun hmember => absurd (htext '_' hmember) (by decide)
  have hhex : text.all isHexDigit = true := by
    rw [List.all_eq_true]
    intro digit hdigit
    exact isHexDigit_of_lowerHex (htext digit hdigit)
  have hinteger : isHexInteger unicode text = true := by
    rw [isHexInteger, hascii', signOf_of_lowerHex htext, dropHexPrefix_of_lowerHex htext,
      List.splitOn_eq_singleton hplain]
    simp [hnonempty, hhex]
  have hfilter : text.filter (· ≠ '_') = text := by
    rw [List.filter_eq_self]
    intro digit hdigit
    exact decide_eq_true fun heq => hplain (heq ▸ hdigit)
  rw [intOfHex, if_pos hinteger, hascii']
  simp only [signOf_of_lowerHex htext, dropHexPrefix_of_lowerHex htext, hfilter,
    map_toLower_of_lowerHex (List.all_eq_true.mpr htext), Bool.false_eq_true, if_false]

theorem word_hexWords (hascii : AsciiDigits unicode) {words : List Bytes32} {index : Nat}
    {value : Bytes32} (hvalue : words[index]? = some value) :
    word unicode (hexWords words) index = .ok (value.toNat : Int) := by
  have hraw : rawDigits (hexWords words) = hexText (abiEncode words) := rfl
  have hnonempty : hexText (wordBytes value) ≠ [] := by
    apply List.ne_nil_of_length_pos
    rw [length_hexText, length_wordBytes]
    decide
  rw [word, hraw, digits_of_word hvalue,
    intOfHex_of_lowerHex hascii hnonempty fun _ hdigit => mem_hexText hdigit,
    hexTextValue_wordBytes]
  rfl

/-- The digits of an address among those of many words. -/
theorem digits_of_addressWord {words : List Bytes32} {index : Nat} {value : Address}
    (hvalue : words[index]? = some (addressWord value)) :
    ((rawDigits (hexWords words)).drop (index * 64 + 24)).take 40 =
      hexText (beBytes 20 value.toNat) := by
  have hraw : rawDigits (hexWords words) = hexText (abiEncode words) := rfl
  have hdigits := congrArg (List.drop 24) (digits_of_word hvalue)
  rw [List.drop_take, List.drop_drop, digits_of_address] at hdigits
  rw [hraw]
  exact hdigits

/-- `lower` leaves hexadecimal digits as they are. -/
def KeepsLowerHex (unicode : Unicode) : Prop :=
  ∀ text : Text, text.all isLowerHexDigit = true →
    unicode.lower (String.ofList text) = String.ofList text

theorem wordAddress_hexWords (hlower : KeepsLowerHex unicode) {words : List Bytes32}
    {index : Nat} {value : Address} (hvalue : words[index]? = some (addressWord value)) :
    wordAddress unicode (hexWords words) index = addressText value := by
  have hdigits : (hexText (beBytes 20 value.toNat)).all isLowerHexDigit = true :=
    List.all_eq_true.mpr fun _ hdigit => mem_hexText hdigit
  rw [wordAddress, digits_of_addressWord hvalue, lowered, hlower _ hdigits, String.toList_ofList]
  rfl

theorem addressText_injective {left right : Address}
    (htext : addressText left = addressText right) : left = right := by
  have hpow : (256 : Nat) ^ 20 = 2 ^ 160 := by norm_num
  have hdigits : hexText (beBytes 20 left.toNat) = hexText (beBytes 20 right.toNat) :=
    (List.cons.inj (List.cons.inj htext).2).2
  have hbytes := congrArg bytesOfHex hdigits
  rw [bytesOfHex_hexText, bytesOfHex_hexText, Option.some.injEq] at hbytes
  have hvalue := congrArg beValue hbytes
  rw [beValue_beBytes (hpow ▸ left.isLt), beValue_beBytes (hpow ▸ right.isLt)] at hvalue
  exact BitVec.eq_of_toNat_eq hvalue

theorem toLower_hexText (bytes : List Byte) :
    (hexText bytes).map Char.toLower = hexText bytes :=
  map_toLower_of_lowerHex (List.all_eq_true.mpr fun _ hdigit => mem_hexText hdigit)

end Digits

section NodeCheck

variable {unicode : Unicode} {routes : Text → Option DestinationRoute}
  {ethCall : Text → Text → Text → Result Text} {network routeId : Text}
  {executor token : Option Text} {requestedAmount nowSeconds : Int}
  {accepted : DestinationRoute} {registry : LiquidityRegistry.State} {now : Uint256}
  {authorization : PayoutAuthorization}

/-- The authorization is for the route that the Node has accepted, and the amount. -/
structure Authorizes (accepted : DestinationRoute) (amount : Int)
    (authorization : PayoutAuthorization) : Prop where
  routeId : accepted.routeId = wordText authorization.routeId
  executor : accepted.executor = some (addressText authorization.destinationExecutor)
  token : accepted.token = some (addressText authorization.token)
  amount : amount = authorization.amount.toNat

theorem route_of_verified (hascii : AsciiDigits unicode) (hlower : KeepsLowerHex unicode)
    (hverified : verifyDestinationRoute unicode routes ethCall network routeId executor token
      requestedAmount nowSeconds = .ok accepted)
    (hanswers : Answers (ethCall accepted.rpcUrl accepted.registry) registry)
    (hauthorizes : Authorizes accepted requestedAmount authorization)
    (hnow : nowSeconds = now.toNat) :
    (registry.routes authorization.routeId).enabled = true ∧
      (registry.routes authorization.routeId).destinationChainId ≠ 0 ∧
      (registry.routes authorization.routeId).destinationExecutor =
        authorization.destinationExecutor ∧
      (registry.routes authorization.routeId).token = authorization.token ∧
      now ≤ (registry.latestObservation authorization.routeId).validUntil := by
  simp only [verifyDestinationRoute, bind_eq_ok, require_eq_ok, okOr_eq_ok, pure_eq_ok]
    at hverified
  obtain ⟨route, -, _, -, _, -, _, -, _, -, _, -, routeRaw, hroute, enabled, henabled, _, rfl,
    chainId, hchain, _, rfl, _, -, _, -, _, -, _, -, observationRaw, hobservation, available, -,
    validUntil, hvalid, _, hfresh, _, -, rfl⟩ := hverified
  have hdigits : route.routeId.drop 2 = hexText (wordBytes authorization.routeId) := by
    have hid := congrArg (List.drop 2) hauthorizes.routeId
    exact hid
  have hlowered : (route.routeId.drop 2).map Char.toLower =
      hexText (wordBytes authorization.routeId) := by
    rw [hdigits, toLower_hexText]
  have hrouteRaw : ethCall route.rpcUrl route.registry
      (GET_ROUTE_SELECTOR ++ route.routeId.drop 2) =
        .ok (hexWords (routeWords (registry.routes authorization.routeId))) :=
    hanswers.getRoute _ _ hlowered
  obtain rfl := Except.ok.inj (hroute.symm.trans hrouteRaw)
  have hobservationRaw : ethCall route.rpcUrl route.registry
      (LATEST_OBSERVATION_SELECTOR ++ route.routeId.drop 2) =
        .ok (hexWords (observationWords (registry.latestObservation authorization.routeId))) :=
    hanswers.latestObservation _ _ hlowered
  obtain rfl := Except.ok.inj (hobservation.symm.trans hobservationRaw)
  generalize hstored : registry.routes authorization.routeId = stored at *
  generalize hseen : registry.latestObservation authorization.routeId = seen at *
  have hflag : word unicode (hexWords (routeWords stored)) 0 =
      .ok ((boolWord stored.enabled).toNat : Int) := word_hexWords hascii rfl
  have hid : word unicode (hexWords (routeWords stored)) 6 =
      .ok (stored.destinationChainId.toNat : Int) := word_hexWords hascii rfl
  have huntil : word unicode (hexWords (observationWords seen)) 3 =
      .ok (seen.validUntil.toNat : Int) := word_hexWords hascii rfl
  have hexecutorText : wordAddress unicode (hexWords (routeWords stored)) 7 =
      addressText stored.destinationExecutor := wordAddress_hexWords hlower rfl
  have htokenText : wordAddress unicode (hexWords (routeWords stored)) 4 =
      addressText stored.token := wordAddress_hexWords hlower rfl
  refine ⟨?_, ?_, ?_, ?_, ?_⟩
  · have hone := Except.ok.inj (hflag.symm.trans henabled)
    cases hcase : stored.enabled with
    | true => rfl
    | false =>
        rw [hcase] at hone
        exact absurd hone (by decide)
  · intro hzero
    have hpositive := route.positive
    rw [← Except.ok.inj (hid.symm.trans hchain), hzero] at hpositive
    exact absurd hpositive (by decide)
  · have haccepted := Option.some.inj hauthorizes.executor
    rw [hexecutorText] at haccepted
    exact addressText_injective haccepted
  · have haccepted := Option.some.inj hauthorizes.token
    rw [htokenText] at haccepted
    exact addressText_injective haccepted
  · rw [← Except.ok.inj (huntil.symm.trans hvalid), hnow] at hfresh
    rw [BitVec.le_def]
    omega

end NodeCheck

section ClientCheck

variable {ethers : Ethers} {rpc : Rpc} {config : RouteClientConfig} {evidence : Evidence}
  {nowSeconds : Int} {input : PayoutInput} {signature : Text}
  {registry : LiquidityRegistry.State} {now : Uint256} {authorization : PayoutAuthorization}

/-- How ethers reads a word and an address without a checksum. -/
structure ReadsHex (ethers : Ethers) : Prop where
  getBytes : ∀ (word : Bytes32) (digits : Text), digits.map Char.toLower =
    hexText (wordBytes word) → ethers.getBytes ('0' :: 'x' :: digits) = some (wordBytes word)
  getAddress : ∀ address, ethers.getAddress (addressText address) = some address

theorem isLowerHexDigit_toLower {digit : Char} (hdigit : isHexDigit digit = true) :
    isLowerHexDigit digit.toLower = true := by
  have hrange : (48 ≤ digit.toNat ∧ digit.toNat ≤ 57) ∨ (97 ≤ digit.toNat ∧ digit.toNat ≤ 102) ∨
      (65 ≤ digit.toNat ∧ digit.toNat ≤ 70) := by
    simp only [isHexDigit, Bool.or_eq_true, Bool.and_eq_true, decide_eq_true_eq] at hdigit
    rcases hdigit with (⟨hlow, hhigh⟩ | ⟨hlow, hhigh⟩) | ⟨hlow, hhigh⟩
    · exact Or.inl ⟨hlow, hhigh⟩
    · exact Or.inr (Or.inl ⟨hlow, hhigh⟩)
    · exact Or.inr (Or.inr ⟨hlow, hhigh⟩)
  rw [← Char.ofNat_toNat digit]
  rcases hrange with ⟨hlow, hhigh⟩ | ⟨hlow, hhigh⟩ | ⟨hlow, hhigh⟩
  · interval_cases digit.toNat <;> decide
  · interval_cases digit.toNat <;> decide
  · interval_cases digit.toNat <;> decide

theorem all_isHexDigit_hexText (bytes : List Byte) : (hexText bytes).all isHexDigit = true := by
  rw [List.all_eq_true]
  intro digit hdigit
  exact isHexDigit_of_lowerHex (mem_hexText hdigit)

theorem isSpace_of_hexDigit {digit : Char} (hdigit : isLowerHexDigit digit = true) :
    isSpace digit = false := by
  rw [← Char.ofNat_toNat digit]
  rcases lowerHexDigit_range hdigit with ⟨hlow, hhigh, -⟩ | ⟨hlow, hhigh, -⟩
  · interval_cases digit.toNat <;> decide
  · interval_cases digit.toNat <;> decide

theorem hexBigInt_hexText {bytes : List Byte} (hnonempty : bytes ≠ []) :
    hexBigInt (hexText bytes) = .ok (beValue bytes) := by
  have htext : hexText bytes ≠ [] := by
    apply List.ne_nil_of_length_pos
    rw [length_hexText]
    have hpos := List.length_pos_iff.mpr hnonempty
    omega
  have htrimmed : (hexText bytes).rdropWhile isSpace = hexText bytes := by
    rw [List.rdropWhile_eq_self_iff]
    intro hne
    rw [isSpace_of_hexDigit (mem_hexText (List.getLast_mem hne))]
    exact Bool.false_ne_true
  rw [hexBigInt, htrimmed, bind_of_ok (require_of ⟨htext, all_isHexDigit_hexText bytes⟩ _),
    toLower_hexText, hexTextValue_hexText]
  rfl

theorem clientWord_hexWords {words : List Bytes32} {index : Nat} {value : Bytes32}
    (hvalue : words[index]? = some value) :
    clientWord (hexWords words) index = .ok value.toNat := by
  have hraw : rawDigits (hexWords words) = hexText (abiEncode words) := rfl
  have hlength : (hexText (wordBytes value)).length = 64 := by
    rw [length_hexText, length_wordBytes]
  have hnonempty : wordBytes value ≠ [] := by
    apply List.ne_nil_of_length_pos
    rw [length_wordBytes]
    decide
  rw [clientWord, hraw, digits_of_word hvalue, bind_of_ok (require_of hlength _),
    hexBigInt_hexText hnonempty, ← hexTextValue_hexText, hexTextValue_wordBytes]

theorem isHexOf_addressText (address : Address) : isHexOf 40 (addressText address) = true := by
  have hlength : (hexText (beBytes 20 address.toNat)).length = 40 := by
    rw [length_hexText, length_beBytes]
  simp [isHexOf, addressText, hlength, all_isHexDigit_hexText]

theorem clientWordAddress_hexWords {words : List Bytes32} {index : Nat} {value : Address}
    (hvalue : words[index]? = some (addressWord value)) :
    clientWordAddress (hexWords words) index = .ok (addressText value) := by
  rw [clientWordAddress, digits_of_addressWord hvalue]
  exact bind_of_ok (require_of (isHexOf_addressText value) _)

/-- Two texts of a word that differ in case only. -/
theorem exists_word_of_isHexOf {text : Text} (htext : isHexOf 64 text = true) :
    ∃ (word : Bytes32) (digits : Text), text = '0' :: 'x' :: digits ∧
      digits.map Char.toLower = hexText (wordBytes word) := by
  simp only [isHexOf, Bool.and_eq_true, decide_eq_true_eq] at htext
  obtain ⟨⟨hhead, hlength⟩, hdigits⟩ := htext
  obtain ⟨word, hword⟩ := @exists_wordDigits ((text.drop 2).map Char.toLower)
    (by rw [List.length_map, hlength]) (by
      intro digit hdigit
      obtain ⟨original, horiginal, rfl⟩ := List.mem_map.mp hdigit
      exact isLowerHexDigit_toLower (List.all_eq_true.mp hdigits original horiginal))
  refine ⟨word, text.drop 2, ?_, hword.symm⟩
  have hsplit := List.take_append_drop 2 text
  rw [hhead] at hsplit
  exact hsplit.symm

theorem readActive_of_ready (hevidence : readEvidence rpc config nowSeconds = .ok evidence)
    (hready : evidence.ready = true) : readActive rpc config nowSeconds = .ok evidence := by
  rw [readEvidence] at hevidence
  cases hactive : readActive rpc config nowSeconds with
  | ok found =>
      rw [hactive] at hevidence
      exact hevidence
  | error failure =>
      rw [hactive] at hevidence
      simp only [bind_eq_ok, pure_eq_ok] at hevidence
      obtain ⟨_, -, _, -, rfl⟩ := hevidence
      cases hready

theorem eq_true_of_boolWord {flag : Bool} (hflag : (boolWord flag).toNat = 1) : flag = true := by
  cases flag with
  | true => rfl
  | false => exact absurd hflag (by decide)

/-- What ready evidence says of the registry. -/
theorem route_of_ready {routeId : Bytes32} {digits : Text}
    (hconfig : config.routeId = '0' :: 'x' :: digits)
    (hdigits : digits.map Char.toLower = hexText (wordBytes routeId))
    (hanswers : Answers (rpc.call config.registry) registry)
    (hactive : readActive rpc config nowSeconds = .ok evidence) (hready : evidence.ready = true)
    (hnow : nowSeconds = now.toNat) :
    isSettlementRouteActive registry routeId = true ∧ (registry.routes routeId).enabled = true ∧
      now ≤ (registry.latestObservation routeId).validUntil ∧
      evidence.routeId = config.routeId ∧
      evidence.destinationExecutor = addressText (registry.routes routeId).destinationExecutor ∧
      evidence.settlementToken = addressText (registry.routes routeId).token := by
  simp only [readActive, readRoute, readLiquidity, bind_eq_ok, require_eq_ok, pure_eq_ok]
    at hactive
  obtain ⟨route, ⟨_, -, _, -, routeRaw, hroute, token, htoken, _, -, enabled, henabled, _, -, _, -,
    _, -, executor, hexecutor, _, -, rfl⟩, liquidity, ⟨observationRaw, hobservation, validUntil,
    hvalid, _, -, _, -, _, -, _, -, _, -, rfl⟩, activeRaw, hactiveRaw, active, hword, rfl⟩ :=
    hactive
  have hdrop : config.routeId.drop 2 = digits := by
    rw [hconfig]
    rfl
  rw [hdrop] at hroute hobservation hactiveRaw
  obtain rfl := Except.ok.inj (hroute.symm.trans (hanswers.getRoute _ _ hdigits))
  obtain rfl := Except.ok.inj (hobservation.symm.trans (hanswers.latestObservation _ _ hdigits))
  obtain rfl := Except.ok.inj (hactiveRaw.symm.trans (hanswers.active _ _ hdigits))
  simp only [Bool.decide_and, Bool.and_eq_true, decide_eq_true_eq] at hready
  obtain ⟨rfl, rfl, hfresh, -⟩ := hready
  have hflag : clientWord (hexWords [boolWord (isSettlementRouteActive registry routeId)]) 0 =
      .ok (boolWord (isSettlementRouteActive registry routeId)).toNat := clientWord_hexWords rfl
  have hopen : clientWord (hexWords (routeWords (registry.routes routeId))) 0 =
      .ok (boolWord (registry.routes routeId).enabled).toNat := clientWord_hexWords rfl
  have huntil : clientWord (hexWords (observationWords (registry.latestObservation routeId))) 3 =
      .ok (registry.latestObservation routeId).validUntil.toNat := clientWord_hexWords rfl
  have hregistered : clientWordAddress (hexWords (routeWords (registry.routes routeId))) 7 =
      .ok (addressText (registry.routes routeId).destinationExecutor) :=
    clientWordAddress_hexWords rfl
  have hasset : clientWordAddress (hexWords (routeWords (registry.routes routeId))) 4 =
      .ok (addressText (registry.routes routeId).token) := clientWordAddress_hexWords rfl
  refine ⟨?_, ?_, ?_, rfl, ?_, ?_⟩
  · exact eq_true_of_boolWord (Except.ok.inj (hflag.symm.trans hword))
  · exact eq_true_of_boolWord (Except.ok.inj (hopen.symm.trans henabled))
  · have hseconds := Except.ok.inj (huntil.symm.trans hvalid)
    rw [BitVec.le_def]
    omega
  · exact (Except.ok.inj (hregistered.symm.trans hexecutor)).symm
  · exact (Except.ok.inj (hasset.symm.trans htoken)).symm

theorem isHexOf_of_validated {result : Unit}
    (hvalidated : PayoutSigning.validateCreditcoinPayout input = .ok result) :
    isHexOf 64 input.routeId = true := by
  simp only [PayoutSigning.validateCreditcoinPayout, PayoutSigning.requireBytes32, bind_eq_ok,
    require_eq_ok] at hvalidated
  obtain ⟨_, -, _, -, _, -, _, -, _, -, _, -, _, -, _, -, _, -, _, -, _, -, _, -, _, -, _, -, _, -,
    _, -, _, -, _, hroute, -⟩ := hvalidated
  exact hroute

theorem route_of_submitted (hreads : ReadsHex ethers)
    (hevidence : readEvidence rpc config nowSeconds = .ok evidence)
    (hsubmit : submit ethers evidence nowSeconds input signature = .ok authorization)
    (hanswers : Answers (rpc.call config.registry) registry)
    (hnow : nowSeconds = now.toNat) :
    (registry.routes authorization.routeId).enabled = true ∧
      (registry.routes authorization.routeId).destinationChainId ≠ 0 ∧
      (registry.routes authorization.routeId).destinationExecutor =
        authorization.destinationExecutor ∧
      (registry.routes authorization.routeId).token = authorization.token ∧
      now ≤ (registry.latestObservation authorization.routeId).validUntil ∧
      (registry.routes authorization.routeId).outbox ≠ 0 := by
  simp only [submit, PayoutSigning.checkEvidence, PayoutSigning.encodeAuthorization,
    PayoutSigning.encodeAddress, PayoutSigning.encodeBytes32, bind_eq_ok, require_eq_ok,
    okOr_eq_ok, pure_eq_ok] at hsubmit
  obtain ⟨_, hvalidated, _, -, _, ⟨_, hready, _, hroutes, executor, hexecutor, registered,
    hregistered, _, rfl, token, htoken, asset, hasset, _, rfl, _, -, -⟩, _, -, _, -, _, -, _, -,
    _, -, _, ⟨bytes, hbytes, _, -, rfl⟩, executor', hexecutor', token', htoken', _, -, _, -, _, -,
    _, -, _, -, rfl⟩ := hsubmit
  obtain rfl := Option.some.inj (hexecutor.symm.trans hexecutor')
  obtain rfl := Option.some.inj (htoken.symm.trans htoken')
  obtain ⟨routeId, digits, hconfig, hdigits⟩ := exists_word_of_isHexOf config.routeId_hex
  obtain ⟨hactive, henabled, hvalid, hid, hexecutorText, htokenText⟩ := route_of_ready hconfig
    hdigits hanswers (readActive_of_ready hevidence hready) hready hnow
  obtain ⟨authorized, digits', hinput, hdigits'⟩ :=
    exists_word_of_isHexOf (isHexOf_of_validated hvalidated)
  have hsame : authorized = routeId := by
    rw [hid, hconfig, hinput, List.map_cons, List.map_cons, List.map_cons, List.map_cons,
      List.cons.injEq, List.cons.injEq, hdigits, hdigits'] at hroutes
    have hwords := congrArg bytesOfHex hroutes.2.2
    rw [bytesOfHex_hexText, bytesOfHex_hexText, Option.some.injEq] at hwords
    exact wordBytes_injective hwords
  subst hsame
  have hword : wordOfBytes bytes = authorized := by
    rw [hinput, hreads.getBytes authorized digits' hdigits', Option.some.injEq] at hbytes
    rw [← hbytes, wordOfBytes_wordBytes]
  rw [hexecutorText, hreads.getAddress, Option.some.injEq] at hregistered
  rw [htokenText, hreads.getAddress, Option.some.injEq] at hasset
  simp only [hword]
  simp only [isSettlementRouteActive, Bool.and_eq_true, decide_eq_true_eq] at hactive
  obtain ⟨⟨⟨-, hchain⟩, -⟩, houtbox⟩ := hactive
  exact ⟨henabled, hchain, hregistered, hasset, hvalid, houtbox⟩

end ClientCheck

/-- What either preflight has accepted is refused for its route or its liquidity exactly where
the route leads to another network than authorized (for the Node, also where it has no outbox)
or the reservations leave too little. -/
theorem executable_iff_of_preflight :
    (∀ (unicode : Unicode) (routes : Text → Option DestinationRoute)
      (ethCall : Text → Text → Text → Result Text) (network routeId : Text)
      (executor token : Option Text) (requestedAmount nowSeconds : Int)
      (accepted : DestinationRoute) (setting : Setting) (books : Books) (now : Uint256)
      (authorization : PayoutAuthorization) (signature : List Byte) (taken : Bool),
      AsciiDigits unicode → KeepsLowerHex unicode →
      verifyDestinationRoute unicode routes ethCall network routeId executor token
        requestedAmount nowSeconds = .ok accepted →
      Answers (ethCall accepted.rpcUrl accepted.registry) books.registry →
      Authorizes accepted requestedAmount authorization → nowSeconds = now.toNat →
      Signed setting books authorization signature →
      (¬ Refuses setting books now authorization signature taken ↔
        (Presentable setting books now authorization →
          (books.registry.routes authorization.routeId).destinationNetwork =
            authorization.destinationNetwork ∧
          (books.registry.routes authorization.routeId).outbox ≠ 0 ∧
          Covered setting books.registry authorization))) ∧
    (∀ (ethers : Ethers) (rpc : Rpc) (config : RouteClientConfig) (nowSeconds : Int)
      (evidence : Evidence) (input : PayoutInput) (signatureText : Text)
      (authorization : PayoutAuthorization) (setting : Setting) (books : Books) (now : Uint256)
      (signature : List Byte) (taken : Bool), ReadsHex ethers →
      readEvidence rpc config nowSeconds = .ok evidence →
      submit ethers evidence nowSeconds input signatureText = .ok authorization →
      Answers (rpc.call config.registry) books.registry → nowSeconds = now.toNat →
      Signed setting books authorization signature →
      (¬ Refuses setting books now authorization signature taken ↔
        (Presentable setting books now authorization →
          (books.registry.routes authorization.routeId).destinationNetwork =
            authorization.destinationNetwork ∧
          Covered setting books.registry authorization))) := by
  refine ⟨?_, ?_⟩
  · intro unicode routes ethCall network routeId executor token requestedAmount nowSeconds
      accepted setting books now authorization signature taken hascii hlower hverified hanswers
      hauthorizes hnow hsigned
    obtain ⟨henabled, hchain, hexecutor, htoken, hvalid⟩ :=
      route_of_verified hascii hlower hverified hanswers hauthorizes hnow
    exact not_refuses_iff hsigned henabled hchain hexecutor htoken hvalid
  · intro ethers rpc config nowSeconds evidence input signatureText authorization setting books
      now signature taken hreads hevidence hsubmit hanswers hnow hsigned
    obtain ⟨henabled, hchain, hexecutor, htoken, hvalid, houtbox⟩ :=
      route_of_submitted hreads hevidence hsubmit hanswers hnow
    rw [not_refuses_iff hsigned henabled hchain hexecutor htoken hvalid]
    constructor
    · intro hcondition hpresentable
      obtain ⟨hnetwork, -, hcovered⟩ := hcondition hpresentable
      exact ⟨hnetwork, hcovered⟩
    · intro hcondition hpresentable
      obtain ⟨hnetwork, hcovered⟩ := hcondition hpresentable
      exact ⟨hnetwork, houtbox, hcovered⟩

section Samples

open Crosschain.PayoutSigning (asciiUnicode sampleEthers samplePayload)
open Crosschain.Payouts (sampleAuthorization sampleSetting sampleSignature)
open Lib.FiniteStore

/-- Route 7 with 500 units observed, of which some are reserved for another settlement. -/
def sampleRegistry (reserved : Uint256) : LiquidityRegistry.State where
  owner := 0x0a
  liquidityASC := 0xa5c
  settlementHub := 0x4b
  routes := fun routeId =>
    if routeId = 7 then
      ⟨true, 1, 0xe7, 0xf7, 0x70, sampleAuthorization.destinationNetwork, 8453, 0xec, 0x0b⟩
    else LiquidityRegistry.noRoute
  latestObservation := fun routeId =>
    if routeId = 7 then ⟨500, 9000000, 900, 1500, 1, 0x99⟩ else LiquidityRegistry.noObservation
  reservedAmount := fun routeId => if routeId = 7 then reserved else 0
  reservations := fun routeId =>
    if routeId = 7 then (∅ : Store Bytes32 Uint256).insert 0x11 reserved else ∅

def sampleBooks (reserved : Uint256) : Books where
  hub := SettlementHub.deployed 0x0a 0x7e5f4552091a69125d5dfcb7b8c2659029395bdf
  registry := sampleRegistry reserved
  published := []

/-- The getters of the registry, called by selector and argument. -/
def sampleCall (registry : LiquidityRegistry.State) (data : Text) : Result Text :=
  match bytesOfHex ((data.drop 10).map Char.toLower) with
  | none => .error "invalid argument"
  | some bytes =>
    if data.take 10 = GET_ROUTE_SELECTOR then
      .ok (hexWords (routeWords (registry.routes (wordOfBytes bytes))))
    else if data.take 10 = LATEST_OBSERVATION_SELECTOR then
      .ok (hexWords (observationWords (registry.latestObservation (wordOfBytes bytes))))
    else .ok (hexWords [boolWord (isSettlementRouteActive registry (wordOfBytes bytes))])

theorem answers_sampleCall (registry : LiquidityRegistry.State) :
    Answers (sampleCall registry) registry := by
  have hargument : ∀ (selector digits : Text) (routeId : Bytes32), selector.length = 10 →
      digits.map Char.toLower = hexText (wordBytes routeId) →
      bytesOfHex (((selector ++ digits).drop 10).map Char.toLower) =
        some (wordBytes routeId) := by
    intro selector digits routeId hlength hdigits
    rw [List.drop_left' hlength, hdigits, bytesOfHex_hexText]
  constructor
  · intro routeId digits hdigits
    rw [sampleCall, hargument _ _ _ (by decide) hdigits]
    simp only [wordOfBytes_wordBytes]
    rfl
  · intro routeId digits hdigits
    rw [sampleCall, hargument _ _ _ (by decide) hdigits]
    simp only [wordOfBytes_wordBytes]
    rfl
  · intro routeId digits hdigits
    rw [sampleCall, hargument _ _ _ (by decide) hdigits]
    simp only [wordOfBytes_wordBytes]
    rfl

def sampleRoutes (network : Text) : Option DestinationRoute :=
  if network = "base".toList then
    some ⟨"base".toList, wordText 7, addressText 0x4e, some (addressText 0xec),
      some (addressText 0x70), 8453, "https://rpc".toList, by decide⟩
  else none

def sampleEthCall (registry : LiquidityRegistry.State) (_ _ data : Text) : Result Text :=
  sampleCall registry data

/-- The Node asks for 100 units of the 500 it sees. -/
def sampleVerify (registry : LiquidityRegistry.State) : Result DestinationRoute :=
  verifyDestinationRoute asciiUnicode sampleRoutes (sampleEthCall registry) "Base".toList
    (wordText 7) (some (addressText 0xec)) (some (addressText 0x70)) 100 1000

def sampleRpc (registry : LiquidityRegistry.State) : Rpc where
  chainId := .ok 102031
  call := fun target data =>
    if target = addressText 0x4e then sampleCall registry data
    else if data = ERC20_DECIMALS then .ok (hexWords [6])
    else .ok ['0', 'x']

def sampleConfig : RouteClientConfig where
  registry := addressText 0x4e
  routeId := wordText 7
  expectedChainId := 102031
  registry_hex := by decide +kernel
  routeId_hex := by decide +kernel

/-- The authorization as the Cranker takes it, with the network as a word. -/
def sampleInput : PayoutInput :=
  { PayoutSigning.decodeNumbers samplePayload with
    destinationNetwork := wordText sampleAuthorization.destinationNetwork }

example : sampleInput.destinationNetwork ≠ [] := by
  decide +kernel

theorem answers_sampleRpc (registry : LiquidityRegistry.State) :
    Answers ((sampleRpc registry).call sampleConfig.registry) registry := by
  have hcall : (sampleRpc registry).call sampleConfig.registry = sampleCall registry := by
    funext data
    simp only [sampleRpc, sampleConfig, if_true]
  rw [hcall]
  exact answers_sampleCall registry

theorem asciiDigits_sample : AsciiDigits asciiUnicode := by
  intro character _
  rfl

theorem keepsLowerHex_sample : KeepsLowerHex asciiUnicode := by
  intro text htext
  show String.ofList ((String.ofList text).toList.map Char.toLower) = String.ofList text
  rw [String.toList_ofList, map_toLower_of_lowerHex htext]

theorem readsHex_sample : ReadsHex sampleEthers := by
  constructor
  · intro word digits hdigits
    show bytesOfHex (digits.map Char.toLower) = some (wordBytes word)
    rw [hdigits, bytesOfHex_hexText]
  · intro address
    have hpow : (256 : Nat) ^ 20 = 2 ^ 160 := by norm_num
    show (if isHexOf 40 (addressText address) = true then
      some (BitVec.ofNat 160 (hexTextValue (hexText (beBytes 20 address.toNat)))) else none) =
        some address
    rw [if_pos (isHexOf_addressText address), hexTextValue_hexText,
      beValue_beBytes (hpow ▸ address.isLt), BitVec.ofNat_toNat, BitVec.setWidth_eq]

theorem signed_sample (reserved : Uint256) :
    Signed sampleSetting (sampleBooks reserved) sampleAuthorization sampleSignature := by
  refine ⟨?_, rfl, rfl⟩
  show sampleSetting.recover (hashTypedData sampleSetting sampleAuthorization) sampleSignature =
    some 0x7e5f4552091a69125d5dfcb7b8c2659029395bdf
  decide +kernel

/-- The texts are put in lower case by a lemma: evaluated, they are costly to take apart. -/
theorem lowered_asciiUnicode (text : Text) :
    lowered asciiUnicode text = text.map Char.toLower := by
  show (String.ofList ((String.ofList text).toList.map Char.toLower)).toList = _
  rw [String.toList_ofList, String.toList_ofList]

/-- What is reserved is not among the answers of the registry. -/
theorem sampleCall_sampleRegistry (reserved : Uint256) :
    sampleCall (sampleRegistry reserved) = sampleCall (sampleRegistry 0) :=
  rfl

theorem exists_accepted (reserved : Uint256) :
    ∃ accepted, sampleVerify (sampleRegistry reserved) = .ok accepted ∧
      Authorizes accepted 100 sampleAuthorization := by
  have hverify : (sampleVerify (sampleRegistry 0)).toOption.any (fun accepted =>
      accepted.routeId = wordText 7 ∧ accepted.executor = some (addressText 0xec) ∧
        accepted.token = some (addressText 0x70)) = true := by
    simp only [sampleVerify, verifyDestinationRoute, bytes32, requireSame, requireGiven, address,
      wordAddress, lowered_asciiUnicode]
    decide +kernel
  have hsame : sampleVerify (sampleRegistry reserved) = sampleVerify (sampleRegistry 0) := by
    unfold sampleVerify sampleEthCall
    rw [sampleCall_sampleRegistry]
  rw [hsame]
  cases hcase : sampleVerify (sampleRegistry 0) with
  | error _ =>
      rw [hcase] at hverify
      cases hverify
  | ok accepted =>
      rw [hcase] at hverify
      obtain ⟨hid, hexecutor, htoken⟩ := of_decide_eq_true hverify
      exact ⟨accepted, rfl, hid, hexecutor, htoken, rfl⟩

example : isSettlementRouteActive (sampleRegistry 450) 8 = false := by
  decide +kernel

theorem exists_evidence (reserved : Uint256) :
    ∃ evidence, readEvidence (sampleRpc (sampleRegistry reserved)) sampleConfig 1000 =
        .ok evidence ∧
      submit sampleEthers evidence 1000 sampleInput samplePayload.signature =
        .ok sampleAuthorization := by
  have hevidence : (readEvidence (sampleRpc (sampleRegistry 0)) sampleConfig 1000).toOption.any
      (fun evidence => submit sampleEthers evidence 1000 sampleInput samplePayload.signature =
        .ok sampleAuthorization) = true := by
    decide +kernel
  have hsame : sampleRpc (sampleRegistry reserved) = sampleRpc (sampleRegistry 0) := by
    unfold sampleRpc
    rw [sampleCall_sampleRegistry]
  rw [hsame]
  cases hcase : readEvidence (sampleRpc (sampleRegistry 0)) sampleConfig 1000 with
  | error _ =>
      rw [hcase] at hevidence
      cases hevidence
  | ok evidence =>
      rw [hcase] at hevidence
      simp only [Except.toOption, Option.any_some, decide_eq_true_eq] at hevidence
      exact ⟨evidence, rfl, hevidence⟩

example : isSettlementRouteActive (sampleRegistry 450) 7 = true := by
  decide +kernel

/-- Where nothing is reserved, what either preflight accepts goes through. -/
theorem executable_samples :
    (∃ accepted, sampleVerify (sampleRegistry 0) = .ok accepted ∧
      ¬ Refuses sampleSetting (sampleBooks 0) 1000 sampleAuthorization sampleSignature true) ∧
    ∃ evidence, readEvidence (sampleRpc (sampleRegistry 0)) sampleConfig 1000 = .ok evidence ∧
      submit sampleEthers evidence 1000 sampleInput samplePayload.signature =
        .ok sampleAuthorization ∧
      ¬ Refuses sampleSetting (sampleBooks 0) 1000 sampleAuthorization sampleSignature true := by
  have hcovered : Covered sampleSetting (sampleRegistry 0) sampleAuthorization := by
    intro _ _ _
    decide
  refine ⟨?_, ?_⟩
  · obtain ⟨accepted, hverified, hauthorizes⟩ := exists_accepted 0
    have hanswers : Answers (sampleEthCall (sampleRegistry 0) accepted.rpcUrl accepted.registry)
        (sampleBooks 0).registry := answers_sampleCall (sampleRegistry 0)
    refine ⟨accepted, hverified, (executable_iff_of_preflight.1 _ _ _ _ _ _ _ _ _ _ _ _ _ _ _ _
      asciiDigits_sample keepsLowerHex_sample hverified hanswers hauthorizes rfl
      (signed_sample 0)).mpr ?_⟩
    intro _
    exact ⟨rfl, by decide, hcovered⟩
  · obtain ⟨evidence, hevidence, hsubmit⟩ := exists_evidence 0
    have hanswers : Answers ((sampleRpc (sampleRegistry 0)).call sampleConfig.registry)
        (sampleBooks 0).registry := answers_sampleRpc (sampleRegistry 0)
    refine ⟨evidence, hevidence, hsubmit, (executable_iff_of_preflight.2 _ _ _ _ _ _ _ _ _ _ _ _ _
      readsHex_sample hevidence hsubmit hanswers rfl (signed_sample 0)).mpr ?_⟩
    intro _
    exact ⟨rfl, hcovered⟩

/-- With 450 of the 500 units reserved, both preflights accept 100 units that the hub then
refuses. -/
theorem refused_after_preflight :
    (∃ accepted, sampleVerify (sampleRegistry 450) = .ok accepted ∧
      Authorizes accepted 100 sampleAuthorization) ∧
    (∃ evidence, readEvidence (sampleRpc (sampleRegistry 450)) sampleConfig 1000 = .ok evidence ∧
      submit sampleEthers evidence 1000 sampleInput samplePayload.signature =
        .ok sampleAuthorization) ∧
    Signed sampleSetting (sampleBooks 450) sampleAuthorization sampleSignature ∧
    Refuses sampleSetting (sampleBooks 450) 1000 sampleAuthorization sampleSignature true := by
  refine ⟨exists_accepted 450, exists_evidence 450, signed_sample 450, ?_⟩
  have hpresentable : Presentable sampleSetting (sampleBooks 450) 1000 sampleAuthorization :=
    ⟨rfl, by decide, by decide +kernel⟩
  by_contra hnot
  rw [not_refuses_iff (signed_sample 450) rfl (by decide) rfl rfl (by decide)] at hnot
  obtain ⟨-, -, hcovered⟩ := hnot hpresentable
  have hfree : reservation (sampleRegistry 450) 7 0x5e77 = 0 := by
    decide +kernel
  exact absurd (hcovered rfl hfree (by decide)) (by decide)

example : reservation (sampleRegistry 0) 7 0x5e77 = 0 := by
  decide +kernel

end Samples

end TsnProtocol.Crosschain.RoutePreflight
