import TsnProtocol.Lib.Evm
import TsnProtocol.Lib.TextFormat
import TsnProtocol.Lib.Transition

/-!
`DestinationRegistry`: routes are proposed with a signature of the attestor, voted for during a
period, and activated by anyone once the quorum is reached and a delay has passed. The
guardian can deactivate a route.
-/

namespace TsnProtocol.Crosschain.DestinationRegistry

open Lib.ByteReader
open Lib.Checked
open Lib.Evm
open Lib.TextFormat

/-- `Route`; its times are of 64 bits and its count of 32. -/
structure Route where
  destinationChainId : Uint256
  destinationNetwork : Bytes32
  (executor stablecoin : Address)
  solanaEvidenceHash : Bytes32
  attestor : Address
  (proposedAt votingEndsAt activationAt voteCount : Nat)
  active : Bool
  deriving DecidableEq

inductive Problem
  | invalidConfiguration
  | invalidRoute
  | invalidSignature
  | routeExists
  | routeMissing
  | votingClosed
  | alreadyVoted
  | quorumNotReached
  | activationTooEarly
  | alreadyActive
  | unauthorizedGuardian
  | ecdsaInvalidSignature
  | panic
  deriving DecidableEq

/-- The chain the registry is deployed on: its hash and signature recovery, its id, and the
address of the registry. -/
structure Setting where
  keccak256 : List Byte → Bytes32
  recover : Bytes32 → List Byte → Option Address
  chainId : Uint256
  registry : Address

/-- The immutable values of a registry, as its constructor admits them. -/
structure Config where
  (routeAttestor emergencyGuardian : Address)
  quorum : BitVec 32
  (votingPeriod activationDelay : BitVec 64)
  valid : ¬ (routeAttestor = 0 ∨ emergencyGuardian = 0 ∨ quorum = 0 ∨ votingPeriod = 0)

structure State where
  routes : Bytes32 → Route
  hasVoted : Bytes32 → Address → Bool

def noRoute : Route :=
  ⟨0, 0, 0, 0, 0, 0, 0, 0, 0, 0, false⟩

def construct (routeAttestor emergencyGuardian : Address) (quorum : BitVec 32)
    (votingPeriod activationDelay : BitVec 64) : Except Problem Config :=
  if hinvalid : routeAttestor = 0 ∨ emergencyGuardian = 0 ∨ quorum = 0 ∨ votingPeriod = 0 then
    .error .invalidConfiguration
  else
    .ok ⟨routeAttestor, emergencyGuardian, quorum, votingPeriod, activationDelay, hinvalid⟩

/-- The registry after its constructor. -/
def deployed : State where
  routes := fun _ => noRoute
  hasVoted := fun _ _ => false

/-- The block a call is in. Chains count its time in seconds and in 64 bits, from the genesis
on, which holds no calls. -/
structure Block where
  timestamp : Nat
  pos : 0 < timestamp
  fits : timestamp < 2 ^ 64

structure RouteProposal where
  routeId : Bytes32
  destinationChainId : Uint256
  destinationNetwork : Bytes32
  (executor stablecoin : Address)
  solanaEvidenceHash : Bytes32
  deadline : Uint256
  deriving DecidableEq

section Digests

variable (setting : Setting)

def hashText (text : Text) : Bytes32 :=
  setting.keccak256 (encodeAscii text)

def DOMAIN_TYPEHASH : Bytes32 :=
  hashText setting ("EIP712Domain(string name,string version,".toList ++
    "uint256 chainId,address verifyingContract)".toList)

def ROUTE_TYPEHASH : Bytes32 :=
  hashText setting ("RouteProposal(bytes32 routeId,uint256 destinationChainId,".toList ++
    "bytes32 destinationNetwork,address executor,address stablecoin,".toList ++
    "bytes32 solanaEvidenceHash,uint256 deadline)".toList)

def NAME_HASH : Bytes32 :=
  hashText setting "TSN Destination Registry".toList

def VERSION_HASH : Bytes32 :=
  hashText setting "1".toList

def domainSeparator : Bytes32 :=
  setting.keccak256 (abiEncode [DOMAIN_TYPEHASH setting, NAME_HASH setting,
    VERSION_HASH setting, setting.chainId, addressWord setting.registry])

def routeDigest (proposal : RouteProposal) : Bytes32 :=
  setting.keccak256 ([0x19, 0x01] ++ wordBytes (domainSeparator setting) ++
    wordBytes (setting.keccak256 (abiEncode [ROUTE_TYPEHASH setting, proposal.routeId,
      proposal.destinationChainId, proposal.destinationNetwork, addressWord proposal.executor,
      addressWord proposal.stablecoin, proposal.solanaEvidenceHash, proposal.deadline])))

end Digests

variable (setting : Setting) (config : Config)

def proposeRoute (state : State) (block : Block) (proposal : RouteProposal)
    (attestorSignature : List Byte) : Except Problem State := do
  require (¬ (proposal.routeId = 0 ∨ proposal.destinationChainId = 0 ∨
    proposal.destinationNetwork = 0 ∨ proposal.executor = 0 ∨ proposal.stablecoin = 0 ∨
    proposal.solanaEvidenceHash = 0 ∨ proposal.deadline.toNat < block.timestamp)) .invalidRoute
  require (¬ (state.routes proposal.routeId).proposedAt ≠ 0) .routeExists
  let signer ← okOr (setting.recover (routeDigest setting proposal) attestorSignature)
    .ecdsaInvalidSignature
  require (signer = config.routeAttestor) .invalidSignature
  let nowTime := block.timestamp % 2 ^ 64
  let endsAt ← okOr (checkedAdd 64 nowTime config.votingPeriod.toNat) .panic
  let activatesAt ← okOr (checkedAdd 64 endsAt config.activationDelay.toNat) .panic
  return { state with
    routes := Function.update state.routes proposal.routeId
      ⟨proposal.destinationChainId, proposal.destinationNetwork, proposal.executor,
        proposal.stablecoin, proposal.solanaEvidenceHash, config.routeAttestor, nowTime, endsAt,
        activatesAt, 0, false⟩ }

def voteForRoute (state : State) (sender : Address) (block : Block) (routeId : Bytes32) :
    Except Problem State := do
  let route := state.routes routeId
  require (¬ route.proposedAt = 0) .routeMissing
  require (¬ route.votingEndsAt < block.timestamp) .votingClosed
  require (¬ state.hasVoted routeId sender = true) .alreadyVoted
  let voteCount ← okOr (checkedAdd 32 route.voteCount 1) .panic
  return {
    routes := Function.update state.routes routeId { route with voteCount := voteCount }
    hasVoted := Function.update state.hasVoted routeId
      (Function.update (state.hasVoted routeId) sender true) }

def activateRoute (state : State) (block : Block) (routeId : Bytes32) :
    Except Problem State := do
  let route := state.routes routeId
  require (¬ route.proposedAt = 0) .routeMissing
  require (¬ route.active = true) .alreadyActive
  require (¬ route.voteCount < config.quorum.toNat) .quorumNotReached
  require (¬ block.timestamp < route.activationAt) .activationTooEarly
  return { state with
    routes := Function.update state.routes routeId { route with active := true } }

def deactivateRoute (state : State) (sender : Address) (routeId : Bytes32) :
    Except Problem State := do
  require (¬ sender ≠ config.emergencyGuardian) .unauthorizedGuardian
  let route := state.routes routeId
  require (¬ route.proposedAt = 0) .routeMissing
  return { state with
    routes := Function.update state.routes routeId { route with active := false } }

inductive Action
  | proposeRoute (proposal : RouteProposal) (attestorSignature : List Byte)
  | voteForRoute (routeId : Bytes32)
  | activateRoute (routeId : Bytes32)
  | deactivateRoute (routeId : Bytes32)
  deriving DecidableEq

structure Call where
  sender : Address
  block : Block
  action : Action

def step (state : State) (call : Call) : Except Problem State :=
  match call.action with
  | .proposeRoute proposal attestorSignature =>
      proposeRoute setting config state call.block proposal attestorSignature
  | .voteForRoute routeId => voteForRoute state call.sender call.block routeId
  | .activateRoute routeId => activateRoute config state call.block routeId
  | .deactivateRoute routeId => deactivateRoute config state call.sender routeId

section Effects

variable {setting config} {state next : State} {call : Call} {sender : Address} {block : Block}
  {routeId : Bytes32} {proposal : RouteProposal} {attestorSignature : List Byte}

/-- The route that a proposal sets up. -/
def proposedRoute (config : Config) (block : Block) (proposal : RouteProposal) : Route where
  destinationChainId := proposal.destinationChainId
  destinationNetwork := proposal.destinationNetwork
  executor := proposal.executor
  stablecoin := proposal.stablecoin
  solanaEvidenceHash := proposal.solanaEvidenceHash
  attestor := config.routeAttestor
  proposedAt := block.timestamp
  votingEndsAt := block.timestamp + config.votingPeriod.toNat
  activationAt := block.timestamp + config.votingPeriod.toNat + config.activationDelay.toNat
  voteCount := 0
  active := false

theorem proposeRoute_eq_ok :
    proposeRoute setting config state block proposal attestorSignature = .ok next ↔
      ¬ (proposal.routeId = 0 ∨ proposal.destinationChainId = 0 ∨
        proposal.destinationNetwork = 0 ∨ proposal.executor = 0 ∨ proposal.stablecoin = 0 ∨
        proposal.solanaEvidenceHash = 0 ∨ proposal.deadline.toNat < block.timestamp) ∧
      (state.routes proposal.routeId).proposedAt = 0 ∧
      setting.recover (routeDigest setting proposal) attestorSignature =
        some config.routeAttestor ∧
      block.timestamp + config.votingPeriod.toNat + config.activationDelay.toNat < 2 ^ 64 ∧
      { state with
        routes := Function.update state.routes proposal.routeId
          (proposedRoute config block proposal) } = next := by
  simp only [proposeRoute, bind_eq_ok, require_eq_ok, okOr_eq_ok, checkedAdd_eq_some,
    pure_eq_ok, not_not, ne_eq, Nat.mod_eq_of_lt block.fits]
  constructor
  · rintro ⟨_, hvalid, _, hfresh, _, hsigner, _, rfl, _, ⟨-, rfl⟩, _, ⟨hfits, rfl⟩, rfl⟩
    exact ⟨hvalid, hfresh, hsigner, hfits, rfl⟩
  · rintro ⟨hvalid, hfresh, hsigner, hfits, rfl⟩
    exact ⟨(), hvalid, (), hfresh, _, hsigner, (), rfl, _, ⟨by omega, rfl⟩, _, ⟨hfits, rfl⟩, rfl⟩

theorem voteForRoute_eq_ok :
    voteForRoute state sender block routeId = .ok next ↔
      (state.routes routeId).proposedAt ≠ 0 ∧
      block.timestamp ≤ (state.routes routeId).votingEndsAt ∧
      state.hasVoted routeId sender = false ∧ (state.routes routeId).voteCount + 1 < 2 ^ 32 ∧
      { routes := Function.update state.routes routeId
          { state.routes routeId with voteCount := (state.routes routeId).voteCount + 1 }
        hasVoted := Function.update state.hasVoted routeId
          (Function.update (state.hasVoted routeId) sender true) } = next := by
  simp only [voteForRoute, bind_eq_ok, require_eq_ok, okOr_eq_ok, checkedAdd_eq_some,
    pure_eq_ok, Bool.not_eq_true, not_lt, ne_eq]
  constructor
  · rintro ⟨_, hproposed, _, hopen, _, hfresh, _, ⟨hfits, rfl⟩, rfl⟩
    exact ⟨hproposed, hopen, hfresh, hfits, rfl⟩
  · rintro ⟨hproposed, hopen, hfresh, hfits, rfl⟩
    exact ⟨(), hproposed, (), hopen, (), hfresh, _, ⟨hfits, rfl⟩, rfl⟩

theorem activateRoute_eq_ok :
    activateRoute config state block routeId = .ok next ↔
      (state.routes routeId).proposedAt ≠ 0 ∧ (state.routes routeId).active = false ∧
      config.quorum.toNat ≤ (state.routes routeId).voteCount ∧
      (state.routes routeId).activationAt ≤ block.timestamp ∧
      { state with
        routes := Function.update state.routes routeId
          { state.routes routeId with active := true } } = next := by
  simp only [activateRoute, bind_eq_ok, require_eq_ok, pure_eq_ok, Bool.not_eq_true, not_lt,
    ne_eq]
  constructor
  · rintro ⟨_, hproposed, _, hinactive, _, hquorum, _, hdue, rfl⟩
    exact ⟨hproposed, hinactive, hquorum, hdue, rfl⟩
  · rintro ⟨hproposed, hinactive, hquorum, hdue, rfl⟩
    exact ⟨(), hproposed, (), hinactive, (), hquorum, (), hdue, rfl⟩

theorem deactivateRoute_eq_ok :
    deactivateRoute config state sender routeId = .ok next ↔
      sender = config.emergencyGuardian ∧ (state.routes routeId).proposedAt ≠ 0 ∧
      { state with
        routes := Function.update state.routes routeId
          { state.routes routeId with active := false } } = next := by
  simp only [deactivateRoute, bind_eq_ok, require_eq_ok, pure_eq_ok, not_not, ne_eq]
  constructor
  · rintro ⟨_, hguardian, _, hproposed, rfl⟩
    exact ⟨hguardian, hproposed, rfl⟩
  · rintro ⟨hguardian, hproposed, rfl⟩
    exact ⟨(), hguardian, (), hproposed, rfl⟩

end Effects

end TsnProtocol.Crosschain.DestinationRegistry
