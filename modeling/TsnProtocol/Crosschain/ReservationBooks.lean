import TsnProtocol.Crosschain.LiquidityRegistry

/-!
Runs of the liquidity registry: reservations add up, observation nonces rise, and a
reservation is backed by an observation of the route as long as the route has kept the
emitter, vault and token it was observed with.
-/

namespace TsnProtocol.Crosschain.ReservationBooks

open Crosschain.LiquidityRegistry
open Lib.Checked
open Lib.Evm
open Lib.FiniteStore
open Lib.Transition

/-- What a transaction records about a route. -/
def recorded (routeId : Bytes32) (transaction : Transaction) : Option LiquidityObservation :=
  match transaction.call with
  | .recordVerifiedLiquidity observed queryId availableAmount sourceBlock validUntil nonce =>
      if observed = routeId then
        some ⟨availableAmount, sourceBlock, transaction.now, validUntil, nonce, queryId⟩
      else none
  | _ => none

/-- The observations of a route in a run, latest first. -/
def observations (routeId : Bytes32) (history : List (State × Transaction)) :
    List LiquidityObservation :=
  history.filterMap fun entry => recorded routeId entry.2

/-- What an observation is about: the emitter that proves it, the vault and the token. -/
def binding (route : Route) : Address × Address × Address :=
  (route.sourceEmitter, route.payoutVault, route.token)

/-- The latest observation of a route, with the route as it was then. -/
def latestRecord (routeId : Bytes32) :
    List (State × Transaction) → Option (Route × LiquidityObservation)
  | [] => none
  | (state, transaction) :: history =>
    match recorded routeId transaction with
    | some observation => some (state.routes routeId, observation)
    | none => latestRecord routeId history

/-- No call since the latest observation of the route has left it with another emitter, vault
or token. -/
def Unmoved (routeId : Bytes32) (history : List (State × Transaction)) (state : State) : Prop :=
  ∀ record ∈ latestRecord routeId history, binding record.1 = binding (state.routes routeId)

instance (routeId : Bytes32) (history : List (State × Transaction)) (state : State) :
    Decidable (Unmoved routeId history state) :=
  inferInstanceAs (Decidable (∀ record ∈ latestRecord routeId history, _))

/-- Some unexpired observation of the route as it is bound now covers what is reserved. -/
def Backed (routeId : Bytes32) (now : Uint256) (history : List (State × Transaction))
    (before after : State) : Prop :=
  ∃ entry ∈ history, ∃ observation ∈ recorded routeId entry.2,
    now ≤ observation.validUntil ∧
    (after.reservedAmount routeId).toNat ≤ observation.availableAmount.toNat ∧
    binding (entry.1.routes routeId) = binding (before.routes routeId)

instance (routeId : Bytes32) (now : Uint256) (history : List (State × Transaction))
    (before after : State) : Decidable (Backed routeId now history before after) :=
  inferInstanceAs (Decidable (∃ entry ∈ history, _))

theorem observations_cons_of_none {routeId : Bytes32} {state : State}
    {transaction : Transaction} {history : List (State × Transaction)}
    (hnone : recorded routeId transaction = none) :
    observations routeId ((state, transaction) :: history) = observations routeId history := by
  simp [observations, hnone]

theorem observations_cons_of_some {routeId : Bytes32} {state : State}
    {transaction : Transaction} {observation : LiquidityObservation}
    {history : List (State × Transaction)}
    (hsome : recorded routeId transaction = some observation) :
    observations routeId ((state, transaction) :: history) =
      observation :: observations routeId history := by
  simp [observations, hsome]

theorem mem_of_latestRecord {routeId : Bytes32} {history : List (State × Transaction)}
    {route : Route} {observation : LiquidityObservation}
    (hlatest : latestRecord routeId history = some (route, observation)) :
    ∃ entry ∈ history, observation ∈ recorded routeId entry.2 ∧
      entry.1.routes routeId = route := by
  induction history with
  | nil => cases hlatest
  | cons entry history ih =>
      obtain ⟨state, transaction⟩ := entry
      simp only [latestRecord] at hlatest
      split at hlatest
      · rename_i found hfound
        cases hlatest
        exact ⟨_, List.mem_cons_self, hfound, rfl⟩
      · obtain ⟨entry, hentry, hfound, hroute⟩ := ih hlatest
        exact ⟨entry, List.mem_cons_of_mem _ hentry, hfound, hroute⟩

section Steps

variable {state next : State} {transaction : Transaction}

/-- What a transaction can do to the observations and the books of the registry. -/
inductive Effect (state : State) (transaction : Transaction) (next : State) : Prop
  | quiet (hquiet : ∀ routeId, recorded routeId transaction = none)
      (hobservation : next.latestObservation = state.latestObservation)
      (hreserved : next.reservedAmount = state.reservedAmount)
      (hreservations : next.reservations = state.reservations)
  | observed (routeId : Bytes32) (observation : LiquidityObservation)
      (hrecorded : ∀ other, recorded other transaction =
        if routeId = other then some observation else none)
      (hnonce : (state.latestObservation routeId).nonce < observation.nonce)
      (hobservation : next.latestObservation =
        Function.update state.latestObservation routeId observation)
      (hreserved : next.reservedAmount = state.reservedAmount)
      (hreservations : next.reservations = state.reservations)
  | booked (routeId settlementId : Bytes32) (amount reserved : Uint256)
      (hquiet : ∀ routeId, recorded routeId transaction = none)
      (hobservation : next.latestObservation = state.latestObservation)
      (hsum : reserved.toNat + (reservation state routeId settlementId).toNat =
        (state.reservedAmount routeId).toNat + amount.toNat)
      (hreserved : next.reservedAmount =
        Function.update state.reservedAmount routeId reserved)
      (hreservations : next.reservations = Function.update state.reservations routeId
        ((state.reservations routeId).insert settlementId amount))

theorem effect_of_step (hstep : step state transaction = .ok next) :
    Effect state transaction next := by
  obtain ⟨sender, now, call⟩ := transaction
  rcases call with _ | _ | _ | _ | _ |
    ⟨routeId, queryId, availableAmount, sourceBlock, validUntil, nonce⟩ |
    ⟨routeId, settlementId, amount⟩ | ⟨routeId, settlementId, amount⟩
  case recordVerifiedLiquidity =>
    obtain ⟨hnonce, -, rfl⟩ := recordVerifiedLiquidity_eq_ok hstep
    exact .observed routeId _ (fun _ => rfl) hnonce rfl rfl rfl
  case reserveLiquidity =>
    obtain ⟨-, -, -, hfree, -, reserved, hreserved, rfl⟩ := reserveLiquidity_eq_ok.mp hstep
    refine .booked routeId settlementId amount reserved (fun _ => rfl) rfl ?_ rfl rfl
    rw [hfree, hreserved]
    rfl
  case releaseLiquidity =>
    obtain ⟨-, -, hheld, reserved, hreserved, rfl⟩ := releaseLiquidity_eq_ok hstep
    refine .booked routeId settlementId 0 reserved (fun _ => rfl) rfl ?_ rfl rfl
    rw [hheld, hreserved]
    rfl
  all_goals
    simp only [step, configureRoute, configureSettlementRoute, setLiquidityASC,
      setSettlementHub, transferOwnership, bind_eq_ok, pure_eq_ok] at hstep
    obtain ⟨-, -, -, -, rfl⟩ := hstep
    exact .quiet (fun _ => rfl) rfl rfl rfl

end Steps

section Runs

variable {deployer liquidityASC : Address} {history : List (State × Transaction)}
  {state : State}

/-- What the registry has reserved on a route is the sum of the open reservations. -/
theorem total_reservations (hrun : Run step (deployed deployer liquidityASC) history state)
    (routeId : Bytes32) :
    total BitVec.toNat (state.reservations routeId) = (state.reservedAmount routeId).toNat := by
  refine hrun.induct_on (fun _ state => total BitVec.toNat (state.reservations routeId) =
    (state.reservedAmount routeId).toNat) rfl ?_
  intro history state transaction next _ hbooks hstep
  rcases effect_of_step hstep with ⟨-, -, hreserved, hreservations⟩ |
    ⟨_, _, -, -, -, hreserved, hreservations⟩ |
    ⟨booked, settlementId, amount, reserved, -, -, hsum, hreserved, hreservations⟩
  · rw [hreserved, hreservations, hbooks]
  · rw [hreserved, hreservations, hbooks]
  · rw [hreserved, hreservations]
    by_cases hroute : routeId = booked
    · subst routeId
      have hweigh : weigh BitVec.toNat ((state.reservations booked).lookup settlementId) =
          (reservation state booked settlementId).toNat := by
        unfold reservation
        cases (state.reservations booked).lookup settlementId with
        | none => rfl
        | some held => rfl
      have htotal := total_insert BitVec.toNat (state.reservations booked) settlementId amount
      rw [Function.update_self, Function.update_self]
      omega
    · rw [Function.update_of_ne hroute, Function.update_of_ne hroute, hbooks]

/-- The registry holds the latest observation the run has recorded. -/
theorem latestObservation_eq (hrun : Run step (deployed deployer liquidityASC) history state)
    (routeId : Bytes32) :
    state.latestObservation routeId =
      ((latestRecord routeId history).map Prod.snd).getD noObservation := by
  refine hrun.induct_on (fun history state => state.latestObservation routeId =
    ((latestRecord routeId history).map Prod.snd).getD noObservation) rfl ?_
  intro history state transaction next _ hlatest hstep
  rcases effect_of_step hstep with ⟨hquiet, hobservation, -, -⟩ |
    ⟨observed, observation, hrecorded, -, hobservation, -, -⟩ |
    ⟨_, _, _, _, hquiet, hobservation, -, -, -⟩
  · rw [hobservation, hlatest, latestRecord, hquiet]
  · rw [hobservation, latestRecord, hrecorded]
    by_cases hroute : observed = routeId
    · subst routeId
      rw [if_pos rfl, Function.update_self]
      rfl
    · rw [if_neg hroute, Function.update_of_ne (Ne.symm hroute), hlatest]
  · rw [hobservation, hlatest, latestRecord, hquiet]

/-- Every observation of a route has a higher nonce than those before it. -/
theorem nonces_increase (hrun : Run step (deployed deployer liquidityASC) history state)
    (routeId : Bytes32) :
    (observations routeId history).Pairwise (fun later earlier => earlier.nonce < later.nonce) ∧
      ∀ observation ∈ observations routeId history,
        observation.nonce ≤ (state.latestObservation routeId).nonce := by
  refine hrun.induct_on (fun history state =>
    (observations routeId history).Pairwise (fun later earlier => earlier.nonce < later.nonce) ∧
      ∀ observation ∈ observations routeId history,
        observation.nonce ≤ (state.latestObservation routeId).nonce)
    ⟨List.Pairwise.nil, fun _ hmem => absurd hmem List.not_mem_nil⟩ ?_
  rintro history state transaction next _ ⟨hrising, hbelow⟩ hstep
  rcases effect_of_step hstep with ⟨hquiet, hobservation, -, -⟩ |
    ⟨observed, observation, hrecorded, hnonce, hobservation, -, -⟩ |
    ⟨_, _, _, _, hquiet, hobservation, -, -, -⟩
  · rw [observations_cons_of_none (hquiet routeId), hobservation]
    exact ⟨hrising, hbelow⟩
  · by_cases hroute : observed = routeId
    · subst routeId
      have hfound : recorded observed transaction = some observation := by
        rw [hrecorded, if_pos rfl]
      rw [observations_cons_of_some hfound, hobservation, Function.update_self]
      constructor
      · refine List.pairwise_cons.mpr ⟨?_, hrising⟩
        intro earlier hearlier
        exact Nat.lt_of_le_of_lt (hbelow earlier hearlier) hnonce
      · intro other hother
        rcases List.mem_cons.mp hother with rfl | hearlier
        · exact BitVec.le_refl _
        · exact Nat.le_of_lt (Nat.lt_of_le_of_lt (hbelow other hearlier) hnonce)
    · have hnone : recorded routeId transaction = none := by
        rw [hrecorded, if_neg hroute]
      rw [observations_cons_of_none hnone, hobservation,
        Function.update_of_ne (Ne.symm hroute)]
      exact ⟨hrising, hbelow⟩
  · rw [observations_cons_of_none (hquiet routeId), hobservation]
    exact ⟨hrising, hbelow⟩

/-- A reservation made while the route is bound as it was observed is backed. -/
theorem backed_of_unmoved {next : State} {sender : Address} {now amount : Uint256}
    {routeId settlementId : Bytes32}
    (hrun : Run step (deployed deployer liquidityASC) history state)
    (hstep : step state ⟨sender, now, .reserveLiquidity routeId settlementId amount⟩ = .ok next)
    (hunmoved : Unmoved routeId history state) :
    Backed routeId now history state next := by
  obtain ⟨-, -, hamount, -, havailable, reserved, hreserved, rfl⟩ :=
    reserveLiquidity_eq_ok.mp hstep
  obtain ⟨-, hvalid, hcovers⟩ := isLiquidityAvailable_eq_true.mp havailable
  have hlatest := latestObservation_eq hrun routeId
  rcases hrecord : latestRecord routeId history with _ | ⟨route, observation⟩
  · rw [hlatest, hrecord] at hcovers
    have hzero : amount.toNat = 0 := by
      have hnone : (0#256).toNat = 0 := rfl
      change (state.reservedAmount routeId).toNat + amount.toNat ≤ (0#256).toNat at hcovers
      omega
    exact absurd (BitVec.eq_of_toNat_eq hzero) hamount
  · obtain ⟨entry, hentry, hrecorded, hroute⟩ := mem_of_latestRecord hrecord
    rw [hlatest, hrecord] at hvalid hcovers
    refine ⟨entry, hentry, observation, hrecorded, hvalid, ?_, ?_⟩
    · simp only [Function.update_self, hreserved]
      exact hcovers
    · rw [hroute]
      exact hunmoved (route, observation) hrecord

/-- In every run reservations add up and nonces rise, and every reservation on a route that
no call has moved since its latest observation is backed by an observation of the route. -/
theorem reservations_backed_of_unmoved
    (hrun : Run step (deployed deployer liquidityASC) history state) :
    (∀ routeId, total BitVec.toNat (state.reservations routeId) =
      (state.reservedAmount routeId).toNat) ∧
    (∀ routeId, (observations routeId history).Pairwise
      fun later earlier => earlier.nonce < later.nonce) ∧
    ∀ sender now routeId settlementId amount next,
      step state ⟨sender, now, .reserveLiquidity routeId settlementId amount⟩ = .ok next →
      Unmoved routeId history state → Backed routeId now history state next :=
  ⟨total_reservations hrun, fun routeId => (nonces_increase hrun routeId).1,
    fun _ _ _ _ _ _ hstep hunmoved => backed_of_unmoved hrun hstep hunmoved⟩

end Runs

section Samples

def observedRun : List Transaction :=
  [⟨0xa5c, 1010, .recordVerifiedLiquidity 7 0x51 100 42 2000 1⟩,
    ⟨0x0e, 1005, .configureSettlementRoute 7 16015286601757825753 0xe1 0xa1 0x70 9 11155111
      0xec 0x0b true⟩,
    ⟨0x0e, 1000, .setSettlementHub 0x4b⟩]

/-- The route is pointed at another vault while the observation of the first one is live. -/
def movedRun : List Transaction :=
  ⟨0x0e, 1020, .configureSettlementRoute 7 16015286601757825753 0xe2 0xb2 0x70 9 11155111
    0xec 0x0b true⟩ :: observedRun

def reservesHundred : Transaction :=
  ⟨0x4b, 1030, .reserveLiquidity 7 0x5e77 100⟩

/-- The next reservation succeeds, and whether its route is unmoved, and whether it is backed,
is as said. -/
def reservesAs (unmoved backed : Bool) (history : List (State × Transaction)) (state : State) :
    Bool :=
  match step state reservesHundred with
  | .ok next =>
      decide (Unmoved 7 history state) == unmoved &&
        decide (Backed 7 1030 history state next) == backed
  | .error _ => false

theorem exists_run_of_reservesAs {inputs : List Transaction} {unmoved backed : Bool}
    (hreaches : reaches step (deployed 0x0e 0xa5c) inputs (reservesAs unmoved backed) = true) :
    ∃ history state next, Run step (deployed 0x0e 0xa5c) history state ∧
      step state reservesHundred = .ok next ∧
      decide (Unmoved 7 history state) = unmoved ∧
      decide (Backed 7 1030 history state next) = backed := by
  obtain ⟨history, state, hrun, hproperty⟩ := exists_run_of_reaches hreaches
  unfold reservesAs at hproperty
  split at hproperty
  · rename_i next hnext
    rw [Bool.and_eq_true, beq_iff_eq, beq_iff_eq] at hproperty
    exact ⟨history, state, next, hrun, hnext, hproperty.1, hproperty.2⟩
  · cases hproperty

/-- A reservation on an observed route, backed by its observation. -/
theorem reservation_backed_while_unmoved :
    ∃ history state next, Run step (deployed 0x0e 0xa5c) history state ∧
      step state reservesHundred = .ok next ∧ Backed 7 1030 history state next := by
  have hreaches : reaches step (deployed 0x0e 0xa5c) observedRun (reservesAs true true) = true := by
    decide +kernel
  obtain ⟨history, state, next, hrun, hnext, hunmoved, -⟩ := exists_run_of_reservesAs hreaches
  exact ⟨history, state, next, hrun, hnext, (reservations_backed_of_unmoved hrun).2.2 _ _ _ _ _
    _ hnext (of_decide_eq_true hunmoved)⟩

example : movedRun.length = observedRun.length + 1 := by
  decide +kernel

/-- A reservation succeeds that no observation of the route's vault backs. -/
theorem reservation_unbacked_after_move :
    ∃ history state next, Run step (deployed 0x0e 0xa5c) history state ∧
      step state reservesHundred = .ok next ∧ ¬ Backed 7 1030 history state next := by
  have hreaches : reaches step (deployed 0x0e 0xa5c) movedRun (reservesAs false false) = true := by
    decide +kernel
  obtain ⟨history, state, next, hrun, hnext, -, hbacked⟩ := exists_run_of_reservesAs hreaches
  exact ⟨history, state, next, hrun, hnext, of_decide_eq_false hbacked⟩

end Samples

end TsnProtocol.Crosschain.ReservationBooks
