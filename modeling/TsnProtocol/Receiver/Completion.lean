import Mathlib
import TsnProtocol.Receiver.LeaseAuthorization
import TsnProtocol.Receiver.Progress

/-!
No work is stuck unless it is stranded: abandoned leases are requeued, and whatever can be
leased is leased and reported on, until every work has ended or waits for nothing to come.
-/

namespace TsnProtocol.Receiver.Completion

open Lib.Checked
open Lib.Documents
open Lib.JsonData
open Lib.Transition
open Receiver.NodeVerification
open Receiver.Decisions
open Receiver.WorkContract
open Receiver.Store
open Receiver.Changes
open Receiver.Leases
open Receiver.FundingGate
open Receiver.LeaseAuthorization
open Receiver.Progress

variable {runtime : Runtime} {state next : State} {id : String} {clock : Nat}
  {before after work : ReceiverWork} {works later : Works} {history : List (State × Input)}
  {actor : Actor} {owner : String} {keys waiting : List String}

section Calls

theorem onward_begin (actor : Actor) (owner : String) :
    Onward runtime clock state
      { state with calls := state.calls ++ [beginLease actor owner [] state.works] } :=
  @Continues.snoc _ _ _ _ _ _ _ _ ⟨clock, .beginLease actor owner []⟩ .refl rfl rfl

theorem onward_advance {index : Nat} {call : LeaseCall}
    (hcall : state.calls[index]? = some call) :
    Onward runtime clock state
      { works := (advance runtime clock state.works call).1
        calls := state.calls.set index (advance runtime clock state.works call).2 } := by
  have hstep : step runtime state ⟨clock, .advanceLease index⟩ = .ok
      { works := (advance runtime clock state.works call).1
        calls := state.calls.set index (advance runtime clock state.works call).2 } := by
    simp [step, hcall, okOr, bind, Except.bind, pure, Except.pure]
  exact @Continues.snoc _ _ _ _ _ _ _ _ ⟨clock, .advanceLease index⟩ .refl rfl hstep

theorem onward_transition {params : TransitionParams} {reached : Works}
    (htransition : transition runtime params clock state.works = .ok reached) :
    Onward runtime clock state { state with works := reached } := by
  have hstep : step runtime state ⟨clock, .transition params⟩ =
      .ok { state with works := reached } := by
    simp [step, htransition, bind, Except.bind, pure, Except.pure]
  exact @Continues.snoc _ _ _ _ _ _ _ _ ⟨clock, .transition params⟩ .refl rfl hstep

theorem get_set_self {calls : List LeaseCall} {index : Nat} {call advanced : LeaseCall}
    (hcall : calls[index]? = some call) : (calls.set index advanced)[index]? = some advanced := by
  rcases List.getElem?_eq_some_iff.mp hcall with ⟨hindex, -⟩
  exact List.getElem?_set_self hindex

theorem get_append_self {calls : List LeaseCall} {call : LeaseCall} :
    (calls ++ [call])[calls.length]? = some call := by
  simp

/-- A call requeues a work whose lease was abandoned. -/
theorem exists_requeued (hheld : state.works[id]? = some work) (hstatus : work.status = held actor)
    (habandoned : ∀ (id : String) (work : ReceiverWork), state.works[id]? = some work →
      work.status = held actor → ∃ lease, leaseOf actor work = some lease ∧
        lease.expiresAt ≤ clock) :
    ∃ next key current, Onward runtime clock state next ∧ state.works[key]? = some current ∧
      current.status = held actor ∧
        next.works = state.works.insert key (requeued actor clock current) := by
  have hmatching : decide (work.status = held actor) = true := decide_eq_true hstatus
  have hfound : ∃ entry ∈ query state.works (fun work => decide (work.status = held actor)) 50,
      ¬ False :=
    @exists_mem_query _ state.works id work _ _ (fun _ => False) [] (by decide)
      (fun _ _ hnot => hnot.elim) hheld hmatching not_false
  rcases hfound with ⟨first, hfirst, -⟩
  cases hstale : query state.works (fun work => decide (work.status = held actor)) 50 with
  | nil =>
      rw [hstale] at hfirst
      cases hfirst
  | cons entry stale =>
      rcases entry with ⟨key, current⟩
      have hmem : (key, current) ∈
          query state.works (fun work => decide (work.status = held actor)) 50 := by
        rw [hstale]
        exact List.mem_cons_self
      rcases mem_query hmem with ⟨hstored, hcurrent⟩
      rw [decide_eq_true_eq] at hcurrent
      rcases habandoned key current hstored hcurrent with ⟨lease, hlease, hexpired⟩
      have hcall := @get_append_self state.calls (beginLease actor "caller" [] state.works)
      have hrequeue : requeue actor key clock state.works =
          state.works.insert key (requeued actor clock current) := by
        have hstill : ¬ (current.status ≠ held actor ∨ (leaseOf actor current).any
            (fun lease => decide (clock < lease.expiresAt)) = true) := by
          rw [hlease]
          rintro (hother | hlive)
          · exact hother hcurrent
          · have hlater := of_decide_eq_true hlive
            omega
        simp only [requeue, hstored, if_neg hstill]
      refine ⟨_, key, current, (onward_begin actor "caller").trans (onward_advance hcall), hstored,
        hcurrent, ?_⟩
      simp only [advance, beginLease, hstale, hlease, Option.any_some, decide_eq_true hexpired,
        if_true]
      exact hrequeue

/-- No work is leased. -/
def Unheld (actor : Actor) (works : Works) : Prop :=
  ∀ (id : String) (work : ReceiverWork), works[id]? = some work → work.status ≠ held actor

/-- Without leases to requeue a call goes on to select. -/
theorem exists_selecting (owner : String) (hnone : Unheld actor state.works) :
    ∃ (next : State) (index : Nat), Onward runtime clock state next ∧
      next.works = state.works ∧ next.calls[index]? =
        some ⟨actor, owner, [], .selecting (candidatesOf actor state.works)⟩ := by
  have hstale : query state.works (fun work => decide (work.status = held actor)) 50 = [] := by
    rw [List.eq_nil_iff_forall_not_mem]
    intro entry hentry
    rcases mem_query hentry with ⟨hstored, hstatus⟩
    exact hnone _ _ hstored (of_decide_eq_true hstatus)
  have hbegun : beginLease actor owner [] state.works = ⟨actor, owner, [], .requeueing []⟩ := by
    rw [beginLease, hstale]
  have hfirst := @onward_begin runtime state clock actor owner
  rw [hbegun] at hfirst
  have hcall := @get_append_self state.calls ⟨actor, owner, [], .requeueing []⟩
  exact ⟨_, state.calls.length, hfirst.trans (onward_advance hcall), rfl, get_set_self hcall⟩

/-- A call that selects comes to a candidate that is admitted, if there is one. -/
theorem exists_taking {index : Nat} {candidates : List (String × ReceiverWork)}
    (hcall : state.calls[index]? = some ⟨actor, owner, [], .selecting candidates⟩)
    (hadmitted : ∃ entry ∈ candidates, admitted runtime actor entry.2 state.works = true) :
    ∃ next id data rest, Onward runtime clock state next ∧ next.works = state.works ∧
      next.calls[index]? = some ⟨actor, owner, [], .taking id rest⟩ ∧
        (id, data) ∈ candidates ∧ admitted runtime actor data state.works = true := by
  induction candidates generalizing state with
  | nil =>
      rcases hadmitted with ⟨entry, hentry, -⟩
      cases hentry
  | cons entry candidates ih =>
      rcases entry with ⟨id, data⟩
      have hadvanced := @onward_advance runtime state clock _ _ hcall
      by_cases hfirst : admitted runtime actor data state.works = true
      · refine ⟨_, id, data, candidates, hadvanced, ?_, ?_, List.mem_cons_self, hfirst⟩
        · simp only [advance, supports, List.isEmpty_nil, Bool.true_or, hfirst, Bool.and_self,
            if_true]
        · simp only [advance, supports, List.isEmpty_nil, Bool.true_or, hfirst, Bool.and_self,
            if_true]
          exact get_set_self hcall
      · have hskipped : advance runtime clock state.works
            ⟨actor, owner, [], .selecting ((id, data) :: candidates)⟩ =
              (state.works, ⟨actor, owner, [], .selecting candidates⟩) := by
          simp only [advance, supports, List.isEmpty_nil, Bool.true_or, Bool.true_and, hfirst]
          rfl
        rw [hskipped] at hadvanced
        have hrest : ∃ entry ∈ candidates, admitted runtime actor entry.2 state.works = true := by
          rcases hadmitted with ⟨entry, hentry, hsome⟩
          rcases List.mem_cons.mp hentry with rfl | hlater
          · exact absurd hsome hfirst
          · exact ⟨entry, hlater, hsome⟩
        rcases @ih ⟨state.works, state.calls.set index _⟩ (get_set_self hcall) hrest with
          ⟨next, key, found, rest, honward, hworks, hnext, hmem, hfound⟩
        exact ⟨next, key, found, rest, hadvanced.trans honward, hworks, hnext,
          List.mem_cons_of_mem _ hmem, hfound⟩

/-- Without leases to requeue a call leases a work, if one of its candidates is admitted. -/
theorem exists_leased (owner : String) (hnone : Unheld actor state.works)
    (hadmitted : ∃ entry ∈ candidatesOf actor state.works,
      admitted runtime actor entry.2 state.works = true) :
    ∃ next id current, Onward runtime clock state next ∧ state.works[id]? = some current ∧
      current.status = queued actor ∧ admitted runtime actor current state.works = true ∧
        next.works = state.works.insert id (leased actor owner id clock current) := by
  rcases exists_selecting owner hnone with ⟨selecting, index, hselecting, hsame, hcall⟩
  rw [← hsame] at hadmitted hcall
  rcases exists_taking hcall hadmitted with
    ⟨taking, id, current, rest, htaking, hworks, hcall, hmem, hcurrent⟩
  rw [candidatesOf, List.mem_insertionSort _] at hmem
  rcases mem_query hmem with ⟨hstored, hqueued⟩
  rw [decide_eq_true_eq] at hqueued
  have htake : take actor owner id clock taking.works =
      some (leased actor owner id clock current) := by
    rw [take, hworks, hstored]
    exact if_neg (not_not.mpr hqueued)
  refine ⟨_, id, current, (hselecting.trans htaking).trans (onward_advance hcall),
    hsame ▸ hstored, hqueued, hsame ▸ hcurrent, ?_⟩
  simp only [advance, htake]
  rw [hworks, hsame]

end Calls

section Reports

/-- The Node can sign, and its signatures, dates, digests and numbers are each on one line. -/
structure Operational (runtime : Runtime) : Prop where
  signs : ∀ message, ∃ signature, isSignature signature = true ∧
    runtime.verifyNode message signature = true
  dates : ∃ date, date ≠ "" ∧ runtime.isDate date = true ∧ hasLineBreak date = false
  digests : ∀ text, hasLineBreak (runtime.sha256 text) = false
  numbers : ∀ value, hasLineBreak (runtime.conversions.numberText value) = false
  keyId : hasLineBreak runtime.nodeKeyId = false

theorem hasLineBreak_signedValues (hoperational : Operational runtime) {leaseId date : String}
    {version : Nat} (hwork : hasLineBreak work.id = false) (hlease : hasLineBreak leaseId = false)
    (hcommitment : hasLineBreak work.payloadCommitment = false)
    (hdate : hasLineBreak date = false) :
    ∀ value ∈ signedValues runtime work leaseId version "node" date,
      hasLineBreak value = false := by
  have hkind : hasLineBreak work.kind.text = false := by
    cases work.kind <;> decide
  have hcommitted : ∀ value, hasLineBreak (nodeCommitment runtime value) = false :=
    fun value => hoperational.digests _
  have hwords : hasLineBreak "VERIFIED" = false ∧ hasLineBreak "TSN_NODE" = false ∧
      hasLineBreak "node" = false := by
    decide
  simp [signedValues, hoperational.numbers, hoperational.keyId, hwork, hlease, hcommitment,
    hdate, hkind, hcommitted, hwords]

/-- The Node that has leased a work verifies it. -/
theorem exists_verified (hoperational : Operational runtime)
    (hstored : state.works[id]? = some (leased .node "node" id clock work))
    (hid : hasLineBreak id = false) (hwork : hasLineBreak work.id = false)
    (hcommitment : hasLineBreak work.payloadCommitment = false) :
    ∃ next params, Onward runtime clock state next ∧ params.status = .verified ∧
      next.works = state.works.insert id (reportedByNode runtime.conversions params clock
        (leased .node "node" id clock work)) := by
  rcases hoperational.dates with ⟨date, hfilled, hdate, hline⟩
  rcases hoperational.signs (signedMessage runtime (leased .node "node" id clock work) id
    (work.stateVersion + 1) "node" date) with ⟨signature, hsignature, hverify⟩
  have hdecision := @accepted_evidence runtime (leased .node "node" id clock work) _ id "node"
    date signature (work.stateVersion + 1) rfl rfl rfl hfilled hdate
    (hasLineBreak_signedValues hoperational hwork hid hcommitment hline) hsignature hverify
    (work.stateVersion + 1)
  let params : TransitionParams := ⟨id, .node, "node", work.stateVersion + 1, .verified,
    some (evidence runtime (leased .node "node" id clock work) id (work.stateVersion + 1) "node"
      date signature)⟩
  have hreplay : ¬ isReplay runtime.conversions params
      (leased .node "node" id clock work) = true := by
    simp [isReplay, params]
  have hallowed : WorkStatus.verified ∈ allowed .node := by
    decide
  have hlive : clock < clock + 60000 := by
    omega
  have htransition : transition runtime params clock state.works =
      .ok (state.works.insert id (reportedByNode runtime.conversions params clock
        (leased .node "node" id clock work))) := by
    simp only [transition, bind_eq_ok, okOr_eq_ok]
    refine ⟨leased .node "node" id clock work, hstored, ?_⟩
    rw [if_neg hreplay]
    simp only [bind_eq_ok, okOr_eq_ok, require_eq_ok, pure_eq_ok]
    exact ⟨_, rfl, (), ⟨rfl, hlive⟩, (), rfl, (), hdecision, (), hallowed, rfl⟩
  exact ⟨_, params, onward_transition htransition, rfl, rfl⟩

/-- The Cranker that has leased a work confirms it. -/
theorem exists_confirmed
    (hstored : state.works[id]? = some (leased .cranker "cranker" id clock work)) :
    ∃ next params, Onward runtime clock state next ∧ params.status = .confirmed ∧
      next.works = state.works.insert id (reportedByCranker runtime.conversions params clock
        (leased .cranker "cranker" id clock work)) := by
  let params : TransitionParams :=
    ⟨id, .cranker, "cranker", work.stateVersion + 1, .confirmed, none⟩
  have hreplay : ¬ isReplay runtime.conversions params
      (leased .cranker "cranker" id clock work) = true := by
    simp [isReplay, params, leased]
  have hallowed : WorkStatus.confirmed ∈ allowed .cranker := by
    decide
  have hlive : clock < clock + 60000 := by
    omega
  have htransition : transition runtime params clock state.works =
      .ok (state.works.insert id (reportedByCranker runtime.conversions params clock
        (leased .cranker "cranker" id clock work))) := by
    simp only [transition, bind_eq_ok, okOr_eq_ok]
    refine ⟨leased .cranker "cranker" id clock work, hstored, ?_⟩
    rw [if_neg hreplay]
    simp only [bind_eq_ok, okOr_eq_ok, require_eq_ok, pure_eq_ok]
    exact ⟨_, rfl, (), ⟨rfl, hlive⟩, (), rfl, (), rfl, (), hallowed, rfl⟩
  exact ⟨_, params, onward_transition htransition, rfl, rfl⟩

end Reports

section Moves

/-- One work has moved on, and the others are as they were. -/
structure Moved (works later : Works) (id : String) (before after : ReceiverWork) : Prop where
  stored : works[id]? = some before
  moved : later[id]? = some after
  others : ∀ other, other ≠ id → later[other]? = works[other]?
  sameId : after.id = before.id
  kind : after.kind = before.kind
  payload : before.kind ≠ .authorizedFunding → after.payload = before.payload
  forward : (before.status, after.status) ∈ [(.nodeVerifying, .received), (.received, .verified),
    (.crankerLeased, .verified), (.verified, .confirmed)]

/-- How far a work is from its end. -/
def rankOf (work : Option ReceiverWork) : Nat :=
  match work.map ReceiverWork.status with
  | some .nodeVerifying => 4
  | some .received => 3
  | some .crankerLeased => 2
  | some .verified => 1
  | _ => 0

def rank (keys : List String) (works : Works) : Nat :=
  (keys.map fun key => rankOf works[key]?).sum

theorem rankOf_lt (hmoved : Moved works later id before after) :
    rankOf (some after) < rankOf (some before) := by
  have hforward := hmoved.forward
  simp only [List.mem_cons, List.not_mem_nil, or_false, Prod.mk.injEq] at hforward
  simp only [rankOf, Option.map_some]
  rcases hforward with ⟨hbefore, hafter⟩ | ⟨hbefore, hafter⟩ | ⟨hbefore, hafter⟩ |
    ⟨hbefore, hafter⟩ <;> rw [hbefore, hafter] <;> decide

theorem rank_lt (hmoved : Moved works later id before after) (hkey : id ∈ keys) :
    rank keys later < rank keys works := by
  apply List.sum_lt_sum
  · intro key _
    by_cases hsame : key = id
    · rw [hsame, hmoved.stored, hmoved.moved]
      exact (rankOf_lt hmoved).le
    · rw [hmoved.others key hsame]
  · refine ⟨id, hkey, ?_⟩
    rw [hmoved.stored, hmoved.moved]
    exact rankOf_lt hmoved

theorem moved_requeued (hstored : works[id]? = some work) (hstatus : work.status = held actor) :
    Moved works (works.insert id (requeued actor clock work)) id work
      (requeued actor clock work) where
  stored := hstored
  moved := get_insert_self
  others := fun _ hother => get_insert_of_ne hother
  sameId := rfl
  kind := rfl
  payload := fun _ => rfl
  forward := by
    rw [hstatus]
    cases actor <;> simp [held, Store.requeued, queued]

theorem moved_verified {params : TransitionParams} (hstored : works[id]? = some work)
    (hstatus : work.status = .received) (hverified : params.status = .verified) :
    Moved works ((works.insert id (leased .node "node" id clock work)).insert id
      (reportedByNode runtime.conversions params clock (leased .node "node" id clock work))) id
      work
      (reportedByNode runtime.conversions params clock (leased .node "node" id clock work)) where
  stored := hstored
  moved := get_insert_self
  others := fun _ hother => (get_insert_of_ne hother).trans (get_insert_of_ne hother)
  sameId := rfl
  kind := rfl
  payload := by
    intro hother
    simp only [reportedByNode, leased]
    exact if_neg hother
  forward := by
    simp [reportedByNode, hstatus, hverified]

theorem moved_confirmed {params : TransitionParams} (hstored : works[id]? = some work)
    (hstatus : work.status = .verified) (hconfirmed : params.status = .confirmed) :
    Moved works ((works.insert id (leased .cranker "cranker" id clock work)).insert id
      (reportedByCranker runtime.conversions params clock
        (leased .cranker "cranker" id clock work))) id work
      (reportedByCranker runtime.conversions params clock
        (leased .cranker "cranker" id clock work)) where
  stored := hstored
  moved := get_insert_self
  others := fun _ hother => (get_insert_of_ne hother).trans (get_insert_of_ne hother)
  sameId := rfl
  kind := rfl
  payload := fun _ => rfl
  forward := by
    simp [reportedByCranker, hstatus, hconfirmed]

end Moves

section Underway

/-- A settlement whose funding is not confirmed. -/
def Waiting (works : Works) (work : ReceiverWork) : Prop :=
  work.kind = .settlement ∧ ¬ ConfirmedFor works work

def isOpen : WorkStatus → Bool
  | .received | .nodeVerifying | .verified | .crankerLeased => true
  | _ => false

/-- A work that can be leased, reported on or requeued. -/
def Movable (works : Works) (work : ReceiverWork) : Prop :=
  isOpen work.status = true ∧ ¬ Waiting works work

/-- A state in which all earlier leases have expired, and nothing has gone wrong since the
start. -/
structure Underway (runtime : Runtime) (start : Works) (clock : Nat)
    (keys waiting : List String) (state : State) : Prop where
  reached : ∃ history, Run (step runtime) State.initial history state
  keys : ∀ (id : String) (work : ReceiverWork), state.works[id]? = some work → id ∈ keys
  expired : ∀ (id : String) (work : ReceiverWork) (actor : Actor) (lease : Lease),
    state.works[id]? = some work → leaseOf actor work = some lease → lease.expiresAt ≤ clock
  few : ∀ (id : String) (work : ReceiverWork), state.works[id]? = some work →
    Waiting state.works work → id ∈ waiting
  clean : ∀ (id : String) (work : ReceiverWork), state.works[id]? = some work →
    hasLineBreak work.id = false
  dead : ∀ (id : String) (work : ReceiverWork), state.works[id]? = some work →
    work.status ∈ [.rejected, .submitted, .failed] →
      ∃ earlier, start[id]? = some earlier ∧ earlier.status = work.status

theorem stored_of_moved (hmoved : Moved works later id before after) {key : String}
    (hlater : later[key]? = some work) :
    key = id ∧ work = after ∨ key ≠ id ∧ works[key]? = some work := by
  by_cases hsame : key = id
  · rw [hsame, hmoved.moved, Option.some.injEq] at hlater
    exact .inl ⟨hsame, hlater.symm⟩
  · rw [hmoved.others key hsame] at hlater
    exact .inr ⟨hsame, hlater⟩

theorem status_of_moved (hmoved : Moved works later id before after) :
    isOpen before.status = true ∧ (after.status = .received ∨ after.status = .verified ∨
      after.status = .confirmed) := by
  have hforward := hmoved.forward
  simp only [List.mem_cons, List.not_mem_nil, or_false, Prod.mk.injEq] at hforward
  rcases hforward with ⟨hbefore, hafter⟩ | ⟨hbefore, hafter⟩ | ⟨hbefore, hafter⟩ |
    ⟨hbefore, hafter⟩ <;> rw [hbefore, hafter] <;> simp [isOpen]

theorem confirmedFor_moved {settlement moved : ReceiverWork}
    (hmoved : Moved works later id before after) (hconfirmed : ConfirmedFor works settlement)
    (hpayload : moved.payload = settlement.payload) : ConfirmedFor later moved := by
  rcases hconfirmed with ⟨funding, hfunded, hstatus⟩
  have hother : funding.id ≠ id := by
    intro hsame
    have hstored := hmoved.stored
    rw [← hsame, hfunded.stored, Option.some.injEq] at hstored
    have hopen := (status_of_moved hmoved).1
    rw [← hstored, hstatus] at hopen
    cases hopen
  exact ⟨funding, ⟨hpayload ▸ hfunded.intent, (hmoved.others _ hother).trans hfunded.stored,
    hfunded.kind⟩, hstatus⟩

theorem waiting_of_moved {key : String} (hmoved : Moved works later id before after)
    (hlater : later[key]? = some work) (hwaiting : Waiting later work) :
    ∃ earlier, works[key]? = some earlier ∧ Waiting works earlier := by
  rcases hwaiting with ⟨hkind, hunconfirmed⟩
  rcases stored_of_moved hmoved hlater with ⟨rfl, rfl⟩ | ⟨-, hstored⟩
  · have hsettlement : before.kind = .settlement := hmoved.kind ▸ hkind
    refine ⟨before, hmoved.stored, hsettlement, ?_⟩
    intro hconfirmed
    exact hunconfirmed (confirmedFor_moved hmoved hconfirmed
      (hmoved.payload (by rw [hsettlement]; nofun)))
  · refine ⟨work, hstored, hkind, ?_⟩
    intro hconfirmed
    exact hunconfirmed (confirmedFor_moved hmoved hconfirmed rfl)

theorem underway_moved {start : Works} (hunderway : Underway runtime start clock keys waiting state)
    (honward : Onward runtime clock state next)
    (hmoved : Moved state.works next.works id before after) :
    Underway runtime start clock keys waiting next := by
  have hreached : ∃ history, Run (step runtime) State.initial history next := by
    rcases hunderway.reached with ⟨history, hrun⟩
    rcases honward with ⟨later, hlater, -⟩
    exact ⟨_, hrun.append hlater⟩
  rcases status_of_moved hmoved with ⟨-, hstatus⟩
  refine ⟨hreached, ?_, ?_, ?_, ?_, ?_⟩
  · intro key work hwork
    rcases stored_of_moved hmoved hwork with ⟨rfl, -⟩ | ⟨-, hstored⟩
    · exact hunderway.keys _ _ hmoved.stored
    · exact hunderway.keys _ _ hstored
  · intro key work actor lease hwork hlease
    rcases stored_of_moved hmoved hwork with ⟨rfl, rfl⟩ | ⟨-, hstored⟩
    · rcases hreached with ⟨history, hrun⟩
      have hheld := (leaseMatches_of_run hrun hwork).leaseOf hlease
      rw [hheld] at hstatus
      cases actor <;> simp [held] at hstatus
    · exact hunderway.expired _ _ _ _ hstored hlease
  · intro key work hwork hwaiting
    rcases waiting_of_moved hmoved hwork hwaiting with ⟨earlier, hstored, hwaits⟩
    exact hunderway.few _ _ hstored hwaits
  · intro key work hwork
    rcases stored_of_moved hmoved hwork with ⟨rfl, rfl⟩ | ⟨-, hstored⟩
    · rw [hmoved.sameId]
      exact hunderway.clean _ _ hmoved.stored
    · exact hunderway.clean _ _ hstored
  · intro key work hwork hdead
    rcases stored_of_moved hmoved hwork with ⟨rfl, rfl⟩ | ⟨-, hstored⟩
    · rcases hstatus with hafter | hafter | hafter <;> rw [hafter] at hdead <;> simp at hdead
    · exact hunderway.dead _ _ hstored hdead

end Underway

section Progress

theorem hasLineBreak_eq_false {text : String} :
    hasLineBreak text = false ↔ '\n' ∉ text.toList ∧ '\r' ∉ text.toList := by
  simp [hasLineBreak]

theorem hasLineBreak_settlementId (hoperational : Operational runtime) (fundingId commitment :
    String) : hasLineBreak (settlementId runtime fundingId commitment) = false := by
  rcases hasLineBreak_eq_false.mp (hoperational.digests (fundingId ++ ":" ++ commitment)) with
    ⟨hline, hreturn⟩
  simp only [hasLineBreak_eq_false, settlementId, String.toList_append, String.toList_ofList,
    List.mem_append, not_or]
  exact ⟨⟨by decide, fun hmem => hline (List.mem_of_mem_take hmem)⟩, by decide,
    fun hmem => hreturn (List.mem_of_mem_take hmem)⟩

theorem id_of_run (hrun : Run (step runtime) State.initial history state)
    (hwork : state.works[id]? = some work) : work.kind ≠ .settlement → work.id = id :=
  @works_of_run runtime state (fun id work => work.kind ≠ .settlement → work.id = id)
    (fun _ _ _ _ _ _ hkey => hkey)
    (fun _ _ _ _ _ hkept hchange => by
      rcases kept_change hchange with ⟨hid, hkind, -⟩
      rw [hid, hkind]
      exact hkept) history hrun id work hwork

/-- The id that a work is stored under can be signed when its own id can. -/
theorem hasLineBreak_of_stored (hoperational : Operational runtime)
    (hrun : Run (step runtime) State.initial history state)
    (hwork : state.works[id]? = some work) (hclean : hasLineBreak work.id = false) :
    hasLineBreak id = false := by
  by_cases hkind : work.kind = .settlement
  · rcases (gated_of_run hrun).linked.settlement id work hwork hkind with ⟨funding, -, rfl⟩
    exact hasLineBreak_settlementId hoperational ..
  · rw [← id_of_run hrun hwork hkind]
    exact hclean

theorem hasLineBreak_payloadCommitment (hoperational : Operational runtime)
    (hrun : Run (step runtime) State.initial history state)
    (hwork : state.works[id]? = some work) : hasLineBreak work.payloadCommitment = false := by
  rcases committed_of_run hrun id work hwork with ⟨payload, hcommitment, -⟩
  rw [hcommitment]
  exact hoperational.digests _

/-- A work that does not wait is admitted. -/
theorem admitted_of_not_waiting (hlinked : Linked runtime works)
    (hwaiting : ¬ Waiting works work) : admitted runtime actor work works = true := by
  cases hkind : work.kind with
  | authorizedFunding => cases actor <;> simp [admitted, hkind]
  | tinOperation => cases actor <;> simp [admitted, hkind]
  | settlement =>
      have hconfirmed : ConfirmedFor works work := by
        by_contra hnot
        exact hwaiting ⟨hkind, hnot⟩
      rcases hconfirmed with ⟨funding, hfunded, hstatus⟩
      have hne : funding.id ≠ "" := (hlinked.funding _ _ hfunded.stored hfunded.kind).2.1
      have hfound : isConfirmedFunding works[funding.id]? = true := by
        rw [hfunded.stored, isConfirmedFunding, Option.any_some]
        exact decide_eq_true ⟨hfunded.kind, hstatus⟩
      cases actor <;>
        simp [admitted, hkind, hfunded.intent, textOf, Json.toText, hne, hfound]

theorem exists_admitted (hlinked : Linked runtime works) (hfew : waiting.length < 50)
    (hwaits : ∀ (id : String) (work : ReceiverWork), works[id]? = some work →
      Waiting works work → id ∈ waiting)
    (hstored : works[id]? = some work) (hqueued : work.status = queued actor)
    (hwaiting : ¬ Waiting works work) :
    ∃ entry ∈ candidatesOf actor works, admitted runtime actor entry.2 works = true := by
  have hmatching : decide (work.status = queued actor) = true := decide_eq_true hqueued
  have hfound : ∃ entry ∈ query works (fun work => decide (work.status = queued actor)) 50,
      ¬ Waiting works entry.2 :=
    @exists_mem_query _ works id work _ _ (fun entry => Waiting works entry.2) waiting hfew
      (fun entry hentry hwaits' => hwaits _ _ (mem_query hentry).1 hwaits') hstored hmatching
      hwaiting
  rcases hfound with ⟨entry, hentry, hfree⟩
  exact ⟨entry, (List.mem_insertionSort _).mpr hentry, admitted_of_not_waiting hlinked hfree⟩

variable {start : Works}

theorem exists_moved_of_held (hunderway : Underway runtime start clock keys waiting state)
    (hstored : state.works[id]? = some work) (hheld : work.status = held actor) :
    ∃ next key before after, Onward runtime clock state next ∧
      Moved state.works next.works key before after := by
  rcases hunderway.reached with ⟨history, hrun⟩
  have habandoned : ∀ (id : String) (work : ReceiverWork), state.works[id]? = some work →
      work.status = held actor →
        ∃ lease, leaseOf actor work = some lease ∧ lease.expiresAt ≤ clock := by
    intro key current hcurrent hstatus
    have hmatches := leaseMatches_of_run hrun hcurrent
    have hsome : (leaseOf actor current).isSome := by
      cases actor with
      | node => exact hmatches.node.mpr hstatus
      | cranker => exact hmatches.cranker.mpr hstatus
    rcases Option.isSome_iff_exists.mp hsome with ⟨lease, hlease⟩
    exact ⟨lease, hlease, hunderway.expired _ _ _ _ hcurrent hlease⟩
  rcases exists_requeued hstored hheld habandoned with
    ⟨next, key, current, honward, hcurrent, hstatus, hnext⟩
  refine ⟨next, key, current, requeued actor clock current, honward, ?_⟩
  rw [hnext]
  exact moved_requeued hcurrent hstatus

theorem exists_moved_of_received (hoperational : Operational runtime) (hfew : waiting.length < 50)
    (hunderway : Underway runtime start clock keys waiting state)
    (hnone : Unheld .node state.works) (hstored : state.works[id]? = some work)
    (hstatus : work.status = .received) (hwaiting : ¬ Waiting state.works work) :
    ∃ next key before after, Onward runtime clock state next ∧
      Moved state.works next.works key before after := by
  rcases hunderway.reached with ⟨history, hrun⟩
  have hadmitted : ∃ entry ∈ candidatesOf .node state.works,
      admitted runtime .node entry.2 state.works = true :=
    exists_admitted (gated_of_run hrun).linked hfew hunderway.few hstored hstatus hwaiting
  rcases exists_leased "node" hnone hadmitted with
    ⟨leasing, key, current, hleasing, hcurrent, hqueued, -, hworks⟩
  have hleased : leasing.works[key]? = some (leased .node "node" key clock current) := by
    rw [hworks]
    exact get_insert_self
  have hclean := hunderway.clean _ _ hcurrent
  rcases exists_verified hoperational hleased
    (hasLineBreak_of_stored hoperational hrun hcurrent hclean) hclean
    (hasLineBreak_payloadCommitment hoperational hrun hcurrent) with
      ⟨next, params, hreporting, hverified, hnext⟩
  refine ⟨next, key, current, reportedByNode runtime.conversions params clock
    (leased .node "node" key clock current), hleasing.trans hreporting, ?_⟩
  rw [hnext, hworks]
  exact moved_verified hcurrent hqueued hverified

theorem exists_moved_of_verified (hfew : waiting.length < 50)
    (hunderway : Underway runtime start clock keys waiting state)
    (hnone : Unheld .cranker state.works) (hstored : state.works[id]? = some work)
    (hstatus : work.status = .verified) (hwaiting : ¬ Waiting state.works work) :
    ∃ next key before after, Onward runtime clock state next ∧
      Moved state.works next.works key before after := by
  rcases hunderway.reached with ⟨history, hrun⟩
  have hadmitted : ∃ entry ∈ candidatesOf .cranker state.works,
      admitted runtime .cranker entry.2 state.works = true :=
    exists_admitted (gated_of_run hrun).linked hfew hunderway.few hstored hstatus hwaiting
  rcases exists_leased "cranker" hnone hadmitted with
    ⟨leasing, key, current, hleasing, hcurrent, hqueued, -, hworks⟩
  have hleased : leasing.works[key]? = some (leased .cranker "cranker" key clock current) := by
    rw [hworks]
    exact get_insert_self
  rcases exists_confirmed hleased with ⟨next, params, hreporting, hconfirmed, hnext⟩
  refine ⟨next, key, current, reportedByCranker runtime.conversions params clock
    (leased .cranker "cranker" key clock current), hleasing.trans hreporting, ?_⟩
  rw [hnext, hworks]
  exact moved_confirmed hcurrent hqueued hconfirmed

/-- As long as a work can move on, one does. -/
theorem exists_moved (hoperational : Operational runtime) (hfew : waiting.length < 50)
    (hunderway : Underway runtime start clock keys waiting state)
    (hstored : state.works[id]? = some work) (hmovable : Movable state.works work) :
    ∃ next key before after, Onward runtime clock state next ∧
      Moved state.works next.works key before after := by
  by_cases hunheld : Unheld .node state.works ∧ Unheld .cranker state.works
  · rcases hmovable with ⟨hopen, hwaiting⟩
    cases hstatus : work.status with
    | received =>
        exact exists_moved_of_received hoperational hfew hunderway hunheld.1 hstored hstatus
          hwaiting
    | verified =>
        exact exists_moved_of_verified hfew hunderway hunheld.2 hstored hstatus hwaiting
    | nodeVerifying => exact absurd hstatus (hunheld.1 _ _ hstored)
    | crankerLeased => exact absurd hstatus (hunheld.2 _ _ hstored)
    | rejected | submitted | confirmed | failed =>
        rw [hstatus] at hopen
        cases hopen
  · have hheld : ∃ actor, ¬ Unheld actor state.works := by
      by_contra hall
      refine hunheld ⟨?_, ?_⟩ <;> by_contra hnot <;> exact hall ⟨_, hnot⟩
    rcases hheld with ⟨actor, hheld⟩
    simp only [Unheld, not_forall, not_not] at hheld
    rcases hheld with ⟨key, current, hcurrent, hstatus⟩
    exact exists_moved_of_held hunderway hcurrent hstatus

/-- Operations lead to a state in which nothing can move on. -/
theorem exists_settled (hoperational : Operational runtime) (hfew : waiting.length < 50)
    (hunderway : Underway runtime start clock keys waiting state) :
    ∃ next, Onward runtime clock state next ∧
      Underway runtime start clock keys waiting next ∧
      ∀ (id : String) (work : ReceiverWork), next.works[id]? = some work →
        ¬ Movable next.works work := by
  have hprogress : ∀ state, Underway runtime start clock keys waiting state →
      ¬ (∀ (id : String) (work : ReceiverWork), state.works[id]? = some work →
        ¬ Movable state.works work) →
        ∃ next, Onward runtime clock state next ∧
          Underway runtime start clock keys waiting next ∧
            rank keys next.works < rank keys state.works := by
    intro middle hmiddle hunsettled
    simp only [not_forall, not_not] at hunsettled
    rcases hunsettled with ⟨id, work, hstored, hmovable⟩
    rcases exists_moved hoperational hfew hmiddle hstored hmovable with
      ⟨next, key, before, after, honward, hmoved⟩
    exact ⟨next, honward, underway_moved hmiddle honward hmoved,
      rank_lt hmoved (hmiddle.keys _ _ hmoved.stored)⟩
  exact Continues.exists_settled hprogress hunderway

end Progress

section Results

/-- The time at which no lease on a work is left. -/
def expiryOf (work : ReceiverWork) : Nat :=
  max (work.nodeLease.elim 0 Lease.expiresAt) (work.crankerLease.elim 0 Lease.expiresAt)

theorem le_expiryOf {lease : Lease} (hlease : leaseOf actor work = some lease) :
    lease.expiresAt ≤ expiryOf work := by
  cases actor with
  | node =>
      rw [leaseOf] at hlease
      rw [expiryOf, hlease]
      exact le_max_left ..
  | cranker =>
      rw [leaseOf] at hlease
      rw [expiryOf, hlease]
      exact le_max_right ..

/-- There is a time at which all leases have expired. -/
theorem exists_clock (works : Works) (since : Nat) : ∃ clock, since ≤ clock ∧
    ∀ (id : String) (work : ReceiverWork) (actor : Actor) (lease : Lease),
      works[id]? = some work → leaseOf actor work = some lease → lease.expiresAt ≤ clock := by
  refine ⟨since + (works.toList.map fun entry => expiryOf entry.2).sum, Nat.le_add_right .., ?_⟩
  intro id work actor lease hwork hlease
  have hmem : expiryOf work ∈ works.toList.map fun entry => expiryOf entry.2 :=
    List.mem_map.mpr ⟨(id, work), Std.ExtTreeMap.mem_toList_iff_getElem?_eq_some.mpr hwork, rfl⟩
  exact ((le_expiryOf hlease).trans (List.le_sum_of_mem hmem)).trans (Nat.le_add_left ..)

/-- Fewer settlements wait for their funding than a call reads of the works to lease. -/
def FewWaiting (works : Works) : Prop :=
  ∃ waiting : List String, waiting.length < 50 ∧ ∀ (id : String) (work : ReceiverWork),
    works[id]? = some work → Waiting works work → id ∈ waiting

theorem dead_of_not_open {status : WorkStatus} (hopen : ¬ isOpen status = true)
    (hconfirmed : status ≠ .confirmed) : status ∈ [.rejected, .submitted, .failed] := by
  cases status with
  | received | nodeVerifying | verified | crankerLeased => exact absurd rfl hopen
  | confirmed => exact absurd rfl hconfirmed
  | rejected | submitted | failed => decide

theorem fundedBy_unique {settlement first second : ReceiverWork}
    (hfirst : FundedBy works settlement first) (hsecond : FundedBy works settlement second) :
    first = second := by
  have hid : first.id = second.id := by
    simpa using hfirst.intent.symm.trans hsecond.intent
  have hstored := hfirst.stored
  rw [hid, hsecond.stored, Option.some.injEq] at hstored
  exact hstored.symm

/-- A settlement whose funding has ended without being confirmed is stranded. -/
theorem stranded_of_dead {funding : ReceiverWork}
    (hrun : Run (step runtime) State.initial history state)
    (hwork : state.works[id]? = some work) (hsettlement : work.kind = .settlement)
    (hfunded : FundedBy state.works work funding)
    (hdead : funding.status ∈ [.rejected, .submitted, .failed]) : Stranded state.works work := by
  refine .unfunded hsettlement ?_ hfunded hdead
  by_contra hmoved
  rcases (gated_of_run hrun).confirmed id work hwork hsettlement hmoved with
    ⟨other, hconfirmed, hstatus⟩
  rw [fundedBy_unique hfunded hconfirmed, hstatus] at hdead
  exact absurd hdead (by decide)

/-- The funding that a settlement still waits for when nothing can move on has ended. -/
theorem dead_funding {settlement funding : ReceiverWork}
    (hsettled : ∀ (id : String) (work : ReceiverWork), works[id]? = some work →
      ¬ Movable works work)
    (hwaiting : Waiting works settlement) (hfunded : FundedBy works settlement funding) :
    funding.status ∈ [.rejected, .submitted, .failed] := by
  apply dead_of_not_open
  · intro hopen
    refine hsettled _ _ hfunded.stored ⟨hopen, ?_⟩
    rintro ⟨hkind, -⟩
    rw [hfunded.kind] at hkind
    cases hkind
  · intro hconfirmed
    exact hwaiting.2 ⟨funding, hfunded, hconfirmed⟩

theorem dead_at_start {start : Works} {last : ReceiverWork}
    (hunderway : Underway runtime start clock keys waiting next)
    (hstart : start[id]? = some work) (hlast : next.works[id]? = some last)
    (hdead : last.status ∈ [.rejected, .submitted, .failed]) :
    work.status ∈ [.rejected, .submitted, .failed] := by
  rcases hunderway.dead _ _ hlast hdead with ⟨earlier, hearlier, hsame⟩
  rw [hstart, Option.some.injEq] at hearlier
  rw [hearlier, hsame]
  exact hdead

/-- What can no longer move on has been confirmed, unless it was stranded. -/
theorem confirmed_of_settled (hrun : Run (step runtime) State.initial history state)
    (hunderway : Underway runtime state.works clock keys waiting next)
    (honward : Onward runtime clock state next)
    (hsettled : ∀ (id : String) (work : ReceiverWork), next.works[id]? = some work →
      ¬ Movable next.works work)
    (hwork : state.works[id]? = some work) (hterminal : ¬ isTerminal work.status = true)
    (hstranded : ¬ Stranded state.works work) :
    ∃ final, next.works[id]? = some final ∧ final.status = .confirmed := by
  rcases honward with ⟨later, hlater, -⟩
  rcases kept_of_later hlater hwork with ⟨final, hfinal, -, hkind, hpayload⟩
  refine ⟨final, hfinal, ?_⟩
  by_contra hunconfirmed
  by_cases hopen : isOpen final.status = true
  · have hwaiting : Waiting next.works final := by
      by_contra hfree
      exact hsettled _ _ hfinal ⟨hopen, hfree⟩
    have hsettlement : work.kind = .settlement := hkind ▸ hwaiting.1
    have hother : work.kind ≠ .authorizedFunding := by
      rw [hsettlement]
      nofun
    rcases (gated_of_run hrun).linked.settlement id work hwork hsettlement with
      ⟨funding, hfunded, -⟩
    rcases kept_of_later hlater hfunded.stored with ⟨last, hlast, hid, hsort, -⟩
    have hstill : FundedBy next.works final last := by
      refine ⟨?_, hid ▸ hlast, hsort.trans hfunded.kind⟩
      rw [hpayload hother, hfunded.intent, hid]
    exact hstranded (stranded_of_dead hrun hwork hsettlement hfunded
      (dead_at_start hunderway hfunded.stored hlast (dead_funding hsettled hwaiting hstill)))
  · have hdead := dead_at_start hunderway hwork hfinal (dead_of_not_open hopen hunconfirmed)
    simp only [List.mem_cons, List.not_mem_nil, or_false] at hdead
    rcases hdead with hstatus | hstatus | hstatus
    · exact hterminal (by rw [hstatus]; rfl)
    · exact hstranded (.submitted hstatus)
    · exact hterminal (by rw [hstatus]; rfl)

/-- Every work that is not terminal can be finished. -/
def NoneStuck (runtime : Runtime) (state : State) : Prop :=
  ∀ (id : String) (work : ReceiverWork), state.works[id]? = some work →
    ¬ isTerminal work.status = true → CanFinish runtime state id

def NoneStranded (works : Works) : Prop :=
  ∀ (id : String) (work : ReceiverWork), works[id]? = some work → ¬ Stranded works work

end Results

section Sample

theorem operational_digestRuntime : Operational digestRuntime where
  signs := fun _ => ⟨sampleSignature, by decide +kernel, rfl⟩
  dates := ⟨"date", by decide, rfl, by decide⟩
  digests := fun _ => show hasLineBreak "digest" = false by decide
  numbers := fun _ => show hasLineBreak "0" = false by decide
  keyId := show hasLineBreak "key" = false by decide

/-- A payment that its Cranker reports as submitted, latest first. -/
def submittedPayment : List Input :=
  [⟨1000, .transition ⟨"payment", .cranker, "first", 4, .submitted,
      some (.obj [("signature", .str "signature")])⟩⟩] ++
    leasing 1 .cranker "first" 3 1000 ++ [⟨1000, .transition (verifies payment 2)⟩] ++
    leasing 0 .node "node" 3 1000 ++ [⟨1000, .receive (fundingInput 5)⟩]

example : submittedPayment.length = 11 := by
  decide +kernel

theorem reaches_submittedPayment :
    reaches (step digestRuntime) State.initial submittedPayment (fun _ state =>
      state.works["payment"]?.any fun work => work.status = .submitted) = true := by
  decide +kernel

example : isTerminal .submitted = false := by
  decide +kernel

end Sample

end TsnProtocol.Receiver.Completion
