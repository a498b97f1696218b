import TsnProtocol.Receiver.Store

/-!
What a step of the Receiver makes of the works.
-/

namespace TsnProtocol.Receiver.Changes

open Lib.Checked
open Lib.Documents
open Lib.Transition
open Receiver.WorkContract
open Receiver.Store

variable {runtime : Runtime} {state next : State} {input : Input} {works : Works}

/-- What a transaction makes of a work, and what it has found. -/
inductive Change (runtime : Runtime) (state : State) (input : Input) (id : String)
    (current : ReceiverWork) : ReceiverWork → Prop
  | requeued {actor : Actor} {index : Nat} :
      input.operation = .advanceLease index → current.status = held actor →
        (∀ lease, leaseOf actor current = some lease → lease.expiresAt ≤ input.now) →
          Change runtime state input id current (requeued actor input.now current)
  | leased {index : Nat} {call : LeaseCall} {candidates : List (String × ReceiverWork)} :
      input.operation = .advanceLease index → state.calls[index]? = some call →
        call.phase = .taking id candidates → current.status = queued call.actor →
          Change runtime state input id current
            (leased call.actor call.owner id input.now current)
  | authorized {params : AuthorizationParams} {lease : Lease} :
      input.operation = .attachCrankerAuthorization params → params.id = id →
        current.status = .crankerLeased → current.crankerLease = some lease →
          lease.owner = params.owner → current.stateVersion = params.expectedVersion →
            input.now < lease.expiresAt →
              authorizes runtime current lease params.authorization input.now = true →
                Change runtime state input id current
                  (authorized params.authorization input.now current)
  | reported {params : TransitionParams} {lease : Lease} :
      input.operation = .transition params → params.id = id →
        isReplay runtime.conversions params current = false →
          leaseOf params.actor current = some lease → lease.owner = params.owner →
            input.now < lease.expiresAt → current.stateVersion = params.expectedVersion →
              checkDecision runtime params current = .ok () →
                params.status ∈ allowed params.actor →
                  Change runtime state input id current
                    (reported runtime.conversions params input.now current)
  | retried {params : RetryParams} {funding : ReceiverWork} :
      input.operation = .retrySettlementSnapshot params → params.id = id →
        current.stateVersion = params.expectedVersion → current.kind = .settlement →
          current.status = .rejected → current.nodeLease = none →
            current.crankerLease = none →
              Change runtime state input id current
                (retried current funding params.requestedBy input.now)

/-- The work a submission is received as. -/
def submitted (runtime : Runtime) (received : ReceiveInput) (now : Nat) : ReceiverWork :=
  receivedWork (workId received.id received.fresh) received.kind
    (durablePayload runtime received) (payloadCommitment runtime received.payload) now

/-- The id of the settlement of a submission. -/
def linkedId (runtime : Runtime) (received : ReceiveInput) (now : Nat) : String :=
  settlementId runtime (submitted runtime received now).id
    (submitted runtime received now).payloadCommitment

/-- The settlement that is created under an id for a funding work. -/
def settlementOf (runtime : Runtime) (id : String) (fresh : FreshId) (funding : ReceiverWork)
    (now : Nat) : ReceiverWork :=
  receivedWork (workId (some id) fresh) .settlement (settlementPayload funding)
    (payloadCommitment runtime (settlementPayload funding)) now

/-- A submission passes the checks that do not look at the store. -/
structure Submittable (runtime : Runtime) (received : ReceiveInput) : Prop where
  external : received.kind ≠ .settlement
  ingress : checkIngress runtime received = .ok ()
  durable : assertDurablePayload received.kind (durablePayload runtime received) = .ok ()

/-- What receiving makes of the works, and the work it answers with. -/
inductive Received (runtime : Runtime) (received : ReceiveInput) (now : Nat) (works : Works) :
    Works → ReceiverWork → Prop
  | existing {current : ReceiverWork} :
      works[(submitted runtime received now).id]? = some current →
        current.payloadCommitment = payloadCommitment runtime received.payload →
          current.kind = received.kind →
            Received runtime received now works works current
  | relinked {current : ReceiverWork} :
      works[(submitted runtime received now).id]? = some current →
        current.payloadCommitment = payloadCommitment runtime received.payload →
          current.kind = .authorizedFunding →
            works[linkedId runtime received now]? = none →
              Received runtime received now works
                (works.insert (linkedId runtime received now)
                  (settlementOf runtime (linkedId runtime received now) received.fresh current
                    now)) current
  | plain :
      received.kind = .tinOperation → works[(submitted runtime received now).id]? = none →
        Received runtime received now works
          (works.insert (submitted runtime received now).id (submitted runtime received now))
          (submitted runtime received now)
  | funded :
      received.kind = .authorizedFunding →
        works[(submitted runtime received now).id]? = none →
          (works.insert (submitted runtime received now).id
              (submitted runtime received now))[linkedId runtime received now]? = none →
            Received runtime received now works
              ((works.insert (submitted runtime received now).id
                (submitted runtime received now)).insert (linkedId runtime received now)
                  (settlementOf runtime (linkedId runtime received now) received.fresh
                    (submitted runtime received now) now))
              (submitted runtime received now)

/-- What a step makes of the works. -/
inductive Effect (runtime : Runtime) (state : State) (input : Input) : Works → Prop
  | same : Effect runtime state input state.works
  | changed {id : String} {current after : ReceiverWork} :
      state.works[id]? = some current → Change runtime state input id current after →
        Effect runtime state input (state.works.insert id after)
  | received {received : ReceiveInput} {after : Works} {work : ReceiverWork} :
      input.operation = .receive received → Submittable runtime received →
        Received runtime received input.now state.works after work →
          Effect runtime state input after

theorem createSettlement_eq_ok {id : String} {fresh : FreshId} {funding : ReceiverWork}
    {now : Nat} {after : Works} :
    createSettlement runtime id fresh funding now works = .ok after ↔
      assertDurablePayload .settlement (settlementPayload funding) = .ok () ∧
        works[id]? = none ∧
          works.insert id (settlementOf runtime id fresh funding now) = after := by
  simp only [createSettlement, createReceivedWork, bind_eq_ok, pure_eq_ok, require_eq_ok,
    Option.isNone_iff_eq_none, Option.getD_none]
  constructor
  · rintro ⟨_, ⟨_, hpayload, rfl⟩, _, hnew, hafter⟩
    exact ⟨hpayload, hnew, hafter⟩
  · rintro ⟨hpayload, hnew, hafter⟩
    exact ⟨_, ⟨(), hpayload, rfl⟩, (), hnew, hafter⟩

theorem received_of_receive {received : ReceiveInput} {now : Nat} {after : Works}
    {work : ReceiverWork} (hstep : receive runtime received now works = .ok (after, work)) :
    Submittable runtime received ∧ Received runtime received now works after work := by
  simp only [receive, assertExternalWorkKind, createReceivedWork, bind_eq_ok, require_eq_ok,
    pure_eq_ok, Option.getD_some] at hstep
  rcases hstep with ⟨_, hkind, _, hingress, _, ⟨_, hdurable, rfl⟩, hstep⟩
  refine ⟨⟨hkind, hingress, hdurable⟩, ?_⟩
  split at hstep
  · rename_i current hstored
    simp only [bind_eq_ok, require_eq_ok] at hstep
    rcases hstep with ⟨_, ⟨hcommitment, hsame⟩, hstep⟩
    split at hstep
    · rename_i hmissing
      simp only [bind_eq_ok, pure_eq_ok, Prod.mk.injEq, createSettlement_eq_ok] at hstep
      rcases hstep with ⟨_, ⟨-, hnew, rfl⟩, rfl, rfl⟩
      exact .relinked hstored hcommitment (hsame.trans hmissing.1) hnew
    · simp only [pure_eq_ok, Prod.mk.injEq] at hstep
      rcases hstep with ⟨rfl, rfl⟩
      exact .existing hstored hcommitment hsame
  · rename_i hnew
    split at hstep
    · rename_i hfunding
      simp only [bind_eq_ok, pure_eq_ok, Prod.mk.injEq, createSettlement_eq_ok] at hstep
      rcases hstep with ⟨_, ⟨-, hfree, rfl⟩, rfl, rfl⟩
      exact .funded hfunding hnew hfree
    · rename_i hother
      simp only [pure_eq_ok, Prod.mk.injEq] at hstep
      rcases hstep with ⟨rfl, rfl⟩
      refine .plain ?_ hnew
      cases hreceived : received.kind with
      | authorizedFunding => exact absurd hreceived hother
      | settlement => exact absurd hreceived hkind
      | tinOperation => rfl

theorem effect_of_advance {index : Nat} {call : LeaseCall}
    (hinput : input.operation = .advanceLease index) (hcall : state.calls[index]? = some call) :
    Effect runtime state input (advance runtime input.now state.works call).1 := by
  rcases call with ⟨actor, owner, kinds, phase⟩
  cases phase with
  | requeueing stale =>
      cases stale with
      | nil => exact .same
      | cons entry stale =>
          simp only [advance]
          split
          · rw [requeue]
            split
            · exact .same
            · rename_i current hstored
              split
              · exact .same
              · rename_i habandoned
                rw [not_or, Decidable.not_not] at habandoned
                refine .changed hstored (.requeued hinput habandoned.1 ?_)
                intro lease hlease
                have hlive := habandoned.2
                simp only [hlease, Option.any_some, decide_eq_true_eq] at hlive
                omega
          · exact .same
  | selecting candidates =>
      cases candidates with
      | nil => exact .same
      | cons entry candidates =>
          simp only [advance]
          split <;> exact .same
  | taking id candidates =>
      simp only [advance]
      split
      · rename_i work htaken
        rw [take] at htaken
        split at htaken
        · cases htaken
        · rename_i current hstored
          split at htaken
          · cases htaken
          · rename_i hqueued
            cases htaken
            exact .changed hstored
              (.leased hinput hcall rfl (Decidable.not_not.mp hqueued))
      · exact .same
  | finished work => exact .same

theorem changed_of_attach {params : AuthorizationParams} {after : Works}
    (hinput : input.operation = .attachCrankerAuthorization params)
    (hstep : attachCrankerAuthorization runtime params input.now state.works = .ok after) :
    ∃ current work, state.works[params.id]? = some current ∧
      current.stateVersion = params.expectedVersion ∧
      Change runtime state input params.id current work ∧
        after = state.works.insert params.id work := by
  simp only [attachCrankerAuthorization, bind_eq_ok, okOr_eq_ok, require_eq_ok,
    pure_eq_ok] at hstep
  rcases hstep with ⟨current, hstored, _, hstatus, lease, hlease, _, howner, _, hversion, _,
    hlive, _, hauthorizes, rfl⟩
  exact ⟨current, _, hstored, hversion,
    .authorized hinput rfl hstatus hlease howner hversion hlive hauthorizes, rfl⟩

theorem changed_of_transition {params : TransitionParams} {after : Works}
    (hinput : input.operation = .transition params)
    (hstep : transition runtime params input.now state.works = .ok after) :
    ∃ current, state.works[params.id]? = some current ∧
      (isReplay runtime.conversions params current = true ∧ after = state.works ∨
        isReplay runtime.conversions params current = false ∧
          current.stateVersion = params.expectedVersion ∧
          ∃ work, Change runtime state input params.id current work ∧
            after = state.works.insert params.id work) := by
  simp only [transition, bind_eq_ok, okOr_eq_ok] at hstep
  rcases hstep with ⟨current, hstored, hstep⟩
  refine ⟨current, hstored, ?_⟩
  split at hstep
  · rename_i hreplay
    rw [pure_eq_ok] at hstep
    exact .inl ⟨hreplay, hstep.symm⟩
  · rename_i hreplay
    have hfirst := Bool.eq_false_iff.mpr hreplay
    simp only [bind_eq_ok, okOr_eq_ok, require_eq_ok, pure_eq_ok] at hstep
    rcases hstep with ⟨lease, hlease, _, ⟨howner, hlive⟩, _, hversion, _, hdecision, _, hallowed,
      rfl⟩
    exact .inr ⟨hfirst, hversion, _,
      .reported hinput rfl hfirst hlease howner hlive hversion hdecision hallowed, rfl⟩

theorem changed_of_retry {params : RetryParams} {after : Works}
    (hinput : input.operation = .retrySettlementSnapshot params)
    (hstep : retrySettlementSnapshot runtime params input.now state.works = .ok after) :
    ∃ current funding, state.works[params.id]? = some current ∧
      current.stateVersion = params.expectedVersion ∧
      Change runtime state input params.id current
        (retried current funding params.requestedBy input.now) ∧
        after = state.works.insert params.id
          (retried current funding params.requestedBy input.now) := by
  simp only [retrySettlementSnapshot, snapshotRetryPatch, bind_eq_ok, okOr_eq_ok,
    require_eq_ok, pure_eq_ok] at hstep
  rcases hstep with ⟨current, hstored, _, -, funding, -, _, ⟨_, hversion, _, ⟨hkind, hstatus⟩,
    _, -, _, ⟨hnode, hcranker, -, -⟩, _, -, _, -, rfl⟩, rfl⟩
  exact ⟨current, funding, hstored, hversion,
    .retried hinput rfl hversion hkind hstatus hnode hcranker, rfl⟩

/-- Every step of the Receiver has one of the effects. -/
theorem effect_of_step (hstep : step runtime state input = .ok next) :
    Effect runtime state input next.works := by
  rcases input with ⟨now, operation⟩
  cases operation with
  | receive received =>
      simp only [step, bind_eq_ok, pure_eq_ok] at hstep
      rcases hstep with ⟨⟨works, work⟩, hreceive, rfl⟩
      rcases received_of_receive hreceive with ⟨hchecked, hreceived⟩
      exact .received rfl hchecked hreceived
  | beginLease actor owner kinds =>
      cases hstep
      exact .same
  | advanceLease index =>
      simp only [step, bind_eq_ok, okOr_eq_ok, pure_eq_ok] at hstep
      rcases hstep with ⟨call, hcall, rfl⟩
      exact @effect_of_advance runtime state ⟨now, .advanceLease index⟩ index call rfl hcall
  | attachCrankerAuthorization params =>
      simp only [step, bind_eq_ok, pure_eq_ok] at hstep
      rcases hstep with ⟨works, hattach, rfl⟩
      rcases @changed_of_attach runtime state ⟨now, .attachCrankerAuthorization params⟩ _ _ rfl
        hattach with ⟨current, work, hstored, -, hchange, rfl⟩
      exact .changed hstored hchange
  | transition params =>
      simp only [step, bind_eq_ok, pure_eq_ok] at hstep
      rcases hstep with ⟨works, htransition, rfl⟩
      rcases @changed_of_transition runtime state ⟨now, .transition params⟩ _ _ rfl htransition
        with ⟨current, hstored, ⟨-, rfl⟩ | ⟨-, -, work, hchange, rfl⟩⟩
      · exact .same
      · exact .changed hstored hchange
  | retrySettlementSnapshot params =>
      simp only [step, bind_eq_ok, pure_eq_ok] at hstep
      rcases hstep with ⟨works, hretry, rfl⟩
      rcases @changed_of_retry runtime state ⟨now, .retrySettlementSnapshot params⟩ _ _ rfl
        hretry with ⟨current, funding, hstored, -, hchange, rfl⟩
      exact .changed hstored hchange

section Works

variable {id : String} {before after : ReceiverWork}

/-- A work under an id stays, as it is or changed by the step. -/
theorem work_of_step (hstep : step runtime state input = .ok next)
    (hbefore : state.works[id]? = some before) :
    ∃ after, next.works[id]? = some after ∧
      (after = before ∨ Change runtime state input id before after) := by
  have hkept {key : String} {work : ReceiverWork} (hnew : state.works[key]? = none)
      {works : Works} (hworks : works[id]? = some before) :
      (works.insert key work)[id]? = some before := by
    have hother : id ≠ key := by
      rintro rfl
      rw [hnew] at hbefore
      cases hbefore
    exact (get_insert_of_ne hother).trans hworks
  have heffect := effect_of_step hstep
  generalize next.works = works at heffect
  cases heffect with
  | same => exact ⟨before, hbefore, .inl rfl⟩
  | @changed key current work hstored hchange =>
      by_cases hsame : id = key
      · subst hsame
        have hcurrent : current = before := by
          simpa using hstored.symm.trans hbefore
        subst hcurrent
        exact ⟨work, get_insert_self, .inr hchange⟩
      · exact ⟨before, (get_insert_of_ne hsame).trans hbefore, .inl rfl⟩
  | @received received works work hinput hchecked hreceived =>
      refine ⟨before, ?_, .inl rfl⟩
      cases hreceived with
      | existing => exact hbefore
      | relinked _ _ _ hnew => exact hkept hnew hbefore
      | plain _ hnew => exact hkept hnew hbefore
      | funded _ hnew hfree =>
          have hother : id ≠ linkedId runtime received input.now := by
            rintro rfl
            rw [hkept hnew hbefore] at hfree
            cases hfree
          exact (get_insert_of_ne hother).trans (hkept hnew hbefore)

/-- A work that was not there is one just received, a settlement apart under its own id. -/
theorem new_of_step (hstep : step runtime state input = .ok next)
    (hbefore : state.works[id]? = none) (hafter : next.works[id]? = some after) :
    ∃ key kind payload commitment, (kind ≠ .settlement → key = id) ∧
      after = receivedWork key kind payload commitment input.now := by
  have heffect := effect_of_step hstep
  generalize next.works = works at heffect hafter
  cases heffect with
  | same =>
      rw [hbefore] at hafter
      cases hafter
  | @changed key current work hstored hchange =>
      have hother : id ≠ key := by
        rintro rfl
        rw [hbefore] at hstored
        cases hstored
      rw [get_insert_of_ne hother, hbefore] at hafter
      cases hafter
  | @received received works work hinput hchecked hreceived =>
      cases hreceived with
      | existing =>
          rw [hbefore] at hafter
          cases hafter
      | relinked =>
          rcases of_get_insert hafter with ⟨-, hwork⟩ | ⟨-, hstored⟩
          · exact ⟨_, _, _, _, fun hkind => absurd rfl hkind, hwork⟩
          · rw [hbefore] at hstored
            cases hstored
      | plain =>
          rcases of_get_insert hafter with ⟨hid, hwork⟩ | ⟨-, hstored⟩
          · exact ⟨_, _, _, _, fun _ => hid.symm, hwork⟩
          · rw [hbefore] at hstored
            cases hstored
      | funded =>
          rcases of_get_insert hafter with ⟨-, hwork⟩ | ⟨-, hstored⟩
          · exact ⟨_, _, _, _, fun hkind => absurd rfl hkind, hwork⟩
          · rcases of_get_insert hstored with ⟨hid, hwork⟩ | ⟨-, hstored⟩
            · exact ⟨_, _, _, _, fun _ => hid.symm, hwork⟩
            · rw [hbefore] at hstored
              cases hstored

theorem initial_works (id : String) : State.initial.works[id]? = none := by
  simp [State.initial]

/-- What holds of works just received, and is kept by every change, holds of all works of
every reachable state. -/
theorem works_of_run {Invariant : String → ReceiverWork → Prop}
    (hnew : ∀ id key kind payload commitment now, (kind ≠ .settlement → key = id) →
      Invariant id (receivedWork key kind payload commitment now))
    (hchange : ∀ state input id before after, Invariant id before →
      Change runtime state input id before after → Invariant id after)
    {history : List (State × Input)}
    (hrun : Run (step runtime) State.initial history state) :
    ∀ id work, state.works[id]? = some work → Invariant id work := by
  refine hrun.induct_on (fun _ state =>
    ∀ id work, state.works[id]? = some work → Invariant id work) ?_ ?_
  · intro id work hwork
    rw [initial_works] at hwork
    cases hwork
  · intro _ state input next _ hinvariant hstep id work hwork
    cases hfound : state.works[id]? with
    | none =>
        rcases new_of_step hstep hfound hwork with ⟨key, kind, payload, commitment, hkey, rfl⟩
        exact hnew id key kind payload commitment _ hkey
    | some current =>
        have hcurrent := hinvariant id current hfound
        rcases work_of_step hstep hfound with ⟨found, hafter, hsame | hchanged⟩
        · rw [hwork, Option.some.injEq] at hafter
          rw [hafter, hsame]
          exact hcurrent
        · rw [hwork, Option.some.injEq] at hafter
          rw [hafter]
          exact hchange state input id current found hcurrent hchanged

end Works

end TsnProtocol.Receiver.Changes
