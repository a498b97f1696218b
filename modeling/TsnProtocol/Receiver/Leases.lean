import TsnProtocol.Receiver.Changes

/-!
Leases of works: a work is leased exactly in the status that says so, every change makes the
next version, and no update is applied to a work that has moved on.
-/

namespace TsnProtocol.Receiver.Leases

open Lib.Checked
open Lib.Documents
open Lib.JsonData
open Lib.Transition
open Receiver.WorkContract
open Receiver.Store
open Receiver.Changes

variable {runtime : Runtime} {state next : State} {input : Input} {id : String}
  {before after : ReceiverWork} {history : List (State × Input)}

section Correspondence

/-- Leases and status of a work agree. -/
structure LeaseMatches (work : ReceiverWork) : Prop where
  node : work.nodeLease.isSome ↔ work.status = .nodeVerifying
  cranker : work.crankerLease.isSome ↔ work.status = .crankerLeased

theorem leaseMatches_received {key : String} {kind : WorkKind} {payload : Json}
    {commitment : String} {now : Nat} :
    LeaseMatches (receivedWork key kind payload commitment now) := by
  constructor <;> simp [receivedWork]

theorem LeaseMatches.leaseOf {actor : Actor} {lease : Lease} (hmatches : LeaseMatches before)
    (hlease : leaseOf actor before = some lease) : before.status = held actor := by
  cases actor with
  | node => exact hmatches.node.mp (Option.isSome_iff_exists.mpr ⟨lease, hlease⟩)
  | cranker => exact hmatches.cranker.mp (Option.isSome_iff_exists.mpr ⟨lease, hlease⟩)

theorem LeaseMatches.nodeLease_none (hmatches : LeaseMatches before)
    (hstatus : before.status ≠ .nodeVerifying) : before.nodeLease = none := by
  rw [← Option.not_isSome_iff_eq_none, hmatches.node]
  exact hstatus

theorem LeaseMatches.crankerLease_none (hmatches : LeaseMatches before)
    (hstatus : before.status ≠ .crankerLeased) : before.crankerLease = none := by
  rw [← Option.not_isSome_iff_eq_none, hmatches.cranker]
  exact hstatus

theorem leaseMatches_change (hmatches : LeaseMatches before)
    (hchange : Change runtime state input id before after) : LeaseMatches after := by
  cases hchange with
  | @requeued actor =>
      cases actor <;> constructor <;> simp [Store.requeued, queued]
  | @leased index call =>
      rename_i hqueued
      have hnode : before.nodeLease = none :=
        hmatches.nodeLease_none (by rw [hqueued]; cases call.actor <;> nofun)
      have hcranker : before.crankerLease = none :=
        hmatches.crankerLease_none (by rw [hqueued]; cases call.actor <;> nofun)
      cases call.actor <;> constructor <;> simp [Store.leased, hnode, hcranker]
  | authorized _ _ _ _ _ _ _ _ => exact ⟨hmatches.node, hmatches.cranker⟩
  | @reported params lease =>
      rename_i hlease _ _ _ _ hallowed
      have hheld := hmatches.leaseOf hlease
      cases hactor : params.actor with
      | node =>
          rw [hactor] at hheld hallowed
          have hcranker : before.crankerLease = none :=
            hmatches.crankerLease_none (by rw [hheld]; nofun)
          simp only [allowed, List.mem_cons, List.not_mem_nil, or_false] at hallowed
          rcases hallowed with hstatus | hstatus <;> constructor <;>
            simp [Store.reported, hactor, reportedByNode, hcranker, hstatus]
      | cranker =>
          rw [hactor] at hheld hallowed
          have hnode : before.nodeLease = none :=
            hmatches.nodeLease_none (by rw [hheld]; nofun)
          simp only [allowed, List.mem_cons, List.not_mem_nil, or_false] at hallowed
          rcases hallowed with hstatus | hstatus | hstatus <;> constructor <;>
            simp [Store.reported, hactor, reportedByCranker, hnode, hstatus]
  | retried _ _ _ _ _ _ _ => constructor <;> simp [Store.retried]

theorem leaseMatches_of_run (hrun : Run (step runtime) State.initial history state)
    {work : ReceiverWork} (hwork : state.works[id]? = some work) : LeaseMatches work :=
  works_of_run (fun _ _ _ _ _ _ _ => leaseMatches_received)
    (fun _ _ _ _ _ hmatches hchange => leaseMatches_change hmatches hchange) hrun id work hwork

/-- A work that no operation changes any more. -/
def Ended (work : ReceiverWork) : Prop :=
  work.status ∈ [.submitted, .confirmed, .failed] ∨
    work.status = .rejected ∧ work.kind ≠ .settlement

theorem Ended.status_ne (hended : Ended before) (actor : Actor) :
    before.status ≠ queued actor ∧ before.status ≠ held actor := by
  simp only [Ended, List.mem_cons, List.not_mem_nil, or_false] at hended
  rcases hended with (hstatus | hstatus | hstatus) | ⟨hstatus, -⟩ <;> rw [hstatus] <;>
    cases actor <;> exact ⟨by nofun, by nofun⟩

theorem not_change_of_ended (hmatches : LeaseMatches before) (hended : Ended before) :
    ¬ Change runtime state input id before after := by
  intro hchange
  cases hchange with
  | requeued _ hheld => exact (hended.status_ne _).2 hheld
  | leased _ _ _ hqueued => exact (hended.status_ne _).1 hqueued
  | authorized _ _ hleased => exact (hended.status_ne .cranker).2 hleased
  | reported _ _ _ hlease => exact (hended.status_ne _).2 (hmatches.leaseOf hlease)
  | retried _ _ _ hkind hrejected =>
      rcases hended with hstatus | ⟨-, hother⟩
      · rw [hrejected] at hstatus
        simp at hstatus
      · exact hother hkind

end Correspondence

section Versions

theorem version_change (hchange : Change runtime state input id before after) :
    after.stateVersion = before.stateVersion + 1 := by
  cases hchange with
  | requeued | authorized | retried => rfl
  | @leased index call => cases hactor : call.actor <;> simp only [Store.leased]
  | @reported params => cases hactor : params.actor <;> simp only [Store.reported, hactor] <;> rfl

/-- What no change touches. -/
theorem kept_change (hchange : Change runtime state input id before after) :
    after.id = before.id ∧ after.kind = before.kind ∧
      after.payloadCommitment = before.payloadCommitment ∧
      after.receivedAt = before.receivedAt ∧ before.retryHistory <+: after.retryHistory := by
  cases hchange with
  | requeued | authorized => exact ⟨rfl, rfl, rfl, rfl, List.prefix_rfl⟩
  | retried => exact ⟨rfl, rfl, rfl, rfl, List.prefix_append ..⟩
  | @leased index call =>
      cases call.actor <;> exact ⟨rfl, rfl, rfl, rfl, List.prefix_rfl⟩
  | @reported params =>
      simp only [Store.reported]
      cases params.actor <;> exact ⟨rfl, rfl, rfl, rfl, List.prefix_rfl⟩

/-- Every step leaves a work as it is or makes the next version of it. -/
theorem version_step (hstep : step runtime state input = .ok next)
    (hbefore : state.works[id]? = some before) :
    ∃ after, next.works[id]? = some after ∧
      (after = before ∨ after.stateVersion = before.stateVersion + 1) := by
  rcases work_of_step hstep hbefore with ⟨after, hafter, hsame | hchange⟩
  · exact ⟨after, hafter, .inl hsame⟩
  · exact ⟨after, hafter, .inr (version_change hchange)⟩

theorem version_new (hstep : step runtime state input = .ok next)
    (hbefore : state.works[id]? = none) (hafter : next.works[id]? = some after) :
    after.stateVersion = 1 := by
  rcases new_of_step hstep hbefore hafter with ⟨key, kind, payload, commitment, -, rfl⟩
  rfl

end Versions

section Updates

/-- The work an update that is to be applied was presented for, and the version it makes. A
report that repeats the accepted one is answered and not applied. -/
def presented (runtime : Runtime) (state : State) (input : Input) : Option (String × Nat) :=
  match input.operation with
  | .attachCrankerAuthorization params => some (params.id, params.expectedVersion + 1)
  | .retrySettlementSnapshot params => some (params.id, params.expectedVersion + 1)
  | .transition params =>
      if state.works[params.id]?.any (isReplay runtime.conversions params) then none
      else some (params.id, params.expectedVersion + 1)
  | _ => none

/-- An update comes from the holder of the lease, in time, at the version the work has. -/
def UpToDate (input : Input) (work : ReceiverWork) : Prop :=
  match input.operation with
  | .attachCrankerAuthorization params =>
      work.stateVersion = params.expectedVersion ∧
        ∃ lease, work.crankerLease = some lease ∧ lease.owner = params.owner ∧
          input.now < lease.expiresAt
  | .transition params =>
      work.stateVersion = params.expectedVersion ∧
        ∃ lease, leaseOf params.actor work = some lease ∧ lease.owner = params.owner ∧
          input.now < lease.expiresAt
  | .retrySettlementSnapshot params => work.stateVersion = params.expectedVersion
  | _ => True

theorem upToDate_of_change (hchange : Change runtime state input id before after) :
    UpToDate input before := by
  cases hchange with
  | requeued hinput | leased hinput => simp only [UpToDate, hinput]
  | authorized hinput _ _ hlease howner hversion hlive =>
      simp only [UpToDate, hinput]
      exact ⟨hversion, _, hlease, howner, hlive⟩
  | reported hinput _ _ hlease howner hlive hversion =>
      simp only [UpToDate, hinput]
      exact ⟨hversion, _, hlease, howner, hlive⟩
  | retried hinput _ hversion =>
      simp only [UpToDate, hinput]
      exact hversion

/-- An update that is applied changes the work it was presented for. -/
theorem changed_of_presented {number : Nat} (hstep : step runtime state input = .ok next)
    (hpresented : presented runtime state input = some (id, number)) :
    ∃ current work, state.works[id]? = some current ∧ current.stateVersion + 1 = number ∧
      Change runtime state input id current work ∧
        next.works = state.works.insert id work := by
  rcases input with ⟨now, operation⟩
  cases operation with
  | receive | beginLease | advanceLease => cases hpresented
  | attachCrankerAuthorization params =>
      cases hpresented
      simp only [step, bind_eq_ok, pure_eq_ok] at hstep
      rcases hstep with ⟨works, hattach, rfl⟩
      rcases @changed_of_attach runtime state ⟨now, .attachCrankerAuthorization params⟩ _ _ rfl
        hattach
        with ⟨current, work, hstored, hversion, hchange, rfl⟩
      exact ⟨current, work, hstored, by rw [hversion], hchange, rfl⟩
  | retrySettlementSnapshot params =>
      cases hpresented
      simp only [step, bind_eq_ok, pure_eq_ok] at hstep
      rcases hstep with ⟨works, hretry, rfl⟩
      rcases @changed_of_retry runtime state ⟨now, .retrySettlementSnapshot params⟩ _ _ rfl
        hretry
        with ⟨current, funding, hstored, hversion, hchange, rfl⟩
      exact ⟨current, _, hstored, by rw [hversion], hchange, rfl⟩
  | transition params =>
      simp only [step, bind_eq_ok, pure_eq_ok] at hstep
      rcases hstep with ⟨works, htransition, rfl⟩
      simp only [presented] at hpresented
      split at hpresented
      · cases hpresented
      · rename_i hreplay
        cases hpresented
        rcases @changed_of_transition runtime state ⟨now, .transition params⟩ _ _ rfl htransition
          with ⟨current, hstored, ⟨hagain, -⟩ | ⟨-, hversion, work, hchange, rfl⟩⟩
        · rw [hstored, Option.any_some] at hreplay
          exact absurd hagain hreplay
        · exact ⟨current, work, hstored, by rw [hversion], hchange, rfl⟩

/-- The version of the work under an id, none being 0. -/
def versionOf (state : State) (id : String) : Nat :=
  (state.works[id]?.map ReceiverWork.stateVersion).getD 0

theorem versionOf_le_next (hstep : step runtime state input = .ok next) (id : String) :
    versionOf state id ≤ versionOf next id := by
  cases hbefore : state.works[id]? with
  | none =>
      rw [versionOf, hbefore]
      exact Nat.zero_le _
  | some before =>
      rcases version_step hstep hbefore with ⟨after, hafter, hsame | hversion⟩
      · rw [versionOf, versionOf, hbefore, hafter, hsame]
      · rw [versionOf, versionOf, hbefore, hafter]
        simp only [Option.map_some, Option.getD_some, hversion]
        omega

theorem guarded_presented :
    Guarded (step runtime) versionOf (presented runtime) fun _ => True where
  monotone := fun _ _ _ _ hstep id => versionOf_le_next hstep id
  fresh := by
    intro state input next id number _ hstep hpresented
    rcases changed_of_presented hstep hpresented with
      ⟨current, work, hstored, hnumber, hchange, hworks⟩
    have hversion := version_change hchange
    rw [versionOf, versionOf, hstored, hworks, get_insert_self]
    simp only [Option.map_some, Option.getD_some, hversion]
    omega

/-- No two updates are applied to the same version of a work. -/
theorem nodup_presented (hrun : Run (step runtime) State.initial history state) :
    (tickets (presented runtime) history).Nodup :=
  (nodup_tickets guarded_presented hrun fun _ _ => trivial).1

end Updates

section Results

theorem unchanged_of_replay {params : TransitionParams}
    (hinput : input.operation = .transition params)
    (hstep : step runtime state input = .ok next)
    (hpresented : presented runtime state input = none) : next.works = state.works := by
  rcases input with ⟨now, operation⟩
  cases hinput
  simp only [step, bind_eq_ok, pure_eq_ok] at hstep
  rcases hstep with ⟨works, htransition, rfl⟩
  rcases @changed_of_transition runtime state ⟨now, .transition params⟩ _ _ rfl htransition
    with ⟨current, hstored, ⟨-, hsame⟩ | ⟨hfirst, -⟩⟩
  · exact hsame
  · simp only [presented, hstored, Option.any_some, hfirst, Bool.false_eq_true, if_false]
      at hpresented
    cases hpresented

theorem retried_of_step {params : RetryParams}
    (hinput : input.operation = .retrySettlementSnapshot params)
    (hstep : step runtime state input = .ok next) :
    ∃ current funding, state.works[params.id]? = some current ∧
      next.works = state.works.insert params.id
        (retried current funding params.requestedBy input.now) := by
  rcases input with ⟨now, operation⟩
  cases hinput
  simp only [step, bind_eq_ok, pure_eq_ok] at hstep
  rcases hstep with ⟨works, hretry, rfl⟩
  rcases @changed_of_retry runtime state ⟨now, .retrySettlementSnapshot params⟩ _ _ rfl hretry
    with ⟨current, funding, hstored, -, -, rfl⟩
  exact ⟨current, funding, hstored, rfl⟩

/-- In every state that an interleaving reaches, leases and status agree; every step makes
the next version of what it changes; an update is applied only to the work it was presented
for, up to date, and to each version once; and a retry keeps the work's identity and adds to
its history. -/
theorem lease_state_machine (hrun : Run (step runtime) State.initial history state) :
    (∀ (id : String) (work : ReceiverWork), state.works[id]? = some work →
        (work.nodeLease.isSome ↔ work.status = .nodeVerifying) ∧
        (work.crankerLease.isSome ↔ work.status = .crankerLeased)) ∧
      (∀ (input : Input) (next : State) (id : String) (before : ReceiverWork),
        step runtime state input = .ok next → state.works[id]? = some before →
          ∃ after, next.works[id]? = some after ∧
            (after = before ∨ after.stateVersion = before.stateVersion + 1)) ∧
      (∀ (input : Input) (next : State) (id : String) (after : ReceiverWork),
        step runtime state input = .ok next → state.works[id]? = none →
          next.works[id]? = some after → after.stateVersion = 1) ∧
      (∀ (input : Input) (next : State) (id : String) (number : Nat),
        step runtime state input = .ok next →
          presented runtime state input = some (id, number) →
            ∃ current, state.works[id]? = some current ∧ UpToDate input current) ∧
      (∀ (input : Input) (next : State) (params : TransitionParams),
        input.operation = .transition params → step runtime state input = .ok next →
          presented runtime state input = none → next.works = state.works) ∧
      (tickets (presented runtime) history).Nodup ∧
      ∀ (input : Input) (next : State) (params : RetryParams),
        input.operation = .retrySettlementSnapshot params →
          step runtime state input = .ok next → ∃ current work entry,
            state.works[params.id]? = some current ∧
            next.works = state.works.insert params.id work ∧ work.id = current.id ∧
            work.kind = current.kind ∧ work.payload = current.payload ∧
            work.payloadCommitment = current.payloadCommitment ∧
            work.retryHistory = current.retryHistory ++ [entry] := by
  refine ⟨?_, ?_, ?_, ?_, ?_, nodup_presented hrun, ?_⟩
  · intro id work hwork
    have hmatches := leaseMatches_of_run hrun hwork
    exact ⟨hmatches.node, hmatches.cranker⟩
  · intro input next id before hstep hbefore
    exact version_step hstep hbefore
  · intro input next id after hstep hbefore hafter
    exact version_new hstep hbefore hafter
  · intro input next id number hstep hpresented
    rcases changed_of_presented hstep hpresented with ⟨current, work, hstored, -, hchange, -⟩
    exact ⟨current, hstored, upToDate_of_change hchange⟩
  · intro input next params hinput hstep hpresented
    exact unchanged_of_replay hinput hstep hpresented
  · intro input next params hinput hstep
    rcases retried_of_step hinput hstep with ⟨current, funding, hstored, hnext⟩
    exact ⟨current, _, _, hstored, hnext, rfl, rfl, rfl, rfl, rfl⟩

end Results

section Sample

/-- Built-ins that are easy to evaluate. -/
def sampleRuntime : Runtime where
  conversions :=
    { numberText := fun _ => "0"
      numberOf := fun _ => none
      quote := fun text => text
      localeLe := fun left right => left ≤ right }
  sha256 := fun text => text
  verifySender := fun _ _ _ => true
  encryptPayloadForNode := fun nonce _ => .obj [("nonce", .str nonce)]
  nodeKeyId := "key"
  verifyNode := fun _ _ => true
  isDate := fun _ => true
  isoText := fun time => toString time

def tinOperation : ReceiveInput where
  id := some "operation"
  kind := .tinOperation
  payload := .obj [("intentType", .str "CREATE_TIN_V1")]
  fresh := ⟨"fresh", by decide⟩
  nonce := "nonce"

/-- A work is received, leased by a Node, abandoned, and leased by another; latest first. -/
def sampleOperations : List Input :=
  [⟨70000, .advanceLease 1⟩, ⟨70000, .advanceLease 1⟩, ⟨70000, .advanceLease 1⟩,
    ⟨70000, .advanceLease 1⟩, ⟨70000, .beginLease .node "second" []⟩,
    ⟨2000, .advanceLease 0⟩, ⟨2000, .advanceLease 0⟩, ⟨2000, .advanceLease 0⟩,
    ⟨2000, .beginLease .node "first" []⟩, ⟨1000, .receive tinOperation⟩]

theorem lease_state_machine_sample : ∃ history state work,
    Run (step sampleRuntime) State.initial history state ∧
      state.works["operation"]? = some work ∧ work.status = .nodeVerifying ∧
        work.stateVersion = 4 ∧ work.nodeLease.isSome := by
  have hreaches : reaches (step sampleRuntime) State.initial sampleOperations
      (fun _ state => state.works["operation"]?.any fun work =>
        work.status = .nodeVerifying ∧ work.stateVersion = 4) = true := by
    decide +kernel
  rcases exists_run_of_reaches hreaches with ⟨history, state, hrun, hholds⟩
  rcases (Option.any_eq_true _ _).mp hholds with ⟨work, hstored, hwork⟩
  rw [decide_eq_true_eq] at hwork
  rcases lease_state_machine hrun with ⟨hmatches, -⟩
  exact ⟨history, state, work, hrun, hstored, hwork.1, hwork.2,
    (hmatches "operation" work hstored).1.mpr hwork.1⟩

end Sample

end TsnProtocol.Receiver.Leases
