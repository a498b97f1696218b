import TsnProtocol.Receiver.Leases

/-!
Settlements and their funding: each funding work has one settlement, which is leased only
once the funding is confirmed, and a work is received once.
-/

namespace TsnProtocol.Receiver.FundingGate

open Lib.Checked
open Lib.Documents
open Lib.JsonData
open Lib.Transition
open Receiver.WorkContract
open Receiver.Store
open Receiver.Changes
open Receiver.Leases

variable {runtime : Runtime} {state next : State} {input : Input} {id : String}
  {before after : ReceiverWork} {works : Works} {history : List (State × Input)}

section Persistence

theorem payload_change (hchange : Change runtime state input id before after)
    (hkind : before.kind ≠ .authorizedFunding) : after.payload = before.payload := by
  cases hchange with
  | requeued | authorized | retried => rfl
  | @leased index call => cases call.actor <;> rfl
  | @reported params =>
      simp only [Store.reported]
      cases params.actor
      · simp only [reportedByNode, if_neg hkind]
      · rfl

/-- A work stays under its id, of its kind and with its commitment. -/
theorem persist_of_step (hstep : step runtime state input = .ok next)
    (hbefore : state.works[id]? = some before) :
    ∃ after, next.works[id]? = some after ∧ after.id = before.id ∧ after.kind = before.kind ∧
      after.payloadCommitment = before.payloadCommitment ∧
        (before.kind ≠ .authorizedFunding → after.payload = before.payload) := by
  rcases work_of_step hstep hbefore with ⟨after, hafter, rfl | hchange⟩
  · exact ⟨after, hafter, rfl, rfl, rfl, fun _ => rfl⟩
  · rcases kept_change hchange with ⟨hid, hkind, hcommitment, -, -⟩
    exact ⟨after, hafter, hid, hkind, hcommitment, payload_change hchange⟩

end Persistence

section Links

/-- The funding work a settlement refers to. -/
structure FundedBy (works : Works) (settlement funding : ReceiverWork) : Prop where
  intent : settlement.payload.get "intentId" = some (.str funding.id)
  stored : works[funding.id]? = some funding
  kind : funding.kind = .authorizedFunding

/-- A settlement of the funding work under an id. -/
structure Settles (id : String) (settlement : ReceiverWork) : Prop where
  kind : settlement.kind = .settlement
  intent : settlement.payload.get "intentId" = some (.str id)

/-- Funding works and settlements belong together. -/
structure Linked (runtime : Runtime) (works : Works) : Prop where
  funding : ∀ id work, works[id]? = some work → work.kind = .authorizedFunding →
    work.id = id ∧ id ≠ "" ∧ ∃ settlement,
      works[settlementId runtime id work.payloadCommitment]? = some settlement ∧
        Settles id settlement
  settlement : ∀ id work, works[id]? = some work → work.kind = .settlement →
    ∃ funding, FundedBy works work funding ∧
      id = settlementId runtime funding.id funding.payloadCommitment

theorem linked_initial : Linked runtime State.initial.works := by
  constructor <;> (intro id work hwork; rw [initial_works] at hwork; cases hwork)

theorem settles_settlementOf {key : String} {fresh : FreshId} {funding : ReceiverWork}
    {now : Nat} : Settles funding.id (settlementOf runtime key fresh funding now) where
  kind := rfl
  intent := rfl

theorem Settles.persist {settlement : ReceiverWork} {key : String}
    (hstep : step runtime state input = .ok next)
    (hstored : state.works[key]? = some settlement) (hsettles : Settles id settlement) :
    ∃ after, next.works[key]? = some after ∧ Settles id after := by
  rcases persist_of_step hstep hstored with ⟨after, hafter, -, hkind, -, hpayload⟩
  have hother : settlement.kind ≠ .authorizedFunding := by
    rw [hsettles.kind]
    nofun
  exact ⟨after, hafter, hkind.trans hsettles.kind, by rw [hpayload hother, hsettles.intent]⟩

theorem FundedBy.persist {settlement later funding : ReceiverWork}
    (hstep : step runtime state input = .ok next) (hfunded : FundedBy state.works settlement funding)
    (hpayload : later.payload = settlement.payload) :
    ∃ after, FundedBy next.works later after ∧ after.id = funding.id ∧
      after.payloadCommitment = funding.payloadCommitment := by
  rcases persist_of_step hstep hfunded.stored with ⟨after, hafter, hid, hkind, hcommitment, -⟩
  refine ⟨after, ⟨?_, ?_, hkind.trans hfunded.kind⟩, hid, hcommitment⟩
  · rw [hpayload, hid]
    exact hfunded.intent
  · rw [hid]
    exact hafter

/-- A work that was not there is a TIN operation, or comes with its counterpart. -/
theorem received_of_new (hlinked : Linked runtime state.works)
    (hstep : step runtime state input = .ok next) (hbefore : state.works[id]? = none)
    (hafter : next.works[id]? = some after) :
    after.kind = .tinOperation ∨
      ∃ funding settlement key, funding.id ≠ "" ∧ funding.kind = .authorizedFunding ∧
        key = settlementId runtime funding.id funding.payloadCommitment ∧
        next.works[funding.id]? = some funding ∧ next.works[key]? = some settlement ∧
        Settles funding.id settlement ∧
        (id = funding.id ∧ after = funding ∨ id = key ∧ after = settlement) := by
  have heffect := effect_of_step hstep
  generalize next.works = works at heffect hafter ⊢
  cases heffect with
  | same =>
      rw [hbefore] at hafter
      cases hafter
  | @changed key current work hstored hchange =>
      have hother : id ≠ key := by
        rintro rfl
        rw [hbefore] at hstored
        cases hstored
      rw [get_insert_of_ne hother, hbefore] at hafter
      cases hafter
  | @received received works work hinput hchecked hreceived =>
      cases hreceived with
      | existing =>
          rw [hbefore] at hafter
          cases hafter
      | relinked hstored hcommitment hkind hnew =>
          rcases hlinked.funding _ _ hstored hkind with ⟨-, -, settlement, hsettlement, -⟩
          rw [hcommitment] at hsettlement
          cases hsettlement.symm.trans hnew
      | plain hkind =>
          rcases of_get_insert hafter with ⟨-, rfl⟩ | ⟨-, hstored⟩
          · exact .inl hkind
          · rw [hbefore] at hstored
            cases hstored
      | funded hkind hnew hfree =>
          have hother : (submitted runtime received input.now).id ≠
              linkedId runtime received input.now := by
            intro hsame
            rw [← hsame, get_insert_self] at hfree
            cases hfree
          have hne : (submitted runtime received input.now).id ≠ "" := by
            simp only [submitted, receivedWork]
            exact workId_ne_empty received.id received.fresh
          refine .inr ⟨submitted runtime received input.now,
            settlementOf runtime (linkedId runtime received input.now) received.fresh
              (submitted runtime received input.now) input.now,
            linkedId runtime received input.now, hne, hkind, rfl, ?_, get_insert_self,
            settles_settlementOf, ?_⟩
          · rw [get_insert_of_ne hother, get_insert_self]
          · rcases of_get_insert hafter with ⟨hid, hwork⟩ | ⟨-, hstored⟩
            · exact .inr ⟨hid, hwork⟩
            · rcases of_get_insert hstored with ⟨hid, hwork⟩ | ⟨-, hstored⟩
              · exact .inl ⟨hid, hwork⟩
              · rw [hbefore] at hstored
                cases hstored

theorem linked_step (hlinked : Linked runtime state.works)
    (hstep : step runtime state input = .ok next) : Linked runtime next.works := by
  constructor
  · intro id work hwork hkind
    cases hfound : state.works[id]? with
    | none =>
        rcases received_of_new hlinked hstep hfound hwork with htin | ⟨funding, settlement, key,
          hid, hfunding, rfl, -, hsettlement, hsettles, ⟨rfl, rfl⟩ | ⟨rfl, rfl⟩⟩
        · rw [hkind] at htin
          cases htin
        · exact ⟨rfl, hid, settlement, hsettlement, hsettles⟩
        · rw [hsettles.kind] at hkind
          cases hkind
    | some current =>
        rcases persist_of_step hstep hfound with ⟨after, hafter, hid, hsame, hcommitment, -⟩
        rw [hwork, Option.some.injEq] at hafter
        subst hafter
        rcases hlinked.funding id current hfound (hsame ▸ hkind) with
          ⟨hkey, hne, settlement, hsettlement, hsettles⟩
        rw [hcommitment]
        exact ⟨hid.trans hkey, hne, hsettles.persist hstep hsettlement⟩
  · intro id work hwork hkind
    cases hfound : state.works[id]? with
    | none =>
        rcases received_of_new hlinked hstep hfound hwork with htin | ⟨funding, settlement, key,
          hid, hfunding, hkey, hstored, hsettlement, hsettles, ⟨rfl, rfl⟩ | ⟨rfl, rfl⟩⟩
        · rw [hkind] at htin
          cases htin
        · rw [hkind] at hfunding
          cases hfunding
        · exact ⟨funding, ⟨hsettles.intent, hstored, hfunding⟩, hkey⟩
    | some current =>
        rcases persist_of_step hstep hfound with ⟨after, hafter, -, hsame, -, hpayload⟩
        rw [hwork, Option.some.injEq] at hafter
        subst hafter
        have hbefore : current.kind = .settlement := hsame ▸ hkind
        rcases hlinked.settlement id current hfound hbefore with ⟨funding, hfunded, hkey⟩
        have hother : current.kind ≠ .authorizedFunding := by
          rw [hbefore]
          nofun
        rcases hfunded.persist hstep (hpayload hother) with ⟨later, hlater, hid, hcommitment⟩
        exact ⟨later, hlater, by rw [hid, hcommitment, hkey]⟩

/-- A funding work has exactly one settlement. -/
theorem existsUnique_settlement {funding : ReceiverWork} (hlinked : Linked runtime works)
    (hstored : works[id]? = some funding) (hkind : funding.kind = .authorizedFunding) :
    ∃! key : String, ∃ settlement, works[key]? = some settlement ∧ Settles id settlement := by
  rcases hlinked.funding id funding hstored hkind with ⟨hid, -, settlement, hsettlement, hsettles⟩
  refine ⟨_, ⟨settlement, hsettlement, hsettles⟩, ?_⟩
  rintro key ⟨other, hother, hagain⟩
  rcases hlinked.settlement key other hother hagain.kind with ⟨found, hfound, rfl⟩
  have hsame : found.id = id := by
    simpa using hfound.intent.symm.trans hagain.intent
  have hwork : found = funding := by
    have hthere := hfound.stored
    rw [hsame, hstored, Option.some.injEq] at hthere
    exact hthere.symm
  rw [hsame, hwork]

end Links

section Gate

/-- Leases and status of every work agree. -/
def Matched (works : Works) : Prop :=
  ∀ (id : String) (work : ReceiverWork), works[id]? = some work → LeaseMatches work

def ConfirmedFor (works : Works) (settlement : ReceiverWork) : Prop :=
  ∃ funding, FundedBy works settlement funding ∧ funding.status = .confirmed

theorem ConfirmedFor.persist {settlement later : ReceiverWork}
    (hmatches : Matched state.works)
    (hstep : step runtime state input = .ok next)
    (hconfirmed : ConfirmedFor state.works settlement)
    (hpayload : later.payload = settlement.payload) : ConfirmedFor next.works later := by
  rcases hconfirmed with ⟨funding, hfunded, hstatus⟩
  rcases work_of_step hstep hfunded.stored with ⟨after, hafter, rfl | hchange⟩
  · exact ⟨after, ⟨hpayload ▸ hfunded.intent, hafter, hfunded.kind⟩, hstatus⟩
  · have hended : Ended funding := .inl (by simp [hstatus])
    exact absurd hchange (not_change_of_ended (hmatches _ _ hfunded.stored) hended)

/-- What was read of a work still tells its kind, and the payload of a settlement. -/
def Tracks (works : Works) (entry : String × ReceiverWork) : Prop :=
  ∃ work, works[entry.1]? = some work ∧ work.kind = entry.2.kind ∧
    (work.kind = .settlement → work.payload = entry.2.payload)

/-- A work that can be leased: a settlement has confirmed funding. -/
def Cleared (works : Works) (id : String) : Prop :=
  ∃ work, works[id]? = some work ∧ (work.kind = .settlement → ConfirmedFor works work)

theorem Tracks.persist {entry : String × ReceiverWork}
    (hstep : step runtime state input = .ok next) (htracks : Tracks state.works entry) :
    Tracks next.works entry := by
  rcases htracks with ⟨work, hstored, hkind, hpayload⟩
  rcases persist_of_step hstep hstored with ⟨after, hafter, -, hsame, -, hkept⟩
  refine ⟨after, hafter, hsame.trans hkind, ?_⟩
  intro hsettlement
  have hbefore : work.kind = .settlement := hsame ▸ hsettlement
  rw [hkept (by rw [hbefore]; nofun), hpayload hbefore]

theorem Cleared.persist
    (hmatches : Matched state.works)
    (hstep : step runtime state input = .ok next) (hcleared : Cleared state.works id) :
    Cleared next.works id := by
  rcases hcleared with ⟨work, hstored, hconfirmed⟩
  rcases persist_of_step hstep hstored with ⟨after, hafter, -, hsame, -, hkept⟩
  refine ⟨after, hafter, ?_⟩
  intro hsettlement
  have hbefore : work.kind = .settlement := hsame ▸ hsettlement
  exact (hconfirmed hbefore).persist hmatches hstep (hkept (by rw [hbefore]; nofun))

/-- What a call has read and found out is still so. -/
def CallReady (works : Works) (call : LeaseCall) : Prop :=
  match call.phase with
  | .requeueing _ | .finished _ => True
  | .selecting candidates => ∀ entry ∈ candidates, Tracks works entry
  | .taking id candidates => Cleared works id ∧ ∀ entry ∈ candidates, Tracks works entry

theorem CallReady.persist {call : LeaseCall}
    (hmatches : Matched state.works)
    (hstep : step runtime state input = .ok next) (hready : CallReady state.works call) :
    CallReady next.works call := by
  rcases call with ⟨actor, owner, kinds, phase⟩
  cases phase with
  | requeueing | finished => trivial
  | selecting candidates =>
      intro entry hentry
      exact (hready entry hentry).persist hstep
  | taking id candidates =>
      refine ⟨hready.1.persist hmatches hstep, ?_⟩
      intro entry hentry
      exact (hready.2 entry hentry).persist hstep

theorem tracks_candidates {actor : Actor} {entry : String × ReceiverWork}
    (hentry : entry ∈ candidatesOf actor works) : Tracks works entry := by
  rw [candidatesOf, List.mem_insertionSort _] at hentry
  exact ⟨entry.2, (mem_query hentry).1, rfl, fun _ => rfl⟩

/-- The look at the funding work, outside the transaction, is right about it. -/
theorem cleared_of_admitted {actor : Actor} {data : ReceiverWork}
    (hlinked : Linked runtime works) (htracks : Tracks works (id, data))
    (hadmitted : admitted runtime actor data works = true) : Cleared works id := by
  rcases htracks with ⟨work, hstored, hkind, hpayload⟩
  refine ⟨work, hstored, ?_⟩
  intro hsettlement
  rcases hlinked.settlement id work hstored hsettlement with ⟨funding, hfunded, -⟩
  refine ⟨funding, hfunded, ?_⟩
  have hintent : data.payload.get "intentId" = some (.str funding.id) :=
    hpayload hsettlement ▸ hfunded.intent
  have hdata : data.kind = .settlement := hkind.symm.trans hsettlement
  have hne : funding.id ≠ "" := (hlinked.funding _ _ hfunded.stored hfunded.kind).2.1
  have hfound : isConfirmedFunding works[funding.id]? = true := by
    cases actor with
    | node =>
        simp only [admitted, hdata, hintent, textOf, Json.toText, Bool.and_eq_true] at hadmitted
        exact hadmitted.2
    | cranker =>
        simp only [admitted, hdata, hintent, textOf, Json.toText, Option.any_some, Json.truthy,
          ne_eq, hne, not_false_eq_true, decide_true, Bool.not_true, Bool.false_or] at hadmitted
        exact hadmitted
  rw [hfunded.stored, isConfirmedFunding, Option.any_some, decide_eq_true_eq] at hfound
  exact hfound.2

theorem callReady_advance {call : LeaseCall} {now : Nat} (hlinked : Linked runtime works)
    (hready : CallReady works call) : CallReady works (advance runtime now works call).2 := by
  rcases call with ⟨actor, owner, kinds, phase⟩
  cases phase with
  | requeueing stale =>
      cases stale with
      | nil => exact fun entry hentry => tracks_candidates hentry
      | cons entry stale => trivial
  | selecting candidates =>
      cases candidates with
      | nil => trivial
      | cons entry candidates =>
          rcases List.forall_mem_cons.mp hready with ⟨hfirst, hrest⟩
          simp only [advance]
          split
          · rename_i hselected
            rw [Bool.and_eq_true] at hselected
            exact ⟨cleared_of_admitted hlinked hfirst hselected.2, hrest⟩
          · exact hrest
  | taking id candidates =>
      simp only [advance]
      split
      · trivial
      · exact hready.2
  | finished work => trivial

/-- Settlements that have moved on have confirmed funding, and so have those that calls are
about to lease. -/
structure Gated (runtime : Runtime) (state : State) : Prop where
  linked : Linked runtime state.works
  confirmed : ∀ (id : String) (work : ReceiverWork), state.works[id]? = some work →
    work.kind = .settlement → work.status ≠ .received →
      ConfirmedFor state.works work
  ready : ∀ call ∈ state.calls, CallReady state.works call

/-- A settlement that leaves the status it was received in is leased, by a call that has
looked at its funding. -/
theorem confirmed_of_change (hgated : Gated runtime state) (hmatches : LeaseMatches before)
    (hstored : state.works[id]? = some before) (hkind : before.kind = .settlement)
    (hchange : Change runtime state input id before after)
    (hstatus : after.status ≠ .received) : ConfirmedFor state.works before := by
  by_cases hmoved : before.status = .received
  · cases hchange with
    | @requeued actor _ _ hheld =>
        rw [hmoved] at hheld
        cases actor <;> cases hheld
    | leased hinput hcall hphase hqueued =>
        have hready := hgated.ready _ (List.mem_of_getElem? hcall)
        simp only [CallReady, hphase] at hready
        rcases hready.1 with ⟨work, hwork, hconfirmed⟩
        rw [hstored, Option.some.injEq] at hwork
        exact hwork ▸ hconfirmed (hwork ▸ hkind)
    | authorized _ _ hleased =>
        rw [hmoved] at hleased
        cases hleased
    | @reported params _ _ _ _ hlease =>
        have hheld := hmatches.leaseOf hlease
        rw [hmoved] at hheld
        cases hactor : params.actor <;> rw [hactor] at hheld <;> cases hheld
    | retried => exact absurd rfl hstatus
  · exact hgated.confirmed id before hstored hkind hmoved

theorem mem_calls_of_step {call : LeaseCall} (hstep : step runtime state input = .ok next)
    (hcall : call ∈ next.calls) :
    call ∈ state.calls ∨ (∃ stale, call.phase = .requeueing stale) ∨
      ∃ earlier ∈ state.calls, call = (advance runtime input.now state.works earlier).2 := by
  rcases input with ⟨now, operation⟩
  cases operation with
  | receive | attachCrankerAuthorization | transition | retrySettlementSnapshot =>
      simp only [step, bind_eq_ok, pure_eq_ok] at hstep
      rcases hstep with ⟨_, -, rfl⟩
      exact .inl hcall
  | beginLease actor owner kinds =>
      cases hstep
      rcases List.mem_append.mp hcall with hearlier | hnew
      · exact .inl hearlier
      · rw [List.mem_singleton] at hnew
        exact .inr (.inl ⟨_, by rw [hnew]; rfl⟩)
  | advanceLease index =>
      simp only [step, bind_eq_ok, okOr_eq_ok, pure_eq_ok] at hstep
      rcases hstep with ⟨earlier, hearlier, rfl⟩
      rcases List.mem_or_eq_of_mem_set hcall with hkept | hadvanced
      · exact .inl hkept
      · exact .inr (.inr ⟨earlier, List.mem_of_getElem? hearlier, hadvanced⟩)

theorem gated_step (hmatches : Matched state.works)
    (hgated : Gated runtime state) (hstep : step runtime state input = .ok next) :
    Gated runtime next where
  linked := linked_step hgated.linked hstep
  confirmed := by
    intro id work hwork hkind hstatus
    cases hfound : state.works[id]? with
    | none =>
        rcases new_of_step hstep hfound hwork with ⟨_, _, _, _, -, rfl⟩
        exact absurd rfl hstatus
    | some current =>
        rcases work_of_step hstep hfound with ⟨after, hafter, hcase⟩
        rw [hwork, Option.some.injEq] at hafter
        subst hafter
        rcases hcase with rfl | hchange
        · exact (hgated.confirmed id work hfound hkind hstatus).persist hmatches hstep rfl
        · have hbefore : current.kind = .settlement := (kept_change hchange).2.1 ▸ hkind
          exact (confirmed_of_change hgated (hmatches id current hfound) hfound hbefore hchange
            hstatus).persist hmatches hstep (payload_change hchange (by rw [hbefore]; nofun))
  ready := by
    intro call hcall
    rcases mem_calls_of_step hstep hcall with hearlier | ⟨stale, hphase⟩ | ⟨earlier, hmem, rfl⟩
    · exact (hgated.ready call hearlier).persist hmatches hstep
    · simp only [CallReady, hphase]
    · exact (callReady_advance hgated.linked (hgated.ready earlier hmem)).persist hmatches hstep

theorem gated_of_run (hrun : Run (step runtime) State.initial history state) :
    Gated runtime state := by
  refine hrun.induct_on (fun _ state => Gated runtime state) ?_ ?_
  · refine ⟨linked_initial, ?_, fun call hcall => absurd hcall List.not_mem_nil⟩
    intro id work hwork
    rw [initial_works] at hwork
    cases hwork
  · intro _ state input next hprefix hgated hstep
    exact gated_step (fun id work hwork => leaseMatches_of_run hprefix hwork) hgated hstep

/-- A lease on a settlement is taken only when its funding is confirmed. -/
theorem confirmed_of_leased (hrun : Run (step runtime) State.initial history state)
    (hstep : step runtime state input = .ok next) (hbefore : state.works[id]? = some before)
    (hafter : next.works[id]? = some after) (hkind : before.kind = .settlement)
    {actor : Actor} (hheld : after.status = held actor) : ConfirmedFor state.works before := by
  have hgated := gated_of_run hrun
  have hmoved : after.status ≠ .received := by
    rw [hheld]
    cases actor <;> nofun
  rcases work_of_step hstep hbefore with ⟨found, hfound, hcase⟩
  rw [hafter, Option.some.injEq] at hfound
  subst hfound
  rcases hcase with rfl | hchange
  · exact hgated.confirmed id after hbefore hkind hmoved
  · exact confirmed_of_change hgated (leaseMatches_of_run hrun hbefore) hbefore hkind hchange
      hmoved

end Gate

section Resubmission

variable {received : ReceiveInput} {now : Nat} {current : ReceiverWork}

theorem createReceivedWork_submitted (hchecked : Submittable runtime received) :
    createReceivedWork runtime received.id received.fresh received.kind
      (durablePayload runtime received) (some (payloadCommitment runtime received.payload)) now =
        .ok (submitted runtime received now) := by
  rw [createReceivedWork, hchecked.durable]
  rfl

/-- A payment under a new id is stored with its settlement. -/
theorem receive_new (hchecked : Submittable runtime received)
    (hfunding : received.kind = .authorizedFunding)
    (hnew : works[(submitted runtime received now).id]? = none)
    (hfree : (works.insert (submitted runtime received now).id
      (submitted runtime received now))[linkedId runtime received now]? = none) :
    receive runtime received now works =
      .ok ((works.insert (submitted runtime received now).id
          (submitted runtime received now)).insert (linkedId runtime received now)
            (settlementOf runtime (linkedId runtime received now) received.fresh
              (submitted runtime received now) now),
        submitted runtime received now) := by
  have hexternal : assertExternalWorkKind received.kind = .ok () :=
    require_eq_ok.mpr hchecked.external
  have hsettlement : createSettlement runtime (linkedId runtime received now) received.fresh
      (submitted runtime received now) now (works.insert (submitted runtime received now).id
        (submitted runtime received now)) = .ok _ :=
    createSettlement_eq_ok.mpr ⟨rfl, hfree, rfl⟩
  rw [linkedId] at hsettlement
  rw [receive, hexternal, hchecked.ingress, createReceivedWork_submitted hchecked]
  simp only [bind, Except.bind, hnew, if_pos hfunding, hsettlement]
  rfl

/-- A submission under an id that is taken is answered with the work there, or is refused. -/
theorem receive_again (hlinked : Linked runtime works)
    (hchecked : Submittable runtime received)
    (hstored : works[(submitted runtime received now).id]? = some current) :
    receive runtime received now works =
      if current.payloadCommitment = payloadCommitment runtime received.payload ∧
          current.kind = received.kind then
        .ok (works, current)
      else .error "IDEMPOTENCY_CONFLICT" := by
  have hexternal : assertExternalWorkKind received.kind = .ok () :=
    require_eq_ok.mpr hchecked.external
  rw [receive, hexternal, hchecked.ingress, createReceivedWork_submitted hchecked]
  have hkind : (submitted runtime received now).kind = received.kind := rfl
  have hcommitment : (submitted runtime received now).payloadCommitment =
      payloadCommitment runtime received.payload := rfl
  simp only [bind, Except.bind, hstored, require, hkind, hcommitment]
  by_cases hsame : current.payloadCommitment = payloadCommitment runtime received.payload ∧
      current.kind = received.kind
  · have hlinkedThere : ¬ (received.kind = .authorizedFunding ∧
        works[settlementId runtime (submitted runtime received now).id
          (payloadCommitment runtime received.payload)]?.isNone = true) := by
      rintro ⟨hfunding, hfree⟩
      rcases hlinked.funding _ _ hstored (hsame.2.trans hfunding) with
        ⟨-, -, settlement, hsettlement, -⟩
      rw [hsame.1] at hsettlement
      cases hsettlement.symm.trans (Option.isNone_iff_eq_none.mp hfree)
    rw [if_pos hsame, if_pos hsame, if_neg hlinkedThere]
    rfl
  · rw [if_neg hsame, if_neg hsame]

/-- Payloads under one commitment have the same fields: no two texts that are hashed have
the same hash. -/
def TellsFields (runtime : Runtime) : Prop :=
  ∀ first second, payloadCommitment runtime first = payloadCommitment runtime second →
    ∀ key, key ∈ first.keys ↔ key ∈ second.keys

/-- The fields by which the payloads of the kinds differ. -/
def HasFieldsOf (kind : WorkKind) (payload : Json) : Prop :=
  match kind with
  | .authorizedFunding => "senderFundingMode" ∈ payload.keys
  | .settlement => "paymentId" ∈ payload.keys ∧ "senderFundingMode" ∉ payload.keys
  | .tinOperation => "paymentId" ∉ payload.keys ∧ "senderFundingMode" ∉ payload.keys

/-- A work is committed to a payload of its kind. -/
def Committed (runtime : Runtime) (work : ReceiverWork) : Prop :=
  ∃ payload, work.payloadCommitment = payloadCommitment runtime payload ∧
    HasFieldsOf work.kind payload

theorem mem_keys_of_get {payload value : Json} {key : String}
    (hvalue : payload.get key = some value) : key ∈ payload.keys := by
  cases payload with
  | obj fields =>
      simp only [Json.get] at hvalue
      rcases List.lookup_eq_some_iff.mp hvalue with ⟨earlier, later, rfl, -⟩
      simp [Json.keys, Json.entries]
  | _ => cases hvalue

theorem mem_keys_of_isText {payload : Json} {key text : String}
    (htext : isText (payload.get key) text = true) : key ∈ payload.keys := by
  cases hvalue : payload.get key with
  | none =>
      rw [hvalue] at htext
      cases htext
  | some value => exact mem_keys_of_get hvalue

theorem not_mem_keys_of_allowlisted {payload : Json} {keys : List String} {context key : String}
    (hallowed : assertAllowlisted payload keys context = .ok ()) (hkey : key ∉ keys) :
    key ∉ payload.keys := by
  rw [assertAllowlisted] at hallowed
  split at hallowed
  · cases hallowed
  · rename_i hnone
    intro hmem
    have hlisted := List.find?_eq_none.mp hnone key hmem
    rw [Bool.not_eq_true', Bool.not_eq_false, List.contains_iff_mem] at hlisted
    exact hkey hlisted

theorem hasFieldsOf_submitted (hchecked : Submittable runtime received) :
    HasFieldsOf received.kind received.payload := by
  cases hkind : received.kind with
  | authorizedFunding =>
      have hingress := hchecked.ingress
      rw [checkIngress, if_pos hkind, assertAuthorizedFundingIngress] at hingress
      simp only [bind_eq_ok, require_eq_ok] at hingress
      rcases hingress with ⟨_, -, _, hmode, -⟩
      exact mem_keys_of_isText hmode
  | settlement => exact absurd hkind hchecked.external
  | tinOperation =>
      have hdurable := hchecked.durable
      rw [durablePayload, hkind] at hdurable
      exact ⟨not_mem_keys_of_allowlisted hdurable (by decide),
        not_mem_keys_of_allowlisted hdurable (by decide)⟩

theorem hasFieldsOf_settlementPayload {funding : ReceiverWork} :
    HasFieldsOf .settlement (settlementPayload funding) := by
  constructor <;> simp [settlementPayload, Json.keys, Json.entries]

theorem kind_of_commitment (htells : TellsFields runtime) (hcommitted : Committed runtime current)
    (hchecked : Submittable runtime received)
    (hsame : current.payloadCommitment = payloadCommitment runtime received.payload) :
    current.kind = received.kind := by
  rcases hcommitted with ⟨payload, hcommitment, hfields⟩
  have hother := hasFieldsOf_submitted hchecked
  have hkeys := htells payload received.payload (hcommitment.symm.trans hsame)
  cases hcurrent : current.kind <;> cases hkind : received.kind <;>
    simp only [hcurrent, hkind, HasFieldsOf, hkeys] at hfields hother ⊢
  · exact absurd hfields hother.2
  · exact absurd hfields hother.2
  · exact absurd hother hfields.2
  · exact absurd hfields.1 hother.1
  · exact absurd hother hfields.2
  · exact absurd hother.1 hfields.1

theorem committed_step (hcommitted : ∀ (id : String) (work : ReceiverWork),
      state.works[id]? = some work → Committed runtime work)
    (hstep : step runtime state input = .ok next) (id : String) (work : ReceiverWork)
    (hwork : next.works[id]? = some work) : Committed runtime work := by
  cases hfound : state.works[id]? with
  | some current =>
      rcases persist_of_step hstep hfound with ⟨after, hafter, -, hkind, hcommitment, -⟩
      rw [hwork, Option.some.injEq] at hafter
      subst hafter
      rcases hcommitted id current hfound with ⟨payload, hpayload, hfields⟩
      exact ⟨payload, hcommitment.trans hpayload, hkind ▸ hfields⟩
  | none =>
      have heffect := effect_of_step hstep
      generalize next.works = works at heffect hwork
      cases heffect with
      | same =>
          rw [hfound] at hwork
          cases hwork
      | @changed key current after hstored hchange =>
          rcases of_get_insert hwork with ⟨rfl, -⟩ | ⟨-, hthere⟩
          · rw [hfound] at hstored
            cases hstored
          · rw [hfound] at hthere
            cases hthere
      | @received received works answer hinput hchecked hreceived =>
          have hnew : Committed runtime (submitted runtime received input.now) :=
            ⟨received.payload, rfl, hasFieldsOf_submitted hchecked⟩
          have hsettlement {key : String} {fresh : FreshId} {funding : ReceiverWork} :
              Committed runtime (settlementOf runtime key fresh funding input.now) :=
            ⟨settlementPayload funding, rfl, hasFieldsOf_settlementPayload⟩
          have hold {found : ReceiverWork} (hthere : state.works[id]? = some found) :
              Committed runtime found := hcommitted id found hthere
          cases hreceived with
          | existing => exact hold hwork
          | relinked =>
              rcases of_get_insert hwork with ⟨-, rfl⟩ | ⟨-, hthere⟩
              · exact hsettlement
              · exact hold hthere
          | plain =>
              rcases of_get_insert hwork with ⟨-, rfl⟩ | ⟨-, hthere⟩
              · exact hnew
              · exact hold hthere
          | funded =>
              rcases of_get_insert hwork with ⟨-, rfl⟩ | ⟨-, hthere⟩
              · exact hsettlement
              · rcases of_get_insert hthere with ⟨-, rfl⟩ | ⟨-, hthere⟩
                · exact hnew
                · exact hold hthere

theorem committed_of_run (hrun : Run (step runtime) State.initial history state) :
    ∀ (id : String) (work : ReceiverWork), state.works[id]? = some work →
      Committed runtime work := by
  refine hrun.induct_on (fun _ state => ∀ (id : String) (work : ReceiverWork),
    state.works[id]? = some work → Committed runtime work) ?_ ?_
  · intro id work hwork
    rw [initial_works] at hwork
    cases hwork
  · intro _ state input next _ hcommitted hstep
    exact committed_step hcommitted hstep

end Resubmission

section Results

/-- In every state that an interleaving reaches, a funding work has exactly one settlement, no
settlement is leased before its funding is confirmed, and a work received again is answered
with itself or refused. -/
theorem settlement_gated (hrun : Run (step runtime) State.initial history state) :
    (∀ (id : String) (funding : ReceiverWork), state.works[id]? = some funding →
        funding.kind = .authorizedFunding → ∃! key : String, ∃ settlement,
          state.works[key]? = some settlement ∧ Settles id settlement) ∧
      (∀ (id : String) (settlement : ReceiverWork), state.works[id]? = some settlement →
        settlement.kind = .settlement → settlement.status ≠ .received →
          ConfirmedFor state.works settlement) ∧
      (∀ (input : Input) (next : State) (id : String) (before after : ReceiverWork)
        (actor : Actor), step runtime state input = .ok next →
          state.works[id]? = some before → next.works[id]? = some after →
            before.kind = .settlement → after.status = held actor →
              ConfirmedFor state.works before) ∧
      (∀ (received : ReceiveInput) (now : Nat) (current : ReceiverWork),
        Submittable runtime received →
          state.works[(submitted runtime received now).id]? = some current →
            receive runtime received now state.works =
              if current.payloadCommitment = payloadCommitment runtime received.payload ∧
                  current.kind = received.kind then
                .ok (state.works, current)
              else .error "IDEMPOTENCY_CONFLICT") ∧
      (TellsFields runtime → ∀ (received : ReceiveInput) (now : Nat) (current : ReceiverWork),
        Submittable runtime received →
          state.works[(submitted runtime received now).id]? = some current →
            current.payloadCommitment = payloadCommitment runtime received.payload →
              current.kind = received.kind) := by
  have hgated := gated_of_run hrun
  refine ⟨?_, hgated.confirmed, ?_, ?_, ?_⟩
  · intro id funding hstored hkind
    exact existsUnique_settlement hgated.linked hstored hkind
  · intro input next id before after actor hstep hbefore hafter hkind hheld
    exact confirmed_of_leased hrun hstep hbefore hafter hkind hheld
  · intro received now current hchecked hstored
    exact receive_again hgated.linked hchecked hstored
  · intro htells received now current hchecked hstored hsame
    exact kind_of_commitment htells (committed_of_run hrun _ current hstored) hchecked hsame

end Results

section Sample

def fundingPayload (amount : Rat) : Json :=
  .obj [("paymentId", .str "payment"), ("recipientHash", .str "hash"),
    ("recipientTin", .str "tin"), ("tokenMintAddress", .str "mint"), ("amount", .num amount),
    ("senderWallet", .str "wallet"), ("senderAuthorizationMessage", .str "message"),
    ("senderAuthorizationSignature", .str "signature"),
    ("senderAuthorizationNonce", .str "nonce"),
    ("senderSignedFundingTransaction", .str "transaction"),
    ("senderFundingMode", .str "tcap_deposit_v2")]

theorem fresh_ne_empty : "fresh" ≠ "" := by
  decide

def fundingInput (amount : Rat) : ReceiveInput where
  id := some "payment"
  kind := .authorizedFunding
  payload := fundingPayload amount
  fresh := ⟨"fresh", fresh_ne_empty⟩
  nonce := "nonce"

theorem submittable_fundingInput (amount : Rat) :
    Submittable sampleRuntime (fundingInput amount) where
  external := by nofun
  ingress := by
    change assertAuthorizedFundingIngress sampleRuntime (fundingPayload amount) = .ok ()
    rw [assertAuthorizedFundingIngress]
    simp only [bind_eq_ok, require_eq_ok]
    exact ⟨(), rfl, (), rfl, (), rfl, (), rfl, (), rfl, rfl⟩
  durable := rfl

theorem commitment_fundingPayload : ∃ rest : List Char,
    (payloadCommitment sampleRuntime (fundingPayload 5)).toList =
      "\x7bamount:0,paymentId:payment".toList ++ rest := by
  have hsorted : (sortFields sampleRuntime.conversions.localeLe
      (stableText.fieldTexts sampleRuntime.conversions sampleRuntime.conversions.localeLe
        (fundingPayload 5).entries)).take 2 = [("amount", "0"), ("paymentId", "payment")] := by
    decide +kernel
  have htext : payloadCommitment sampleRuntime (fundingPayload 5) =
      "\x7b" ++ ",".intercalate ((sortFields sampleRuntime.conversions.localeLe
        (stableText.fieldTexts sampleRuntime.conversions sampleRuntime.conversions.localeLe
          (fundingPayload 5).entries)).map
        fun entry => sampleRuntime.conversions.quote entry.1 ++ ":" ++ entry.2) ++ "\x7d" := rfl
  rw [htext, ← List.take_append_drop 2 (sortFields _ _), hsorted]
  generalize (sortFields _ _).drop 2 = fields
  simp only [List.map_cons, List.cons_append, List.nil_append, String.toList_append,
    String.toList_intercalate, sampleRuntime, List.intercalate]
  iterate 6 rw [String.toList_ofList]
  cases fields with
  | nil => exact ⟨_, rfl⟩
  | cons field fields => exact ⟨_, rfl⟩

theorem linkedId_fundingInput (now : Nat) :
    linkedId sampleRuntime (fundingInput 5) now =
      "settlement-payment:\x7bamount:0,paymentId:paym" := by
  obtain ⟨rest, hrest⟩ := commitment_fundingPayload
  have hlinked : linkedId sampleRuntime (fundingInput 5) now =
      "settlement-" ++ String.ofList (("payment" ++ ":" ++
        payloadCommitment sampleRuntime (fundingPayload 5)).toList.take 32) := rfl
  rw [hlinked, ← String.toList_inj, String.toList_append, String.toList_append,
    String.toList_append, hrest]
  iterate 6 rw [String.toList_ofList]
  rfl

/-- What the payment and its settlement make of the works. -/
def withPayment (now : Nat) (works : Works) : Works :=
  (works.insert "payment" (submitted sampleRuntime (fundingInput 5) now)).insert
    "settlement-payment:\x7bamount:0,paymentId:paym"
    (settlementOf sampleRuntime "settlement-payment:\x7bamount:0,paymentId:paym"
      (fundingInput 5).fresh (submitted sampleRuntime (fundingInput 5) now) now)

theorem receive_fundingInput (now : Nat) {works : Works} (hnew : works["payment"]? = none)
    (hfree : (works.insert "payment" (submitted sampleRuntime (fundingInput 5) now))[
      "settlement-payment:\x7bamount:0,paymentId:paym"]? = none) :
    receive sampleRuntime (fundingInput 5) now works =
      .ok (withPayment now works, submitted sampleRuntime (fundingInput 5) now) := by
  rw [← linkedId_fundingInput now] at hfree
  rw [receive_new (submittable_fundingInput 5) rfl hnew hfree, linkedId_fundingInput]
  rfl

/-- The payment is received with its settlement, and answered with when it comes again. -/
theorem settlement_gated_sample : ∃ history state current,
    Run (step sampleRuntime) State.initial history state ∧
      state.works["payment"]? = some current ∧
      (∃! key : String, ∃ settlement, state.works[key]? = some settlement ∧
        Settles "payment" settlement) ∧
      receive sampleRuntime (fundingInput 5) 2000 state.works =
        if current.payloadCommitment = payloadCommitment sampleRuntime (fundingPayload 5) ∧
            current.kind = .authorizedFunding then
          .ok (state.works, current)
        else .error "IDEMPOTENCY_CONFLICT" := by
  have hreceived : receive sampleRuntime (fundingInput 5) 1000 State.initial.works =
      .ok (withPayment 1000 State.initial.works, submitted sampleRuntime (fundingInput 5) 1000) :=
    receive_fundingInput 1000 rfl (by decide +kernel)
  have hrun : Run (step sampleRuntime) State.initial
      [(State.initial, ⟨1000, .receive (fundingInput 5)⟩)]
      { State.initial with works := withPayment 1000 State.initial.works } := by
    refine .step .start ?_
    simp only [step, hreceived]
    rfl
  have hstored : (withPayment 1000 State.initial.works)["payment"]? =
      some (submitted sampleRuntime (fundingInput 5) 1000) := by
    rw [withPayment, Std.ExtTreeMap.getElem?_insert, if_neg (by decide),
      Std.ExtTreeMap.getElem?_insert_self]
  rcases settlement_gated hrun with ⟨hunique, -, -, hagain, -⟩
  refine ⟨_, _, _, hrun, hstored, hunique "payment" _ hstored rfl, ?_⟩
  have hid : (submitted sampleRuntime (fundingInput 5) 2000).id = "payment" := by
    decide +kernel
  exact hagain (fundingInput 5) 2000 _ (submittable_fundingInput 5) (hid ▸ hstored)

end Sample

end TsnProtocol.Receiver.FundingGate
