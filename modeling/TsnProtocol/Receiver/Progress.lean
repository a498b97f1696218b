import TsnProtocol.Receiver.Decisions
import TsnProtocol.Receiver.FundingGate

/-!
Works that can still be finished, and those that no operation can move on.
-/

namespace TsnProtocol.Receiver.Progress

open Lib.Checked
open Lib.JsonData
open Lib.Transition
open Receiver.NodeVerification
open Receiver.Decisions
open Receiver.WorkContract
open Receiver.Store
open Receiver.Changes
open Receiver.Leases
open Receiver.FundingGate

variable {runtime : Runtime} {state next : State} {input : Input} {id : String}
  {before after work : ReceiverWork} {works : Works} {history later : List (State × Input)}

def isTerminal : WorkStatus → Bool
  | .rejected | .confirmed | .failed => true
  | _ => false

/-- Operations at one time lead from one state to another. -/
abbrev Onward (runtime : Runtime) (clock : Nat) : State → State → Prop :=
  Continues (step runtime) fun input => input.now = clock

/-- From any time on, operations can bring a work to its end. -/
def CanFinish (runtime : Runtime) (state : State) (id : String) : Prop :=
  ∀ since : Nat, ∃ clock next final, since ≤ clock ∧ Onward runtime clock state next ∧
    next.works[id]? = some final ∧ (final.status = .confirmed ∨ final.status = .failed)

section Attested

/-- Past its verification the id of a work can stand in what a Node signs. -/
def Attested (work : ReceiverWork) : Prop :=
  work.status = .received ∨ work.status = .nodeVerifying ∨ hasLineBreak work.id = false

/-- Every value of the message that is signed is on a line of its own. -/
theorem hasLineBreak_of_attestationMessage {attestation : Json} {message name : String}
    (hmessage : attestationMessage runtime.conversions attestation = .ok message)
    (hname : name ∈ messageFields) :
    hasLineBreak (textOf runtime.conversions (attestation.get name)) = false := by
  simp only [attestationMessage, bind_eq_ok, require_eq_ok, pure_eq_ok] at hmessage
  rcases hmessage with ⟨_, hall, -⟩
  have hvalue := List.all_eq_true.mp hall _ (List.mem_map_of_mem hname)
  rwa [Bool.not_eq_true'] at hvalue

theorem isText_of_attests {lease : Lease} {owner : String} {expectedVersion : Nat}
    {status : WorkStatus} {evidence attestation : Json}
    (hattests : attests runtime work lease owner expectedVersion status evidence attestation =
      true) : isText (attestation.get "workId") work.id = true := by
  unfold attests at hattests
  simp only [Bool.and_eq_true] at hattests
  exact hattests.1.1.1.1.1.1.1.1.1.1.1.1.2

theorem eq_some_of_isText {value : Option Json} {text : String}
    (htext : isText value text = true) : value = some (.str text) := by
  unfold isText at htext
  split at htext
  · rename_i found
    rw [of_decide_eq_true htext]
  · cases htext

theorem hasLineBreak_of_decision {params : TransitionParams} (hactor : params.actor = .node)
    (hstatus : params.status ∈ allowed params.actor)
    (hdecision : checkDecision runtime params work = .ok ()) :
    hasLineBreak work.id = false := by
  have hchecked : params.actor = .node ∧
      (params.status = .verified ∨ params.status = .rejected) := by
    rw [hactor] at hstatus
    simp only [allowed, List.mem_cons, List.not_mem_nil, or_false] at hstatus
    exact ⟨hactor, hstatus⟩
  rw [checkDecision, if_pos hchecked] at hdecision
  simp only [assertNodeVerificationAttestation, bind_eq_ok, okOr_eq_ok, require_eq_ok]
    at hdecision
  rcases hdecision with ⟨given, -, attested, -, _, -, lease, -, _, hattests, _, -, message,
    hmessage, -⟩
  have hname : "workId" ∈ messageFields := by decide
  have hline := hasLineBreak_of_attestationMessage hmessage hname
  rw [eq_some_of_isText (isText_of_attests hattests)] at hline
  exact hline

theorem attested_change (hmatches : LeaseMatches before) (hattested : Attested before)
    (hchange : Change runtime state input id before after) : Attested after := by
  have hid := (kept_change hchange).1
  have hkept (hstatus : before.status ≠ .received) (hother : before.status ≠ .nodeVerifying) :
      Attested after := by
    rcases hattested with hreceived | hverifying | hline
    · exact absurd hreceived hstatus
    · exact absurd hverifying hother
    · exact .inr (.inr (hid ▸ hline))
  cases hchange with
  | @requeued actor _ _ hheld =>
      cases actor with
      | node => exact .inl rfl
      | cranker =>
          apply hkept <;> rw [hheld] <;> nofun
  | @leased index call _ _ _ _ hqueued =>
      cases hactor : call.actor with
      | node => exact .inr (.inl rfl)
      | cranker =>
          rw [hactor] at hqueued hkept
          apply hkept <;> rw [hqueued] <;> nofun
  | authorized _ _ hleased =>
      apply hkept <;> rw [hleased] <;> nofun
  | @reported params =>
      rename_i hlease _ _ _ hdecision hallowed
      cases hactor : params.actor with
      | node => exact .inr (.inr (hid ▸ hasLineBreak_of_decision hactor hallowed hdecision))
      | cranker =>
          have hheld := hmatches.leaseOf hlease
          rw [hactor] at hheld
          apply hkept <;> rw [hheld] <;> nofun
  | retried => exact .inl rfl

theorem attested_of_run (hrun : Run (step runtime) State.initial history state)
    (hwork : state.works[id]? = some work) : Attested work := by
  have hboth : LeaseMatches work ∧ Attested work :=
    @works_of_run runtime state (fun _ work => LeaseMatches work ∧ Attested work)
      (fun _ _ _ _ _ _ _ => ⟨leaseMatches_received, .inl rfl⟩)
      (fun _ _ _ _ _ hboth hchange => ⟨leaseMatches_change hboth.1 hchange,
        attested_change hboth.1 hboth.2 hchange⟩) history hrun id work hwork
  exact hboth.2

end Attested

section Stranded

/-- Works that no operation can bring to their end: a report clears the lease that the next
one needs, a settlement waits for a funding that has ended, or an id cannot be signed. -/
inductive Stranded (works : Works) (work : ReceiverWork) : Prop
  | submitted : work.status = .submitted → Stranded works work
  | unfunded {funding : ReceiverWork} :
      work.kind = .settlement → work.status = .received → FundedBy works work funding →
        funding.status ∈ [.rejected, .submitted, .failed] → Stranded works work
  | unsigned : hasLineBreak work.id = true → Stranded works work

/-- A work that has ended stays as it is. -/
theorem ended_of_later (hrun : Run (step runtime) State.initial history state)
    (hlater : Run (step runtime) state later next) (hwork : state.works[id]? = some work)
    (hended : Ended work) : next.works[id]? = some work := by
  refine hlater.induct_on (fun _ next => next.works[id]? = some work) hwork ?_
  intro later middle input next hprefix hmiddle hstep
  rcases work_of_step hstep hmiddle with ⟨after, hafter, rfl | hchange⟩
  · exact hafter
  · exact absurd hchange
      (not_change_of_ended (leaseMatches_of_run (hrun.append hprefix) hmiddle) hended)

/-- A work keeps its id and its kind, and a settlement its payload. -/
theorem kept_of_later (hlater : Run (step runtime) state later next)
    (hwork : state.works[id]? = some work) :
    ∃ final, next.works[id]? = some final ∧ final.id = work.id ∧ final.kind = work.kind ∧
      (work.kind ≠ .authorizedFunding → final.payload = work.payload) := by
  refine hlater.induct_on (fun _ next => ∃ final, next.works[id]? = some final ∧
    final.id = work.id ∧ final.kind = work.kind ∧
      (work.kind ≠ .authorizedFunding → final.payload = work.payload))
    ⟨work, hwork, rfl, rfl, fun _ => rfl⟩ ?_
  rintro later middle input next - ⟨final, hfinal, hid, hkind, hpayload⟩ hstep
  rcases persist_of_step hstep hfinal with ⟨after, hafter, hsame, hsort, -, hcontent⟩
  refine ⟨after, hafter, hsame.trans hid, hsort.trans hkind, ?_⟩
  intro hother
  exact (hcontent (hkind ▸ hother)).trans (hpayload hother)

theorem unfinished_of_stranded (hrun : Run (step runtime) State.initial history state)
    (hlater : Run (step runtime) state later next) (hwork : state.works[id]? = some work)
    (hstranded : Stranded state.works work) {final : ReceiverWork}
    (hfinal : next.works[id]? = some final) :
    final.status ≠ .confirmed ∧ final.status ≠ .failed := by
  cases hstranded with
  | submitted hsubmitted =>
      have hsame := ended_of_later hrun hlater hwork (.inl (by simp [hsubmitted]))
      rw [hfinal, Option.some.injEq] at hsame
      rw [hsame, hsubmitted]
      exact ⟨by nofun, by nofun⟩
  | @unfunded funding hkind hreceived hfunded hdead =>
      have hended : Ended funding := by
        simp only [List.mem_cons, List.not_mem_nil, or_false] at hdead
        rcases hdead with hstatus | hstatus | hstatus
        · exact .inr ⟨hstatus, by rw [hfunded.kind]; nofun⟩
        · exact .inl (by simp [hstatus])
        · exact .inl (by simp [hstatus])
      have hthere := ended_of_later hrun hlater hfunded.stored hended
      rcases kept_of_later hlater hwork with ⟨found, hfound, -, hsort, hpayload⟩
      rw [hfinal, Option.some.injEq] at hfound
      subst hfound
      have hother : work.kind ≠ .authorizedFunding := by
        rw [hkind]
        nofun
      by_cases hwaits : final.status = .received
      · rw [hwaits]
        exact ⟨by nofun, by nofun⟩
      · rcases (gated_of_run (hrun.append hlater)).confirmed id final hfinal
          (hsort.trans hkind) hwaits with ⟨other, hconfirmed, hstatus⟩
        have hsame : funding.id = other.id := by
          have hintent := hconfirmed.intent
          rw [hpayload hother, hfunded.intent] at hintent
          simpa using hintent
        have hwork := hconfirmed.stored
        rw [← hsame, hthere, Option.some.injEq] at hwork
        rw [hwork, hstatus] at hdead
        simp at hdead
  | unsigned hline =>
      rcases kept_of_later hlater hwork with ⟨found, hfound, hid, -, -⟩
      rw [hfinal, Option.some.injEq] at hfound
      subst hfound
      rcases attested_of_run (hrun.append hlater) hfinal with hstatus | hstatus | hclean
      · rw [hstatus]
        exact ⟨by nofun, by nofun⟩
      · rw [hstatus]
        exact ⟨by nofun, by nofun⟩
      · rw [hid, hline] at hclean
        cases hclean

/-- What is stranded is not terminal. -/
theorem not_terminal_of_stranded (hrun : Run (step runtime) State.initial history state)
    (hwork : state.works[id]? = some work) (hstranded : Stranded state.works work) :
    ¬ isTerminal work.status = true := by
  cases hstranded with
  | submitted hsubmitted =>
      rw [hsubmitted]
      decide
  | unfunded _ hreceived _ _ =>
      rw [hreceived]
      decide
  | unsigned hline =>
      rcases attested_of_run hrun hwork with hstatus | hstatus | hclean
      · rw [hstatus]
        decide
      · rw [hstatus]
        decide
      · rw [hline] at hclean
        cases hclean

theorem not_canFinish_of_stranded (hrun : Run (step runtime) State.initial history state)
    (hwork : state.works[id]? = some work) (hstranded : Stranded state.works work) :
    ¬ CanFinish runtime state id := by
  intro hfinish
  rcases hfinish 0 with ⟨clock, next, final, -, ⟨later, hlater, -⟩, hfinal, hended⟩
  rcases unfinished_of_stranded hrun hlater hwork hstranded hfinal with ⟨hconfirmed, hfailed⟩
  rcases hended with hstatus | hstatus
  · exact hconfirmed hstatus
  · exact hfailed hstatus

end Stranded

end TsnProtocol.Receiver.Progress
