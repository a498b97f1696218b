import TsnProtocol.Receiver.Decisions
import TsnProtocol.Receiver.FundingGate

/-!
Authorizations of leased works: an authorization is for the lease a work is under, as long as
no Cranker leases a work that still carries one from an earlier lease.
-/

namespace TsnProtocol.Receiver.LeaseAuthorization

open Lib.Checked
open Lib.Documents
open Lib.JsonData
open Lib.Transition
open Receiver.Decisions
open Receiver.WorkContract
open Receiver.Store
open Receiver.Changes
open Receiver.Leases
open Receiver.FundingGate

variable {runtime : Runtime} {state next : State} {input : Input} {id : String}
  {before after : ReceiverWork} {history : List (State × Input)}

section Stamps

/-- The version of the lease an authorization is for. -/
def authorizedVersion (runtime : Runtime) (authorization : Json) : Option Rat :=
  numberOf runtime.conversions (authorization.get "leaseVersion")

/-- Leases and authorizations are not ahead of the work's version. -/
structure Stamped (runtime : Runtime) (work : ReceiverWork) : Prop where
  lease : ∀ lease, work.crankerLease = some lease →
    ∃ version, lease.version = some version ∧ version ≤ work.stateVersion
  authorization : ∀ authorization, work.authorization = some authorization →
    ∃ version : Nat, authorizedVersion runtime authorization = some (version : Rat) ∧
      version ≤ work.stateVersion

theorem stamped_received {key : String} {kind : WorkKind} {payload : Json}
    {commitment : String} {now : Nat} :
    Stamped runtime (receivedWork key kind payload commitment now) where
  lease := nofun
  authorization := nofun

/-- A later version of a work with a lease and an authorization that it had is stamped. -/
theorem Stamped.of_kept (hstamped : Stamped runtime before)
    (hversion : before.stateVersion ≤ after.stateVersion)
    (hlease : after.crankerLease = before.crankerLease ∨ after.crankerLease = none)
    (hauthorization : after.authorization = before.authorization ∨
      after.authorization = none) : Stamped runtime after where
  lease := by
    intro lease hheld
    rcases hlease with hsame | hnone
    · rcases hstamped.lease lease (hsame ▸ hheld) with ⟨version, hstamp, hle⟩
      exact ⟨version, hstamp, hle.trans hversion⟩
    · rw [hnone] at hheld
      cases hheld
  authorization := by
    intro authorization hcarried
    rcases hauthorization with hsame | hnone
    · rcases hstamped.authorization authorization (hsame ▸ hcarried) with ⟨version, hstamp, hle⟩
      exact ⟨version, hstamp, hle.trans hversion⟩
    · rw [hnone] at hcarried
      cases hcarried

/-- What an authorization that is attached says of the lease. -/
theorem stamp_of_authorizes {lease : Lease} {authorization : Json} {now version : Nat}
    (hstamp : lease.version = some version)
    (hauthorizes : authorizes runtime before lease authorization now = true) :
    authorizedVersion runtime authorization = some (version : Rat) ∧
      textOf runtime.conversions (authorization.get "leaseExpiresAt") =
        runtime.isoText lease.expiresAt := by
  simp only [authorizes, hstamp, Option.getD_some, Bool.decide_and, Bool.and_eq_true,
    decide_eq_true_eq] at hauthorizes
  exact ⟨hauthorizes.2.1, hauthorizes.2.2.1⟩

theorem stamped_change (hstamped : Stamped runtime before)
    (hchange : Change runtime state input id before after) : Stamped runtime after := by
  have hversion := version_change hchange
  cases hchange with
  | requeued => exact hstamped.of_kept (by omega) (.inr rfl) (.inl rfl)
  | retried => exact hstamped.of_kept (by omega) (.inr rfl) (.inr rfl)
  | @leased index call =>
      cases hactor : call.actor with
      | node =>
          apply hstamped.of_kept
          · simp only [Store.leased]
            omega
          · exact .inl rfl
          · exact .inl rfl
      | cranker =>
          constructor
          · intro lease hlease
            cases hlease
            exact ⟨_, rfl, Nat.le_refl _⟩
          · intro authorization hcarried
            rcases hstamped.authorization authorization hcarried with ⟨version, hstamp, hle⟩
            exact ⟨version, hstamp, hle.trans (Nat.le_succ _)⟩
  | @authorized params lease =>
      rename_i hlease _ _ _ hauthorizes
      rcases hstamped.lease lease hlease with ⟨version, hstamp, hle⟩
      constructor
      · intro other hother
        rcases hstamped.lease other hother with ⟨number, hnumber, hbelow⟩
        exact ⟨number, hnumber, hbelow.trans (Nat.le_succ _)⟩
      · intro authorization hcarried
        cases hcarried
        exact ⟨version, (stamp_of_authorizes hstamp hauthorizes).1, hle.trans (Nat.le_succ _)⟩
  | @reported params =>
      simp only [Store.reported] at hversion ⊢
      cases hactor : params.actor with
      | node =>
          apply hstamped.of_kept
          · simp only [reportedByNode]
            omega
          · exact .inl rfl
          · exact .inl rfl
      | cranker =>
          apply hstamped.of_kept
          · simp only [reportedByCranker]
            omega
          · exact .inr rfl
          · simp only [reportedByCranker]
            split
            · exact .inr rfl
            · exact .inl rfl

theorem stamped_of_run (hrun : Run (step runtime) State.initial history state)
    {work : ReceiverWork} (hwork : state.works[id]? = some work) : Stamped runtime work :=
  works_of_run (fun _ _ _ _ _ _ _ => stamped_received)
    (fun _ _ _ _ _ hstamped hchange => stamped_change hstamped hchange) hrun id work hwork

end Stamps

section Binding

/-- The authorization of a leased work is for the lease it is under. -/
def Bound (runtime : Runtime) (work : ReceiverWork) : Prop :=
  ∀ lease authorization, work.status = .crankerLeased → work.crankerLease = some lease →
    work.authorization = some authorization →
      (∃ version : Nat, lease.version = some version ∧
        authorizedVersion runtime authorization = some (version : Rat)) ∧
      textOf runtime.conversions (authorization.get "leaseExpiresAt") =
        runtime.isoText lease.expiresAt

def AuthorizationsBound (runtime : Runtime) (state : State) : Prop :=
  ∀ (id : String) (work : ReceiverWork), state.works[id]? = some work → Bound runtime work

/-- No Cranker is about to lease a work that still carries an authorization. -/
def LeasesUnauthorized (state : State) (input : Input) : Prop :=
  ∀ (index : Nat) (call : LeaseCall) (id : String) (candidates : List (String × ReceiverWork))
    (work : ReceiverWork), input.operation = .advanceLease index →
      state.calls[index]? = some call → call.phase = .taking id candidates →
        call.actor = .cranker → state.works[id]? = some work → work.status = .verified →
          work.authorization = none

theorem bound_of_status (hstatus : before.status ≠ .crankerLeased) : Bound runtime before :=
  fun _ _ hleased _ _ => absurd hleased hstatus

theorem bound_change (hstamped : Stamped runtime before) (hbefore : state.works[id]? = some before)
    (hunauthorized : LeasesUnauthorized state input)
    (hchange : Change runtime state input id before after) : Bound runtime after := by
  cases hchange with
  | @requeued actor =>
      apply bound_of_status
      cases actor <;> rintro ⟨⟩
  | @leased index call candidates hinput hcall hphase hqueued =>
      cases hactor : call.actor with
      | node =>
          apply bound_of_status
          rintro ⟨⟩
      | cranker =>
          rw [hactor] at hqueued
          have hnone := hunauthorized index call id candidates before hinput hcall hphase hactor
            hbefore hqueued
          intro lease authorization _ _ hcarried
          rw [show (Store.leased .cranker call.owner id input.now before).authorization =
            before.authorization from rfl, hnone] at hcarried
          cases hcarried
  | @authorized params lease hinput _ _ hlease _ _ _ hauthorizes =>
      intro held authorization _ hheld hcarried
      rw [show (Store.authorized params.authorization input.now before).crankerLease =
        before.crankerLease from rfl, hlease] at hheld
      cases hheld
      cases hcarried
      rcases hstamped.lease lease hlease with ⟨version, hstamp, -⟩
      rcases stamp_of_authorizes hstamp hauthorizes with ⟨hversion, hexpiry⟩
      exact ⟨⟨version, hstamp, hversion⟩, hexpiry⟩
  | @reported params =>
      rename_i hallowed
      apply bound_of_status
      simp only [Store.reported]
      cases hactor : params.actor <;> rw [hactor] at hallowed <;> intro hleased
      · rw [show (reportedByNode runtime.conversions params input.now before).status =
          params.status from rfl] at hleased
        simp [hleased, allowed] at hallowed
      · rw [show (reportedByCranker runtime.conversions params input.now before).status =
          params.status from rfl] at hleased
        simp [hleased, allowed] at hallowed
  | retried =>
      apply bound_of_status
      rintro ⟨⟩

theorem bound_step (hrun : Run (step runtime) State.initial history state)
    (hbound : AuthorizationsBound runtime state) (hunauthorized : LeasesUnauthorized state input)
    (hstep : step runtime state input = .ok next) : AuthorizationsBound runtime next := by
  intro id work hwork
  cases hfound : state.works[id]? with
  | none =>
      rcases new_of_step hstep hfound hwork with ⟨_, _, _, _, -, rfl⟩
      apply bound_of_status
      nofun
  | some current =>
      rcases work_of_step hstep hfound with ⟨found, hafter, rfl | hchange⟩
      · rw [hwork, Option.some.injEq] at hafter
        exact hafter ▸ hbound id found hfound
      · rw [hwork, Option.some.injEq] at hafter
        exact hafter ▸ bound_change (stamped_of_run hrun hfound) hfound hunauthorized hchange

/-- A Cranker that leases a work with an authorization finds one of an earlier lease. -/
theorem leasesUnauthorized_of_bound (hrun : Run (step runtime) State.initial history state)
    (hstep : step runtime state input = .ok next) (hbound : AuthorizationsBound runtime next) :
    LeasesUnauthorized state input := by
  intro index call id candidates work hinput hcall hphase hactor hwork hverified
  cases hcarried : work.authorization with
  | none => rfl
  | some authorization =>
      have htaken : take call.actor call.owner id input.now state.works =
          some (leased .cranker call.owner id input.now work) := by
        rw [take, hwork, hactor]
        simp only [queued, hverified, ne_eq, not_true_eq_false, if_false]
      rcases input with ⟨now, operation⟩
      cases hinput
      simp only [step, bind_eq_ok, okOr_eq_ok, pure_eq_ok, hcall, Option.some.injEq] at hstep
      rcases hstep with ⟨_, rfl, rfl⟩
      have hafter : (advance runtime now state.works call).1[id]? =
          some (leased .cranker call.owner id now work) := by
        rw [advance, hphase]
        simp only [htaken]
        exact get_insert_self
      rcases hbound id _ hafter _ authorization rfl rfl hcarried with
        ⟨⟨version, hversion, hauthorized⟩, -⟩
      rcases (stamped_of_run hrun hwork).authorization authorization hcarried with
        ⟨number, hnumber, hle⟩
      rw [hnumber, Option.some.injEq, Nat.cast_inj] at hauthorized
      cases hversion
      omega

/-- In every state of a run the authorizations are bound to the leases, just when no Cranker
leases a work that still carries one. -/
theorem authorizations_bound_iff (hrun : Run (step runtime) State.initial history state) :
    (∀ reached ∈ state :: history.map Prod.fst, AuthorizationsBound runtime reached) ↔
      ∀ entry ∈ history, LeasesUnauthorized entry.1 entry.2 := by
  induction hrun with
  | start =>
      constructor
      · intro _ entry hentry
        cases hentry
      · intro _ reached hreached
        rw [List.map_nil, List.mem_singleton] at hreached
        subst hreached
        intro id work hwork
        rw [initial_works] at hwork
        cases hwork
  | @step history state next input hrun hstep ih =>
      rw [List.map_cons, List.forall_mem_cons, ih, List.forall_mem_cons]
      constructor
      · rintro ⟨hbound, hunauthorized⟩
        exact ⟨leasesUnauthorized_of_bound hrun hstep hbound, hunauthorized⟩
      · rintro ⟨hunauthorized, hearlier⟩
        have hbound : AuthorizationsBound runtime state :=
          ih.mpr hearlier state List.mem_cons_self
        exact ⟨bound_step hrun hbound hunauthorized hstep, hearlier⟩

end Binding

section Sample

/-- Built-ins with a digest that is easy to evaluate. -/
def digestRuntime : Runtime :=
  { sampleRuntime with sha256 := fun _ => "digest" }

def sampleSignature : String := String.ofList (List.replicate 86 'A')

/-- The report of a Node that verifies a work. -/
def verifies (work : ReceiverWork) (version : Nat) : TransitionParams where
  id := work.id
  actor := .node
  owner := "node"
  expectedVersion := version
  status := .verified
  evidence := some (evidence digestRuntime work work.id version "node" "date" sampleSignature)

def payment : ReceiverWork := submitted digestRuntime (fundingInput 5) 1000

def settlement : ReceiverWork :=
  settlementOf digestRuntime "settlement-digest" ⟨"fresh", FundingGate.fresh_ne_empty⟩ payment 1000

def confirms (id : String) (version : Nat) : TransitionParams :=
  ⟨id, .cranker, "first", version, .confirmed, some (.obj [("signature", .str "signature")])⟩

/-- The authorization for the lease of the first Cranker. -/
def firstAuthorization : Json :=
  .obj [("leaseId", .str "settlement-digest"), ("leaseVersion", .num 4),
    ("leaseExpiresAt", .str "61000"), ("expiresAtTs", .num 60)]

/-- The operations of a call that leases, latest first. -/
def leasing (call : Nat) (actor : Actor) (owner : String) (advances now : Nat) : List Input :=
  List.replicate advances ⟨now, .advanceLease call⟩ ++ [⟨now, .beginLease actor owner []⟩]

/-- A settlement is leased and authorized; the lease expires, and a second Cranker leases the
settlement. Latest first. -/
def releasedSettlement : List Input :=
  leasing 4 .cranker "second" 4 70000 ++
    [⟨1000, .attachCrankerAuthorization ⟨"settlement-digest", "first", 4, firstAuthorization⟩⟩] ++
    leasing 3 .cranker "first" 3 1000 ++ [⟨1000, .transition (verifies settlement 2)⟩] ++
    leasing 2 .node "node" 3 1000 ++ [⟨1000, .transition (confirms "payment" 4)⟩] ++
    leasing 1 .cranker "first" 3 1000 ++ [⟨1000, .transition (verifies payment 2)⟩] ++
    leasing 0 .node "node" 3 1000 ++ [⟨1000, .receive (fundingInput 5)⟩]

theorem reaches_releasedSettlement :
    reaches (step digestRuntime) State.initial releasedSettlement (fun _ state =>
      state.works["settlement-digest"]?.any fun work => work.status = .crankerLeased ∧
        work.crankerLease = some ⟨"second", 130000, some "settlement-digest", some 7⟩ ∧
        work.authorization.any fun authorization =>
          authorizedVersion digestRuntime authorization = some 4) = true := by
  decide +kernel

example : authorizedVersion digestRuntime firstAuthorization = some 4 := by
  decide +kernel

/-- The second Cranker's lease comes with the authorization of the first. -/
theorem exists_unbound : ∃ history state,
    Run (step digestRuntime) State.initial history state ∧
      ¬ AuthorizationsBound digestRuntime state := by
  rcases exists_run_of_reaches reaches_releasedSettlement with ⟨history, state, hrun, hholds⟩
  rcases (Option.any_eq_true _ _).mp hholds with ⟨work, hstored, hwork⟩
  rw [decide_eq_true_eq] at hwork
  rcases hwork with ⟨hstatus, hlease, hcarried⟩
  rcases (Option.any_eq_true _ _).mp hcarried with ⟨authorization, hauthorization, hfour⟩
  rw [decide_eq_true_eq] at hfour
  refine ⟨history, state, hrun, ?_⟩
  intro hbound
  rcases hbound _ work hstored _ authorization hstatus hlease hauthorization with
    ⟨⟨version, hversion, hauthorized⟩, -⟩
  cases hversion
  rw [hfour] at hauthorized
  norm_num at hauthorized

theorem authorization_outlives_lease : ¬ ∀ (runtime : Runtime)
    (history : List (State × Input)) (state : State),
      Run (step runtime) State.initial history state → AuthorizationsBound runtime state := by
  intro hbound
  rcases exists_unbound with ⟨history, state, hrun, hunbound⟩
  exact hunbound (hbound digestRuntime history state hrun)

theorem authorizations_bound_iff_sample : ∃ history state,
    Run (step digestRuntime) State.initial history state ∧
      ¬ ∀ entry ∈ history, LeasesUnauthorized entry.1 entry.2 := by
  rcases exists_unbound with ⟨history, state, hrun, hunbound⟩
  refine ⟨history, state, hrun, ?_⟩
  intro hunauthorized
  exact hunbound ((authorizations_bound_iff hrun).mpr hunauthorized state List.mem_cons_self)

end Sample

end TsnProtocol.Receiver.LeaseAuthorization
