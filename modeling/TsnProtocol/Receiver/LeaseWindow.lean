import TsnProtocol.Receiver.FundingGate

/-!
What a call that leases finds when nothing interferes. It looks at the first fifty works that
are held, and then at the first fifty that are queued, in the order of their ids; what lies
behind them is neither requeued nor leased.
-/

namespace TsnProtocol.Receiver.LeaseWindow

open Lib.Documents
open Lib.Transition
open Receiver.WorkContract
open Receiver.Store
open Receiver.Changes
open Receiver.FundingGate
open Receiver.Leases

variable {runtime : Runtime} {actor : Actor} {owner : String} {kinds : List WorkKind}
  {clock : Nat → Nat} {works next : Works} {id : String} {work : ReceiverWork}

section Alone

/-- A call that leases after a number of operations of its own, each at a time of the clock,
with no other operation in between. -/
def alone (runtime : Runtime) (clock : Nat → Nat) (start : Works × LeaseCall) :
    Nat → Works × LeaseCall
  | 0 => start
  | steps + 1 =>
      let reached := alone runtime clock start steps
      advance runtime (clock steps) reached.1 reached.2

/-- The call from its beginning. -/
def leaseAlone (runtime : Runtime) (actor : Actor) (owner : String) (kinds : List WorkKind)
    (clock : Nat → Nat) (works : Works) : Nat → Works × LeaseCall :=
  alone runtime clock (works, beginLease actor owner kinds works)

def isHeld (actor : Actor) (work : ReceiverWork) : Bool :=
  decide (work.status = held actor)

def isQueued (actor : Actor) (work : ReceiverWork) : Bool :=
  decide (work.status = queued actor)

/-- What becomes of the works while a call looks at those that are held. -/
def requeueEach (actor : Actor) (clock : Nat → Nat) :
    Nat → List (String × ReceiverWork) → Works → Works
  | _, [], works => works
  | steps, (id, data) :: stale, works =>
      let abandoned :=
        (leaseOf actor data).any fun lease => decide (lease.expiresAt ≤ clock steps)
      requeueEach actor clock (steps + 1) stale
        (if abandoned then requeue actor id (clock steps) works else works)

/-- The works when a call goes on to select. -/
def afterRequeue (actor : Actor) (clock : Nat → Nat) (works : Works) : Works :=
  requeueEach actor clock 0 (query works (isHeld actor) 50) works

/-- A work that a call may lease: it is queued, of a supported kind, and its funding lets it be
leased. -/
structure Eligible (runtime : Runtime) (actor : Actor) (kinds : List WorkKind) (works : Works)
    (id : String) (work : ReceiverWork) : Prop where
  stored : works[id]? = some work
  queued : work.status = queued actor
  supported : supports kinds work.kind = true
  admitted : admitted runtime actor work works = true

theorem alone_requeueing {start : Works × LeaseCall} {stale : List (String × ReceiverWork)}
    {steps : Nat}
    (hreached : alone runtime clock start steps =
      (works, ⟨actor, owner, kinds, .requeueing stale⟩)) :
    ∃ later, alone runtime clock start later =
      (requeueEach actor clock steps stale works, ⟨actor, owner, kinds,
        .selecting (candidatesOf actor (requeueEach actor clock steps stale works))⟩) := by
  induction stale generalizing works steps with
  | nil =>
      refine ⟨steps + 1, ?_⟩
      rw [alone, hreached]
      rfl
  | cons entry stale ih =>
      rcases entry with ⟨id, data⟩
      apply ih
      rw [alone, hreached]
      rfl

/-- A call that selects comes to its first candidate that may be leased, and leases it. -/
theorem alone_selecting {start : Works × LeaseCall} {candidates : List (String × ReceiverWork)}
    {steps : Nat}
    (hreached : alone runtime clock start steps =
      (works, ⟨actor, owner, kinds, .selecting candidates⟩))
    (hstored : ∀ entry ∈ candidates, works[entry.1]? = some entry.2 ∧
      entry.2.status = queued actor) :
    (∃ later id current now, alone runtime clock start later =
        (works.insert id (leased actor owner id now current),
          ⟨actor, owner, kinds, .finished (some (leased actor owner id now current))⟩) ∧
        (id, current) ∈ candidates ∧ Eligible runtime actor kinds works id current) ∨
      (∃ later, alone runtime clock start later =
        (works, ⟨actor, owner, kinds, .finished none⟩)) ∧
        ∀ entry ∈ candidates, ¬ Eligible runtime actor kinds works entry.1 entry.2 := by
  induction candidates generalizing steps with
  | nil =>
      refine .inr ⟨⟨steps + 1, ?_⟩, fun entry hentry => absurd hentry List.not_mem_nil⟩
      rw [alone, hreached]
      rfl
  | cons entry candidates ih =>
      rcases entry with ⟨id, data⟩
      rcases hstored (id, data) List.mem_cons_self with ⟨hfound, hqueued⟩
      have hrest := fun entry hentry => hstored entry (List.mem_cons_of_mem _ hentry)
      cases hadmitted : supports kinds data.kind && admitted runtime actor data works with
      | true =>
          rcases Bool.and_eq_true_iff.mp hadmitted with ⟨hsupported, hfunded⟩
          have htaking : alone runtime clock start (steps + 1) =
              (works, ⟨actor, owner, kinds, .taking id candidates⟩) := by
            rw [alone, hreached]
            simp only [advance, hadmitted, if_true]
          have htake : take actor owner id (clock (steps + 1)) works =
              some (leased actor owner id (clock (steps + 1)) data) := by
            rw [take, hfound]
            exact if_neg (not_not.mpr hqueued)
          refine .inl ⟨steps + 2, id, data, clock (steps + 1), ?_, List.mem_cons_self, hfound,
            hqueued, hsupported, hfunded⟩
          rw [alone, htaking]
          simp only [advance, htake]
      | false =>
          have hskipped : alone runtime clock start (steps + 1) =
              (works, ⟨actor, owner, kinds, .selecting candidates⟩) := by
            rw [alone, hreached]
            simp only [advance, hadmitted]
            rfl
          rcases ih hskipped hrest with
            ⟨later, key, current, now, hlater, hmem, heligible⟩ | ⟨hlater, hnone⟩
          · exact .inl ⟨later, key, current, now, hlater, List.mem_cons_of_mem _ hmem, heligible⟩
          · refine .inr ⟨hlater, ?_⟩
            intro entry hentry heligible
            rcases List.mem_cons.mp hentry with rfl | hlate
            · have hboth : (supports kinds data.kind && admitted runtime actor data works) = true :=
                Bool.and_eq_true_iff.mpr ⟨heligible.supported, heligible.admitted⟩
              rw [hadmitted] at hboth
              cases hboth
            · exact hnone entry hlate heligible

theorem alone_finished {start : Works × LeaseCall} {result : Option ReceiverWork} {steps : Nat}
    (hreached : alone runtime clock start steps =
      (works, ⟨actor, owner, kinds, .finished result⟩)) (later : Nat) (hlater : steps ≤ later) :
    alone runtime clock start later = (works, ⟨actor, owner, kinds, .finished result⟩) := by
  induction later, hlater using Nat.le_induction with
  | base => exact hreached
  | succ later _ ih =>
      rw [alone, ih]
      rfl

/-- A call comes to one end. -/
theorem finished_unique {start : Works × LeaseCall} {first second : Nat}
    {firstWorks secondWorks : Works} {firstResult secondResult : Option ReceiverWork}
    (hfirst : alone runtime clock start first =
      (firstWorks, ⟨actor, owner, kinds, .finished firstResult⟩))
    (hsecond : alone runtime clock start second =
      (secondWorks, ⟨actor, owner, kinds, .finished secondResult⟩)) :
    firstWorks = secondWorks ∧ firstResult = secondResult := by
  have hlate := alone_finished hfirst (max first second) (Nat.le_max_left _ _)
  rw [alone_finished hsecond (max first second) (Nat.le_max_right _ _)] at hlate
  simp only [Prod.mk.injEq, LeaseCall.mk.injEq, Phase.finished.injEq, true_and] at hlate
  exact ⟨hlate.1.symm, hlate.2.symm⟩

/-- How a call ends: it leases a work among the first fifty queued, if one may be leased. -/
theorem leaseAlone_ends (runtime : Runtime) (actor : Actor) (owner : String)
    (kinds : List WorkKind) (clock : Nat → Nat) (works : Works) :
    (∃ steps id current now, leaseAlone runtime actor owner kinds clock works steps =
        ((afterRequeue actor clock works).insert id (leased actor owner id now current),
          ⟨actor, owner, kinds, .finished (some (leased actor owner id now current))⟩) ∧
        (id, current) ∈ query (afterRequeue actor clock works) (isQueued actor) 50 ∧
        Eligible runtime actor kinds (afterRequeue actor clock works) id current) ∨
      (∃ steps, leaseAlone runtime actor owner kinds clock works steps =
        (afterRequeue actor clock works, ⟨actor, owner, kinds, .finished none⟩)) ∧
        ∀ entry ∈ query (afterRequeue actor clock works) (isQueued actor) 50,
          ¬ Eligible runtime actor kinds (afterRequeue actor clock works) entry.1 entry.2 := by
  have hbegun : alone runtime clock (works, beginLease actor owner kinds works) 0 =
      (works, ⟨actor, owner, kinds, .requeueing (query works (isHeld actor) 50)⟩) :=
    rfl
  rcases alone_requeueing hbegun with ⟨selecting, hselecting⟩
  have hwindow : ∀ entry, entry ∈ candidatesOf actor (afterRequeue actor clock works) ↔
      entry ∈ query (afterRequeue actor clock works) (isQueued actor) 50 := by
    intro entry
    rw [candidatesOf, List.mem_insertionSort _]
    rfl
  have hstored : ∀ entry ∈ candidatesOf actor (afterRequeue actor clock works),
      (afterRequeue actor clock works)[entry.1]? = some entry.2 ∧
        entry.2.status = queued actor := by
    intro entry hentry
    rcases mem_query ((hwindow entry).mp hentry) with ⟨hfound, hqueued⟩
    exact ⟨hfound, of_decide_eq_true hqueued⟩
  rcases alone_selecting hselecting hstored with
    ⟨steps, id, current, now, hsteps, hmem, heligible⟩ | ⟨hsteps, hnone⟩
  · exact .inl ⟨steps, id, current, now, hsteps, (hwindow _).mp hmem, heligible⟩
  · exact .inr ⟨hsteps, fun entry hentry => hnone entry ((hwindow entry).mpr hentry)⟩

end Alone

section Requeueing

theorem get_requeue_of_ne {other : String} {now : Nat} (hother : other ≠ id) :
    (requeue actor id now works)[other]? = works[other]? := by
  unfold requeue
  split
  · rfl
  · split
    · rfl
    · exact get_insert_of_ne hother

/-- Works that a call does not look at stay as they are. -/
theorem get_requeueEach_of_not_mem {stale : List (String × ReceiverWork)} {steps : Nat}
    (hnot : id ∉ stale.map Prod.fst) :
    (requeueEach actor clock steps stale works)[id]? = works[id]? := by
  induction stale generalizing works steps with
  | nil => rfl
  | cons entry stale ih =>
      rcases entry with ⟨key, data⟩
      rw [List.map_cons, List.mem_cons, not_or] at hnot
      rw [requeueEach, ih hnot.2]
      split
      · exact get_requeue_of_ne hnot.1
      · rfl

/-- A work whose lease is over is requeued when a call looks at it. -/
theorem get_requeueEach_of_mem {stale : List (String × ReceiverWork)} {steps : Nat}
    {lease : Lease} (hnodup : (stale.map Prod.fst).Nodup) (hmem : (id, work) ∈ stale)
    (hstored : works[id]? = some work) (hheld : work.status = held actor)
    (hlease : leaseOf actor work = some lease) (hexpired : ∀ step, lease.expiresAt ≤ clock step) :
    ∃ now, (requeueEach actor clock steps stale works)[id]? = some (requeued actor now work) := by
  induction stale generalizing works steps with
  | nil => cases hmem
  | cons entry stale ih =>
      rcases entry with ⟨key, data⟩
      rw [List.map_cons, List.nodup_cons] at hnodup
      rcases List.mem_cons.mp hmem with hfirst | hlater
      · rcases Prod.mk.inj hfirst with ⟨rfl, rfl⟩
        have habandoned : (leaseOf actor work).any
            (fun lease => decide (lease.expiresAt ≤ clock steps)) = true := by
          rw [hlease]
          exact decide_eq_true (hexpired steps)
        have hover : ¬ (work.status ≠ held actor ∨ (leaseOf actor work).any
            (fun lease => decide (clock steps < lease.expiresAt)) = true) := by
          rw [hlease]
          rintro (hother | hlive)
          · exact hother hheld
          · have hlate := hexpired steps
            have hearly : clock steps < lease.expiresAt := of_decide_eq_true hlive
            omega
        refine ⟨clock steps, ?_⟩
        rw [requeueEach, get_requeueEach_of_not_mem hnodup.1]
        simp only [habandoned, if_true, requeue, hstored, if_neg hover]
        exact get_insert_self
      · have hne : id ≠ key := by
          intro hsame
          have hagain : id ∈ stale.map Prod.fst := List.mem_map_of_mem hlater
          exact hnodup.1 (hsame ▸ hagain)
        rw [requeueEach]
        apply ih hnodup.2 hlater
        split
        · rw [get_requeue_of_ne hne]
          exact hstored
        · exact hstored

theorem held_ne_queued (actor : Actor) : held actor ≠ queued actor := by
  cases actor <;> decide

/-- A held work behind the first fifty stays as it is. -/
theorem get_afterRequeue_of_le (hstored : works[id]? = some work)
    (hheld : work.status = held actor) (hmany : 50 ≤ ahead works (isHeld actor) id) :
    (afterRequeue actor clock works)[id]? = some work := by
  rw [afterRequeue, get_requeueEach_of_not_mem, hstored]
  intro hmem
  rcases List.mem_map.mp hmem with ⟨⟨key, data⟩, hentry, rfl⟩
  have hfound := (mem_query hentry).1
  rw [hstored, Option.some.injEq] at hfound
  subst hfound
  have hfew := (mem_query_iff hstored (decide_eq_true hheld)).mp hentry
  omega

end Requeueing

section Results

/-- One call that leases: who makes it, what it supports, and its times. -/
structure Call where
  owner : String
  kinds : List WorkKind
  clock : Nat → Nat

/-- The call, with nothing in between, leads from some works to others. -/
def Leads (runtime : Runtime) (actor : Actor) (call : Call) (works next : Works) : Prop :=
  ∃ steps result, leaseAlone runtime actor call.owner call.kinds call.clock works steps =
    (next, ⟨actor, call.owner, call.kinds, .finished result⟩)

theorem get_of_leads {call : Call} (hleads : Leads runtime actor call works next)
    (hkept : (afterRequeue actor call.clock works)[id]? = some work)
    (hheld : work.status = held actor) : next[id]? = some work := by
  rcases hleads with ⟨steps, result, hends⟩
  rcases leaseAlone_ends runtime actor call.owner call.kinds call.clock works with
    ⟨later, key, current, now, hlater, -, heligible⟩ | ⟨⟨later, hlater⟩, -⟩
  · rcases finished_unique hends hlater with ⟨rfl, -⟩
    have hother : id ≠ key := by
      rintro rfl
      have hfound := heligible.stored
      rw [hkept, Option.some.injEq] at hfound
      have hqueued := heligible.queued
      rw [← hfound, hheld] at hqueued
      exact held_ne_queued actor hqueued
    rw [get_insert_of_ne hother]
    exact hkept
  · rcases finished_unique hends hlater with ⟨rfl, -⟩
    exact hkept

theorem leases_iff :
    (∃ steps work, (leaseAlone runtime actor owner kinds clock works steps).2.phase =
      .finished (some work)) ↔
      ∃ id work, Eligible runtime actor kinds (afterRequeue actor clock works) id work ∧
        ahead (afterRequeue actor clock works) (isQueued actor) id < 50 := by
  constructor
  · rintro ⟨steps, work, hfinished⟩
    rcases leaseAlone_ends runtime actor owner kinds clock works with
      ⟨later, id, current, now, -, hmem, heligible⟩ | ⟨⟨later, hlater⟩, -⟩
    · exact ⟨id, current, heligible,
        (mem_query_iff heligible.stored (decide_eq_true heligible.queued)).mp hmem⟩
    · exfalso
      have hlate := alone_finished hlater (max steps later) (Nat.le_max_right _ _)
      cases hreached : leaseAlone runtime actor owner kinds clock works steps with
      | mk reached call =>
          rw [hreached] at hfinished
          have hcall : call = ⟨call.actor, call.owner, call.supportedKinds,
              .finished (some work)⟩ := by
            rw [← hfinished]
          rw [hcall] at hreached
          have hsame := alone_finished hreached (max steps later) (Nat.le_max_left _ _)
          rw [hlate] at hsame
          simp at hsame
  · rintro ⟨id, work, heligible, hfew⟩
    rcases leaseAlone_ends runtime actor owner kinds clock works with
      ⟨later, key, current, now, hlater, -⟩ | ⟨-, hnone⟩
    · exact ⟨later, _, by rw [hlater]⟩
    · exact absurd heligible (hnone (id, work)
        ((mem_query_iff heligible.stored (decide_eq_true heligible.queued)).mpr hfew))

theorem requeued_iff {calls : Nat → Call} {states : Nat → Works} {lease : Lease}
    (hcalls : ∀ index, Leads runtime actor (calls index) (states index) (states (index + 1)))
    (hstored : (states 0)[id]? = some work) (hheld : work.status = held actor)
    (hlease : leaseOf actor work = some lease)
    (hexpired : ∀ index step, lease.expiresAt ≤ (calls index).clock step) :
    (∃ index now, (afterRequeue actor (calls index).clock (states index))[id]? =
      some (requeued actor now work)) ↔
      ∃ index, ahead (states index) (isHeld actor) id < 50 := by
  have hkept : ∀ index, (∀ earlier, earlier < index →
      ¬ ahead (states earlier) (isHeld actor) id < 50) → (states index)[id]? = some work := by
    intro index
    induction index with
    | zero => exact fun _ => hstored
    | succ index ih =>
        intro hmany
        have hbefore := ih fun earlier hearlier =>
          hmany earlier (Nat.lt_succ_of_lt hearlier)
        have hwindow := Nat.not_lt.mp (hmany index (Nat.lt_succ_self index))
        exact get_of_leads (hcalls index) (get_afterRequeue_of_le hbefore hheld hwindow) hheld
  constructor
  · rintro ⟨index, now, hrequeued⟩
    by_contra hnone
    have hmany : ∀ index, ¬ ahead (states index) (isHeld actor) id < 50 :=
      fun index hfew => hnone ⟨index, hfew⟩
    have hsame : (afterRequeue actor (calls index).clock (states index))[id]? = some work :=
      get_afterRequeue_of_le (hkept index fun earlier _ => hmany earlier) hheld
        (Nat.not_lt.mp (hmany index))
    rw [hrequeued, Option.some.injEq] at hsame
    have hstatus := congrArg ReceiverWork.status hsame
    exact held_ne_queued actor (hheld.symm.trans hstatus.symm)
  · intro hsome
    classical
    have hfew := Nat.find_spec hsome
    have hfound := hkept (Nat.find hsome) fun earlier hearlier => Nat.find_min hsome hearlier
    refine ⟨Nat.find hsome, ?_⟩
    exact get_requeueEach_of_mem nodup_query
      ((mem_query_iff hfound (decide_eq_true hheld)).mpr hfew) hfound hheld hlease
      (hexpired _)

/-- Exactly when fewer than fifty queued works are ahead of one that may be leased does a call
lease a work, and exactly when fewer than fifty held works are ahead of an abandoned one at some
call do repeated calls requeue it. -/
theorem lease_complete_iff (runtime : Runtime) (actor : Actor) :
    (∀ (owner : String) (kinds : List WorkKind) (clock : Nat → Nat) (works : Works),
      (∃ steps work, (leaseAlone runtime actor owner kinds clock works steps).2.phase =
        .finished (some work)) ↔
        ∃ id work, Eligible runtime actor kinds (afterRequeue actor clock works) id work ∧
          ahead (afterRequeue actor clock works) (isQueued actor) id < 50) ∧
    ∀ (calls : Nat → Call) (states : Nat → Works) (id : String) (work : ReceiverWork)
      (lease : Lease),
      (∀ index, Leads runtime actor (calls index) (states index) (states (index + 1))) →
        (states 0)[id]? = some work → work.status = held actor →
          leaseOf actor work = some lease →
            (∀ index step, lease.expiresAt ≤ (calls index).clock step) →
              ((∃ index now, (afterRequeue actor (calls index).clock (states index))[id]? =
                some (requeued actor now work)) ↔
                ∃ index, ahead (states index) (isHeld actor) id < 50) := by
  constructor
  · intro owner kinds clock works
    exact leases_iff
  · intro calls states id work lease hcalls hstored hheld hlease hexpired
    exact requeued_iff hcalls hstored hheld hlease hexpired

end Results

section Sample

def numbered (number : Nat) : String :=
  String.ofList ['a', Char.ofNat (48 + number / 10), Char.ofNat (48 + number % 10)]

/-- Fifty TIN operations and a payment are received; latest first. -/
def crowdedInputs : List Input :=
  ⟨2000, .receive { fundingInput 5 with id := some "payment" }⟩ ::
    (List.range 50).map fun number =>
      ⟨1000, .receive { tinOperation with id := some (numbered number) }⟩

/-- Nobody who leases payments alone gets the payment. -/
theorem starved_payment :
    ∃ history state work, Run (step sampleRuntime) State.initial history state ∧
      Eligible sampleRuntime .node [.authorizedFunding] state.works "payment" work ∧
      ∃ steps, (leaseAlone sampleRuntime .node "owner" [.authorizedFunding] (fun _ => 3000)
        state.works steps).2.phase = .finished none := by
  have hreaches : reaches (step sampleRuntime) State.initial crowdedInputs.tail
      (fun _ state => state.works["payment"]?.isNone &&
        ((state.works.insert "payment" (submitted sampleRuntime (fundingInput 5) 2000))[
          "settlement-payment:\x7bamount:0,paymentId:paym"]?.isNone &&
        let after := afterRequeue .node (fun _ => 3000) (withPayment 2000 state.works)
        after.toList.all fun entry => entry.2.kind ≠ .authorizedFunding ∨
          50 ≤ ahead after (isQueued .node) entry.1)) = true := by
    decide +kernel
  rcases exists_run_of_reaches hreaches with ⟨history, before, hbefore, hholds⟩
  rcases Bool.and_eq_true_iff.mp hholds with ⟨hnew, hholds⟩
  rcases Bool.and_eq_true_iff.mp hholds with ⟨hfree, hbehind⟩
  have hreceived := receive_fundingInput 2000 (Option.isNone_iff_eq_none.mp hnew)
    (Option.isNone_iff_eq_none.mp hfree)
  obtain ⟨state, hstate⟩ : ∃ state : State,
      state = { before with works := withPayment 2000 before.works } := ⟨_, rfl⟩
  have hrun : Run (step sampleRuntime) State.initial
      ((before, ⟨2000, .receive (fundingInput 5)⟩) :: history) state := by
    refine .step hbefore ?_
    simp only [step, hreceived]
    rw [hstate]
    rfl
  have hworks : state.works = withPayment 2000 before.works := by
    rw [hstate]
  rw [← hworks] at hbehind
  have hstored : state.works["payment"]? =
      some (submitted sampleRuntime (fundingInput 5) 2000) := by
    rw [hworks, withPayment, Std.ExtTreeMap.getElem?_insert, if_neg (by decide),
      Std.ExtTreeMap.getElem?_insert_self]
  have hnone : ¬ ∃ id work, Eligible sampleRuntime .node [.authorizedFunding]
      (afterRequeue .node (fun _ => 3000) state.works) id work ∧
        ahead (afterRequeue .node (fun _ => 3000) state.works) (isQueued .node) id < 50 := by
    rintro ⟨id, found, heligible, hfew⟩
    have hentry := List.all_eq_true.mp hbehind (id, found)
      (Std.ExtTreeMap.mem_toList_iff_getElem?_eq_some.mpr heligible.stored)
    have hother := of_decide_eq_true hentry
    have hsupported := heligible.supported
    rcases hother with hother | hmany
    · cases hfound : found.kind with
      | authorizedFunding => exact hother hfound
      | settlement | tinOperation =>
          rw [hfound] at hsupported
          cases hsupported
    · exact absurd hfew (Nat.not_lt.mpr hmany)
  refine ⟨_, state, _, hrun, ⟨hstored, rfl, rfl, rfl⟩, ?_⟩
  · rcases leaseAlone_ends sampleRuntime .node "owner" [.authorizedFunding] (fun _ => 3000)
      state.works with ⟨steps, id, current, now, hsteps, -⟩ | ⟨⟨steps, hsteps⟩, -⟩
    · exact absurd (leases_iff.mp ⟨steps, _, by rw [hsteps]⟩) hnone
    · exact ⟨steps, by rw [hsteps]⟩

/-- A work whose lease is over. -/
def abandonedWork : ReceiverWork :=
  { receivedWork "work" .tinOperation (.obj []) "commitment" 0 with
    status := .nodeVerifying
    nodeLease := some ⟨"owner", 50, none, none⟩ }

def abandonedWorks : Works :=
  (∅ : Works).insert "work" abandonedWork

example : abandonedWorks.size = 1 := by
  decide +kernel

/-- The calls that support settlements alone requeue it, and leave it then. -/
def callsOnly : Call := ⟨"owner", [.settlement], fun _ => 100⟩

def statesOnly (index : Nat) : Works :=
  if index = 0 then abandonedWorks else afterRequeue .node callsOnly.clock abandonedWorks

theorem leads_statesOnly (index : Nat) :
    Leads sampleRuntime .node callsOnly (statesOnly index) (statesOnly (index + 1)) := by
  have hkinds : (afterRequeue .node callsOnly.clock abandonedWorks).toList.all
      (fun entry => entry.2.kind = .tinOperation) = true := by
    decide +kernel
  have hsame : afterRequeue .node callsOnly.clock (statesOnly index) =
      statesOnly (index + 1) := by
    by_cases hindex : index = 0
    · simp [statesOnly, hindex]
    · have hnone : query (afterRequeue .node callsOnly.clock abandonedWorks)
          (isHeld .node) 50 = [] := by
        refine List.isEmpty_iff.mp ?_
        decide +kernel
      simp only [statesOnly, hindex, if_false, Nat.add_one_ne_zero]
      rw [afterRequeue, hnone]
      rfl
  rcases leaseAlone_ends sampleRuntime .node callsOnly.owner callsOnly.kinds callsOnly.clock
    (statesOnly index) with ⟨_, id, current, _, -, -, heligible⟩ | ⟨⟨steps, hsteps⟩, -⟩
  · exfalso
    rw [hsame, statesOnly, if_neg (Nat.succ_ne_zero index)] at heligible
    have hkind := List.all_eq_true.mp hkinds (id, current)
      (Std.ExtTreeMap.mem_toList_iff_getElem?_eq_some.mpr heligible.stored)
    have hsupported := heligible.supported
    rw [of_decide_eq_true hkind] at hsupported
    cases hsupported
  · rw [hsame] at hsteps
    exact ⟨steps, none, hsteps⟩

theorem lease_complete_sample :
    (∃ steps work, (leaseAlone sampleRuntime .node "owner" [] (fun _ => 100) abandonedWorks
      steps).2.phase = .finished (some work)) ∧
      ∃ index now, (afterRequeue .node callsOnly.clock (statesOnly index))["work"]? =
        some (requeued .node now abandonedWork) := by
  rcases lease_complete_iff sampleRuntime .node with ⟨hleases, hrequeues⟩
  constructor
  · refine (hleases "owner" [] (fun _ => 100) abandonedWorks).mpr
      ⟨"work", requeued .node 100 abandonedWork, ⟨?_, rfl, rfl, rfl⟩, by decide +kernel⟩
    rfl
  · refine (hrequeues (fun _ => callsOnly) statesOnly "work" abandonedWork
      ⟨"owner", 50, none, none⟩ leads_statesOnly ?_ rfl rfl ?_).mpr ⟨0, by decide +kernel⟩
    · exact get_insert_self
    · intro index step
      change 50 ≤ 100
      decide

end Sample

end TsnProtocol.Receiver.LeaseWindow
