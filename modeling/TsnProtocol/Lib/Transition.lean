import Mathlib
import TsnProtocol.Lib.Checked

/-!
Runs of a partial transition function. A run records the state and the input
of every transition it made, latest first, so that quantities accumulated over
a run can be read off the record.
-/

namespace TsnProtocol.Lib.Transition

open Lib.Checked

variable {State Input Error : Type}

/-- `Run step start history state`: the transitions recorded in `history` lead
from `start` to `state`, none of them failing. -/
inductive Run (step : State → Input → Except Error State) (start : State) :
    List (State × Input) → State → Prop
  | start : Run step start [] start
  | step {history : List (State × Input)} {state next : State} {input : Input} :
      Run step start history state → step state input = .ok next →
        Run step start ((state, input) :: history) next

/-- The run made by a list of inputs, when none of them fails. -/
def replay (step : State → Input → Except Error State) (start : State) :
    List Input → Except Error (List (State × Input) × State)
  | [] => .ok ([], start)
  | input :: inputs => do
      let (history, state) ← replay step start inputs
      let next ← step state input
      return ((state, input) :: history, next)

/-- Every state reached by a run satisfies what holds at the start and is kept
by each transition. -/
theorem Run.induct_on {step : State → Input → Except Error State} {start : State}
    (Invariant : List (State × Input) → State → Prop)
    {history : List (State × Input)} {state : State}
    (hrun : Run step start history state)
    (hstart : Invariant [] start)
    (hstep : ∀ history state input next, Run step start history state →
      Invariant history state → step state input = .ok next →
        Invariant ((state, input) :: history) next) :
    Invariant history state := by
  induction hrun with
  | start => exact hstart
  | step hprefix htransition ih => exact hstep _ _ _ _ hprefix ih htransition

/-- The invariant rule under a condition that every transition of the run
meets. -/
theorem Run.induct_of_forall {step : State → Input → Except Error State}
    {start : State} {Condition : State → Input → Prop}
    (Invariant : List (State × Input) → State → Prop)
    {history : List (State × Input)} {state : State}
    (hrun : Run step start history state)
    (hcondition : ∀ entry ∈ history, Condition entry.1 entry.2)
    (hstart : Invariant [] start)
    (hstep : ∀ history state input next, Condition state input →
      Invariant history state → step state input = .ok next →
        Invariant ((state, input) :: history) next) :
    Invariant history state := by
  induction hrun with
  | start => exact hstart
  | step hprefix htransition ih =>
      exact hstep _ _ _ _ (hcondition _ List.mem_cons_self)
        (ih fun entry hentry => hcondition entry (List.mem_cons_of_mem _ hentry))
        htransition

/-- Every transition recorded was made. -/
theorem Run.exists_next {step : State → Input → Except Error State} {start : State}
    {history : List (State × Input)} {state before : State} {input : Input}
    (hrun : Run step start history state) (hentry : (before, input) ∈ history) :
    ∃ after, step before input = .ok after := by
  induction hrun with
  | start => cases hentry
  | step hprefix htransition ih =>
      rcases List.mem_cons.mp hentry with hlast | hearlier
      · cases hlast
        exact ⟨_, htransition⟩
      · exact ih hearlier

/-- The state in which a recorded transition was made was reached by the run. -/
theorem Run.of_mem {step : State → Input → Except Error State} {start : State}
    {history : List (State × Input)} {state before : State} {input : Input}
    (hrun : Run step start history state) (hentry : (before, input) ∈ history) :
    ∃ earlier, Run step start earlier before := by
  induction hrun with
  | start => cases hentry
  | step hprefix htransition ih =>
      rcases List.mem_cons.mp hentry with hlast | hearlier
      · cases hlast
        exact ⟨_, hprefix⟩
      · exact ih hearlier

section Continuations

variable {step : State → Input → Except Error State} {Allowed : Input → Prop}
  {start state middle next : State} {history later : List (State × Input)}

theorem Run.append (hrun : Run step start history state) (hlater : Run step state later next) :
    Run step start (later ++ history) next := by
  induction hlater with
  | start => exact hrun
  | step hprefix htransition ih => exact .step ih htransition

/-- Transitions under allowed inputs lead from one state to another. -/
def Continues (step : State → Input → Except Error State) (Allowed : Input → Prop)
    (state next : State) : Prop :=
  ∃ later, Run step state later next ∧ ∀ entry ∈ later, Allowed entry.2

theorem Continues.refl : Continues step Allowed state state :=
  ⟨[], .start, nofun⟩

theorem Continues.snoc {input : Input} (hcontinues : Continues step Allowed state middle)
    (hallowed : Allowed input) (hstep : step middle input = .ok next) :
    Continues step Allowed state next := by
  rcases hcontinues with ⟨later, hrun, hall⟩
  exact ⟨_, hrun.step hstep, List.forall_mem_cons.mpr ⟨hallowed, hall⟩⟩

theorem Continues.trans (hfirst : Continues step Allowed state middle)
    (hsecond : Continues step Allowed middle next) : Continues step Allowed state next := by
  rcases hfirst with ⟨earlier, hearlier, hfirst⟩
  rcases hsecond with ⟨later, hlater, hsecond⟩
  refine ⟨later ++ earlier, hearlier.append hlater, ?_⟩
  intro entry hentry
  rcases List.mem_append.mp hentry with hlate | hearly
  · exact hsecond entry hlate
  · exact hfirst entry hearly

/-- Where states that are not settled can continue to good ones of a smaller rank, a settled
one can be reached. -/
theorem Continues.exists_settled {rank : State → Nat} {Good Settled : State → Prop}
    (hprogress : ∀ state, Good state → ¬ Settled state →
      ∃ next, Continues step Allowed state next ∧ Good next ∧ rank next < rank state)
    (hgood : Good state) :
    ∃ next, Continues step Allowed state next ∧ Good next ∧ Settled next := by
  induction hrank : rank state using Nat.strongRecOn generalizing state with
  | ind number ih =>
      by_cases hsettled : Settled state
      · exact ⟨state, .refl, hgood, hsettled⟩
      · rcases hprogress state hgood hsettled with ⟨middle, hfirst, hmiddle, hless⟩
        rcases ih (rank middle) (hrank ▸ hless) hmiddle rfl with
          ⟨next, hsecond, hnext, hended⟩
        exact ⟨next, hfirst.trans hsecond, hnext, hended⟩

end Continuations

section Counters

variable {Key : Type} {step : State → Input → Except Error State} {start : State}
  {counter : State → Key → Nat} {ticket : State → Input → Option (Key × Nat)}

/-- The tickets a run has accepted, latest first. -/
def tickets (ticket : State → Input → Option (Key × Nat))
    (history : List (State × Input)) : List (Key × Nat) :=
  history.filterMap fun entry => ticket entry.1 entry.2

/-- A ticket is accepted only above the counter of its key, and becomes that counter. -/
structure Guarded (step : State → Input → Except Error State)
    (counter : State → Key → Nat) (ticket : State → Input → Option (Key × Nat))
    (Allowed : Input → Prop) : Prop where
  monotone : ∀ state input next, Allowed input → step state input = .ok next →
    ∀ key, counter state key ≤ counter next key
  fresh : ∀ state input next key number, Allowed input → step state input = .ok next →
    ticket state input = some (key, number) →
      counter state key < number ∧ number ≤ counter next key

/-- Under the guard no ticket is accepted twice, and none lies above its counter. -/
theorem nodup_tickets {Allowed : Input → Prop}
    (hguard : Guarded step counter ticket Allowed)
    {history : List (State × Input)} {state : State} (hrun : Run step start history state)
    (hallowed : ∀ entry ∈ history, Allowed entry.2) :
    (tickets ticket history).Nodup ∧
      ∀ accepted ∈ tickets ticket history, accepted.2 ≤ counter state accepted.1 := by
  refine @Run.induct_of_forall _ _ _ step start (fun _ input => Allowed input)
    (fun history state => (tickets ticket history).Nodup ∧
      ∀ accepted ∈ tickets ticket history, accepted.2 ≤ counter state accepted.1)
    history state hrun hallowed ⟨List.nodup_nil, nofun⟩ ?_
  rintro history state input next hallow ⟨hnodup, hbelow⟩ hstep
  have hkept : ∀ accepted ∈ tickets ticket history,
      accepted.2 ≤ counter next accepted.1 := fun accepted haccepted =>
    Nat.le_trans (hbelow accepted haccepted) (hguard.monotone state input next hallow hstep _)
  cases hticket : ticket state input with
  | none =>
      have hsame : tickets ticket ((state, input) :: history) = tickets ticket history := by
        simp [tickets, hticket]
      rw [hsame]
      exact ⟨hnodup, hkept⟩
  | some accepted =>
      obtain ⟨key, number⟩ := accepted
      have hcons : tickets ticket ((state, input) :: history) =
          (key, number) :: tickets ticket history := by
        simp [tickets, hticket]
      obtain ⟨habove, hnext⟩ := hguard.fresh state input next key number hallow hstep hticket
      rw [hcons]
      constructor
      · refine List.nodup_cons.mpr ⟨fun hagain => ?_, hnodup⟩
        exact absurd (hbelow _ hagain) (Nat.not_le.mpr habove)
      · intro other hother
        rcases List.mem_cons.mp hother with rfl | hearlier
        · exact hnext
        · exact hkept other hearlier

end Counters

theorem run_of_replay {step : State → Input → Except Error State} {start : State}
    {inputs : List Input} {history : List (State × Input)} {state : State}
    (hreplay : replay step start inputs = .ok (history, state)) :
    Run step start history state := by
  induction inputs generalizing history state with
  | nil =>
      cases hreplay
      exact .start
  | cons input inputs ih =>
      simp only [replay, bind_eq_ok, pure_eq_ok, Prod.mk.injEq] at hreplay
      obtain ⟨⟨earlier, reached⟩, hprefix, next, htransition, rfl, rfl⟩ := hreplay
      exact .step (ih hprefix) htransition

theorem inputs_of_replay {step : State → Input → Except Error State} {start : State}
    {inputs : List Input} {history : List (State × Input)} {state : State}
    (hreplay : replay step start inputs = .ok (history, state)) :
    history.map Prod.snd = inputs := by
  induction inputs generalizing history state with
  | nil =>
      cases hreplay
      rfl
  | cons input inputs ih =>
      simp only [replay, bind_eq_ok, pure_eq_ok, Prod.mk.injEq] at hreplay
      obtain ⟨⟨earlier, reached⟩, hprefix, next, _, rfl, rfl⟩ := hreplay
      rw [List.map_cons, ih hprefix]

/-- A run that can be evaluated, with a property of what it reaches that can be
evaluated too. -/
def reaches (step : State → Input → Except Error State) (start : State)
    (inputs : List Input) (property : List (State × Input) → State → Bool) : Bool :=
  match replay step start inputs with
  | .ok (history, state) => property history state
  | .error _ => false

theorem exists_run_of_reaches_inputs {step : State → Input → Except Error State}
    {start : State} {inputs : List Input} {property : List (State × Input) → State → Bool}
    (hreaches : reaches step start inputs property = true) :
    ∃ history state, Run step start history state ∧ history.map Prod.snd = inputs ∧
      property history state = true := by
  unfold reaches at hreaches
  split at hreaches
  · rename_i history state hreplay
    exact ⟨history, state, run_of_replay hreplay, inputs_of_replay hreplay, hreaches⟩
  · cases hreaches

theorem exists_run_of_reaches {step : State → Input → Except Error State} {start : State}
    {inputs : List Input} {property : List (State × Input) → State → Bool}
    (hreaches : reaches step start inputs property = true) :
    ∃ history state, Run step start history state ∧ property history state = true := by
  obtain ⟨history, state, hrun, _, hproperty⟩ := exists_run_of_reaches_inputs hreaches
  exact ⟨history, state, hrun, hproperty⟩

end TsnProtocol.Lib.Transition
