import TsnProtocol.Lib.Transition

/-!
The store of a Receiver on one machine: a file, changed under a lock file that a caller creates
and unlinks. A lock file that is too old is taken for abandoned, by a caller that looks at it
first and unlinks it later.
-/

namespace TsnProtocol.Receiver.LocalFirestore

open Lib.Checked
open Lib.Transition

variable {Data : Type}

/-- What a call makes of the data: what it writes, if it writes anything. -/
abbrev Operation (Data : Type) := Data → Option Data

/-- Where a call of `withFileLock` has got to: the next thing it asks of the file system. -/
inductive Phase (Data : Type) where
  | idle
  | opening (startedAt : Nat) (operation : Operation Data)
  | statting (startedAt : Nat) (operation : Operation Data)
  | judging (startedAt : Nat) (mtime : Option Nat) (operation : Operation Data)
  | unlinking (startedAt : Nat) (operation : Operation Data)
  | reading (operation : Operation Data)
  | operating (operation : Operation Data) (snapshot : Data)
  | writing (operation : Operation Data) (data : Data)
  | committing (operation : Operation Data) (data : Data) (attempt : Nat)
  | releasing

/-- The file, the time at which the lock file was made, if there is one, and the callers. -/
structure State (Data : Type) where
  data : Data
  lock : Option Nat
  phases : Nat → Phase Data

/-- What the file system answers; it refuses where trying again may help. -/
inductive Outcome where
  | done | refused | failed
  deriving DecidableEq

inductive Action (Data : Type) where
  | call (operation : Operation Data)
  | advance (outcome : Outcome)
  | crash

/-- One step of a caller, at a time of its process. -/
structure Input (Data : Type) where
  (caller now : Nat)
  action : Action Data

def State.enter (state : State Data) (caller : Nat) (phase : Phase Data) : State Data :=
  { state with phases := Function.update state.phases caller phase }

/-- The exclusive creation of the lock file. -/
def openLock (caller now startedAt : Nat) (operation : Operation Data) (outcome : Outcome)
    (state : State Data) : State Data :=
  match state.lock with
  | some _ => state.enter caller (.statting startedAt operation)
  | none =>
      if outcome = .done then
        { state with lock := some now }.enter caller (.reading operation)
      else state.enter caller .idle

/-- Whether the lock is abandoned, or the caller has waited too long. -/
def judge (now startedAt : Nat) (mtime : Option Nat) (operation : Operation Data) : Phase Data :=
  if mtime.any (fun mtime => decide (30000 < now - mtime)) = true then
    .unlinking startedAt operation
  else if 10000 < now - startedAt then .idle
  else .opening startedAt operation

/-- The lock file is unlinked, whoever made it; a failure is ignored. -/
def unlink (outcome : Outcome) (state : State Data) : State Data :=
  if outcome = .done then { state with lock := none } else state

/-- The temporary file takes the place of the file; eight attempts are made. -/
def rename (caller : Nat) (operation : Operation Data) (data : Data) (attempt : Nat)
    (outcome : Outcome) (state : State Data) : State Data :=
  match outcome with
  | .done => { state with data := data }.enter caller .releasing
  | .refused =>
      if attempt = 7 then state.enter caller .releasing
      else state.enter caller (.committing operation data (attempt + 1))
  | .failed => state.enter caller .releasing

def advance (caller now : Nat) (outcome : Outcome) (state : State Data) : State Data :=
  match state.phases caller with
  | .idle => state
  | .opening startedAt operation => openLock caller now startedAt operation outcome state
  | .statting startedAt operation =>
      state.enter caller
        (.judging startedAt (if outcome = .done then state.lock else none) operation)
  | .judging startedAt mtime operation =>
      state.enter caller (judge now startedAt mtime operation)
  | .unlinking startedAt operation =>
      (unlink outcome state).enter caller (.opening startedAt operation)
  | .reading operation =>
      if outcome = .done then state.enter caller (.operating operation state.data)
      else state.enter caller .releasing
  | .operating operation snapshot =>
      match operation snapshot with
      | some data => state.enter caller (.writing operation data)
      | none => state.enter caller .releasing
  | .writing operation data =>
      if outcome = .done then state.enter caller (.committing operation data 0)
      else state.enter caller .releasing
  | .committing operation data attempt => rename caller operation data attempt outcome state
  | .releasing => (unlink outcome state).enter caller .idle

def isIdle : Phase Data → Bool
  | .idle => true
  | _ => false

def step (state : State Data) (input : Input Data) : Except String (State Data) :=
  match input.action with
  | .call operation => do
      require (isIdle (state.phases input.caller) = true) "CALLING"
      return state.enter input.caller (.opening input.now operation)
  | .advance outcome => .ok (advance input.caller input.now outcome state)
  | .crash => .ok (state.enter input.caller .idle)

/-- The file as it was left, perhaps with a lock file, before anybody calls. -/
def State.initial (data : Data) (lock : Option Nat) : State Data :=
  ⟨data, lock, fun _ => .idle⟩

section Properties

/-- A caller is in the critical section: it has the lock, and its operation is under way. -/
def isInside : Phase Data → Bool
  | .reading _ | .operating _ _ | .writing _ _ | .committing _ _ _ => true
  | _ => false

def Exclusive (state : State Data) : Prop :=
  ∀ first second, isInside (state.phases first) = true →
    isInside (state.phases second) = true → first = second

/-- The operation a step commits, by renaming its temporary file. -/
def committed (state : State Data) (input : Input Data) : Option (Operation Data) :=
  match input.action, state.phases input.caller with
  | .advance .done, .committing operation _ _ => some operation
  | _, _ => none

/-- The operations a run has committed, latest first. -/
def commits (history : List (State Data × Input Data)) : List (Operation Data) :=
  history.filterMap fun entry => committed entry.1 entry.2

/-- What the committed operations make of the data, one after the other. -/
def applied (operations : List (Operation Data)) (data : Data) : Data :=
  operations.foldr (fun operation data => (operation data).getD data) data

/-- The step unlinks the lock file: of an abandoned lock, or to release its own. -/
def unlinks (state : State Data) (input : Input Data) : Bool :=
  match input.action, state.phases input.caller with
  | .advance .done, .unlinking _ _ | .advance .done, .releasing => true
  | _, _ => false

/-- The lock file is not unlinked while a caller is in the critical section. -/
def KeepsLock (state : State Data) (input : Input Data) : Prop :=
  unlinks state input = true → ∀ caller, isInside (state.phases caller) = false

end Properties

section Effects

variable {state next start : State Data} {input : Input Data}
  {history : List (State Data × Input Data)} {operation : Operation Data} {data : Data}

/-- What a caller has read or made of the data is still so. -/
def Current (data : Data) : Phase Data → Prop
  | .operating _ snapshot => snapshot = data
  | .writing operation written | .committing operation written _ => operation data = some written
  | _ => True

theorem current_of_not_isInside {phase : Phase Data} (houtside : isInside phase = false) :
    Current data phase := by
  cases phase with
  | operating | writing | committing => cases houtside
  | idle | opening | statting | judging | unlinking | reading | releasing => trivial

/-- What a step can do: move its caller on, take the lock, unlink it, or commit. -/
inductive Effect (state : State Data) (input : Input Data) : State Data → Prop where
  | move (phase : Phase Data) (hcommitted : committed state input = none)
      (hinside : isInside phase = true → isInside (state.phases input.caller) = true)
      (hcurrent : Current state.data (state.phases input.caller) → Current state.data phase) :
      Effect state input (state.enter input.caller phase)
  | take (operation : Operation Data) (hcommitted : committed state input = none)
      (hfree : state.lock = none) :
      Effect state input
        ({ state with lock := some input.now }.enter input.caller (.reading operation))
  | unlink (phase : Phase Data) (hcommitted : committed state input = none)
      (hunlinks : unlinks state input = true) (houtside : isInside phase = false) :
      Effect state input ({ state with lock := none }.enter input.caller phase)
  | commit (operation : Operation Data) (data : Data) (attempt : Nat)
      (hphase : state.phases input.caller = .committing operation data attempt)
      (hcommitted : committed state input = some operation) :
      Effect state input ({ state with data := data }.enter input.caller .releasing)

theorem enter_self (caller : Nat) : state.enter caller (state.phases caller) = state := by
  rw [State.enter, Function.update_eq_self]

/-- A step of a caller that is outside and stays there. -/
theorem effect_outside {phase : Phase Data} (hcommitted : committed state input = none)
    (houtside : isInside phase = false) :
    Effect state input (state.enter input.caller phase) := by
  apply Effect.move phase hcommitted
  · intro hinside
    rw [houtside] at hinside
    cases hinside
  · exact fun _ => current_of_not_isInside houtside

theorem isInside_judge (now startedAt : Nat) (mtime : Option Nat) (operation : Operation Data) :
    isInside (judge now startedAt mtime operation) = false := by
  unfold judge
  split
  · rfl
  · split <;> rfl

theorem effect_of_advance {caller now : Nat} {outcome : Outcome}
    (hadvance : advance caller now outcome state = next) :
    Effect state ⟨caller, now, .advance outcome⟩ next := by
  subst hadvance
  have hnone : (∀ operation data attempt,
      state.phases caller ≠ .committing operation data attempt) →
        committed state ⟨caller, now, .advance outcome⟩ = none := by
    intro hother
    unfold committed
    split
    · rename_i operation data attempt _ hphase
      exact absurd hphase (hother operation data attempt)
    · rfl
  unfold advance
  cases hphase : state.phases caller with
  | idle =>
      have hmove := @effect_outside _ state ⟨caller, now, .advance outcome⟩
        (state.phases caller) (hnone (by simp [hphase])) (by rw [hphase]; rfl)
      rwa [enter_self] at hmove
  | opening startedAt operation =>
      have hcommitted := hnone (by simp [hphase])
      unfold openLock
      cases hlock : state.lock with
      | some mtime => exact effect_outside hcommitted rfl
      | none =>
          simp only
          split
          · exact .take operation hcommitted hlock
          · exact effect_outside hcommitted rfl
  | statting startedAt operation => exact effect_outside (hnone (by simp [hphase])) rfl
  | judging startedAt mtime operation =>
      exact effect_outside (hnone (by simp [hphase])) (isInside_judge _ _ _ _)
  | unlinking startedAt operation =>
      have hcommitted := hnone (by simp [hphase])
      simp only [unlink]
      split
      · rename_i hdone
        subst hdone
        exact .unlink _ hcommitted (by simp [unlinks, hphase]) rfl
      · exact effect_outside hcommitted rfl
  | reading operation =>
      have hcommitted := hnone (by simp [hphase])
      simp only
      split
      · exact .move _ hcommitted (fun _ => by rw [hphase]; rfl) (fun _ => rfl)
      · exact effect_outside hcommitted rfl
  | operating operation snapshot =>
      have hcommitted := hnone (by simp [hphase])
      simp only
      split
      · rename_i data hdata
        refine .move _ hcommitted (fun _ => by rw [hphase]; rfl) ?_
        intro hcurrent
        rw [hphase] at hcurrent
        have hsnapshot : snapshot = state.data := hcurrent
        exact hsnapshot ▸ hdata
      · exact effect_outside hcommitted rfl
  | writing operation data =>
      have hcommitted := hnone (by simp [hphase])
      simp only
      split
      · refine .move _ hcommitted (fun _ => by rw [hphase]; rfl) ?_
        intro hcurrent
        rw [hphase] at hcurrent
        exact hcurrent
      · exact effect_outside hcommitted rfl
  | committing operation data attempt =>
      cases outcome with
      | done => exact .commit operation data attempt hphase (by simp [committed, hphase])
      | refused =>
          simp only [rename]
          split
          · exact effect_outside rfl rfl
          · refine .move _ rfl (fun _ => by rw [hphase]; rfl) ?_
            intro hcurrent
            rw [hphase] at hcurrent
            exact hcurrent
      | failed => exact effect_outside rfl rfl
  | releasing =>
      have hcommitted := hnone (by simp [hphase])
      simp only [unlink]
      split
      · rename_i hdone
        subst hdone
        exact .unlink _ hcommitted (by simp [unlinks, hphase]) rfl
      · exact effect_outside hcommitted rfl

theorem effect_of_step (hstep : step state input = .ok next) : Effect state input next := by
  rcases input with ⟨caller, now, operation | outcome | _⟩
  · simp only [step, bind_eq_ok, require_eq_ok, pure_eq_ok] at hstep
    rcases hstep with ⟨_, -, rfl⟩
    exact effect_outside rfl rfl
  · exact effect_of_advance (Except.ok.inj hstep)
  · cases hstep
    exact effect_outside rfl rfl

end Effects

section Runs

variable {state next start : State Data} {input : Input Data}
  {history : List (State Data × Input Data)}

/-- The lock file is there while a caller is inside, which is one caller, and what it has read
is what is stored. -/
structure Guarded (state : State Data) : Prop where
  held : ∀ caller, isInside (state.phases caller) = true → state.lock ≠ none
  exclusive : Exclusive state
  current : ∀ caller, Current state.data (state.phases caller)

theorem phases_enter_self {caller : Nat} {phase : Phase Data} :
    (state.enter caller phase).phases caller = phase := by
  simp [State.enter]

theorem phases_enter_of_ne {caller other : Nat} {phase : Phase Data} (hother : other ≠ caller) :
    (state.enter caller phase).phases other = state.phases other := by
  simp [State.enter, hother]

theorem isInside_of_enter {caller other : Nat} {phase : Phase Data}
    (houtside : isInside phase = false)
    (hinside : isInside ((state.enter caller phase).phases other) = true) :
    other ≠ caller ∧ isInside (state.phases other) = true := by
  by_cases hother : other = caller
  · rw [hother, phases_enter_self, houtside] at hinside
    cases hinside
  · rw [phases_enter_of_ne hother] at hinside
    exact ⟨hother, hinside⟩

theorem guarded_of_move {phase : Phase Data} {caller : Nat} (hguarded : Guarded state)
    (hinside : isInside phase = true → isInside (state.phases caller) = true)
    (hcurrent : Current state.data (state.phases caller) → Current state.data phase) :
    Guarded (state.enter caller phase) := by
  have hback : ∀ other, isInside ((state.enter caller phase).phases other) = true →
      isInside (state.phases other) = true := by
    intro other hother
    by_cases hcaller : other = caller
    · rw [hcaller, phases_enter_self] at hother
      rw [hcaller]
      exact hinside hother
    · rwa [phases_enter_of_ne hcaller] at hother
  constructor
  · intro other hother
    exact hguarded.held other (hback other hother)
  · intro first second hfirst hsecond
    exact hguarded.exclusive first second (hback first hfirst) (hback second hsecond)
  · intro other
    by_cases hcaller : other = caller
    · rw [hcaller, phases_enter_self]
      exact hcurrent (hguarded.current caller)
    · rw [phases_enter_of_ne hcaller]
      exact hguarded.current other

theorem guarded_of_effect (hguarded : Guarded state) (hkeeps : KeepsLock state input)
    (heffect : Effect state input next) : Guarded next := by
  cases heffect with
  | move phase hcommitted hinside hcurrent => exact guarded_of_move hguarded hinside hcurrent
  | take operation hcommitted hfree =>
      have hnobody : ∀ other, ¬ isInside (state.phases other) = true :=
        fun other hother => hguarded.held other hother hfree
      have honly : ∀ other, isInside ((State.enter { state with lock := some input.now }
          input.caller (.reading operation)).phases other) = true → other = input.caller := by
        intro other hother
        by_contra hcaller
        rw [phases_enter_of_ne hcaller] at hother
        exact hnobody other hother
      constructor
      · intro other hother
        exact nofun
      · intro first second hfirst hsecond
        rw [honly first hfirst, honly second hsecond]
      · intro other
        by_cases hcaller : other = input.caller
        · rw [hcaller, phases_enter_self]
          trivial
        · rw [phases_enter_of_ne hcaller]
          exact hguarded.current other
  | unlink phase hcommitted hunlinks houtside =>
      have hnobody : ∀ other, isInside ((State.enter { state with lock := none }
          input.caller phase).phases other) = false := by
        intro other
        by_cases hcaller : other = input.caller
        · rw [hcaller, phases_enter_self]
          exact houtside
        · rw [phases_enter_of_ne hcaller]
          exact hkeeps hunlinks other
      constructor
      · intro other hother
        rw [hnobody other] at hother
        cases hother
      · intro first second hfirst
        rw [hnobody first] at hfirst
        cases hfirst
      · exact fun other => current_of_not_isInside (hnobody other)
  | commit operation data attempt hphase hcommitted =>
      have hcaller : isInside (state.phases input.caller) = true := by
        rw [hphase]
        rfl
      have hnobody : ∀ other, isInside ((State.enter { state with data := data }
          input.caller .releasing).phases other) = false := by
        intro other
        rw [Bool.eq_false_iff]
        intro hother
        rcases isInside_of_enter rfl hother with ⟨hne, hinside⟩
        exact hne (hguarded.exclusive other input.caller hinside hcaller)
      constructor
      · intro other hother
        rw [hnobody other] at hother
        cases hother
      · intro first second hfirst
        rw [hnobody first] at hfirst
        cases hfirst
      · exact fun other => current_of_not_isInside (hnobody other)

theorem applied_of_effect (hguarded : Guarded state) (heffect : Effect state input next)
    {earlier : Data} (happlied : state.data = applied (commits history) earlier) :
    next.data = applied (commits ((state, input) :: history)) earlier := by
  have hsame : committed state input = none →
      commits ((state, input) :: history) = commits history := by
    intro hnone
    simp [commits, hnone]
  cases heffect with
  | move phase hcommitted =>
      rw [hsame hcommitted]
      exact happlied
  | take operation hcommitted =>
      rw [hsame hcommitted]
      exact happlied
  | unlink phase hcommitted =>
      rw [hsame hcommitted]
      exact happlied
  | commit operation data attempt hphase hcommitted =>
      have hcons : commits ((state, input) :: history) = operation :: commits history := by
        simp [commits, hcommitted]
      have hcurrent := hguarded.current input.caller
      rw [hphase] at hcurrent
      have hwritten : operation state.data = some data := hcurrent
      rw [hcons, applied, List.foldr_cons, ← applied, ← happlied, hwritten]
      rfl

theorem guarded_initial (data : Data) (lock : Option Nat) :
    Guarded (State.initial data lock) :=
  ⟨nofun, nofun, fun _ => trivial⟩

/-- While the lock is kept, one caller at most is inside, and nothing committed is lost. -/
theorem guarded_of_run {data : Data} {lock : Option Nat}
    (hrun : Run step (State.initial data lock) history state)
    (hkeeps : ∀ entry ∈ history, KeepsLock entry.1 entry.2) :
    Guarded state ∧ state.data = applied (commits history) data := by
  refine @Run.induct_of_forall _ _ _ step _ KeepsLock
    (fun history state => Guarded state ∧ state.data = applied (commits history) data)
    history state hrun hkeeps ⟨guarded_initial data lock, rfl⟩ ?_
  rintro history state input next hkeep ⟨hguarded, happlied⟩ hstep
  have heffect := effect_of_step hstep
  exact ⟨guarded_of_effect hguarded hkeep heffect,
    applied_of_effect hguarded heffect happlied⟩

/-- Only finitely many callers have begun. -/
theorem exists_bound {data : Data} {lock : Option Nat}
    (hrun : Run step (State.initial data lock) history state) :
    ∃ bound, ∀ caller, bound ≤ caller → isIdle (state.phases caller) = true := by
  refine hrun.induct_on (fun _ state => ∃ bound, ∀ caller, bound ≤ caller →
    isIdle (state.phases caller) = true) ⟨0, fun _ _ => rfl⟩ ?_
  rintro history state input next _ ⟨bound, hbound⟩ hstep
  have hothers : ∀ caller, caller ≠ input.caller →
      next.phases caller = state.phases caller := by
    intro caller hcaller
    cases effect_of_step hstep <;> exact phases_enter_of_ne hcaller
  refine ⟨max bound (input.caller + 1), ?_⟩
  intro caller hcaller
  have hne : caller ≠ input.caller := by
    omega
  rw [hothers caller hne]
  exact hbound caller (by omega)

/-- Whatever callers do next without unlinking the lock file, one at most is inside. -/
def Secure (state : State Data) : Prop :=
  ∀ later reached, Run step state later reached →
    (∀ entry ∈ later, unlinks entry.1 entry.2 = false) → Exclusive reached

theorem secure_of_guarded (hguarded : Guarded state) : Secure state := by
  intro later reached hrun hnone
  refine (@Run.induct_of_forall _ _ _ step state (fun state input => unlinks state input = false)
    (fun _ state => Guarded state) later reached hrun hnone hguarded ?_).exclusive
  intro history state input next hkeeps hguarded hstep
  refine guarded_of_effect hguarded ?_ (effect_of_step hstep)
  intro hunlinks
  rw [hkeeps] at hunlinks
  cases hunlinks

theorem exists_effect_of_unlinks (hunlinks : unlinks state input = true)
    (hstep : step state input = .ok next) :
    ∃ phase, isInside phase = false ∧
      next = { state with lock := none }.enter input.caller phase := by
  rcases input with ⟨caller, now, action⟩
  unfold unlinks at hunlinks
  split at hunlinks
  · rename_i startedAt operation haction hphase
    cases haction
    refine ⟨.opening startedAt operation, rfl, ?_⟩
    simpa [step, advance, hphase, unlink] using hstep.symm
  · rename_i haction hphase
    cases haction
    refine ⟨.idle, rfl, ?_⟩
    simpa [step, advance, hphase, unlink] using hstep.symm
  · cases hunlinks

theorem outside_of_unlinks (hunlinks : unlinks state input = true) :
    isInside (state.phases input.caller) = false := by
  unfold unlinks at hunlinks
  split at hunlinks
  · rename_i hphase
    rw [hphase]
    rfl
  · rename_i hphase
    rw [hphase]
    rfl
  · cases hunlinks

/-- Without the lock of a caller that is inside, the next one to open it is inside too. -/
theorem not_secure_of_unlocked {caller bound : Nat} (hfree : state.lock = none)
    (hinside : isInside (state.phases caller) = true)
    (hbound : ∀ caller, bound ≤ caller → isIdle (state.phases caller) = true) :
    ¬ Secure state := by
  intro hsecure
  have hne : caller ≠ bound := by
    rintro rfl
    have hidle := hbound caller (Nat.le_refl _)
    cases hphase : state.phases caller <;> rw [hphase] at hinside hidle <;>
      simp [isInside, isIdle] at hinside hidle
  let called := state.enter bound (.opening 0 fun _ => none)
  let opened := State.enter { called with lock := some 0 } bound (.reading fun _ => none)
  have hcall : step state ⟨bound, 0, .call fun _ => none⟩ = .ok called := by
    simp [step, require, hbound bound (Nat.le_refl _), bind, Except.bind, pure, Except.pure,
      called]
  have hopen : step called ⟨bound, 0, .advance .done⟩ = .ok opened := by
    have hphase : called.phases bound = .opening 0 fun _ => none := phases_enter_self
    have hlock : called.lock = none := hfree
    simp [step, advance, hphase, openLock, hlock, opened]
  have hexclusive := hsecure _ opened ((Run.start.step hcall).step hopen) (by
    intro entry hentry
    rcases List.mem_cons.mp hentry with rfl | hentry
    · simp [unlinks, called, State.enter]
    · rcases List.mem_cons.mp hentry with rfl | hentry
      · rfl
      · cases hentry)
  have hfirst : isInside (opened.phases caller) = true := by
    have hkept : opened.phases caller = state.phases caller :=
      (phases_enter_of_ne hne).trans (phases_enter_of_ne hne)
    rw [hkept]
    exact hinside
  have hsecond : isInside (opened.phases bound) = true := by
    have hreading : opened.phases bound = .reading fun _ => none := phases_enter_self
    rw [hreading]
    rfl
  exact hne (hexclusive caller bound hfirst hsecond)

/-- Exactly in the runs that unlink the lock file while nobody is inside, one caller at most is
inside at any time, however the callers go on, and every committed write is in the file. -/
theorem secure_iff {data : Data} {lock : Option Nat}
    (hrun : Run step (State.initial data lock) history state) :
    ((∀ reached ∈ state :: history.map Prod.fst, Secure reached) ∧
      state.data = applied (commits history) data) ↔
        ∀ entry ∈ history, KeepsLock entry.1 entry.2 := by
  constructor
  · rintro ⟨hsecure, -⟩
    induction hrun with
    | start => exact nofun
    | @step earlier before after input hearlierRun htransition ih =>
        rw [List.map_cons] at hsecure
        have hbefore := ih fun reached hreached =>
          hsecure reached (List.mem_cons_of_mem _ hreached)
        refine List.forall_mem_cons.mpr ⟨?_, hbefore⟩
        intro hunlinks caller
        by_contra hinside
        rw [Bool.not_eq_false] at hinside
        rcases exists_effect_of_unlinks hunlinks htransition with ⟨phase, houtside, rfl⟩
        have hother : caller ≠ input.caller := by
          intro hsame
          rw [hsame, outside_of_unlinks hunlinks] at hinside
          cases hinside
        rcases exists_bound (hearlierRun.step htransition) with ⟨bound, hbound⟩
        refine @not_secure_of_unlocked _ _ caller bound rfl ?_ hbound
          (hsecure _ List.mem_cons_self)
        rw [phases_enter_of_ne hother]
        exact hinside
  · intro hkeeps
    refine ⟨?_, (guarded_of_run hrun hkeeps).2⟩
    intro reached hreached
    rcases List.mem_cons.mp hreached with rfl | hearlier
    · exact secure_of_guarded (guarded_of_run hrun hkeeps).1
    · induction hrun with
      | start => cases hearlier
      | step hprefix htransition ih =>
          rcases List.forall_mem_cons.mp hkeeps with ⟨-, hbefore⟩
          rcases List.mem_cons.mp hearlier with rfl | hearlier
          · exact secure_of_guarded (guarded_of_run hprefix hbefore).1
          · exact ih hbefore (List.mem_cons_of_mem _ hearlier) hearlier

end Runs

section Sample

def add (amount : Nat) : Operation Nat := fun data => some (data + amount)

def advanced (caller now : Nat) : Input Nat := ⟨caller, now, .advance .done⟩

/-- Both callers count up; the first is held up for half a minute after it has read the file,
and the second takes its lock for abandoned. -/
def overtaken : List (Input Nat) :=
  [advanced 1 30009, advanced 1 30008, advanced 1 30007, advanced 2 30006, advanced 2 30005,
    advanced 2 30004, advanced 2 30003, advanced 2 30002, advanced 2 30002, advanced 2 30001,
    advanced 2 30000, advanced 2 30000, ⟨2, 30000, .call (add 1)⟩, advanced 1 0, advanced 1 0,
    ⟨1, 0, .call (add 1)⟩]

theorem exists_overtaken :
    ∃ history state, Run step (State.initial 0 none) history state ∧
      (∃ reached ∈ history.map Prod.fst, isInside (reached.phases 1) = true ∧
        isInside (reached.phases 2) = true) ∧
      applied (commits history) 0 = 2 ∧ state.data = 1 := by
  have hreaches : reaches step (State.initial 0 none) overtaken (fun history state =>
      (history.any fun entry =>
        isInside (entry.1.phases 1) && isInside (entry.1.phases 2)) &&
          decide (applied (commits history) 0 = 2 ∧ state.data = 1)) = true := by
    decide +kernel
  rcases exists_run_of_reaches hreaches with ⟨history, state, hrun, hholds⟩
  rw [Bool.and_eq_true, decide_eq_true_eq, List.any_eq_true] at hholds
  rcases hholds with ⟨⟨entry, hentry, hboth⟩, hdata⟩
  rw [Bool.and_eq_true] at hboth
  exact ⟨history, state, hrun, ⟨entry.1, List.mem_map_of_mem hentry, hboth⟩, hdata⟩

theorem lost_after_takeover :
    ∃ history state, Run step (State.initial 0 none) history state ∧
      (∃ reached ∈ history.map Prod.fst, ¬ Exclusive reached) ∧
      state.data ≠ applied (commits history) 0 := by
  rcases exists_overtaken with ⟨history, state, hrun, ⟨reached, hreached, hfirst, hsecond⟩,
    happlied, hdata⟩
  refine ⟨history, state, hrun, ⟨reached, hreached, ?_⟩, ?_⟩
  · intro hexclusive
    exact absurd (hexclusive 1 2 hfirst hsecond) (by decide)
  · rw [happlied, hdata]
    decide

theorem not_keepsLock_of_takeover :
    ∃ history state, Run step (State.initial 0 none) history state ∧
      ¬ ∀ entry ∈ history, KeepsLock entry.1 entry.2 := by
  rcases exists_overtaken with ⟨history, state, hrun, -, happlied, hdata⟩
  refine ⟨history, state, hrun, ?_⟩
  intro hkeeps
  have hlost := ((secure_iff hrun).mpr hkeeps).2
  rw [happlied, hdata] at hlost
  cases hlost

end Sample

end TsnProtocol.Receiver.LocalFirestore
