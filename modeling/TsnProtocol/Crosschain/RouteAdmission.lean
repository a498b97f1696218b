import TsnProtocol.Crosschain.DestinationRegistry

/-!
Admission of destination routes over whole runs of the registry: the votes a route counts, what
an active route has been through, what never changes, and how long a deactivation lasts.
-/

namespace TsnProtocol.Crosschain.RouteAdmission

open Crosschain.DestinationRegistry
open Lib.Evm
open Lib.Transition

variable {setting : Setting} {config : Config} {state next : State} {call : Call}
  {history later : List (State × Call)} {routeId : Bytes32}

section Steps

/-- The route an action is about. -/
def routeOf : Action → Bytes32
  | .proposeRoute proposal _ => proposal.routeId
  | .voteForRoute routeId => routeId
  | .activateRoute routeId => routeId
  | .deactivateRoute routeId => routeId

/-- What a call does to one route. -/
inductive Effect (setting : Setting) (config : Config) (state : State) (call : Call)
    (next : State) (routeId : Bytes32) : Prop where
  | proposed (proposal : RouteProposal) (attestorSignature : List Lib.ByteReader.Byte)
      (haction : call.action = .proposeRoute proposal attestorSignature)
      (hroute : proposal.routeId = routeId)
      (hfresh : (state.routes routeId).proposedAt = 0)
      (hsigned : setting.recover (routeDigest setting proposal) attestorSignature =
        some config.routeAttestor)
      (hfits : call.block.timestamp + config.votingPeriod.toNat +
        config.activationDelay.toNat < 2 ^ 64)
      (hroutes : next.routes routeId = proposedRoute config call.block proposal)
      (hvotes : next.hasVoted routeId = state.hasVoted routeId)
  | voted (haction : call.action = .voteForRoute routeId)
      (hproposed : (state.routes routeId).proposedAt ≠ 0)
      (hopen : call.block.timestamp ≤ (state.routes routeId).votingEndsAt)
      (hfresh : state.hasVoted routeId call.sender = false)
      (hroutes : next.routes routeId =
        { state.routes routeId with voteCount := (state.routes routeId).voteCount + 1 })
      (hvotes : next.hasVoted routeId =
        Function.update (state.hasVoted routeId) call.sender true)
  | activated (haction : call.action = .activateRoute routeId)
      (hproposed : (state.routes routeId).proposedAt ≠ 0)
      (hquorum : config.quorum.toNat ≤ (state.routes routeId).voteCount)
      (hdue : (state.routes routeId).activationAt ≤ call.block.timestamp)
      (hroutes : next.routes routeId = { state.routes routeId with active := true })
      (hvotes : next.hasVoted routeId = state.hasVoted routeId)
  | deactivated (haction : call.action = .deactivateRoute routeId)
      (hguardian : call.sender = config.emergencyGuardian)
      (hproposed : (state.routes routeId).proposedAt ≠ 0)
      (hroutes : next.routes routeId = { state.routes routeId with active := false })
      (hvotes : next.hasVoted routeId = state.hasVoted routeId)
  | untouched (haction : routeOf call.action ≠ routeId)
      (hroutes : next.routes routeId = state.routes routeId)
      (hvotes : next.hasVoted routeId = state.hasVoted routeId)

theorem effect_of_step (hstep : step setting config state call = .ok next)
    (routeId : Bytes32) : Effect setting config state call next routeId := by
  obtain ⟨sender, block, action⟩ := call
  cases action with
  | proposeRoute proposal attestorSignature =>
      obtain ⟨-, hfresh, hsigned, hfits, rfl⟩ := proposeRoute_eq_ok.mp hstep
      by_cases hroute : proposal.routeId = routeId
      · subst hroute
        exact .proposed proposal attestorSignature rfl rfl hfresh hsigned hfits
          (Function.update_self ..) rfl
      · exact .untouched hroute (Function.update_of_ne (Ne.symm hroute) ..) rfl
  | voteForRoute other =>
      obtain ⟨hproposed, hopen, hfresh, -, rfl⟩ := voteForRoute_eq_ok.mp hstep
      by_cases hroute : other = routeId
      · subst hroute
        exact .voted rfl hproposed hopen hfresh (Function.update_self ..)
          (Function.update_self ..)
      · exact .untouched hroute (Function.update_of_ne (Ne.symm hroute) ..)
          (Function.update_of_ne (Ne.symm hroute) ..)
  | activateRoute other =>
      obtain ⟨hproposed, -, hquorum, hdue, rfl⟩ := activateRoute_eq_ok.mp hstep
      by_cases hroute : other = routeId
      · subst hroute
        exact .activated rfl hproposed hquorum hdue (Function.update_self ..) rfl
      · exact .untouched hroute (Function.update_of_ne (Ne.symm hroute) ..) rfl
  | deactivateRoute other =>
      obtain ⟨hguardian, hproposed, rfl⟩ := deactivateRoute_eq_ok.mp hstep
      by_cases hroute : other = routeId
      · subst hroute
        exact .deactivated rfl hguardian hproposed (Function.update_self ..) rfl
      · exact .untouched hroute (Function.update_of_ne (Ne.symm hroute) ..) rfl

end Steps

section Terms

/-- The proposed fields of a route, apart from its votes and whether it is active. -/
def terms (route : Route) : Route :=
  { route with
    voteCount := 0
    active := false }

/-- Two routes with one proposal have one voting period and one activation time. -/
theorem times_of_terms {left right : Route} (hterms : terms left = terms right) :
    left.proposedAt = right.proposedAt ∧ left.votingEndsAt = right.votingEndsAt ∧
      left.activationAt = right.activationAt := by
  simp only [terms, Route.mk.injEq] at hterms
  obtain ⟨-, -, -, -, -, -, hproposed, hvoting, hactivation, -, -⟩ := hterms
  exact ⟨hproposed, hvoting, hactivation⟩

theorem terms_of_step (hproposed : (state.routes routeId).proposedAt ≠ 0)
    (hstep : step setting config state call = .ok next) :
    terms (next.routes routeId) = terms (state.routes routeId) := by
  rcases effect_of_step hstep routeId with ⟨_, _, _, _, hfresh, -, -, -, -⟩ |
    ⟨_, -, -, -, hroutes, -⟩ | ⟨_, -, -, -, hroutes, -⟩ | ⟨_, -, -, hroutes, -⟩ |
    ⟨_, hroutes, -⟩
  · exact absurd hfresh hproposed
  · rw [hroutes]
    rfl
  · rw [hroutes]
    rfl
  · rw [hroutes]
    rfl
  · rw [hroutes]

/-- What was proposed stays. -/
theorem terms_of_run (hproposed : (state.routes routeId).proposedAt ≠ 0)
    (hrun : Run (step setting config) state later next) :
    terms (next.routes routeId) = terms (state.routes routeId) := by
  refine hrun.induct_on (fun _ next => terms (next.routes routeId) =
    terms (state.routes routeId)) rfl ?_
  intro later middle call next _ hterms hstep
  have hmiddle : (middle.routes routeId).proposedAt ≠ 0 := by
    rw [(times_of_terms hterms).1]
    exact hproposed
  exact (terms_of_step hmiddle hstep).trans hterms

end Terms

section Admission

/-- The addresses that voted for a route, latest first. -/
def voters (history : List (State × Call)) (routeId : Bytes32) : List Address :=
  history.filterMap fun entry =>
    if entry.2.action = .voteForRoute routeId then some entry.2.sender else none

theorem voters_cons_of_eq (haction : call.action = .voteForRoute routeId) :
    voters ((state, call) :: history) routeId = call.sender :: voters history routeId := by
  rw [voters, List.filterMap_cons, if_pos haction]
  rfl

theorem voters_cons_of_ne (haction : call.action ≠ .voteForRoute routeId) :
    voters ((state, call) :: history) routeId = voters history routeId := by
  rw [voters, List.filterMap_cons, if_neg haction]
  rfl

/-- A proposal with the signature of the attestor stands behind the terms of a route. -/
def Proposed (setting : Setting) (config : Config) (history : List (State × Call))
    (routeId : Bytes32) (route : Route) : Prop :=
  ∃ entry ∈ history, ∃ proposal attestorSignature,
    entry.2.action = .proposeRoute proposal attestorSignature ∧ proposal.routeId = routeId ∧
      setting.recover (routeDigest setting proposal) attestorSignature =
        some config.routeAttestor ∧
      terms route = proposedRoute config entry.2.block proposal

/-- A route was activated when enough addresses had voted and its time had come, and was not
deactivated since. -/
def Activated (config : Config) (history : List (State × Call)) (routeId : Bytes32)
    (route : Route) : Prop :=
  ∃ since before call earlier, history = since ++ (before, call) :: earlier ∧
    call.action = .activateRoute routeId ∧
    config.quorum.toNat ≤ (voters earlier routeId).length ∧
    route.activationAt ≤ call.block.timestamp ∧
    ∀ entry ∈ since, entry.2.action ≠ .deactivateRoute routeId

/-- The admission of a route in a state. -/
structure Admitted (setting : Setting) (config : Config) (history : List (State × Call))
    (state : State) (routeId : Bytes32) : Prop where
  counted : (state.routes routeId).voteCount = (voters history routeId).length
  flagged : ∀ voter, state.hasVoted routeId voter = true ↔ voter ∈ voters history routeId
  nodup : (voters history routeId).Nodup
  timely : ∀ entry ∈ history, entry.2.action = .voteForRoute routeId →
    entry.2.block.timestamp ≤ (state.routes routeId).votingEndsAt
  proposed : state.routes routeId = noRoute ∨
    (state.routes routeId).proposedAt ≠ 0 ∧
      Proposed setting config history routeId (state.routes routeId)
  activated : (state.routes routeId).active = true →
    Activated config history routeId (state.routes routeId)

theorem Proposed.cons {route route' : Route}
    (hproposed : Proposed setting config history routeId route)
    (hterms : terms route' = terms route) :
    Proposed setting config ((state, call) :: history) routeId route' := by
  obtain ⟨entry, hentry, proposal, attestorSignature, haction, hroute, hsigned, heq⟩ := hproposed
  exact ⟨entry, List.mem_cons_of_mem _ hentry, proposal, attestorSignature, haction, hroute,
    hsigned, hterms.trans heq⟩

theorem Activated.cons {route route' : Route}
    (hactivated : Activated config history routeId route)
    (haction : call.action ≠ .deactivateRoute routeId)
    (htime : route'.activationAt = route.activationAt) :
    Activated config ((state, call) :: history) routeId route' := by
  obtain ⟨since, before, activation, earlier, rfl, hactivation, hquorum, hdue, hsince⟩ :=
    hactivated
  refine ⟨(state, call) :: since, before, activation, earlier, rfl, hactivation, hquorum,
    htime ▸ hdue, ?_⟩
  intro entry hentry
  rcases List.mem_cons.mp hentry with rfl | hlater
  · exact haction
  · exact hsince entry hlater

theorem admitted_deployed : Admitted setting config [] deployed routeId where
  counted := rfl
  flagged := by
    intro voter
    constructor
    · intro hvoted
      cases hvoted
    · intro hmember
      cases hmember
  nodup := List.nodup_nil
  timely := by
    intro entry hentry
    cases hentry
  proposed := Or.inl rfl
  activated := by
    intro hactive
    cases hactive

/-- A call that leaves the votes for a route alone keeps its count, flags and times. -/
theorem Admitted.of_same (hadmitted : Admitted setting config history state routeId)
    (haction : call.action ≠ .voteForRoute routeId)
    (hcount : (next.routes routeId).voteCount = (state.routes routeId).voteCount)
    (hends : (next.routes routeId).votingEndsAt = (state.routes routeId).votingEndsAt)
    (hvotes : next.hasVoted routeId = state.hasVoted routeId)
    (hproposed : next.routes routeId = noRoute ∨ (next.routes routeId).proposedAt ≠ 0 ∧
      Proposed setting config ((state, call) :: history) routeId (next.routes routeId))
    (hactivated : (next.routes routeId).active = true →
      Activated config ((state, call) :: history) routeId (next.routes routeId)) :
    Admitted setting config ((state, call) :: history) next routeId where
  counted := by
    rw [voters_cons_of_ne haction, hcount, hadmitted.counted]
  flagged := by
    intro voter
    rw [voters_cons_of_ne haction, hvotes]
    exact hadmitted.flagged voter
  nodup := by
    rw [voters_cons_of_ne haction]
    exact hadmitted.nodup
  timely := by
    intro entry hentry hvote
    rcases List.mem_cons.mp hentry with rfl | hearlier
    · exact absurd hvote haction
    · rw [hends]
      exact hadmitted.timely entry hearlier hvote
  proposed := hproposed
  activated := hactivated

theorem proposed_of_admitted (hadmitted : Admitted setting config history state routeId)
    (hproposed : (state.routes routeId).proposedAt ≠ 0) :
    Proposed setting config history routeId (state.routes routeId) := by
  rcases hadmitted.proposed with hnone | ⟨-, hproposed⟩
  · rw [hnone] at hproposed
    exact absurd rfl hproposed
  · exact hproposed

theorem mem_voters {entry : State × Call} (hentry : entry ∈ history)
    (haction : entry.2.action = .voteForRoute routeId) :
    entry.2.sender ∈ voters history routeId :=
  List.mem_filterMap.mpr ⟨entry, hentry, if_pos haction⟩

theorem admitted_of_proposed {proposal : RouteProposal}
    {attestorSignature : List Lib.ByteReader.Byte}
    (hadmitted : Admitted setting config history state routeId)
    (haction : call.action = .proposeRoute proposal attestorSignature)
    (hroute : proposal.routeId = routeId) (hfresh : (state.routes routeId).proposedAt = 0)
    (hsigned : setting.recover (routeDigest setting proposal) attestorSignature =
      some config.routeAttestor)
    (hroutes : next.routes routeId = proposedRoute config call.block proposal)
    (hvotes : next.hasVoted routeId = state.hasVoted routeId) :
    Admitted setting config ((state, call) :: history) next routeId := by
  have hnone : state.routes routeId = noRoute := by
    rcases hadmitted.proposed with hnone | ⟨hproposed, -⟩
    · exact hnone
    · exact absurd hfresh hproposed
  have hvoters : voters history routeId = [] := by
    have hcount := hadmitted.counted
    rw [hnone] at hcount
    exact List.eq_nil_of_length_eq_zero hcount.symm
  have hother : call.action ≠ .voteForRoute routeId := by
    rw [haction]
    exact nofun
  have hkept : voters ((state, call) :: history) routeId = [] := by
    rw [voters_cons_of_ne hother, hvoters]
  constructor
  · rw [hkept, hroutes]
    rfl
  · intro voter
    rw [hkept, hvotes, ← hvoters]
    exact hadmitted.flagged voter
  · rw [hkept]
    exact List.nodup_nil
  · intro entry hentry hvote
    have hmember := mem_voters hentry hvote
    rw [hkept] at hmember
    exact absurd hmember List.not_mem_nil
  · refine Or.inr ⟨?_, (state, call), List.mem_cons_self, proposal, attestorSignature, haction,
      hroute, hsigned, ?_⟩
    · rw [hroutes]
      exact call.block.pos.ne'
    · rw [hroutes]
      rfl
  · intro hactive
    rw [hroutes] at hactive
    cases hactive

theorem admitted_of_voted (hadmitted : Admitted setting config history state routeId)
    (haction : call.action = .voteForRoute routeId)
    (hproposed : (state.routes routeId).proposedAt ≠ 0)
    (hopen : call.block.timestamp ≤ (state.routes routeId).votingEndsAt)
    (hfresh : state.hasVoted routeId call.sender = false)
    (hroutes : next.routes routeId =
      { state.routes routeId with voteCount := (state.routes routeId).voteCount + 1 })
    (hvotes : next.hasVoted routeId =
      Function.update (state.hasVoted routeId) call.sender true) :
    Admitted setting config ((state, call) :: history) next routeId := by
  have hvoters := @voters_cons_of_eq state call history routeId haction
  have hother : call.action ≠ .deactivateRoute routeId := by
    rw [haction]
    exact nofun
  constructor
  · rw [hvoters, hroutes, List.length_cons, ← hadmitted.counted]
  · intro voter
    rw [hvoters, hvotes, List.mem_cons]
    by_cases hvoter : voter = call.sender
    · subst hvoter
      simp
    · rw [Function.update_of_ne hvoter, hadmitted.flagged voter]
      exact ⟨Or.inr, fun h => h.resolve_left hvoter⟩
  · rw [hvoters, List.nodup_cons]
    refine ⟨?_, hadmitted.nodup⟩
    intro hagain
    rw [(hadmitted.flagged call.sender).mpr hagain] at hfresh
    cases hfresh
  · intro entry hentry hvote
    rw [hroutes]
    rcases List.mem_cons.mp hentry with rfl | hearlier
    · exact hopen
    · exact hadmitted.timely entry hearlier hvote
  · refine Or.inr ⟨?_, (proposed_of_admitted hadmitted hproposed).cons ?_⟩
    · rw [hroutes]
      exact hproposed
    · rw [hroutes]
      rfl
  · intro hactive
    rw [hroutes] at hactive ⊢
    exact (hadmitted.activated hactive).cons hother rfl

theorem admitted_of_activated (hadmitted : Admitted setting config history state routeId)
    (haction : call.action = .activateRoute routeId)
    (hproposed : (state.routes routeId).proposedAt ≠ 0)
    (hquorum : config.quorum.toNat ≤ (state.routes routeId).voteCount)
    (hdue : (state.routes routeId).activationAt ≤ call.block.timestamp)
    (hroutes : next.routes routeId = { state.routes routeId with active := true })
    (hvotes : next.hasVoted routeId = state.hasVoted routeId) :
    Admitted setting config ((state, call) :: history) next routeId := by
  have hother : call.action ≠ .voteForRoute routeId := by
    rw [haction]
    exact nofun
  refine hadmitted.of_same hother ?_ ?_ hvotes (Or.inr ⟨?_, ?_⟩) ?_
  · rw [hroutes]
  · rw [hroutes]
  · rw [hroutes]
    exact hproposed
  · rw [hroutes]
    exact (proposed_of_admitted hadmitted hproposed).cons rfl
  · intro _
    rw [hroutes]
    refine ⟨[], state, call, history, rfl, haction, ?_, hdue, ?_⟩
    · rw [← hadmitted.counted]
      exact hquorum
    · intro entry hentry
      exact absurd hentry List.not_mem_nil

theorem admitted_of_step (hadmitted : Admitted setting config history state routeId)
    (hstep : step setting config state call = .ok next) :
    Admitted setting config ((state, call) :: history) next routeId := by
  rcases effect_of_step hstep routeId with
    ⟨_, _, haction, hroute, hfresh, hsigned, -, hroutes, hvotes⟩ |
    ⟨haction, hproposed, hopen, hfresh, hroutes, hvotes⟩ |
    ⟨haction, hproposed, hquorum, hdue, hroutes, hvotes⟩ |
    ⟨haction, -, hproposed, hroutes, hvotes⟩ | ⟨haction, hroutes, hvotes⟩
  · exact admitted_of_proposed hadmitted haction hroute hfresh hsigned hroutes hvotes
  · exact admitted_of_voted hadmitted haction hproposed hopen hfresh hroutes hvotes
  · exact admitted_of_activated hadmitted haction hproposed hquorum hdue hroutes hvotes
  · have hother : call.action ≠ .voteForRoute routeId := by
      rw [haction]
      exact nofun
    refine hadmitted.of_same hother ?_ ?_ hvotes (Or.inr ⟨?_, ?_⟩) ?_
    · rw [hroutes]
    · rw [hroutes]
    · rw [hroutes]
      exact hproposed
    · rw [hroutes]
      exact (proposed_of_admitted hadmitted hproposed).cons rfl
    · intro hactive
      rw [hroutes] at hactive
      cases hactive
  · have hvote : call.action ≠ .voteForRoute routeId := by
      intro heq
      rw [heq] at haction
      exact haction rfl
    have hdeactivate : call.action ≠ .deactivateRoute routeId := by
      intro heq
      rw [heq] at haction
      exact haction rfl
    refine hadmitted.of_same hvote (by rw [hroutes]) (by rw [hroutes]) hvotes ?_ ?_
    · rw [hroutes]
      rcases hadmitted.proposed with hnone | ⟨hproposed, hbehind⟩
      · exact Or.inl hnone
      · exact Or.inr ⟨hproposed, hbehind.cons rfl⟩
    · rw [hroutes]
      intro hactive
      exact (hadmitted.activated hactive).cons hdeactivate rfl

/-- In every state of every run a route has as many votes as distinct addresses voted for it,
each in its voting period; an active route was proposed with the signature of the attestor and
activated in its time with the quorum; and what was proposed never changes later. -/
theorem admitted_of_run (hrun : Run (step setting config) deployed history state)
    (routeId : Bytes32) :
    Admitted setting config history state routeId ∧
      ((state.routes routeId).active = true →
        Proposed setting config history routeId (state.routes routeId)) ∧
      ∀ later next, Run (step setting config) state later next →
        (state.routes routeId).proposedAt ≠ 0 →
          terms (next.routes routeId) = terms (state.routes routeId) := by
  have hadmitted : Admitted setting config history state routeId := by
    refine hrun.induct_on (fun history state => Admitted setting config history state routeId)
      admitted_deployed ?_
    intro history state call next _ hadmitted hstep
    exact admitted_of_step hadmitted hstep
  refine ⟨hadmitted, ?_, ?_⟩
  · intro hactive
    rcases hadmitted.proposed with hnone | ⟨-, hproposed⟩
    · rw [hnone] at hactive
      cases hactive
    · exact hproposed
  · intro later next hlater hproposed
    exact terms_of_run hproposed hlater

end Admission

section Deactivation

variable {time : Nat}

/-- Blocks follow one another, latest first. -/
def Ordered (history : List (State × Call)) : Prop :=
  history.Pairwise fun later earlier =>
    earlier.2.block.timestamp ≤ later.2.block.timestamp

/-- No calls from a time on make a route active, unless the guardian takes part. -/
def StaysInactive (setting : Setting) (config : Config) (state : State) (time : Nat)
    (routeId : Bytes32) : Prop :=
  ∀ later next, Run (step setting config) state later next → Ordered later →
    (∀ entry ∈ later, time ≤ entry.2.block.timestamp ∧
      entry.2.sender ≠ config.emergencyGuardian) →
    (next.routes routeId).active = false

/-- A route that cannot be voted for any more, short of the quorum. -/
structure Closed (config : Config) (time : Nat) (route : Route) : Prop where
  proposed : route.proposedAt ≠ 0
  short : route.voteCount < config.quorum.toNat
  ended : route.votingEndsAt < time
  inactive : route.active = false

theorem closed_of_step (hclosed : Closed config time (state.routes routeId))
    (htime : time ≤ call.block.timestamp) (hstep : step setting config state call = .ok next) :
    Closed config time (next.routes routeId) := by
  obtain ⟨hproposed, hshort, hended, hinactive⟩ := hclosed
  rcases effect_of_step hstep routeId with ⟨_, _, _, _, hfresh, -, -, -, -⟩ |
    ⟨_, -, hopen, -, -, -⟩ | ⟨_, -, hquorum, -, -, -⟩ | ⟨_, -, -, hroutes, -⟩ |
    ⟨_, hroutes, -⟩
  · exact absurd hfresh hproposed
  · omega
  · omega
  · rw [hroutes]
    exact ⟨hproposed, hshort, hended, rfl⟩
  · rw [hroutes]
    exact ⟨hproposed, hshort, hended, hinactive⟩

theorem staysInactive_of_closed (hclosed : Closed config time (state.routes routeId)) :
    StaysInactive setting config state time routeId := by
  intro later next hrun _ hlater
  have htimes : ∀ entry ∈ later, time ≤ entry.2.block.timestamp := fun entry hentry =>
    (hlater entry hentry).1
  refine (@Run.induct_of_forall _ _ _ (step setting config) state
    (fun _ call => time ≤ call.block.timestamp)
    (fun _ next => Closed config time (next.routes routeId)) later next hrun htimes hclosed
    ?_).inactive
  intro later middle call next htime hmiddle hstep
  exact closed_of_step hmiddle htime hstep

theorem activationAt_lt_of_run (hrun : Run (step setting config) deployed history state)
    (routeId : Bytes32) : (state.routes routeId).activationAt < 2 ^ 64 := by
  refine hrun.induct_on (fun _ state => (state.routes routeId).activationAt < 2 ^ 64)
    (Nat.two_pow_pos 64) ?_
  intro history state call next _ hbound hstep
  rcases effect_of_step hstep routeId with ⟨_, _, _, _, -, -, hfits, hroutes, -⟩ |
    ⟨_, -, -, -, hroutes, -⟩ | ⟨_, -, -, -, hroutes, -⟩ | ⟨_, -, -, hroutes, -⟩ |
    ⟨_, hroutes, -⟩
  · rw [hroutes]
    exact hfits
  · rw [hroutes]
    exact hbound
  · rw [hroutes]
    exact hbound
  · rw [hroutes]
    exact hbound
  · rw [hroutes]
    exact hbound

/-- There are more addresses than a counter of votes can count. -/
theorem exists_address (avoided : List Address) (hlength : avoided.length < 2 ^ 160) :
    ∃ address, address ∉ avoided := by
  by_contra hall
  push Not at hall
  have hnodup : ((List.range (2 ^ 160)).map (BitVec.ofNat 160)).Nodup := by
    refine List.Nodup.map_on ?_ List.nodup_range
    intro left hleft right hright heq
    have hvalue := congrArg BitVec.toNat heq
    rw [List.mem_range] at hleft hright
    rwa [BitVec.toNat_ofNat, BitVec.toNat_ofNat, Nat.mod_eq_of_lt hleft,
      Nat.mod_eq_of_lt hright] at hvalue
  have hle := (hnodup.subperm fun address _ => hall address).length_le
  rw [List.length_map, List.length_range] at hle
  omega

/-- A state in which more addresses can still vote for a route at some time. -/
structure Open (setting : Setting) (config : Config) (time : Nat) (routeId : Bytes32)
    (state : State) : Prop where
  reached : ∃ history, Run (step setting config) deployed history state
  proposed : (state.routes routeId).proposedAt ≠ 0
  lasting : time ≤ (state.routes routeId).votingEndsAt
  inactive : (state.routes routeId).active = false

/-- Someone else than the guardian at one time. -/
def ByOthersAt (config : Config) (time : Nat) (call : Call) : Prop :=
  call.block.timestamp = time ∧ call.sender ≠ config.emergencyGuardian

theorem exists_vote {block : Block}
    (hopen : Open setting config block.timestamp routeId state)
    (hshort : (state.routes routeId).voteCount < config.quorum.toNat) :
    ∃ next, Continues (step setting config) (ByOthersAt config block.timestamp) state next ∧
      Open setting config block.timestamp routeId next ∧
      (next.routes routeId).voteCount = (state.routes routeId).voteCount + 1 := by
  obtain ⟨history, hrun⟩ := hopen.reached
  have hadmitted := (admitted_of_run hrun routeId).1
  have hquorum := config.quorum.isLt
  obtain ⟨sender, hsender⟩ :=
    exists_address (0 :: config.emergencyGuardian :: voters history routeId) (by
      rw [List.length_cons, List.length_cons, ← hadmitted.counted]
      omega)
  simp only [List.mem_cons, not_or] at hsender
  have hfresh : state.hasVoted routeId sender = false := by
    rw [← Bool.not_eq_true, hadmitted.flagged]
    exact hsender.2.2
  have hvote := voteForRoute_eq_ok.mpr
    ⟨hopen.proposed, hopen.lasting, hfresh, by omega, rfl⟩
  have hstep : step setting config state ⟨sender, block, .voteForRoute routeId⟩ = .ok _ := hvote
  refine ⟨_, Continues.refl.snoc ⟨rfl, hsender.2.1⟩ hstep, ⟨⟨_, hrun.step hstep⟩, ?_, ?_, ?_⟩, ?_⟩
  · simp only [Function.update_self]
    exact hopen.proposed
  · simp only [Function.update_self]
    exact hopen.lasting
  · simp only [Function.update_self]
    exact hopen.inactive
  · simp only [Function.update_self]

/-- While votes are possible the quorum can be reached. -/
theorem exists_quorum {block : Block}
    (hopen : Open setting config block.timestamp routeId state) :
    ∃ next, Continues (step setting config) (ByOthersAt config block.timestamp) state next ∧
      Open setting config block.timestamp routeId next ∧
      config.quorum.toNat ≤ (next.routes routeId).voteCount := by
  refine @Continues.exists_settled _ _ _ _ (ByOthersAt config block.timestamp) _
    (fun state => config.quorum.toNat - (state.routes routeId).voteCount) _
    (fun state => config.quorum.toNat ≤ (state.routes routeId).voteCount) ?_ hopen
  intro middle hmiddle hshort
  obtain ⟨next, hcontinues, hnext, hcount⟩ := exists_vote hmiddle (by omega)
  exact ⟨next, hcontinues, hnext, by omega⟩

/-- With the quorum anyone can make an inactive route active, once its time has come. -/
theorem exists_activation {block : Block}
    (hrun : Run (step setting config) deployed history state)
    (hproposed : (state.routes routeId).proposedAt ≠ 0)
    (hinactive : (state.routes routeId).active = false)
    (hquorum : config.quorum.toNat ≤ (state.routes routeId).voteCount) :
    ∃ call next, step setting config state call = .ok next ∧
      block.timestamp ≤ call.block.timestamp ∧ call.sender ≠ config.emergencyGuardian ∧
      (next.routes routeId).active = true := by
  have hbound := activationAt_lt_of_run hrun routeId
  obtain ⟨sender, hsender⟩ := exists_address [0, config.emergencyGuardian] (by norm_num)
  simp only [List.mem_cons, not_or] at hsender
  let late : Block :=
    ⟨max block.timestamp (state.routes routeId).activationAt,
      block.pos.trans_le (le_max_left _ _), max_lt block.fits hbound⟩
  have hactivate := (@activateRoute_eq_ok config state _ late routeId).mpr
    ⟨hproposed, hinactive, hquorum, le_max_right _ _, rfl⟩
  refine ⟨⟨sender, late, .activateRoute routeId⟩, _, hactivate, le_max_left _ _, hsender.2.1, ?_⟩
  simp only [Function.update_self]

theorem not_staysInactive {block : Block} {middle : State}
    (hreached : ∃ history, Run (step setting config) deployed history state)
    (hcontinues : Continues (step setting config) (ByOthersAt config block.timestamp) state
      middle)
    (hproposed : (middle.routes routeId).proposedAt ≠ 0)
    (hinactive : (middle.routes routeId).active = false)
    (hquorum : config.quorum.toNat ≤ (middle.routes routeId).voteCount) :
    ¬ StaysInactive setting config state block.timestamp routeId := by
  obtain ⟨history, hrun⟩ := hreached
  obtain ⟨later, hlater, hvotes⟩ := hcontinues
  obtain ⟨call, next, hstep, htime, hsender, hactive⟩ :=
    @exists_activation _ _ _ _ _ block (hrun.append hlater) hproposed hinactive hquorum
  intro hstays
  have hordered : Ordered ((middle, call) :: later) := by
    refine List.pairwise_cons.mpr ⟨?_, List.pairwise_of_forall_mem_list ?_⟩
    · intro entry hentry
      rw [(hvotes entry hentry).1]
      exact htime
    · intro left hleft right hright
      rw [(hvotes left hleft).1, (hvotes right hright).1]
  have hothers : ∀ entry ∈ (middle, call) :: later, block.timestamp ≤
      entry.2.block.timestamp ∧ entry.2.sender ≠ config.emergencyGuardian := by
    intro entry hentry
    rcases List.mem_cons.mp hentry with rfl | hearlier
    · exact ⟨htime, hsender⟩
    · exact ⟨(hvotes entry hearlier).1.ge, (hvotes entry hearlier).2⟩
  rw [hstays _ next (hlater.step hstep) hordered hothers] at hactive
  cases hactive

/-- After a deactivation the route stays inactive exactly when it could not have become active
anyway: its voting is over, and short of the quorum. -/
theorem staysInactive_iff (hrun : Run (step setting config) deployed history state)
    (haction : call.action = .deactivateRoute routeId)
    (hstep : step setting config state call = .ok next) :
    StaysInactive setting config next call.block.timestamp routeId ↔
      (state.routes routeId).voteCount < config.quorum.toNat ∧
        (state.routes routeId).votingEndsAt < call.block.timestamp := by
  have hreached : ∃ history, Run (step setting config) deployed history next :=
    ⟨_, hrun.step hstep⟩
  obtain ⟨sender, block, action⟩ := call
  obtain rfl : action = .deactivateRoute routeId := haction
  obtain ⟨-, hproposed, rfl⟩ := deactivateRoute_eq_ok.mp hstep
  constructor
  · intro hstays
    by_contra hopen
    rw [not_and_or, not_lt, not_lt] at hopen
    by_cases hquorum : config.quorum.toNat ≤ (state.routes routeId).voteCount
    · refine not_staysInactive hreached Continues.refl ?_ ?_ ?_ hstays
      · simp only [Function.update_self]
        exact hproposed
      · simp only [Function.update_self]
      · simp only [Function.update_self]
        exact hquorum
    · have hlasting := hopen.resolve_left hquorum
      obtain ⟨middle, hcontinues, hmiddle, hreaches⟩ :=
        @exists_quorum setting config _ routeId block ⟨hreached, by
          simp only [Function.update_self]
          exact hproposed, by
          simp only [Function.update_self]
          exact hlasting, by
          simp only [Function.update_self]⟩
      exact not_staysInactive hreached hcontinues hmiddle.proposed hmiddle.inactive hreaches
        hstays
  · rintro ⟨hshort, hended⟩
    apply staysInactive_of_closed
    constructor
    · simp only [Function.update_self]
      exact hproposed
    · simp only [Function.update_self]
      exact hshort
    · simp only [Function.update_self]
      exact hended
    · simp only [Function.update_self]

end Deactivation

section Samples

/-- Hash and recovery on the inputs of the proposal below, the hashed data told apart by
length. -/
def sampleSetting : Setting where
  keccak256 := fun data =>
    match data.length with
    | 82 => 0x8b73c3c69bb8fe3d512ecc4cf759cc79239f7b179b0ffacaa9a75d522b39400f
    | 164 => 0x492a068665dba0c7fc0aff6c08a6106f8ba87c26dc35eb9232e11fe161f89679
    | 24 => 0x99854ec488baafaf41bf2c775c65d8d8c554631eec2ecd7c82c988f3487a5330
    | 1 => 0xc89efdaa54c0f20c7adf612882df0950f5a951637e0307cdcb4c672f298b8bc6
    | 160 => 0x5ed56ca9cc8958f82025913b817ad2dfeb07c1008cb2103aca0d1182829c7aa8
    | 256 => 0x946f0064c953432706291d009d1df86dc5a5b196dc14c240819d1d2c13430b65
    | 66 => 0x38b93ac1c6753ee71354b9a5eb515912e5bc9daa600ac13ec451e2dcc6011bec
    | _ => 0
  recover := fun digest signature =>
    if digest = 0x38b93ac1c6753ee71354b9a5eb515912e5bc9daa600ac13ec451e2dcc6011bec ∧
        signature = Lib.ByteReader.beBytes 65
          0x84b88ce340f2d6eed0d7c00afb41bdc99bd7bf2cd418df9755bf6f63a19c1a7e4e52309c42bb7ab86b5478d055c8f96aeae998b541913f718f7d8ed1fa7a67121b then
      some 0x7e5f4552091a69125d5dfcb7b8c2659029395bdf
    else none
  chainId := 102031
  registry := 0x4d

/-- A quorum of two, a hundred seconds to vote, and fifty more to the activation. -/
def sampleConfig : Config where
  routeAttestor := 0x7e5f4552091a69125d5dfcb7b8c2659029395bdf
  emergencyGuardian := 0x6a
  quorum := 2
  votingPeriod := 100
  activationDelay := 50
  valid := by decide

def blockAt (timestamp : Nat) (hpos : 0 < timestamp) (hfits : timestamp < 2 ^ 64) : Block :=
  ⟨timestamp, hpos, hfits⟩

def sampleProposal : Call where
  sender := 0xb1
  block := blockAt 1000 (by decide) (by decide)
  action := .proposeRoute
    ⟨7, 11155111, 0xfe475ef34cf07756fbb098d68b159e716cda970a2f09d11f4d12fed8559d3af1, 0xec,
      0x70, 0xe1, 2000⟩
    (Lib.ByteReader.beBytes 65
      0x84b88ce340f2d6eed0d7c00afb41bdc99bd7bf2cd418df9755bf6f63a19c1a7e4e52309c42bb7ab86b5478d055c8f96aeae998b541913f718f7d8ed1fa7a67121b)

def firstVote : Call :=
  ⟨0xb1, blockAt 1000 (by decide) (by decide), .voteForRoute 7⟩

def lastVote : Call :=
  ⟨0xb2, blockAt 1100 (by decide) (by decide), .voteForRoute 7⟩

def sampleActivation : Call :=
  ⟨0xb1, blockAt 1150 (by decide) (by decide), .activateRoute 7⟩

def sampleDeactivation : Call :=
  ⟨0x6a, blockAt 1200 (by decide) (by decide), .deactivateRoute 7⟩

def sampleReactivation : Call :=
  ⟨0xb1, blockAt 1200 (by decide) (by decide), .activateRoute 7⟩

/-- A route voted for up to the last second and activated at the first. -/
theorem admitted_sampleRun :
    ∃ history state, Run (step sampleSetting sampleConfig) deployed history state ∧
      (state.routes 7).active = true ∧
      Admitted sampleSetting sampleConfig history state 7 := by
  have hreaches : reaches (step sampleSetting sampleConfig) deployed
      [sampleActivation, lastVote, firstVote, sampleProposal]
      (fun _ state => (state.routes 7).active) = true := by
    decide +kernel
  obtain ⟨history, state, hrun, hactive⟩ := exists_run_of_reaches hreaches
  exact ⟨history, state, hrun, hactive, (admitted_of_run hrun 7).1⟩

/-- Short of the quorum and after the vote, a deactivation lasts. -/
theorem staysInactive_sampleRun :
    ∃ history before state, Run (step sampleSetting sampleConfig) deployed
        ((before, sampleDeactivation) :: history) state ∧
      StaysInactive sampleSetting sampleConfig state 1200 7 := by
  have hreaches : reaches (step sampleSetting sampleConfig) deployed
      [sampleDeactivation, firstVote, sampleProposal]
      (fun history _ => history.head?.any fun entry =>
        decide ((entry.1.routes 7).voteCount < 2 ∧ (entry.1.routes 7).votingEndsAt < 1200)) =
      true := by
    decide +kernel
  obtain ⟨history, state, hrun, hinputs, hproperty⟩ := exists_run_of_reaches_inputs hreaches
  obtain ⟨⟨before, call⟩, earlier, rfl, hcall, -⟩ := List.map_eq_cons_iff.mp hinputs
  obtain rfl : call = sampleDeactivation := hcall
  have hended := of_decide_eq_true
    (show decide ((before.routes 7).voteCount < 2 ∧ (before.routes 7).votingEndsAt < 1200) =
      true from hproperty)
  rcases hrun with _ | ⟨hhead, hstep⟩
  exact ⟨earlier, before, state, hhead.step hstep,
    (staysInactive_iff hhead rfl hstep).mpr hended⟩

/-- Anyone activates the route again in the block in which the guardian deactivated it. -/
theorem reactivated_after_deactivation :
    ∃ history before state, Run (step sampleSetting sampleConfig) deployed
        ((before, sampleDeactivation) :: history) state ∧
      ¬ StaysInactive sampleSetting sampleConfig state 1200 7 := by
  have hreaches : reaches (step sampleSetting sampleConfig) deployed
      [sampleReactivation, sampleDeactivation, sampleActivation, lastVote, firstVote,
        sampleProposal]
      (fun _ state => (state.routes 7).active) = true := by
    decide +kernel
  obtain ⟨history, next, hrun, hinputs, hactive⟩ := exists_run_of_reaches_inputs hreaches
  obtain ⟨⟨state, call⟩, rest, rfl, hcall, hrest⟩ := List.map_eq_cons_iff.mp hinputs
  obtain ⟨⟨before, stop⟩, earlier, rfl, hstop, -⟩ := List.map_eq_cons_iff.mp hrest
  obtain rfl : call = sampleReactivation := hcall
  obtain rfl : stop = sampleDeactivation := hstop
  rcases hrun with _ | ⟨hhead, hstep⟩
  refine ⟨earlier, before, state, hhead, ?_⟩
  intro hstays
  have hothers : ∀ entry ∈ [(state, sampleReactivation)], 1200 ≤ entry.2.block.timestamp ∧
      entry.2.sender ≠ sampleConfig.emergencyGuardian := by
    intro entry hentry
    obtain rfl := List.mem_singleton.mp hentry
    exact ⟨le_refl _, (by decide : sampleReactivation.sender ≠ sampleConfig.emergencyGuardian)⟩
  rw [hstays _ next (Run.start.step hstep) (List.pairwise_singleton _ _) hothers] at hactive
  cases hactive

example : sampleReactivation.sender ≠ sampleConfig.emergencyGuardian := by
  decide +kernel

end Samples

end TsnProtocol.Crosschain.RouteAdmission
