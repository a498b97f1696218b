import Mathlib
import TsnProtocol.Receiver.CrankerAuth

/-!
Replay freedom of Cranker authentication: what a run has issued, opened and accepted.
-/

namespace TsnProtocol.Receiver.CrankerSessions

open Lib.Checked
open Lib.Documents
open Lib.TextFormat (decimalValue isBase64UrlChar)
open Lib.Transition
open Receiver.CrankerAuth

variable {runtime : Runtime} {state next : State} {history : List (State × Operation)}

section Records

/-- The challenges a run has issued, latest first. -/
def issued (runtime : Runtime) (history : List (State × Operation)) : List String :=
  history.filterMap fun entry =>
    match entry.2 with
    | .createChallenge publicKey nonce _ => some (challengeId runtime publicKey nonce)
    | _ => none

/-- The challenges that sessions were opened for. -/
def answered (history : List (State × Operation)) : List String :=
  history.filterMap fun entry =>
    match entry.2 with
    | .createSession challenge _ _ _ _ => some challenge
    | _ => none

/-- The sessions a run has opened. -/
def opened (history : List (State × Operation)) : List String :=
  history.filterMap fun entry =>
    match entry.2 with
    | .createSession _ _ sessionId _ _ => some sessionId
    | _ => none

/-- The sessions and counters of the requests accepted. -/
def accepted (history : List (State × Operation)) : List (String × Nat) :=
  history.filterMap fun entry =>
    match entry.2 with
    | .authenticate request _ _ => some (request.sessionId, request.counterValue)
    | _ => none

def countersOf (session : String) (history : List (State × Operation)) : List Nat :=
  (accepted history).filterMap fun entry => if entry.1 = session then some entry.2 else none

/-- The counters accepted since a session of that id was last opened. -/
def countersSince (session : String) : List (State × Operation) → List Nat
  | [] => []
  | (_, .createSession _ _ sessionId _ _) :: earlier =>
      if sessionId = session then [] else countersSince session earlier
  | (_, .authenticate request _ _) :: earlier =>
      if request.sessionId = session then request.counterValue :: countersSince session earlier
      else countersSince session earlier
  | _ :: earlier => countersSince session earlier

end Records

section Effects

theorem createChallenge_eq_ok {publicKey nonce : String} {now : Nat}
    (hstep : createChallenge runtime publicKey nonce now state = .ok next) :
    state.challenges[challengeId runtime publicKey nonce]? = none ∧
      next = { state with
        challenges := state.challenges.insert (challengeId runtime publicKey nonce)
          ⟨publicKey, nonce, now + challengeTtlMs, false, none⟩ } := by
  simp only [createChallenge, bind_eq_ok, require_eq_ok, pure_eq_ok] at hstep
  rcases hstep with ⟨_, -, _, hnew, rfl⟩
  exact ⟨hnew, rfl⟩

theorem consumeChallenge_eq_ok {input : SessionInput} {arrivedAt now : Nat}
    (hstep : consumeChallenge runtime input arrivedAt now state = .ok next) :
    ∃ challenge, state.challenges[challengeId runtime input.publicKey input.nonce]? =
        some challenge ∧ challenge.used = false ∧
      next = { state with
        challenges := state.challenges.insert
          (challengeId runtime input.publicKey input.nonce)
          { challenge with used := true, usedAt := some now }
        consumed := (challengeId runtime input.publicKey input.nonce, input.publicKey) ::
          state.consumed } := by
  simp only [consumeChallenge, bind_eq_ok, require_eq_ok, okOr_eq_ok, pure_eq_ok] at hstep
  rcases hstep with ⟨_, -, challenge, hstored, _, ⟨hunused, -⟩, rfl⟩
  exact ⟨challenge, hstored, hunused, rfl⟩

theorem createSession_eq_ok {challenge publicKey sessionId token : String} {now : Nat}
    (hstep : createSession runtime challenge publicKey sessionId token now state = .ok next) :
    (challenge, publicKey) ∈ state.consumed ∧ state.sessions[sessionId]? = none ∧
      next = { state with
        sessions := state.sessions.insert sessionId
          ⟨publicKey, runtime.sha256 token, now, now + crankerSessionTtlMs, now, 0⟩
        consumed := state.consumed.erase (challenge, publicKey) } := by
  simp only [createSession, bind_eq_ok, require_eq_ok, pure_eq_ok] at hstep
  rcases hstep with ⟨_, hconsumed, _, hnew, rfl⟩
  exact ⟨hconsumed, hnew, rfl⟩

theorem authenticate_eq_ok {request : CrankerRequest} {arrivedAt now : Nat}
    (hstep : authenticateCrankerRequest runtime request arrivedAt now state = .ok next) :
    ∃ session, state.sessions[request.sessionId]? = some session ∧
      session.lastCounter < request.counterValue ∧
      next = { state with
        sessions := state.sessions.insert request.sessionId
          { session with lastCounter := request.counterValue, lastSeenAt := now } } := by
  simp only [authenticateCrankerRequest, bind_eq_ok, require_eq_ok, okOr_eq_ok,
    pure_eq_ok] at hstep
  rcases hstep with ⟨_, -, session, hstored, _, -, _, -, _, -, _, ⟨-, hcounter⟩, rfl⟩
  exact ⟨session, hstored, hcounter, rfl⟩

theorem deleteChallenge_eq_ok {id : String}
    (hstep : deleteChallenge id state = .ok next) :
    next = { state with
      challenges := state.challenges.erase id
      staleChallenges := state.staleChallenges.erase id } := by
  simp only [deleteChallenge, bind_eq_ok, require_eq_ok, pure_eq_ok] at hstep
  rcases hstep with ⟨_, -, rfl⟩
  rfl

theorem deleteSession_eq_ok {id : String} (hstep : deleteSession id state = .ok next) :
    next = { state with
      sessions := state.sessions.erase id
      staleSessions := state.staleSessions.erase id } := by
  simp only [deleteSession, bind_eq_ok, require_eq_ok, pure_eq_ok] at hstep
  rcases hstep with ⟨_, -, rfl⟩
  rfl

end Effects

section Challenges

variable {challenges : Collection Challenge} {id other : String}

/-- One while the challenge can still be consumed. -/
def unused (challenges : Collection Challenge) (id : String) : Nat :=
  match challenges[id]? with
  | some challenge => if challenge.used then 0 else 1
  | none => 0

theorem unused_of_none (hnone : challenges[id]? = none) : unused challenges id = 0 := by
  rw [unused, hnone]

theorem unused_of_unused {challenge : Challenge} (hstored : challenges[id]? = some challenge)
    (hunused : challenge.used = false) : unused challenges id = 1 := by
  simp only [unused, hstored, hunused, Bool.false_eq_true, if_false]

theorem unused_insert_self {challenge : Challenge} :
    unused (challenges.insert id challenge) id = if challenge.used then 0 else 1 := by
  rw [unused, get_insert_self]

theorem unused_insert_of_ne {challenge : Challenge} (hother : other ≠ id) :
    unused (challenges.insert id challenge) other = unused challenges other := by
  rw [unused, unused, get_insert_of_ne hother]

theorem unused_erase_le : unused (challenges.erase id) other ≤ unused challenges other := by
  by_cases hsame : other = id
  · rw [unused, hsame, get_erase_self]
    exact Nat.zero_le _
  · rw [unused, unused, get_erase_of_ne hsame]

/-- Sessions still to be opened for a challenge that is consumed. -/
def pending (consumed : List (String × String)) (id : String) : Nat :=
  (consumed.map Prod.fst).count id

theorem pending_erase {challenge publicKey : String} {consumed : List (String × String)}
    (hconsumed : (challenge, publicKey) ∈ consumed) :
    pending consumed id = pending (consumed.erase (challenge, publicKey)) id +
      if challenge = id then 1 else 0 := by
  have hperm := ((List.perm_cons_erase hconsumed).map Prod.fst).count_eq id
  rw [pending, hperm, List.map_cons, List.count_cons, pending]
  simp only [beq_iff_eq]

/-- What is spent of a challenge and what can still be spent of it. -/
def accounted (history : List (State × Operation)) (state : State) (id : String) : Nat :=
  (answered history).count id + pending state.consumed id + unused state.challenges id

theorem accounted_step {operation : Operation}
    (hstep : step runtime state operation = .ok next)
    (hbefore : accounted history state id ≤ (issued runtime history).count id) :
    accounted ((state, operation) :: history) next id ≤
      (issued runtime ((state, operation) :: history)).count id := by
  cases operation with
  | pruneUsedChallenges | pruneExpiredChallenges | pruneExpiredSessions | pruneIdleSessions =>
      cases hstep
      exact hbefore
  | deleteChallenge stale =>
      rw [deleteChallenge_eq_ok hstep]
      have hless := @unused_erase_le state.challenges stale id
      simp only [accounted, answered, issued, List.filterMap_cons] at hbefore ⊢
      omega
  | deleteSession stale =>
      rw [deleteSession_eq_ok hstep]
      exact hbefore
  | createChallenge publicKey nonce now =>
      rcases createChallenge_eq_ok hstep with ⟨hnew, rfl⟩
      by_cases hsame : challengeId runtime publicKey nonce = id
      · subst hsame
        simp only [accounted, answered, issued, List.filterMap_cons, List.count_cons_self,
          unused_insert_self, unused_of_none hnew, Bool.false_eq_true, if_false] at hbefore ⊢
        omega
      · simp only [accounted, answered, issued, List.filterMap_cons,
          List.count_cons_of_ne hsame, unused_insert_of_ne (Ne.symm hsame)] at hbefore ⊢
        exact hbefore
  | consumeChallenge input arrivedAt now =>
      rcases consumeChallenge_eq_ok hstep with ⟨challenge, hstored, hunused, rfl⟩
      by_cases hsame : challengeId runtime input.publicKey input.nonce = id
      · subst hsame
        simp only [accounted, answered, issued, List.filterMap_cons, pending, List.map_cons,
          List.count_cons_self, unused_insert_self, unused_of_unused hstored hunused,
          if_true] at hbefore ⊢
        omega
      · simp only [accounted, answered, issued, List.filterMap_cons, pending, List.map_cons,
          List.count_cons_of_ne hsame, unused_insert_of_ne (Ne.symm hsame)] at hbefore ⊢
        exact hbefore
  | createSession challenge publicKey sessionId token now =>
      rcases createSession_eq_ok hstep with ⟨hconsumed, -, rfl⟩
      have herase := @pending_erase id _ _ _ hconsumed
      simp only [accounted, answered, issued, List.filterMap_cons, List.count_cons,
        beq_iff_eq] at hbefore ⊢
      omega
  | authenticate request arrivedAt now =>
      rcases authenticate_eq_ok hstep with ⟨session, -, -, rfl⟩
      exact hbefore

/-- Every challenge issued can be spent once: it is unused, or consumed for a session still
to be opened, or that session has been opened. -/
theorem accounted_of_run (hrun : Run (step runtime) State.initial history state)
    (id : String) : accounted history state id ≤ (issued runtime history).count id :=
  hrun.induct_on
    (fun history state => accounted history state id ≤ (issued runtime history).count id)
    (Nat.le_refl 0) fun _ _ _ _ _ hbefore hstep => accounted_step hstep hbefore

theorem count_answered_le (hrun : Run (step runtime) State.initial history state)
    (id : String) : (answered history).count id ≤ (issued runtime history).count id := by
  have haccounted := accounted_of_run hrun id
  rw [accounted] at haccounted
  omega

/-- Challenges that differ are answered by one session each. -/
theorem nodup_answered (hrun : Run (step runtime) State.initial history state)
    (hissued : (issued runtime history).Nodup) : (answered history).Nodup := by
  rw [List.nodup_iff_count_le_one] at hissued ⊢
  intro id
  exact Nat.le_trans (count_answered_le hrun id) (hissued id)

end Challenges

section Counters

variable {session : String}

/-- The counters of a session fall from the latest to the first, and none lies above the
counter stored. -/
structure Counted (session : String) (history : List (State × Operation))
    (state : State) : Prop where
  decreasing : (countersSince session history).Pairwise (· > ·)
  below : ∀ stored, state.sessions[session]? = some stored →
    ∀ counter ∈ countersSince session history, counter ≤ stored.lastCounter

theorem Counted.of_same {operation : Operation} (hcounted : Counted session history state)
    (hcounters : countersSince session ((state, operation) :: history) =
      countersSince session history)
    (hsame : next.sessions[session]? = state.sessions[session]?) :
    Counted session ((state, operation) :: history) next where
  decreasing := hcounters ▸ hcounted.decreasing
  below := by
    rw [hcounters, hsame]
    exact hcounted.below

theorem counted_step {operation : Operation} (hcounted : Counted session history state)
    (hstep : step runtime state operation = .ok next) :
    Counted session ((state, operation) :: history) next := by
  cases operation with
  | pruneUsedChallenges | pruneExpiredChallenges | pruneExpiredSessions | pruneIdleSessions =>
      cases hstep
      exact hcounted.of_same rfl rfl
  | deleteChallenge stale =>
      rw [deleteChallenge_eq_ok hstep]
      exact hcounted.of_same rfl rfl
  | deleteSession stale =>
      rw [deleteSession_eq_ok hstep]
      by_cases hsame : session = stale
      · refine ⟨hcounted.decreasing, ?_⟩
        intro stored hstored
        rw [hsame, get_erase_self] at hstored
        cases hstored
      · exact hcounted.of_same rfl (get_erase_of_ne hsame)
  | createChallenge publicKey nonce now =>
      rcases createChallenge_eq_ok hstep with ⟨-, rfl⟩
      exact hcounted.of_same rfl rfl
  | consumeChallenge input arrivedAt now =>
      rcases consumeChallenge_eq_ok hstep with ⟨challenge, -, -, rfl⟩
      exact hcounted.of_same rfl rfl
  | createSession challenge publicKey sessionId token now =>
      rcases createSession_eq_ok hstep with ⟨-, -, rfl⟩
      by_cases hsame : sessionId = session
      · have hcounters : countersSince session
            ((state, .createSession challenge publicKey sessionId token now) :: history) = [] :=
          if_pos hsame
        refine ⟨?_, ?_⟩
        · rw [hcounters]
          exact .nil
        · rw [hcounters]
          nofun
      · exact hcounted.of_same (if_neg hsame) (get_insert_of_ne (Ne.symm hsame))
  | authenticate request arrivedAt now =>
      rcases authenticate_eq_ok hstep with ⟨stored, hstored, hcounter, rfl⟩
      by_cases hsame : request.sessionId = session
      · have hcounters : countersSince session
            ((state, .authenticate request arrivedAt now) :: history) =
              request.counterValue :: countersSince session history :=
          if_pos hsame
        have hbelow := hcounted.below stored (hsame ▸ hstored)
        refine ⟨?_, ?_⟩
        · rw [hcounters]
          refine List.pairwise_cons.mpr ⟨?_, hcounted.decreasing⟩
          intro counter hearlier
          exact Nat.lt_of_le_of_lt (hbelow counter hearlier) hcounter
        · rw [hcounters, hsame, get_insert_self]
          rintro after hafter counter hmem
          cases hafter
          rcases List.mem_cons.mp hmem with rfl | hearlier
          · exact Nat.le_refl _
          · exact Nat.le_of_lt (Nat.lt_of_le_of_lt (hbelow counter hearlier) hcounter)
      · exact hcounted.of_same (if_neg hsame) (get_insert_of_ne (Ne.symm hsame))

theorem counted_of_run (hrun : Run (step runtime) State.initial history state)
    (session : String) : Counted session history state :=
  hrun.induct_on (fun history state => Counted session history state) ⟨.nil, nofun⟩
    fun _ _ _ _ _ hcounted hstep => counted_step hcounted hstep

end Counters

section Results

variable {session : String}

/-- The counters of a session that was opened at most once are those since it was opened,
and there are none before. -/
structure Settled (session : String) (history : List (State × Operation))
    (state : State) : Prop where
  unopened : session ∉ opened history →
    state.sessions[session]? = none ∧ countersOf session history = []
  once : (opened history).Nodup → countersOf session history = countersSince session history

theorem Settled.of_same {operation : Operation} (hsettled : Settled session history state)
    (hopened : opened ((state, operation) :: history) = opened history)
    (haccepted : accepted ((state, operation) :: history) = accepted history)
    (hcounters : countersSince session ((state, operation) :: history) =
      countersSince session history)
    (hnone : state.sessions[session]? = none → next.sessions[session]? = none) :
    Settled session ((state, operation) :: history) next := by
  constructor
  · intro hnew
    rw [hopened] at hnew
    rw [countersOf, haccepted]
    exact ⟨hnone (hsettled.unopened hnew).1, (hsettled.unopened hnew).2⟩
  · intro hnodup
    rw [hopened] at hnodup
    rw [countersOf, haccepted, hcounters]
    exact hsettled.once hnodup

theorem countersOf_authenticate {request : CrankerRequest} {arrivedAt now : Nat} :
    countersOf session ((state, .authenticate request arrivedAt now) :: history) =
      if request.sessionId = session then request.counterValue :: countersOf session history
      else countersOf session history := by
  simp only [countersOf, accepted, List.filterMap_cons]
  split_ifs <;> rfl

theorem settled_step {operation : Operation} (hsettled : Settled session history state)
    (hstep : step runtime state operation = .ok next) :
    Settled session ((state, operation) :: history) next := by
  cases operation with
  | pruneUsedChallenges | pruneExpiredChallenges | pruneExpiredSessions | pruneIdleSessions =>
      cases hstep
      exact hsettled.of_same rfl rfl rfl id
  | deleteChallenge stale =>
      rw [deleteChallenge_eq_ok hstep]
      exact hsettled.of_same rfl rfl rfl id
  | deleteSession stale =>
      rw [deleteSession_eq_ok hstep]
      refine hsettled.of_same rfl rfl rfl ?_
      intro hnone
      by_cases hsame : session = stale
      · rw [hsame]
        exact get_erase_self
      · exact (get_erase_of_ne hsame).trans hnone
  | createChallenge publicKey nonce now =>
      rcases createChallenge_eq_ok hstep with ⟨-, rfl⟩
      exact hsettled.of_same rfl rfl rfl id
  | consumeChallenge input arrivedAt now =>
      rcases consumeChallenge_eq_ok hstep with ⟨challenge, -, -, rfl⟩
      exact hsettled.of_same rfl rfl rfl id
  | createSession challenge publicKey sessionId token now =>
      rcases createSession_eq_ok hstep with ⟨-, -, rfl⟩
      have hopened : opened ((state, .createSession challenge publicKey sessionId token now) ::
          history) = sessionId :: opened history := rfl
      have hcounters : countersOf session
          ((state, .createSession challenge publicKey sessionId token now) :: history) =
            countersOf session history := rfl
      constructor
      · intro hnew
        rw [hopened, List.mem_cons, not_or] at hnew
        rw [hcounters]
        exact ⟨(get_insert_of_ne hnew.1).trans (hsettled.unopened hnew.2).1,
          (hsettled.unopened hnew.2).2⟩
      · intro hnodup
        rw [hopened, List.nodup_cons] at hnodup
        rw [hcounters, countersSince]
        split_ifs with hsame
        · exact (hsettled.unopened (hsame ▸ hnodup.1)).2
        · exact hsettled.once hnodup.2
  | authenticate request arrivedAt now =>
      rcases authenticate_eq_ok hstep with ⟨stored, hstored, -, rfl⟩
      have hopened : opened ((state, .authenticate request arrivedAt now) :: history) =
          opened history := rfl
      constructor
      · intro hnew
        rw [hopened] at hnew
        rcases hsettled.unopened hnew with ⟨hnone, hcounters⟩
        have hother : request.sessionId ≠ session := by
          rintro rfl
          rw [hnone] at hstored
          cases hstored
        rw [countersOf_authenticate, if_neg hother]
        exact ⟨(get_insert_of_ne hother.symm).trans hnone, hcounters⟩
      · intro hnodup
        rw [countersOf_authenticate, countersSince, hsettled.once (hopened ▸ hnodup)]

theorem settled_of_run (hrun : Run (step runtime) State.initial history state)
    (session : String) : Settled session history state := by
  refine hrun.induct_on (fun history state => Settled session history state) ?_ ?_
  · exact ⟨fun _ => ⟨rfl, rfl⟩, fun _ => rfl⟩
  · intro _ _ _ _ _ hsettled hstep
    exact settled_step hsettled hstep

theorem countersOf_decreasing (hrun : Run (step runtime) State.initial history state)
    (hopened : (opened history).Nodup) (session : String) :
    (countersOf session history).Pairwise (· > ·) := by
  rw [(settled_of_run hrun session).once hopened]
  exact (counted_of_run hrun session).decreasing

/-- Pairs whose second components differ for each first one differ. -/
theorem nodup_of_nodup_seconds {pairs : List (String × Nat)}
    (hseconds : ∀ first, (pairs.filterMap fun pair =>
      if pair.1 = first then some pair.2 else none).Nodup) : pairs.Nodup := by
  induction pairs with
  | nil => exact .nil
  | cons pair pairs ih =>
      refine List.nodup_cons.mpr ⟨?_, ?_⟩
      · intro hagain
        have hhead := hseconds pair.1
        rw [List.filterMap_cons, if_pos rfl] at hhead
        exact (List.nodup_cons.mp hhead).1
          (List.mem_filterMap.mpr ⟨pair, hagain, if_pos rfl⟩)
      · apply ih
        intro first
        have hall := hseconds first
        rw [List.filterMap_cons] at hall
        split at hall
        · exact hall
        · exact (List.nodup_cons.mp hall).2

/-- In every interleaving a challenge is answered by no more sessions than it was issued
times, and the counters of a session rise. Where no id is drawn twice, each challenge has at
most one session and no request is accepted twice. -/
theorem authentication_replay_free (hrun : Run (step runtime) State.initial history state) :
    (∀ challenge, (answered history).count challenge ≤
        (issued runtime history).count challenge) ∧
      (∀ session, (countersSince session history).Pairwise (· > ·)) ∧
      ((issued runtime history).Nodup → (answered history).Nodup) ∧
      ((opened history).Nodup → (accepted history).Nodup ∧
        ∀ session, (countersOf session history).Pairwise (· > ·)) := by
  refine ⟨count_answered_le hrun, ?_, nodup_answered hrun, ?_⟩
  · intro session
    exact (counted_of_run hrun session).decreasing
  · intro hopened
    refine ⟨nodup_of_nodup_seconds ?_, countersOf_decreasing hrun hopened⟩
    intro session
    exact (countersOf_decreasing hrun hopened session).imp fun hless => Nat.ne_of_gt hless

end Results

section Sample

/-- Hashes and signatures that are easy to evaluate. -/
def sampleRuntime : Runtime where
  sha256 := fun _ => String.ofList (List.replicate 64 'a')
  verify := fun _ _ _ => true
  motherDnaCranker := fun _ => true

def sampleKey : String := String.ofList (List.replicate 32 '1')

def sampleNonce : String := String.ofList (List.replicate 43 'n')

def sampleSignature : String := String.ofList (List.replicate 86 'A')

def sampleSession : String := String.ofList (List.replicate 32 's')

def sampleRequest (counter : String) : CrankerRequest where
  publicKey := sampleKey
  sessionId := sampleSession
  token := sampleNonce
  counter := counter
  timestamp := "100"
  signature := sampleSignature
  body := "{}"
  method := "POST"
  path := "/api/cranker/work"

-- The texts are taken apart by lemmas: evaluated, they are costly.

theorem isPublicKey_sampleKey : isPublicKey sampleKey = true := by
  unfold isPublicKey isText sampleKey
  rw [String.toList_ofList, String.length_ofList]
  have hcontains : base58Alphabet.contains '1' = true := by
    unfold base58Alphabet
    rw [String.toList_ofList]
    decide
  simp only [List.all_replicate, hcontains, List.length_replicate]
  decide

theorem isText_ofList {allowed : Char → Bool} {low high : Nat} {characters : List Char}
    (hlow : low ≤ characters.length) (hhigh : characters.length ≤ high)
    (hallowed : characters.all allowed = true) :
    isText allowed low high (String.ofList characters) = true := by
  unfold isText
  rw [String.toList_ofList, String.length_ofList, decide_eq_true_eq]
  exact ⟨hlow, hhigh, hallowed⟩

theorem isText_replicate {allowed : Char → Bool} {low high count : Nat} {character : Char}
    (hlow : low ≤ count) (hhigh : count ≤ high) (hallowed : allowed character = true) :
    isText allowed low high (String.ofList (List.replicate count character)) = true := by
  have hlength : (List.replicate count character).length = count := List.length_replicate
  apply isText_ofList (hlength.symm ▸ hlow) (hlength.symm ▸ hhigh)
  rw [List.all_replicate, hallowed, ite_self]

theorem verifySigned_sample (message : String) :
    verifySigned sampleRuntime message sampleKey sampleSignature = .ok () := by
  have hkey : (decodeBase58 sampleKey).isOk = true := by
    unfold decodeBase58 sampleKey base58Alphabet
    rw [String.toList_ofList, String.toList_ofList]
    rfl
  have hsignature : (decodeSignature sampleSignature).isOk = true := by
    unfold decodeSignature base64Bytes sampleSignature
    rw [String.toList_ofList, String.length_ofList]
    decide +kernel
  obtain ⟨key, hkey⟩ := exists_ok_of_isOk hkey
  obtain ⟨bytes, hbytes⟩ := exists_ok_of_isOk hsignature
  rw [verifySigned, hkey, hbytes]
  rfl

theorem sampleSignature_ne_empty : sampleSignature ≠ "" := by
  intro hempty
  have hlength := congrArg String.length hempty
  unfold sampleSignature at hlength
  rw [String.length_ofList] at hlength
  cases hlength

theorem isText_sampleSession : isText isBase64UrlChar 32 32 sampleSession = true :=
  isText_replicate le_rfl le_rfl rfl

theorem isText_sampleNonce : isText isBase64UrlChar 43 43 sampleNonce = true :=
  isText_replicate le_rfl le_rfl rfl

theorem isText_sampleTime : isText Char.isDigit 1 13 "100" = true :=
  isText_ofList (by decide) (by decide) (by decide)

theorem validTimestamp_sample : validTimestamp 100000 "100" = true := by
  unfold validTimestamp
  rw [String.toList_ofList]
  decide

theorem counterValue_sample :
    (sampleRequest "2").counterValue = 2 ∧ (sampleRequest "5").counterValue = 5 := by
  constructor
  · show decimalValue "2".toList = 2
    rw [String.toList_ofList]
    decide
  · show decimalValue "5".toList = 5
    rw [String.toList_ofList]
    decide

theorem isText_sampleCounter {counter : String} (hcounter : counter ∈ ["2", "5"]) :
    isText Char.isDigit 1 16 counter = true := by
  rcases List.mem_pair.mp hcounter with rfl | rfl
  · exact isText_ofList (by decide) (by decide) (by decide)
  · exact isText_ofList (by decide) (by decide) (by decide)

theorem checkRequest_sample {counter : String} (hcounter : counter ∈ ["2", "5"]) :
    checkRequest sampleRuntime (sampleRequest counter) 100000 = .ok () := by
  have hcount : (sampleRequest counter).counterValue ≤ maxSafeInteger ∧
      1 ≤ (sampleRequest counter).counterValue := by
    rcases List.mem_pair.mp hcounter with rfl | rfl
    · rw [counterValue_sample.1]
      decide
    · rw [counterValue_sample.2]
      decide
  simp only [checkRequest, bind_eq_ok, require_eq_ok]
  exact ⟨(), ⟨isPublicKey_sampleKey, isText_sampleSession, isText_sampleNonce,
    isText_sampleCounter hcounter, isText_sampleTime, sampleSignature_ne_empty⟩, (),
    validTimestamp_sample, (), hcount, verifySigned_sample _⟩

theorem checkSessionInput_sample :
    checkSessionInput sampleRuntime ⟨sampleKey, sampleNonce, "100", sampleSignature⟩ 100000 =
      .ok () := by
  simp only [checkSessionInput, bind_eq_ok, require_eq_ok]
  exact ⟨(), ⟨isPublicKey_sampleKey, isText_sampleNonce, isText_sampleTime,
    sampleSignature_ne_empty⟩, (), validTimestamp_sample, verifySigned_sample _⟩

theorem sameDigest_sample (first second : String) :
    sameDigest (sampleRuntime.sha256 first) (sampleRuntime.sha256 second) = true := by
  show sameDigest (String.ofList (List.replicate 64 'a'))
    (String.ofList (List.replicate 64 'a')) = true
  unfold sameDigest
  rw [isText_replicate le_rfl le_rfl rfl, String.toList_ofList, List.map_replicate]
  exact decide_eq_true ⟨rfl, rfl⟩

theorem step_authenticate {state : State} {session : Session} {counter : String} {now : Nat}
    (hcounter : counter ∈ ["2", "5"]) (hstored : state.sessions[sampleSession]? = some session)
    (hkey : session.publicKey = sampleKey)
    (hhash : session.tokenHash = sampleRuntime.sha256 sampleNonce)
    (hfresh : now < session.expiresAt ∧ now - session.lastSeenAt ≤ crankerSessionIdleTtlMs)
    (hlast : session.lastCounter ≤ maxSafeInteger ∧
      session.lastCounter < (sampleRequest counter).counterValue) :
    step sampleRuntime state (.authenticate (sampleRequest counter) 100000 now) =
      .ok { state with
        sessions := state.sessions.insert sampleSession
          { session with
            lastCounter := (sampleRequest counter).counterValue, lastSeenAt := now } } := by
  have hdigest : sameDigest session.tokenHash (sampleRuntime.sha256 sampleNonce) = true := by
    rw [hhash]
    exact sameDigest_sample _ _
  simp only [step, authenticateCrankerRequest, bind_eq_ok, require_eq_ok, okOr_eq_ok, pure_eq_ok]
  exact ⟨(), checkRequest_sample hcounter, session, hstored, (), hkey, (), hdigest, (), hfresh, (),
    hlast, rfl⟩

def sampleChallenge : Challenge :=
  ⟨sampleKey, sampleNonce, 99000 + challengeTtlMs, false, none⟩

def sampleSessionAt (lastSeenAt lastCounter : Nat) : Session :=
  ⟨sampleKey, sampleRuntime.sha256 sampleNonce, 100050, 100050 + crankerSessionTtlMs, lastSeenAt,
    lastCounter⟩

/-- The store with the challenge, -/
def issuedState : State :=
  { State.initial with
    challenges := (∅ : Collection Challenge).insert
      (challengeId sampleRuntime sampleKey sampleNonce) sampleChallenge }

/-- with the challenge used, -/
def consumedState : State :=
  { issuedState with
    challenges := issuedState.challenges.insert (challengeId sampleRuntime sampleKey sampleNonce)
      { sampleChallenge with used := true, usedAt := some 100020 }
    consumed := [(challengeId sampleRuntime sampleKey sampleNonce, sampleKey)] }

/-- and with the session open. -/
def openedState : State :=
  { consumedState with
    sessions := (∅ : Collection Session).insert sampleSession (sampleSessionAt 100050 0)
    consumed := [] }

theorem step_createChallenge_sample :
    step sampleRuntime State.initial (.createChallenge sampleKey sampleNonce 99000) =
      .ok issuedState := by
  simp only [step, createChallenge, bind_eq_ok, require_eq_ok, pure_eq_ok]
  exact ⟨(), rfl, (), rfl, rfl⟩

theorem step_consumeChallenge_sample :
    step sampleRuntime issuedState
      (.consumeChallenge ⟨sampleKey, sampleNonce, "100", sampleSignature⟩ 100000 100020) =
        .ok consumedState := by
  simp only [step, consumeChallenge, bind_eq_ok, require_eq_ok, okOr_eq_ok, pure_eq_ok]
  exact ⟨(), checkSessionInput_sample, sampleChallenge, Std.ExtTreeMap.getElem?_insert_self, (),
    ⟨rfl, rfl, by decide⟩, rfl⟩

theorem step_createSession_sample :
    step sampleRuntime consumedState
      (.createSession (challengeId sampleRuntime sampleKey sampleNonce) sampleKey sampleSession
        sampleNonce 100050) = .ok openedState := by
  simp only [step, createSession, bind_eq_ok, require_eq_ok, pure_eq_ok]
  refine ⟨(), List.mem_cons_self, (), rfl, ?_⟩
  show State.mk _ _ _ _ (List.erase [_] _) = openedState
  rw [List.erase_cons_head]
  rfl

/-- A session is opened and makes two requests; the used challenge is deleted in between. -/
theorem exists_run_sample : ∃ history state,
    Run (step sampleRuntime) State.initial history state ∧
      accepted history = [(sampleSession, 5), (sampleSession, 2)] ∧
        (issued sampleRuntime history).length = 1 ∧ (opened history).length = 1 := by
  have hpruned : step sampleRuntime openedState .pruneUsedChallenges =
      .ok { openedState with staleChallenges := usedChallenges openedState ++ [] } := rfl
  have hused : challengeId sampleRuntime sampleKey sampleNonce ∈
      usedChallenges openedState ++ [] := by
    decide +kernel
  generalize usedChallenges openedState ++ [] = stale at hpruned hused
  obtain ⟨middle, hfirst, hstale, hstored⟩ : ∃ middle,
      step sampleRuntime { openedState with staleChallenges := stale }
        (.authenticate (sampleRequest "2") 100000 100100) = .ok middle ∧
      middle.staleChallenges = stale ∧ middle.sessions[sampleSession]? =
        some (sampleSessionAt 100100 (sampleRequest "2").counterValue) :=
    ⟨_, @step_authenticate _ (sampleSessionAt 100050 0) "2" 100100 (by decide)
      Std.ExtTreeMap.getElem?_insert_self rfl rfl (by decide)
      (by rw [counterValue_sample.1]; decide), rfl, Std.ExtTreeMap.getElem?_insert_self⟩
  obtain ⟨next, hdeleted, hsessions⟩ : ∃ next, step sampleRuntime middle
      (.deleteChallenge (challengeId sampleRuntime sampleKey sampleNonce)) = .ok next ∧
        next.sessions = middle.sessions := by
    refine ⟨{ middle with
      challenges := middle.challenges.erase (challengeId sampleRuntime sampleKey sampleNonce)
      staleChallenges := middle.staleChallenges.erase
        (challengeId sampleRuntime sampleKey sampleNonce) }, ?_, rfl⟩
    simp only [step, deleteChallenge, bind_eq_ok, require_eq_ok, pure_eq_ok]
    exact ⟨(), hstale ▸ hused, trivial⟩
  have hsecond := @step_authenticate next _ "5" 100200 (by decide) (hsessions ▸ hstored) rfl rfl
    (by decide) (by
      show (sampleRequest "2").counterValue ≤ _ ∧ (sampleRequest "2").counterValue < _
      rw [counterValue_sample.1, counterValue_sample.2]
      decide)
  refine ⟨_, _, .step (.step (.step (.step (.step (.step (.step .start
    step_createChallenge_sample) step_consumeChallenge_sample) step_createSession_sample) hpruned)
      hfirst) hdeleted) hsecond, ?_, rfl, rfl⟩
  show [(sampleSession, (sampleRequest "5").counterValue),
    (sampleSession, (sampleRequest "2").counterValue)] = _
  rw [counterValue_sample.1, counterValue_sample.2]

theorem authentication_replay_free_sample : ∃ history state,
    Run (step sampleRuntime) State.initial history state ∧
      accepted history = [(sampleSession, 5), (sampleSession, 2)] ∧
      (accepted history).Nodup ∧ (answered history).Nodup := by
  rcases exists_run_sample with ⟨history, state, hrun, haccepted, hissued, hopened⟩
  rcases authentication_replay_free hrun with ⟨-, -, hanswered, hrequests⟩
  refine ⟨history, state, hrun, haccepted, (hrequests ?_).1, hanswered ?_⟩
  · rcases List.length_eq_one_iff.mp hopened with ⟨session, hsession⟩
    rw [hsession]
    exact List.nodup_singleton session
  · rcases List.length_eq_one_iff.mp hissued with ⟨challenge, hchallenge⟩
    rw [hchallenge]
    exact List.nodup_singleton challenge

end Sample

end TsnProtocol.Receiver.CrankerSessions
