import TsnProtocol.Lib.Transition
import TsnProtocol.Node.AttestcoinWorker

/-!
Runs of the attestation worker. A settlement is attested only after the Cranker's answer; its
record keeps its order, and its submission stays the only one, as long as its calls do not
overlap and none starts over.
-/

namespace TsnProtocol.Node.AttestationOrder

open Lib.Checked
open Lib.Transition
open Node.AttestcoinWorker

/-- How far the record of a settlement has come. -/
def level (world : World) (settlementId : String) : Nat :=
  ((world.records settlementId).map fun record => record.state.place).getD 0

/-- The submissions that the Cranker has carried out for a settlement. -/
def submissionsFor (world : World) (settlementId : String) : List Submission :=
  world.submissions.filter fun submission => submission.payload.settlementId = settlementId

/-- A call starts while no other one of its settlement is under way, at a record that is
missing, at its first state or at one of the last two; and the Cranker carries out no submission
whose answer is lost. -/
def Orderly (world : World) : Input → Prop
  | .start job =>
      (∀ id run, world.runs id = some run → run.job.settlementId ≠ job.settlementId) ∧
        (level world job.settlementId ≤ 1 ∨ 6 ≤ level world job.settlementId)
  | .submit _ (.failed landed) => landed = none
  | .submit _ (.aborted landed) => landed = none
  | _ => True

section Order

variable {config : Config} {world next : World} {id : Nat} {run : ActiveRun} {input : Input}
  {settlementId : String}

theorem level_of_records (hrecords : next.records = world.records) :
    level next settlementId = level world settlementId := by
  rw [level, hrecords]
  rfl

theorem submissionsFor_of_submissions (hsubmissions : next.submissions = world.submissions) :
    submissionsFor next settlementId = submissionsFor world settlementId := by
  rw [submissionsFor, hsubmissions]
  rfl

/-- How far the record has come where a call waits, and how many submissions there are. -/
def Fits (phase : Phase) (level count : Nat) : Prop :=
  match phase with
  | .reading => (level ≤ 1 ∧ count = 0) ∨ 6 ≤ level
  | .writingPending => level ≤ 1 ∧ count = 0
  | .writingAnchorSubmitted => level = 1 ∧ count = 0
  | .writingAnchorConfirmed => level = 2 ∧ count = 0
  | .writingProofWaiting => level = 3 ∧ count = 0
  | .proving => level = 4 ∧ count = 0
  | .writingProofVerified _ => level = 4 ∧ count = 0
  | .submitting _ _ => level = 5 ∧ count = 0
  | .sleeping _ _ => level = 5 ∧ count = 0
  | .writingAscSubmitted _ => level = 5 ∧ count = 1
  | .writingAttested _ => level = 6 ∧ count = 1

/-- The invariant of orderly runs. -/
structure Ordered (world : World) : Prop where
  issued : ∀ id run, world.runs id = some run → id < world.started
  alone : ∀ id id' run run', world.runs id = some run → world.runs id' = some run' →
    run.job.settlementId = run'.job.settlementId → id = id'
  fits : ∀ id run, world.runs id = some run →
    Fits run.phase (level world run.job.settlementId)
      (submissionsFor world run.job.settlementId).length
  once : ∀ settlementId, (submissionsFor world settlementId).length ≤ 1
  unsent : ∀ settlementId, level world settlementId ≤ 1 →
    (submissionsFor world settlementId).length = 0

/-- A step that touches one call and its settlement keeps the invariant where the settlement
fits what the call does next. -/
theorem ordered_of_change (hordered : Ordered world) (hrun : world.runs id = some run)
    (hstarted : next.started = world.started)
    (hruns : ∀ other, other ≠ id → next.runs other = world.runs other)
    (hchanged : ∀ changed, next.runs id = some changed → changed.job = run.job ∧
      Fits changed.phase (level next run.job.settlementId)
        (submissionsFor next run.job.settlementId).length)
    (hlevel : ∀ settlementId, settlementId ≠ run.job.settlementId →
      level next settlementId = level world settlementId)
    (hsubmissions : ∀ settlementId, settlementId ≠ run.job.settlementId →
      submissionsFor next settlementId = submissionsFor world settlementId)
    (honce : (submissionsFor next run.job.settlementId).length ≤ 1)
    (hunsent : level next run.job.settlementId ≤ 1 →
      (submissionsFor next run.job.settlementId).length = 0) : Ordered next := by
  -- a call of the next world was there before, with its job
  have hback : ∀ other later, next.runs other = some later →
      ∃ earlier, world.runs other = some earlier ∧ later.job = earlier.job := by
    intro other later hlater
    by_cases hsame : other = id
    · subst hsame
      exact ⟨run, hrun, (hchanged later hlater).1⟩
    · rw [hruns other hsame] at hlater
      exact ⟨later, hlater, rfl⟩
  constructor
  · intro other later hlater
    obtain ⟨earlier, hearlier, -⟩ := hback other later hlater
    rw [hstarted]
    exact hordered.issued other earlier hearlier
  · intro left right run' run'' hleft hright hsame
    obtain ⟨earlier, hearlier, hjob⟩ := hback left run' hleft
    obtain ⟨earlier', hearlier', hjob'⟩ := hback right run'' hright
    rw [hjob, hjob'] at hsame
    exact hordered.alone left right earlier earlier' hearlier hearlier' hsame
  · intro other later hlater
    by_cases hsame : other = id
    · subst hsame
      obtain ⟨hjob, hfits⟩ := hchanged later hlater
      rw [hjob]
      exact hfits
    · have hbefore := hlater
      rw [hruns other hsame] at hbefore
      have hapart : later.job.settlementId ≠ run.job.settlementId := fun heq =>
        hsame (hordered.alone other id later run hbefore hrun heq)
      rw [hlevel _ hapart, hsubmissions _ hapart]
      exact hordered.fits other later hbefore
  · intro settlementId
    by_cases hsame : settlementId = run.job.settlementId
    · rw [hsame]
      exact honce
    · rw [hsubmissions _ hsame]
      exact hordered.once settlementId
  · intro settlementId hlow
    by_cases hsame : settlementId = run.job.settlementId
    · rw [hsame] at hlow ⊢
      exact hunsent hlow
    · rw [hlevel _ hsame] at hlow
      rw [hsubmissions _ hsame]
      exact hordered.unsent settlementId hlow

/-- A call that only goes on. -/
theorem ordered_of_proceedTo {after : After} (hordered : Ordered world)
    (hrun : world.runs id = some run)
    (hafter : ∀ phase, after = .wait phase →
      Fits phase (level world run.job.settlementId)
        (submissionsFor world run.job.settlementId).length) :
    Ordered (proceedTo world id run after) := by
  have hlevel : ∀ settlementId,
      level (proceedTo world id run after) settlementId = level world settlementId :=
    fun _ => level_of_records records_proceedTo
  have hsubmissions : ∀ settlementId, submissionsFor (proceedTo world id run after) settlementId =
      submissionsFor world settlementId :=
    fun _ => submissionsFor_of_submissions submissions_proceedTo
  refine ordered_of_change hordered hrun started_proceedTo
    (fun other hother => runs_proceedTo_of_ne hother) ?_ (fun _ _ => hlevel _)
    (fun _ _ => hsubmissions _) ?_ ?_
  · intro changed hchanged
    obtain ⟨hjob, hwait⟩ := phase_of_proceedTo hchanged
    rw [hlevel, hsubmissions]
    exact ⟨hjob, hafter _ hwait⟩
  · rw [hsubmissions]
    exact hordered.once _
  · rw [hlevel, hsubmissions]
    exact hordered.unsent _

/-- A write goes no way back, and fits what the call does next. -/
theorem fits_of_write {job : TinExitAttestationJob} {phase : Phase} {state : AttestationState}
    {patch : Patch} {after : After} {before count : Nat}
    (hwrite : writeOf config job phase = some (state, patch, after))
    (hfits : Fits phase before count) :
    before ≤ state.place ∧ count ≤ 1 ∧ (state.place ≤ 1 → count = 0) ∧
      ∀ later, after = .wait later → Fits later state.place count := by
  cases phase
  case writingPending =>
    simp only [writeOf, Option.some.injEq, Prod.mk.injEq] at hwrite
    obtain ⟨rfl, -, rfl⟩ := hwrite
    obtain ⟨hlevel, rfl⟩ := hfits
    refine ⟨hlevel, Nat.zero_le 1, fun _ => rfl, ?_⟩
    intro later hlater
    cases hlater
    exact ⟨rfl, rfl⟩
  case writingAnchorSubmitted =>
    simp only [writeOf, Option.some.injEq, Prod.mk.injEq] at hwrite
    obtain ⟨rfl, -, rfl⟩ := hwrite
    obtain ⟨rfl, rfl⟩ := hfits
    refine ⟨by decide, Nat.zero_le 1, fun _ => rfl, ?_⟩
    intro later hlater
    cases hlater
    exact ⟨rfl, rfl⟩
  case writingAnchorConfirmed =>
    simp only [writeOf, Option.some.injEq, Prod.mk.injEq] at hwrite
    obtain ⟨rfl, -, rfl⟩ := hwrite
    obtain ⟨rfl, rfl⟩ := hfits
    refine ⟨by decide, Nat.zero_le 1, fun _ => rfl, ?_⟩
    intro later hlater
    cases hlater
    exact ⟨rfl, rfl⟩
  case writingProofWaiting =>
    simp only [writeOf, Option.some.injEq, Prod.mk.injEq] at hwrite
    obtain ⟨rfl, -, rfl⟩ := hwrite
    obtain ⟨rfl, rfl⟩ := hfits
    refine ⟨by decide, Nat.zero_le 1, fun _ => rfl, ?_⟩
    intro later hlater
    cases hlater
    exact ⟨rfl, rfl⟩
  case writingProofVerified =>
    simp only [writeOf, Option.some.injEq, Prod.mk.injEq] at hwrite
    obtain ⟨rfl, -, rfl⟩ := hwrite
    obtain ⟨rfl, rfl⟩ := hfits
    refine ⟨by decide, Nat.zero_le 1, fun _ => rfl, ?_⟩
    intro later hlater
    split at hlater
    · cases hlater
    · cases hlater
      exact ⟨rfl, rfl⟩
  case writingAscSubmitted =>
    simp only [writeOf, Option.some.injEq, Prod.mk.injEq] at hwrite
    obtain ⟨rfl, -, rfl⟩ := hwrite
    obtain ⟨rfl, rfl⟩ := hfits
    refine ⟨by decide, le_refl 1, fun h => absurd h (by decide), ?_⟩
    intro later hlater
    cases hlater
    exact ⟨rfl, rfl⟩
  case writingAttested =>
    simp only [writeOf, Option.some.injEq, Prod.mk.injEq] at hwrite
    obtain ⟨rfl, -, rfl⟩ := hwrite
    obtain ⟨rfl, rfl⟩ := hfits
    refine ⟨by decide, le_refl 1, fun h => absurd h (by decide), ?_⟩
    intro later hlater
    cases hlater
  all_goals cases hwrite

section Writes

variable {record : Record} {settlementId : String}

theorem level_of_written : level { world with
    records := Function.update world.records settlementId (some record) } settlementId =
      record.state.place := by
  simp only [level, Function.update_self, Option.map_some, Option.getD_some]

theorem level_of_other {other : String} (hother : other ≠ settlementId) : level { world with
    records := Function.update world.records settlementId (some record) } other =
      level world other := by
  simp only [level, Function.update_of_ne hother]

end Writes

theorem ordered_of_written {state : AttestationState} {patch : Patch} {after : After}
    (hordered : Ordered world) (hrun : world.runs id = some run)
    (hwrite : writeOf config run.job run.phase = some (state, patch, after)) :
    Ordered (proceedTo { world with
      records := Function.update world.records run.job.settlementId (some
        (patched (world.records run.job.settlementId) run.job state patch)) } id run after) := by
  obtain ⟨-, honce, hunsent, hlater⟩ := fits_of_write hwrite (hordered.fits id run hrun)
  generalize hwritten : ({ world with
    records := Function.update world.records run.job.settlementId (some
      (patched (world.records run.job.settlementId) run.job state patch)) } : World) = written
  have hlevel : level written run.job.settlementId = state.place := by
    rw [← hwritten, level_of_written]
    rfl
  have hsubmissions : ∀ settlementId,
      submissionsFor (proceedTo written id run after) settlementId =
        submissionsFor world settlementId := by
    intro settlementId
    rw [submissionsFor_of_submissions submissions_proceedTo, ← hwritten]
    rfl
  refine ordered_of_change hordered hrun ?_ ?_ ?_ ?_ (fun _ _ => hsubmissions _) ?_ ?_
  · rw [started_proceedTo, ← hwritten]
  · intro other hother
    rw [runs_proceedTo_of_ne hother, ← hwritten]
  · intro changed hchanged
    obtain ⟨hjob, hwait⟩ := phase_of_proceedTo hchanged
    rw [level_of_records records_proceedTo, hlevel, hsubmissions]
    exact ⟨hjob, hlater _ hwait⟩
  · intro settlementId hother
    rw [level_of_records records_proceedTo, ← hwritten, level_of_other hother]
  · rw [hsubmissions]
    exact honce
  · rw [level_of_records records_proceedTo, hlevel, hsubmissions]
    exact hunsent

theorem submissionsFor_of_eq {submission : Submission} {settlementId : String}
    (hsame : submission.payload.settlementId = settlementId) :
    submissionsFor { world with submissions := submission :: world.submissions } settlementId =
      submission :: submissionsFor world settlementId :=
  List.filter_cons_of_pos (decide_eq_true hsame)

theorem submissionsFor_of_ne {submission : Submission} {settlementId : String}
    (hother : submission.payload.settlementId ≠ settlementId) :
    submissionsFor { world with submissions := submission :: world.submissions } settlementId =
      submissionsFor world settlementId :=
  List.filter_cons_of_neg fun htrue => hother (of_decide_eq_true htrue)

theorem ordered_of_submit {proof : String} {attempt : Nat} {answer : Answer}
    (hordered : Ordered world) (hrun : world.runs id = some run)
    (hphase : run.phase = .submitting proof attempt)
    (horderly : Orderly world (.submit id answer)) :
    Ordered (submitStep config world id run proof attempt answer) := by
  have hfits := hordered.fits id run hrun
  rw [hphase] at hfits
  cases answer with
  | confirmed txHash =>
      obtain ⟨hlevel, hcount⟩ := hfits
      generalize hsubmitted : ({ world with
        submissions := ⟨payloadOf run.job proof, txHash, true⟩ :: world.submissions } : World) =
          submitted
      have hown : (submissionsFor submitted run.job.settlementId).length = 1 := by
        rw [← hsubmitted, @submissionsFor_of_eq world ⟨payloadOf run.job proof, txHash, true⟩
          run.job.settlementId rfl, List.length_cons, hcount]
      have hother : ∀ settlementId, settlementId ≠ run.job.settlementId →
          submissionsFor submitted settlementId = submissionsFor world settlementId := by
        intro settlementId hne
        rw [← hsubmitted]
        exact submissionsFor_of_ne hne.symm
      have hsame : ∀ settlementId, level submitted settlementId = level world settlementId := by
        intro settlementId
        rw [← hsubmitted]
        rfl
      have hstep : submitStep config world id run proof attempt (.confirmed txHash) =
          proceedTo submitted id run (.wait (.writingAscSubmitted txHash)) := by
        rw [← hsubmitted]
        rfl
      rw [hstep]
      refine ordered_of_change hordered hrun ?_ ?_ ?_ ?_ ?_ ?_ ?_
      · rw [started_proceedTo, ← hsubmitted]
      · intro other hne
        rw [runs_proceedTo_of_ne hne, ← hsubmitted]
      · intro changed hchanged
        obtain ⟨hjob, hwait⟩ := phase_of_proceedTo hchanged
        rw [After.wait.injEq] at hwait
        rw [level_of_records records_proceedTo, hsame, hlevel,
          submissionsFor_of_submissions submissions_proceedTo, hown, ← hwait]
        exact ⟨hjob, rfl, rfl⟩
      · intro settlementId _
        rw [level_of_records records_proceedTo, hsame]
      · intro settlementId hne
        rw [submissionsFor_of_submissions submissions_proceedTo, hother settlementId hne]
      · rw [submissionsFor_of_submissions submissions_proceedTo, hown]
      · intro hlow
        rw [level_of_records records_proceedTo, hsame, hlevel] at hlow
        omega
  | failed landed =>
      obtain rfl : landed = none := horderly
      refine ordered_of_proceedTo hordered hrun ?_
      intro phase hwait
      split at hwait
      · cases hwait
        exact hfits
      · cases hwait
  | aborted landed =>
      obtain rfl : landed = none := horderly
      show Ordered (proceedTo world id run (.raise "cancelled"))
      exact ordered_of_proceedTo hordered hrun fun _ hwait => After.noConfusion hwait

theorem ordered_of_start {job : TinExitAttestationJob} (hordered : Ordered world)
    (horderly : Orderly world (.start job))
    (hstep : step config world (.start job) = .ok next) : Ordered next := by
  simp only [step, bind_eq_ok, pure_eq_ok] at hstep
  obtain ⟨_, -, rfl⟩ := hstep
  obtain ⟨hnone, hrestart⟩ := horderly
  have hruns : ∀ other later, Function.update world.runs world.started (some ⟨job, .reading⟩)
      other = some later →
        (other = world.started ∧ later = ⟨job, .reading⟩) ∨ world.runs other = some later := by
    intro other later hlater
    by_cases hsame : other = world.started
    · subst hsame
      rw [Function.update_self, Option.some.injEq] at hlater
      exact Or.inl ⟨rfl, hlater.symm⟩
    · rw [Function.update_of_ne hsame] at hlater
      exact Or.inr hlater
  refine ⟨?_, ?_, ?_, hordered.once, hordered.unsent⟩
  · intro other later hlater
    rcases hruns other later hlater with ⟨rfl, -⟩ | hearlier
    · exact Nat.lt_succ_self _
    · exact Nat.lt_succ_of_lt (hordered.issued other later hearlier)
  · intro left right run run' hleft hright hsame
    rcases hruns left run hleft with ⟨rfl, rfl⟩ | hearlier
    · rcases hruns right run' hright with ⟨rfl, -⟩ | hearlier'
      · rfl
      · exact absurd hsame.symm (hnone right run' hearlier')
    · rcases hruns right run' hright with ⟨rfl, rfl⟩ | hearlier'
      · exact absurd hsame (hnone left run hearlier)
      · exact hordered.alone left right run run' hearlier hearlier' hsame
  · intro other later hlater
    rcases hruns other later hlater with ⟨rfl, rfl⟩ | hearlier
    · rcases hrestart with hlow | hhigh
      · exact Or.inl ⟨hlow, hordered.unsent _ hlow⟩
      · exact Or.inr hhigh
    · exact hordered.fits other later hearlier

theorem existingResult_eq_none {job : TinExitAttestationJob}
    (hresult : existingResult job (world.records job.settlementId) = none) :
    level world job.settlementId < 6 := by
  rw [level]
  cases hrecord : world.records job.settlementId with
  | none => exact Nat.succ_pos 5
  | some record =>
      rw [hrecord] at hresult
      cases hstate : record.state
      case ascSubmitted => simp [existingResult, hstate] at hresult
      case attested => simp [existingResult, hstate] at hresult
      all_goals simp [hstate, AttestationState.place]

theorem ordered_of_effect (hordered : Ordered world) (hrun : world.runs id = some run)
    (horderly : Orderly world input) (heffect : Effect config world input id run next) :
    Ordered next := by
  cases heffect with
  | gone message =>
      exact ordered_of_proceedTo hordered hrun fun _ hwait => After.noConfusion hwait
  | found result hphase hresult =>
      exact ordered_of_proceedTo hordered hrun fun _ hwait => After.noConfusion hwait
  | fresh hphase hresult =>
      refine ordered_of_proceedTo hordered hrun ?_
      intro phase hwait
      cases hwait
      have hfits := hordered.fits id run hrun
      rw [hphase] at hfits
      have hlow := existingResult_eq_none hresult
      rcases hfits with hlevel | hhigh
      · exact hlevel
      · omega
  | rested proof attempt hphase =>
      refine ordered_of_proceedTo hordered hrun ?_
      intro phase hwait
      cases hwait
      have hfits := hordered.fits id run hrun
      rw [hphase] at hfits
      exact hfits
  | proved proof hphase =>
      refine ordered_of_proceedTo hordered hrun ?_
      intro phase hwait
      cases hwait
      have hfits := hordered.fits id run hrun
      rw [hphase] at hfits
      exact hfits
  | written state patch after hwrite => exact ordered_of_written hordered hrun hwrite
  | submitted proof attempt answer hinput hphase =>
      subst hinput
      exact ordered_of_submit hordered hrun hphase horderly

theorem ordered_initial : Ordered initial where
  issued := by
    intro id run hrun
    cases hrun
  alone := by
    intro id id' run run' hrun
    cases hrun
  fits := by
    intro id run hrun
    cases hrun
  once := by
    intro settlementId
    exact Nat.zero_le 1
  unsent := by
    intro settlementId _
    rfl

/-- An input starts a call or is about one. -/
theorem start_or_call (input : Input) :
    (∃ job, input = .start job) ∨ ∃ id, input.callId = some id := by
  cases input with
  | start job => exact Or.inl ⟨job, rfl⟩
  | proceed id => exact Or.inr ⟨id, rfl⟩
  | prove id proof => exact Or.inr ⟨id, rfl⟩
  | submit id answer => exact Or.inr ⟨id, rfl⟩
  | fail id message => exact Or.inr ⟨id, rfl⟩

theorem ordered_of_step (hordered : Ordered world) (horderly : Orderly world input)
    (hstep : step config world input = .ok next) : Ordered next := by
  rcases start_or_call input with ⟨job, rfl⟩ | ⟨id, hid⟩
  · exact ordered_of_start hordered horderly hstep
  · obtain ⟨run, hrun, heffect⟩ := effect_of_step hid hstep
    exact ordered_of_effect hordered hrun horderly heffect

theorem records_submitStep {proof : String} {attempt : Nat} {answer : Answer} :
    (submitStep config world id run proof attempt answer).records = world.records := by
  rcases answer with _ | (_ | _) | (_ | _)
  all_goals exact records_proceedTo

/-- In an ordered world no write goes back. -/
theorem level_le_of_step (hordered : Ordered world)
    (hstep : step config world input = .ok next) (settlementId : String) :
    level world settlementId ≤ level next settlementId := by
  rcases start_or_call input with ⟨job, rfl⟩ | ⟨id, hid⟩
  · simp only [step, bind_eq_ok, pure_eq_ok] at hstep
    obtain ⟨_, -, rfl⟩ := hstep
    exact le_refl _
  · obtain ⟨run, hrun, heffect⟩ := effect_of_step hid hstep
    rcases heffect with _ | _ | _ | _ | _ | ⟨state, patch, after, hwrite⟩ | _
    case written =>
      rw [level_of_records records_proceedTo]
      by_cases hsame : settlementId = run.job.settlementId
      · rw [hsame, level_of_written]
        exact (fits_of_write hwrite (hordered.fits id run hrun)).1
      · rw [level_of_other hsame]
    case submitted =>
      rw [level_of_records records_submitStep]
    all_goals rw [level_of_records records_proceedTo]

end Order

section Confirmations

variable {config : Config} {world next : World} {id : Nat} {run : ActiveRun} {input : Input}

/-- The Cranker has answered a submission for the settlement with the transaction. -/
def Answered (world : World) (settlementId txHash : String) : Prop :=
  ∃ submission ∈ world.submissions, submission.answered = true ∧
    submission.payload.settlementId = settlementId ∧ submission.txHash = txHash

theorem Answered.mono {settlementId txHash : String} (hanswered : Answered world settlementId txHash)
    (hsubset : world.submissions ⊆ next.submissions) : Answered next settlementId txHash := by
  obtain ⟨submission, hmember, hrest⟩ := hanswered
  exact ⟨submission, hsubset hmember, hrest⟩

/-- A transaction that a call is about to store, or that a late record holds, was answered. -/
structure Confirmed (world : World) : Prop where
  held : ∀ id run, world.runs id = some run → ∀ txHash,
    run.phase = .writingAscSubmitted txHash ∨ run.phase = .writingAttested txHash →
      Answered world run.job.settlementId txHash
  stored : ∀ settlementId record, world.records settlementId = some record →
    6 ≤ record.state.place → ∃ txHash, record.creditcoinTxHash = some txHash ∧
      Answered world settlementId txHash

theorem confirmed_of_change (hconfirmed : Confirmed world) (hrun : world.runs id = some run)
    (hruns : ∀ other, other ≠ id → next.runs other = world.runs other)
    (hchanged : ∀ changed, next.runs id = some changed → changed.job = run.job ∧ ∀ txHash,
      changed.phase = .writingAscSubmitted txHash ∨ changed.phase = .writingAttested txHash →
        Answered next run.job.settlementId txHash)
    (hsubset : world.submissions ⊆ next.submissions)
    (hrecords : ∀ settlementId record, next.records settlementId = some record →
      world.records settlementId = some record ∨ (6 ≤ record.state.place →
        ∃ txHash, record.creditcoinTxHash = some txHash ∧ Answered next settlementId txHash)) :
    Confirmed next := by
  constructor
  · intro other later hlater txHash hphase
    by_cases hsame : other = id
    · subst hsame
      obtain ⟨hjob, hanswered⟩ := hchanged later hlater
      rw [hjob]
      exact hanswered txHash hphase
    · rw [hruns other hsame] at hlater
      exact (hconfirmed.held other later hlater txHash hphase).mono hsubset
  · intro settlementId record hrecord hlate
    rcases hrecords settlementId record hrecord with hearlier | hnew
    · obtain ⟨txHash, hheld, hanswered⟩ := hconfirmed.stored settlementId record hearlier hlate
      exact ⟨txHash, hheld, hanswered.mono hsubset⟩
    · exact hnew hlate

/-- The last two writes put the transaction of the call into the record. -/
theorem holds_of_late_write {job : TinExitAttestationJob} {phase : Phase}
    {state : AttestationState} {patch : Patch} {after : After}
    (hwrite : writeOf config job phase = some (state, patch, after)) (hlate : 6 ≤ state.place) :
    ∃ txHash, patch.creditcoinTxHash = some txHash ∧
      (phase = .writingAscSubmitted txHash ∨ phase = .writingAttested txHash) := by
  cases phase
  case writingAscSubmitted txHash =>
    simp only [writeOf, Option.some.injEq, Prod.mk.injEq] at hwrite
    obtain ⟨-, rfl, -⟩ := hwrite
    exact ⟨txHash, rfl, Or.inl rfl⟩
  case writingAttested txHash =>
    simp only [writeOf, Option.some.injEq, Prod.mk.injEq] at hwrite
    obtain ⟨-, rfl, -⟩ := hwrite
    exact ⟨txHash, rfl, Or.inr rfl⟩
  all_goals
    simp only [writeOf, Option.some.injEq, Prod.mk.injEq, reduceCtorEq] at hwrite
  all_goals
    obtain ⟨rfl, -, -⟩ := hwrite
    exact absurd hlate (by decide)

/-- A write is followed by one of these phases only where the call has held the transaction. -/
theorem holds_of_wait {job : TinExitAttestationJob} {phase later : Phase}
    {state : AttestationState} {patch : Patch} {txHash : String}
    (hwrite : writeOf config job phase = some (state, patch, .wait later))
    (hlater : later = .writingAscSubmitted txHash ∨ later = .writingAttested txHash) :
    phase = .writingAscSubmitted txHash := by
  cases phase
  case writingAscSubmitted held =>
    simp only [writeOf, Option.some.injEq, Prod.mk.injEq, After.wait.injEq] at hwrite
    obtain ⟨-, -, rfl⟩ := hwrite
    rcases hlater with hlater | hlater
    · cases hlater
    · cases hlater
      rfl
  case writingProofVerified proof =>
    simp only [writeOf, Option.some.injEq, Prod.mk.injEq] at hwrite
    obtain ⟨-, -, hwait⟩ := hwrite
    split at hwait
    · cases hwait
    · cases hwait
      rcases hlater with hlater | hlater <;> cases hlater
  all_goals
    simp only [writeOf, Option.some.injEq, Prod.mk.injEq, After.wait.injEq, reduceCtorEq,
      and_false] at hwrite
  all_goals
    obtain ⟨-, -, rfl⟩ := hwrite
    rcases hlater with hlater | hlater <;> cases hlater

theorem confirmed_of_proceedTo {after : After} (hconfirmed : Confirmed world)
    (hrun : world.runs id = some run)
    (hafter : ∀ phase, after = .wait phase → ∀ txHash,
      phase ≠ .writingAscSubmitted txHash ∧ phase ≠ .writingAttested txHash) :
    Confirmed (proceedTo world id run after) := by
  refine confirmed_of_change hconfirmed hrun (fun other hother => runs_proceedTo_of_ne hother)
    ?_ ?_ ?_
  · intro changed hchanged
    obtain ⟨hjob, hwait⟩ := phase_of_proceedTo hchanged
    refine ⟨hjob, ?_⟩
    rintro txHash (hphase | hphase)
    · exact absurd hphase (hafter _ hwait txHash).1
    · exact absurd hphase (hafter _ hwait txHash).2
  · rw [submissions_proceedTo]
    exact List.Subset.refl _
  · intro settlementId record hrecord
    rw [records_proceedTo] at hrecord
    exact Or.inl hrecord

theorem confirmed_of_landed {payload : Payload} {landed : Option String}
    (hconfirmed : Confirmed world) : Confirmed (withLanded world payload landed) := by
  cases landed with
  | none => exact hconfirmed
  | some txHash =>
      have hsubset : world.submissions ⊆
          (withLanded world payload (some txHash)).submissions := List.subset_cons_self _ _
      constructor
      · intro other later hlater held hphase
        exact (hconfirmed.held other later hlater held hphase).mono hsubset
      · intro settlementId record hrecord hlate
        obtain ⟨held, hheld, hanswered⟩ := hconfirmed.stored settlementId record hrecord hlate
        exact ⟨held, hheld, hanswered.mono hsubset⟩

theorem runs_withLanded (payload : Payload) (landed : Option String) :
    (withLanded world payload landed).runs = world.runs := by
  cases landed <;> rfl

theorem confirmed_of_submit {proof : String} {attempt : Nat} {answer : Answer}
    (hconfirmed : Confirmed world) (hrun : world.runs id = some run) :
    Confirmed (submitStep config world id run proof attempt answer) := by
  cases answer with
  | confirmed txHash =>
      have hanswered : Answered (submitStep config world id run proof attempt
          (.confirmed txHash)) run.job.settlementId txHash :=
        ⟨_, List.mem_cons_self, rfl, rfl, rfl⟩
      have hstep : submitStep config world id run proof attempt (.confirmed txHash) =
          proceedTo { world with
            submissions := ⟨payloadOf run.job proof, txHash, true⟩ :: world.submissions }
            id run (.wait (.writingAscSubmitted txHash)) := rfl
      rw [hstep] at hanswered ⊢
      refine confirmed_of_change hconfirmed hrun
        (fun other hother => runs_proceedTo_of_ne hother) ?_ (List.subset_cons_self _ _) ?_
      · intro changed hchanged
        obtain ⟨hjob, hwait⟩ := phase_of_proceedTo hchanged
        rw [After.wait.injEq] at hwait
        refine ⟨hjob, ?_⟩
        rintro held (hphase | hphase)
        · rw [← hwait, Phase.writingAscSubmitted.injEq] at hphase
          exact hphase ▸ hanswered
        · rw [← hwait] at hphase
          cases hphase
      · intro settlementId record hrecord
        exact Or.inl hrecord
  | failed landed =>
      refine confirmed_of_proceedTo (confirmed_of_landed hconfirmed)
        ((congrFun (runs_withLanded _ landed) id).trans hrun) ?_
      intro phase hwait txHash
      split at hwait
      · cases hwait
        exact ⟨nofun, nofun⟩
      · cases hwait
  | aborted landed =>
      show Confirmed (proceedTo (withLanded world (payloadOf run.job proof) landed) id run
        (.raise "cancelled"))
      refine confirmed_of_proceedTo (confirmed_of_landed hconfirmed)
        ((congrFun (runs_withLanded _ landed) id).trans hrun) ?_
      intro phase hwait
      cases hwait

theorem confirmed_of_effect (hconfirmed : Confirmed world) (hrun : world.runs id = some run)
    (heffect : Effect config world input id run next) : Confirmed next := by
  cases heffect with
  | gone message =>
      exact confirmed_of_proceedTo hconfirmed hrun fun _ hwait => After.noConfusion hwait
  | found result hphase hresult =>
      exact confirmed_of_proceedTo hconfirmed hrun fun _ hwait => After.noConfusion hwait
  | fresh hphase hresult =>
      refine confirmed_of_proceedTo hconfirmed hrun ?_
      intro phase hwait txHash
      cases hwait
      exact ⟨nofun, nofun⟩
  | rested proof attempt hphase =>
      refine confirmed_of_proceedTo hconfirmed hrun ?_
      intro phase hwait txHash
      cases hwait
      exact ⟨nofun, nofun⟩
  | proved proof hphase =>
      refine confirmed_of_proceedTo hconfirmed hrun ?_
      intro phase hwait txHash
      cases hwait
      exact ⟨nofun, nofun⟩
  | submitted proof attempt answer hinput hphase => exact confirmed_of_submit hconfirmed hrun
  | written state patch after hwrite =>
      refine confirmed_of_change hconfirmed hrun ?_ ?_ ?_ ?_
      · intro other hother
        rw [runs_proceedTo_of_ne hother]
      · intro changed hchanged
        obtain ⟨hjob, hwait⟩ := phase_of_proceedTo hchanged
        refine ⟨hjob, ?_⟩
        intro txHash hphase
        rw [hwait] at hwrite
        have hheld := hconfirmed.held id run hrun txHash (Or.inl (holds_of_wait hwrite hphase))
        exact hheld.mono (by rw [submissions_proceedTo]; exact List.Subset.refl _)
      · rw [submissions_proceedTo]
        exact List.Subset.refl _
      · intro settlementId record hrecord
        rw [records_proceedTo] at hrecord
        by_cases hsame : settlementId = run.job.settlementId
        · right
          intro hlate
          subst hsame
          simp only [Function.update_self, Option.some.injEq] at hrecord
          subst hrecord
          obtain ⟨txHash, hpatch, hphase⟩ := holds_of_late_write hwrite hlate
          refine ⟨txHash, ?_, (hconfirmed.held id run hrun txHash hphase).mono ?_⟩
          · rw [patched, hpatch]
            rfl
          · rw [submissions_proceedTo]
            exact List.Subset.refl _
        · left
          simp only [Function.update_of_ne hsame] at hrecord
          exact hrecord

theorem confirmed_initial : Confirmed initial where
  held := by
    intro id run hrun
    cases hrun
  stored := by
    intro settlementId record hrecord
    cases hrecord

theorem confirmed_of_step (hconfirmed : Confirmed world)
    (hstep : step config world input = .ok next) : Confirmed next := by
  rcases start_or_call input with ⟨job, rfl⟩ | ⟨id, hid⟩
  · simp only [step, bind_eq_ok, pure_eq_ok] at hstep
    obtain ⟨_, -, rfl⟩ := hstep
    refine ⟨?_, hconfirmed.stored⟩
    intro other later hlater txHash hphase
    by_cases hsame : other = world.started
    · subst hsame
      simp only [Function.update_self, Option.some.injEq] at hlater
      subst hlater
      rcases hphase with hphase | hphase <;> cases hphase
    · simp only [Function.update_of_ne hsame] at hlater
      exact hconfirmed.held other later hlater txHash hphase
  · obtain ⟨run, hrun, heffect⟩ := effect_of_step hid hstep
    exact confirmed_of_effect hconfirmed hrun heffect

end Confirmations

section Runs

variable {config : Config} {world : World} {history : List (World × Input)}

theorem confirmed_of_run (hrun : Run (step config) initial history world) : Confirmed world := by
  refine hrun.induct_on (fun _ world => Confirmed world) confirmed_initial ?_
  intro history world input next _ hconfirmed hstep
  exact confirmed_of_step hconfirmed hstep

theorem ordered_of_run (hrun : Run (step config) initial history world)
    (horderly : ∀ entry ∈ history, Orderly entry.1 entry.2) :
    Ordered world ∧ ∀ settlementId, ∀ entry ∈ history,
      level entry.1 settlementId ≤ level world settlementId := by
  refine hrun.induct_of_forall (fun history world => Ordered world ∧ ∀ settlementId,
    ∀ entry ∈ history, level entry.1 settlementId ≤ level world settlementId) horderly
    ⟨ordered_initial, fun _ entry hentry => absurd hentry List.not_mem_nil⟩ ?_
  rintro history world input next hinput ⟨hordered, hbelow⟩ hstep
  refine ⟨ordered_of_step hordered hinput hstep, ?_⟩
  intro settlementId entry hentry
  have hle := level_le_of_step hordered hstep settlementId
  rcases List.mem_cons.mp hentry with rfl | hearlier
  · exact hle
  · exact le_trans (hbelow settlementId entry hearlier) hle

/-- A settlement is attested only after the Cranker's answer; and where the calls are orderly,
its record never goes back and there is one submission at most. -/
theorem workflow_of_run (hrun : Run (step config) initial history world) :
    (∀ settlementId record, world.records settlementId = some record →
      record.state = .attested → ∃ txHash, record.creditcoinTxHash = some txHash ∧
        Answered world settlementId txHash) ∧
    ((∀ entry ∈ history, Orderly entry.1 entry.2) → ∀ settlementId,
      (∀ entry ∈ history, level entry.1 settlementId ≤ level world settlementId) ∧
        (submissionsFor world settlementId).length ≤ 1) := by
  refine ⟨?_, ?_⟩
  · intro settlementId record hrecord hstate
    apply (confirmed_of_run hrun).stored settlementId record hrecord
    rw [hstate]
    decide
  · intro horderly settlementId
    obtain ⟨hordered, hbelow⟩ := ordered_of_run hrun horderly
    exact ⟨hbelow settlementId, hordered.once settlementId⟩

end Runs

section Samples

def sampleConfig : Config where
  unicode := {
    lower := id
    digitOf := fun character =>
      if character.isDigit then some (character.toNat - 48) else none }
  maxRetries := 3

def sampleHash : String :=
  "0x5555555555555555555555555555555555555555555555555555555555555555"

def sampleJob : TinExitAttestationJob :=
  ⟨"s1", "0xa1", sampleHash, "100", sampleHash, sampleHash, true⟩

/-- A call from its start up to its submission, latest step first. -/
def upToSubmission (id : Nat) : List Input :=
  [.proceed id, .prove id "null", .proceed id, .proceed id, .proceed id, .proceed id, .proceed id]

/-- A call that has the settlement attested. -/
def attestedCall : List Input :=
  [.proceed 0, .proceed 0, .submit 0 (.confirmed "0xaa")] ++ upToSubmission 0

/-- A call whose submission is answered, but not stored. -/
def unstoredCall : List Input :=
  [.fail 0 "tracker is down", .submit 0 (.confirmed "0xaa")] ++ upToSubmission 0

def sampleStarted : World where
  records := fun _ => none
  runs := Function.update (fun _ => none) 0 (some ⟨sampleJob, .reading⟩)
  started := 1
  submissions := []
  outcomes := []

theorem start_sampleJob : step sampleConfig initial (.start sampleJob) = .ok sampleStarted := by
  have hvalid : validate sampleConfig.unicode sampleJob = .ok () := by decide +kernel
  show (validate sampleConfig.unicode sampleJob >>= fun _ => pure sampleStarted) =
    .ok sampleStarted
  rw [hvalid]
  rfl

example : level sampleStarted "s1" = 0 := by
  decide +kernel

theorem workflow_attestedRun :
    ∃ history world, Run (step sampleConfig) initial history world ∧
      (world.records "s1").map Record.state = some .attested ∧
      (submissionsFor world "s1").length ≤ 1 := by
  have hreaches : reaches (step sampleConfig) sampleStarted attestedCall
      (fun _ world => decide ((world.records "s1").map Record.state = some .attested)) = true := by
    decide +kernel
  obtain ⟨history, world, hrun, hinputs, hattested⟩ := exists_run_of_reaches_inputs hreaches
  have hwhole := (Run.start.step start_sampleJob).append hrun
  have horderly : ∀ entry ∈ history ++ [(initial, .start sampleJob)],
      Orderly entry.1 entry.2 := by
    rintro ⟨before, input⟩ hentry
    rcases List.mem_append.mp hentry with hlater | hfirst
    · have hinput : input ∈ attestedCall := hinputs ▸ List.mem_map_of_mem hlater
      simp only [attestedCall, upToSubmission, List.cons_append, List.nil_append, List.mem_cons,
        List.not_mem_nil, or_false] at hinput
      rcases hinput with rfl | rfl | rfl | rfl | rfl | rfl | rfl | rfl | rfl | rfl
      all_goals trivial
    · obtain ⟨rfl, rfl⟩ := Prod.mk.inj (List.mem_singleton.mp hfirst)
      refine ⟨?_, Or.inl (Nat.zero_le 1)⟩
      intro id run hrunning
      cases hrunning
  exact ⟨_, world, hwhole, of_decide_eq_true hattested,
    ((workflow_of_run hwhole).2 horderly "s1").2⟩

/-- After an answer that was not stored, the settlement is started over: its record falls back
to the first state, and it is submitted a second time. -/
theorem started_over :
    (∃ history world, Run (step sampleConfig) initial history world ∧
      ∃ entry ∈ history, level world "s1" < level entry.1 "s1") ∧
    ∃ history world, Run (step sampleConfig) initial history world ∧
      (submissionsFor world "s1").length = 2 := by
  have hback : reaches (step sampleConfig) initial
      ([.proceed 1, .proceed 1, .start sampleJob] ++ unstoredCall ++ [.start sampleJob])
      (fun history world =>
        history.any fun entry => decide (level world "s1" < level entry.1 "s1")) = true := by
    decide +kernel
  have htwice : reaches (step sampleConfig) initial
      ([.submit 1 (.confirmed "0xab")] ++ upToSubmission 1 ++ [.start sampleJob] ++
        unstoredCall ++ [.start sampleJob])
      (fun _ world => decide ((submissionsFor world "s1").length = 2)) = true := by
    decide +kernel
  obtain ⟨history, world, hrun, hlower⟩ := exists_run_of_reaches hback
  obtain ⟨history', world', hrun', hcount⟩ := exists_run_of_reaches htwice
  obtain ⟨entry, hentry, hless⟩ := List.any_eq_true.mp hlower
  exact ⟨⟨history, world, hrun, entry, hentry, of_decide_eq_true hless⟩,
    history', world', hrun', of_decide_eq_true hcount⟩

example : submissionsFor sampleStarted "s1" = [] := by
  decide +kernel

end Samples

end TsnProtocol.Node.AttestationOrder
