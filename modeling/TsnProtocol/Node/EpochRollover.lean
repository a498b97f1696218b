import TsnProtocol.Lib.Documents
import TsnProtocol.Lib.Transition

/-!
The Node's rollover of an epoch: it reads the intents and the epoch, archives, deletes the
intents, writes back those that are not terminal, and sets the next epoch. Each operation of the
store is atomic; between any two of them other runs, updates and new intents may come, or the
run may end.
-/

namespace TsnProtocol.Node.EpochRollover

open Lib.Checked
open Lib.Documents
open Lib.Transition

def terminalIntentStatuses : List String :=
  ["executed", "settled", "completed", "failed", "canceled", "cancelled", "expired", "reverted"]

def Terminal (status : String) : Prop :=
  status ∈ terminalIntentStatuses

instance (status : String) : Decidable (Terminal status) :=
  inferInstanceAs (Decidable (status ∈ terminalIntentStatuses))

/-- An intent, as far as an update changes it. -/
structure Intent where
  (id status updatedAt : String)
  (assignedCrankerPubkey fundingTxSig settlementTxSig settlementResolution settlementReason
    : Option String)
  deriving DecidableEq

structure UpdateStatusRequest where
  status : String
  (assignedCrankerPubkey fundingTxSig settlementTxSig settlementResolution settlementReason
    : Option String)

def Intent.update (data : Intent) (body : UpdateStatusRequest) (now : String) : Intent where
  id := data.id
  status := body.status
  updatedAt := now
  assignedCrankerPubkey := body.assignedCrankerPubkey.or data.assignedCrankerPubkey
  fundingTxSig := body.fundingTxSig.or data.fundingTxSig
  settlementTxSig := body.settlementTxSig.or data.settlementTxSig
  settlementResolution := body.settlementResolution.or data.settlementResolution
  settlementReason := body.settlementReason.or data.settlementReason

def rolloverIntents (intents : List Intent) : List Intent :=
  intents.filter fun intent => ¬ Terminal intent.status

structure EpochState where
  epochNumber : Nat
  startedAt : String

/-- What a run has read and archived. -/
structure Closing where
  intents : List Intent
  epochNumber : Nat
  (closedAt commitUrl : String)

structure EpochCloseResult where
  (epochNumber intentsArchived settlementsArchived intentsRolledOver intentsPruned
    settlementsPruned : Nat)
  githubCommitUrl : String
  newEpochNumber : Nat
  message : String

def Closing.result (closing : Closing) : EpochCloseResult :=
  let settledCount := (closing.intents.filter fun intent =>
    intent.status = "executed" ∨ intent.status = "settled").length
  let rolledOver := (rolloverIntents closing.intents).length
  { epochNumber := closing.epochNumber
    intentsArchived := closing.intents.length
    settlementsArchived := settledCount
    intentsRolledOver := rolledOver
    intentsPruned := closing.intents.length - rolledOver
    settlementsPruned := settledCount
    githubCommitUrl := closing.commitUrl
    newEpochNumber := closing.epochNumber + 1
    message := "Epoch " ++ toString closing.epochNumber ++ " archived; epoch " ++
      toString (closing.epochNumber + 1) ++ " started." }

/-- How far a run of `close_epoch_task` is. -/
inductive ClosePhase where
  | listed (intents : List Intent)
  | unopened (intents : List Intent) (startedAt : String)
  | numbered (intents : List Intent) (epochNumber : Nat)
  | archived (closing : Closing)
  | deleted (closing : Closing)
  | rewritten (closing : Closing)
  | closed (result : EpochCloseResult)
  | stopped

/-- How far an update is: not found, with what it has read, or acknowledged. -/
inductive UpdatePhase where
  | missing
  | held (intentId : String) (data : Intent) (body : UpdateStatusRequest)
  | acknowledged (data : Intent)

/-- The two keys of the store, the runs, the status last acknowledged for each intent, and the
epochs that were closed. -/
structure State where
  intents : Collection Intent
  epoch : Option EpochState
  closes : Nat → Option ClosePhase
  updates : Nat → Option UpdatePhase
  latest : String → Option String
  closed : List Nat

def State.empty : State where
  intents := ∅
  epoch := none
  closes := fun _ => none
  updates := fun _ => none
  latest := fun _ => none
  closed := []

/-- The number that is stored, 0 before the first. -/
def State.epochNumber (state : State) : Nat :=
  (state.epoch.map EpochState.epochNumber).getD 0

/-- An intent is created; an update reads and writes; a run of `close_epoch_task` reads the
intents, reads the epoch or opens the first, archives, deletes, writes back and sets the next
epoch; it may stop before any of these. -/
inductive Input where
  | create (intent : Intent)
  | look (update : Nat) (intentId : String) (body : UpdateStatusRequest)
  | write (update : Nat) (now : String)
  | readIntents (close : Nat)
  | readEpoch (close : Nat) (now : String)
  | openEpoch (close : Nat)
  | archive (close : Nat) (closedAt commitUrl : String)
  | delete (close : Nat)
  | rewrite (close : Nat)
  | setEpoch (close : Nat)
  | stop (close : Nat)

section Steps

def State.setClose (state : State) (close : Nat) (phase : ClosePhase) : State :=
  { state with closes := Function.update state.closes close (some phase) }

def State.setUpdate (state : State) (update : Nat) (phase : UpdatePhase) : State :=
  { state with updates := Function.update state.updates update (some phase) }

/-- `hset` of an intent, which acknowledges its status. -/
def State.put (state : State) (id : String) (intent : Intent) : State :=
  { state with
    intents := state.intents.insert id intent
    latest := Function.update state.latest id (some intent.status) }

/-- `hset` with a mapping. -/
def State.putAll (state : State) (intents : List Intent) : State :=
  { state with
    intents := state.intents.insertMany (intents.map fun intent => (intent.id, intent)) }

def UpdatePhase.held? : UpdatePhase → Option (String × Intent × UpdateStatusRequest)
  | held intentId data body => some (intentId, data, body)
  | _ => none

def ClosePhase.listed? : ClosePhase → Option (List Intent)
  | listed intents => some intents
  | _ => none

def ClosePhase.unopened? : ClosePhase → Option (List Intent × String)
  | unopened intents startedAt => some (intents, startedAt)
  | _ => none

def ClosePhase.numbered? : ClosePhase → Option (List Intent × Nat)
  | numbered intents epochNumber => some (intents, epochNumber)
  | _ => none

def ClosePhase.archived? : ClosePhase → Option Closing
  | archived closing => some closing
  | _ => none

def ClosePhase.deleted? : ClosePhase → Option Closing
  | deleted closing => some closing
  | _ => none

def ClosePhase.rewritten? : ClosePhase → Option Closing
  | rewritten closing => some closing
  | _ => none

def ClosePhase.isOpen : ClosePhase → Bool
  | closed _ | stopped => false
  | _ => true

def step (state : State) : Input → Except Unit State
  | .create intent => return state.put intent.id intent
  | .look update intentId body => do
      require ((state.updates update).isNone = true) ()
      match state.intents[intentId]? with
      | none => return state.setUpdate update .missing
      | some data => return state.setUpdate update (.held intentId data body)
  | .write update now => do
      let (intentId, data, body) ← okOr ((state.updates update).bind UpdatePhase.held?) ()
      return (state.put intentId (data.update body now)).setUpdate update
        (.acknowledged (data.update body now))
  | .readIntents close => do
      require ((state.closes close).isNone = true) ()
      return state.setClose close (.listed (state.intents.toList.map Prod.snd))
  | .readEpoch close now => do
      let intents ← okOr ((state.closes close).bind ClosePhase.listed?) ()
      match state.epoch with
      | none => return state.setClose close (.unopened intents now)
      | some epoch => return state.setClose close (.numbered intents epoch.epochNumber)
  | .openEpoch close => do
      let (intents, startedAt) ← okOr ((state.closes close).bind ClosePhase.unopened?) ()
      return { state with epoch := some ⟨1, startedAt⟩ }.setClose close (.numbered intents 1)
  | .archive close closedAt commitUrl => do
      let (intents, epochNumber) ← okOr ((state.closes close).bind ClosePhase.numbered?) ()
      return state.setClose close (.archived ⟨intents, epochNumber, closedAt, commitUrl⟩)
  | .delete close => do
      let closing ← okOr ((state.closes close).bind ClosePhase.archived?) ()
      return { state with intents := ∅ }.setClose close
        (if rolloverIntents closing.intents = [] then .rewritten closing else .deleted closing)
  | .rewrite close => do
      let closing ← okOr ((state.closes close).bind ClosePhase.deleted?) ()
      return (state.putAll (rolloverIntents closing.intents)).setClose close (.rewritten closing)
  | .setEpoch close => do
      let closing ← okOr ((state.closes close).bind ClosePhase.rewritten?) ()
      return { state with
        epoch := some ⟨closing.epochNumber + 1, closing.closedAt⟩
        closed := closing.epochNumber :: state.closed }.setClose close (.closed closing.result)
  | .stop close => do
      let phase ← okOr (state.closes close) ()
      require (phase.isOpen = true) ()
      return state.setClose close .stopped

end Steps

section Conditions

/-- A latest status is kept: it is stored, or a run that has deleted it will write it back. -/
def Covered (state : State) (id status : String) : Prop :=
  (∃ intent, state.intents[id]? = some intent ∧ intent.status = status) ∨
    ∃ close closing, state.closes close = some (.deleted closing) ∧
      ∃ intent ∈ rolloverIntents closing.intents, intent.id = id ∧ intent.status = status

/-- Steps that no other operation has come before. A run deletes only what it has read, as far
as it is not terminal; it writes back over no other status; it does not stop in between; it
opens the first epoch only, and sets the epoch that follows the stored one. -/
def Undisturbed (state : State) : Input → Prop
  | .delete close => ∀ closing ∈ (state.closes close).bind ClosePhase.archived?,
      ∀ entry ∈ state.intents.toList, ¬ Terminal entry.2.status →
        ∃ read ∈ closing.intents, read.id = entry.1 ∧ read.status = entry.2.status
  | .rewrite close => ∀ closing ∈ (state.closes close).bind ClosePhase.deleted?,
      ∀ intent ∈ rolloverIntents closing.intents, ∀ stored ∈ state.intents[intent.id]?,
        ¬ Terminal stored.status → stored.status = intent.status
  | .stop close => (state.closes close).bind ClosePhase.deleted? = none
  | .openEpoch _ => state.epochNumber ≤ 1
  | .setEpoch close => ∀ closing ∈ (state.closes close).bind ClosePhase.rewritten?,
      state.epochNumber = closing.epochNumber
  | _ => True

instance (state : State) : (input : Input) → Decidable (Undisturbed state input)
  | .delete _ | .rewrite _ | .setEpoch _ => inferInstanceAs (Decidable (∀ _ ∈ _, _))
  | .stop _ => inferInstanceAs (Decidable (_ = none))
  | .openEpoch _ => inferInstanceAs (Decidable (_ ≤ 1))
  | .create _ | .look _ _ _ | .write _ _ | .readIntents _ | .readEpoch _ _ | .archive _ _ _ =>
      inferInstanceAs (Decidable True)

def ClosePhase.intents : ClosePhase → List Intent
  | listed intents | unopened intents _ | numbered intents _ => intents
  | archived closing | deleted closing | rewritten closing => closing.intents
  | closed _ | stopped => []

/-- What undisturbed steps keep. -/
structure Consistent (state : State) : Prop where
  keyed : ∀ (id : String) (intent : Intent), state.intents[id]? = some intent → intent.id = id
  held : ∀ update id data body,
    state.updates update = some (.held id data body) → data.id = id
  distinct : ∀ close phase, state.closes close = some phase →
    (phase.intents.map Intent.id).Nodup
  covered : ∀ id status, state.latest id = some status → ¬ Terminal status →
    Covered state id status
  once : state.closed.Nodup
  below : ∀ number ∈ state.closed, number < state.epochNumber

end Conditions

section Invariants

variable {state next : State} {close : Nat}

theorem consistent_empty : Consistent .empty where
  keyed := by
    intro id intent hstored
    simp [State.empty] at hstored
  held := by
    intro update id data body hphase
    cases hphase
  distinct := by
    intro close phase hphase
    cases hphase
  covered := by
    intro id status hlatest
    cases hlatest
  once := List.nodup_nil
  below := fun _ hnumber => absurd hnumber List.not_mem_nil

theorem setClose_self (state : State) (close : Nat) (phase : ClosePhase) :
    (state.setClose close phase).closes close = some phase :=
  Function.update_self ..

theorem setClose_of_ne {other : Nat} (hother : other ≠ close) (phase : ClosePhase) :
    (state.setClose close phase).closes other = state.closes other :=
  Function.update_of_ne hother ..

theorem setUpdate_self (state : State) (update : Nat) (phase : UpdatePhase) :
    (state.setUpdate update phase).updates update = some phase :=
  Function.update_self ..

theorem setUpdate_of_ne {update other : Nat} (hother : other ≠ update) (phase : UpdatePhase) :
    (state.setUpdate update phase).updates other = state.updates other :=
  Function.update_of_ne hother ..

theorem latest_put_self (state : State) (id : String) (intent : Intent) :
    (state.put id intent).latest id = some intent.status :=
  Function.update_self ..

theorem latest_put_of_ne {id other : String} (hother : other ≠ id) (intent : Intent) :
    (state.put id intent).latest other = state.latest other :=
  Function.update_of_ne hother ..

/-- A run is in one phase. -/
theorem closes_setClose {phase found : ClosePhase} {other : Nat}
    (hfound : (state.setClose close phase).closes other = some found) :
    other = close ∧ found = phase ∨ other ≠ close ∧ state.closes other = some found := by
  rcases eq_or_ne other close with rfl | hother
  · exact .inl ⟨rfl, Option.some.inj (hfound.symm.trans (setClose_self ..))⟩
  · exact .inr ⟨hother, (setClose_of_ne hother phase).symm.trans hfound⟩

/-- What is kept stays so when a run goes on that has not deleted. -/
theorem covered_setClose {phase : ClosePhase} {id status : String}
    (hopen : ∀ closing, state.closes close ≠ some (.deleted closing))
    (hcovered : Covered state id status) : Covered (state.setClose close phase) id status := by
  refine hcovered.imp_right ?_
  rintro ⟨other, closing, hphase, hintent⟩
  have hother : other ≠ close := by
    rintro rfl
    exact hopen closing hphase
  exact ⟨other, closing, (setClose_of_ne hother phase).trans hphase, hintent⟩

theorem Consistent.setClose {phase : ClosePhase} (hconsistent : Consistent state)
    (hopen : ∀ closing, state.closes close ≠ some (.deleted closing))
    (hdistinct : (phase.intents.map Intent.id).Nodup) :
    Consistent (state.setClose close phase) where
  keyed := hconsistent.keyed
  held := hconsistent.held
  distinct := by
    intro other found hfound
    rcases closes_setClose hfound with ⟨-, rfl⟩ | ⟨-, hold⟩
    · exact hdistinct
    · exact hconsistent.distinct other found hold
  covered := fun id status hlatest hstatus =>
    covered_setClose hopen (hconsistent.covered id status hlatest hstatus)
  once := hconsistent.once
  below := hconsistent.below

theorem Consistent.setUpdate {update : Nat} {phase : UpdatePhase} (hconsistent : Consistent state)
    (hheld : ∀ id data body, phase = .held id data body → data.id = id) :
    Consistent (state.setUpdate update phase) where
  keyed := hconsistent.keyed
  held := by
    intro other id data body hfound
    rcases eq_or_ne other update with rfl | hother
    · exact hheld id data body (Option.some.inj ((setUpdate_self ..).symm.trans hfound))
    · exact hconsistent.held other id data body
        ((setUpdate_of_ne hother phase).symm.trans hfound)
  distinct := hconsistent.distinct
  covered := hconsistent.covered
  once := hconsistent.once
  below := hconsistent.below

/-- An intent that is put is stored with its status, and the others are as they were. -/
theorem Consistent.put {id : String} {intent : Intent} (hconsistent : Consistent state)
    (hid : intent.id = id) : Consistent (state.put id intent) where
  keyed := by
    intro other found hfound
    rcases of_get_insert hfound with ⟨rfl, rfl⟩ | ⟨-, hold⟩
    · exact hid
    · exact hconsistent.keyed other found hold
  held := hconsistent.held
  distinct := hconsistent.distinct
  covered := by
    intro other status hlatest hstatus
    rcases eq_or_ne other id with rfl | hother
    · have hput := Option.some.inj ((latest_put_self ..).symm.trans hlatest)
      exact .inl ⟨intent, get_insert_self, hput⟩
    · have hold := hconsistent.covered other status
        ((latest_put_of_ne hother intent).symm.trans hlatest) hstatus
      refine hold.imp_left ?_
      rintro ⟨stored, hstored, hsame⟩
      exact ⟨stored, (get_insert_of_ne hother).trans hstored, hsame⟩
  once := hconsistent.once
  below := hconsistent.below

theorem mem_rolloverIntents {intents : List Intent} {intent : Intent} :
    intent ∈ rolloverIntents intents ↔ intent ∈ intents ∧ ¬ Terminal intent.status := by
  rw [rolloverIntents, List.mem_filter, decide_eq_true_iff]

theorem nodup_rollover {intents : List Intent} (hdistinct : (intents.map Intent.id).Nodup) :
    (((rolloverIntents intents).map fun intent => (intent.id, intent)).map Prod.fst).Nodup := by
  rw [List.map_map]
  exact hdistinct.sublist (List.filter_sublist.map Intent.id)

/-- What a run writes back is stored, and all else is as it was. -/
theorem get_putAll (state : State) {intents : List Intent} (hdistinct : (intents.map Intent.id).Nodup)
    (id : String) :
    (∃ intent ∈ rolloverIntents intents, intent.id = id ∧
        (state.putAll (rolloverIntents intents)).intents[id]? = some intent) ∨
      (∀ intent ∈ rolloverIntents intents, intent.id ≠ id) ∧
        (state.putAll (rolloverIntents intents)).intents[id]? = state.intents[id]? := by
  by_cases hmem : ∃ intent ∈ rolloverIntents intents, intent.id = id
  · obtain ⟨intent, hintent, rfl⟩ := hmem
    exact .inl ⟨intent, hintent, rfl, get_insertMany_of_mem (nodup_rollover hdistinct)
      (List.mem_map.mpr ⟨intent, hintent, rfl⟩)⟩
  · push Not at hmem
    refine .inr ⟨hmem, get_insertMany_of_not_mem ?_⟩
    simpa using hmem

/-- A run that has read every status it deletes keeps them. -/
theorem Consistent.delete {closing : Closing} (hconsistent : Consistent state)
    (hphase : state.closes close = some (.archived closing))
    (hread : ∀ entry ∈ state.intents.toList, ¬ Terminal entry.2.status →
      ∃ read ∈ closing.intents, read.id = entry.1 ∧ read.status = entry.2.status) :
    Consistent ({ state with intents := ∅ }.setClose close
      (if rolloverIntents closing.intents = [] then .rewritten closing
        else .deleted closing)) where
  keyed := by
    intro id intent hstored
    simp [State.setClose] at hstored
  held := hconsistent.held
  distinct := by
    have hdistinct := hconsistent.distinct close _ hphase
    intro other found hfound
    rcases closes_setClose hfound with ⟨-, rfl⟩ | ⟨-, hold⟩
    · split
      · exact hdistinct
      · exact hdistinct
    · exact hconsistent.distinct other found hold
  covered := by
    intro id status hlatest hstatus
    rcases hconsistent.covered id status hlatest hstatus with ⟨intent, hstored, rfl⟩ |
      ⟨other, found, hother, hintent⟩
    · obtain ⟨read, hmem, hid, hsame⟩ := hread (id, intent)
        (Std.ExtTreeMap.mem_toList_iff_getElem?_eq_some.mpr hstored) hstatus
      have hrolled : read ∈ rolloverIntents closing.intents :=
        mem_rolloverIntents.mpr ⟨hmem, hsame ▸ hstatus⟩
      refine .inr ⟨close, closing, ?_, read, hrolled, hid, hsame⟩
      rw [setClose_self, if_neg (List.ne_nil_of_mem hrolled)]
    · refine .inr ⟨other, found, ?_, hintent⟩
      have hne : other ≠ close := by
        rintro rfl
        cases hphase.symm.trans hother
      exact (setClose_of_ne hne _).trans hother
  once := hconsistent.once
  below := hconsistent.below

/-- A run that writes back over no other status keeps what is stored, and stores the rest. -/
theorem Consistent.rewrite {closing : Closing} (hconsistent : Consistent state)
    (hphase : state.closes close = some (.deleted closing))
    (hunwritten : ∀ intent ∈ rolloverIntents closing.intents,
      ∀ stored ∈ state.intents[intent.id]?, ¬ Terminal stored.status →
        stored.status = intent.status) :
    Consistent ((state.putAll (rolloverIntents closing.intents)).setClose close
      (.rewritten closing)) := by
  have hdistinct : (closing.intents.map Intent.id).Nodup := hconsistent.distinct close _ hphase
  constructor
  · intro id intent hstored
    rcases get_putAll state hdistinct id with ⟨rolled, -, rfl, hrolled⟩ | ⟨-, hsame⟩
    · rw [← Option.some.inj (hrolled.symm.trans hstored)]
    · exact hconsistent.keyed id intent (hsame.symm.trans hstored)
  · exact hconsistent.held
  · intro other found hfound
    rcases closes_setClose hfound with ⟨-, rfl⟩ | ⟨-, hold⟩
    · exact hdistinct
    · exact hconsistent.distinct other found hold
  · intro id status hlatest hstatus
    rcases hconsistent.covered id status hlatest hstatus with ⟨intent, hstored, rfl⟩ |
      ⟨other, found, hother, intent, hintent, hid, rfl⟩
    · left
      rcases get_putAll state hdistinct id with
        ⟨rolled, hmem, rfl, hrolled⟩ | ⟨-, hsame⟩
      · exact ⟨rolled, hrolled, (hunwritten rolled hmem intent hstored hstatus).symm⟩
      · exact ⟨intent, hsame.trans hstored, rfl⟩
    · rcases eq_or_ne other close with rfl | hne
      · obtain rfl : closing = found := by
          injection hphase.symm.trans hother with hsame
          exact ClosePhase.deleted.inj hsame
        left
        exact ⟨intent, hid ▸ get_insertMany_of_mem (nodup_rollover hdistinct)
          (List.mem_map.mpr ⟨intent, hintent, rfl⟩), rfl⟩
      · exact .inr ⟨other, found, (setClose_of_ne hne _).trans hother, intent, hintent, hid, rfl⟩
  · exact hconsistent.once
  · exact hconsistent.below

/-- The epoch that is stored is closed. -/
theorem Consistent.setEpoch {closing : Closing} (hconsistent : Consistent state)
    (hphase : state.closes close = some (.rewritten closing))
    (hnumber : state.epochNumber = closing.epochNumber) :
    Consistent ({ state with
      epoch := some ⟨closing.epochNumber + 1, closing.closedAt⟩
      closed := closing.epochNumber :: state.closed }.setClose close
        (.closed closing.result)) := by
  have hopen : ∀ found, state.closes close ≠ some (.deleted found) := by
    intro found hfound
    cases hphase.symm.trans hfound
  have hsame : Consistent (state.setClose close (.closed closing.result)) :=
    hconsistent.setClose hopen List.nodup_nil
  refine ⟨hsame.keyed, hsame.held, hsame.distinct, hsame.covered, ?_, ?_⟩
  · refine List.nodup_cons.mpr ⟨fun hmem => ?_, hconsistent.once⟩
    have hlt := hconsistent.below _ hmem
    omega
  · intro number hmem
    change number < closing.epochNumber + 1
    rcases List.mem_cons.mp hmem with rfl | hold
    · omega
    · have hlt := hconsistent.below number hold
      omega

end Invariants

section Runs

variable {state next : State}

theorem listed?_eq_some {phase : ClosePhase} {intents : List Intent} :
    phase.listed? = some intents ↔ phase = .listed intents := by
  cases phase <;> simp [ClosePhase.listed?]

theorem unopened?_eq_some {phase : ClosePhase} {found : List Intent × String} :
    phase.unopened? = some found ↔ phase = .unopened found.1 found.2 := by
  cases phase <;> simp [ClosePhase.unopened?, Prod.ext_iff]

theorem numbered?_eq_some {phase : ClosePhase} {found : List Intent × Nat} :
    phase.numbered? = some found ↔ phase = .numbered found.1 found.2 := by
  cases phase <;> simp [ClosePhase.numbered?, Prod.ext_iff]

theorem archived?_eq_some {phase : ClosePhase} {closing : Closing} :
    phase.archived? = some closing ↔ phase = .archived closing := by
  cases phase <;> simp [ClosePhase.archived?]

theorem deleted?_eq_some {phase : ClosePhase} {closing : Closing} :
    phase.deleted? = some closing ↔ phase = .deleted closing := by
  cases phase <;> simp [ClosePhase.deleted?]

theorem rewritten?_eq_some {phase : ClosePhase} {closing : Closing} :
    phase.rewritten? = some closing ↔ phase = .rewritten closing := by
  cases phase <;> simp [ClosePhase.rewritten?]

/-- A run in another phase has not deleted. -/
theorem not_deleted {close : Nat} {phase : ClosePhase} (hphase : state.closes close = some phase)
    (hother : phase.deleted? = none) : ∀ closing, state.closes close ≠ some (.deleted closing) := by
  rintro closing hdeleted
  cases hphase.symm.trans hdeleted
  cases hother

theorem consistent_step {input : Input} (hundisturbed : Undisturbed state input)
    (hconsistent : Consistent state) (hstep : step state input = .ok next) : Consistent next := by
  cases input with
  | create intent =>
      rw [step, pure_eq_ok] at hstep
      exact hstep ▸ hconsistent.put rfl
  | look update intentId body =>
      simp only [step, bind_eq_ok, require_eq_ok] at hstep
      obtain ⟨_, -, hstep⟩ := hstep
      split at hstep
      · rw [pure_eq_ok] at hstep
        refine hstep ▸ hconsistent.setUpdate fun _ _ _ hheld => ?_
        cases hheld
      · rename_i data hdata
        rw [pure_eq_ok] at hstep
        refine hstep ▸ hconsistent.setUpdate ?_
        rintro _ _ _ ⟨rfl, rfl, rfl⟩
        exact hconsistent.keyed intentId data hdata
  | write update now =>
      simp only [step, bind_eq_ok, okOr_eq_ok, pure_eq_ok, Option.bind_eq_some_iff] at hstep
      obtain ⟨⟨intentId, data, body⟩, ⟨phase, hphase, hheld⟩, rfl⟩ := hstep
      have hid : data.id = intentId := by
        rcases phase with _ | ⟨id', data', body'⟩ | _
        · cases hheld
        · cases hheld
          exact hconsistent.held update _ _ _ hphase
        · cases hheld
      have hput : Consistent (state.put intentId (data.update body now)) := hconsistent.put hid
      refine hput.setUpdate fun _ _ _ hheld => ?_
      cases hheld
  | readIntents close =>
      simp only [step, bind_eq_ok, require_eq_ok, pure_eq_ok, Option.isNone_iff_eq_none] at hstep
      obtain ⟨_, hfree, rfl⟩ := hstep
      refine hconsistent.setClose (fun closing hfound => ?_) ?_
      · cases hfree.symm.trans hfound
      · have hids : ((state.intents.toList.map Prod.snd).map Intent.id) =
            state.intents.toList.map Prod.fst := by
          rw [List.map_map]
          refine List.map_congr_left fun entry hentry => ?_
          exact hconsistent.keyed _ _ (Std.ExtTreeMap.mem_toList_iff_getElem?_eq_some.mp hentry)
        rw [ClosePhase.intents, hids]
        exact nodup_ids
  | readEpoch close now =>
      simp only [step, bind_eq_ok, okOr_eq_ok, Option.bind_eq_some_iff, listed?_eq_some] at hstep
      obtain ⟨intents, ⟨_, hphase, rfl⟩, hstep⟩ := hstep
      have hdistinct := hconsistent.distinct close _ hphase
      split at hstep
      · rw [pure_eq_ok] at hstep
        exact hstep ▸ hconsistent.setClose (not_deleted hphase rfl) hdistinct
      · rw [pure_eq_ok] at hstep
        exact hstep ▸ hconsistent.setClose (not_deleted hphase rfl) hdistinct
  | openEpoch close =>
      simp only [step, bind_eq_ok, okOr_eq_ok, pure_eq_ok, Option.bind_eq_some_iff,
        unopened?_eq_some] at hstep
      obtain ⟨⟨intents, startedAt⟩, ⟨_, hphase, rfl⟩, rfl⟩ := hstep
      have hdistinct := hconsistent.distinct close _ hphase
      have hsame : Consistent (state.setClose close (.numbered intents 1)) :=
        hconsistent.setClose (not_deleted hphase rfl) hdistinct
      refine ⟨hsame.keyed, hsame.held, hsame.distinct, hsame.covered, hsame.once, ?_⟩
      intro number hmem
      exact (hconsistent.below number hmem).trans_le hundisturbed
  | archive close closedAt commitUrl =>
      simp only [step, bind_eq_ok, okOr_eq_ok, pure_eq_ok, Option.bind_eq_some_iff,
        numbered?_eq_some] at hstep
      obtain ⟨⟨intents, epochNumber⟩, ⟨_, hphase, rfl⟩, rfl⟩ := hstep
      have hdistinct := hconsistent.distinct close _ hphase
      exact hconsistent.setClose (not_deleted hphase rfl) hdistinct
  | delete close =>
      simp only [step, bind_eq_ok, okOr_eq_ok, pure_eq_ok, Option.bind_eq_some_iff,
        archived?_eq_some] at hstep
      obtain ⟨closing, ⟨_, hphase, rfl⟩, rfl⟩ := hstep
      exact hconsistent.delete hphase (hundisturbed closing (by rw [hphase]; rfl))
  | rewrite close =>
      simp only [step, bind_eq_ok, okOr_eq_ok, pure_eq_ok, Option.bind_eq_some_iff,
        deleted?_eq_some] at hstep
      obtain ⟨closing, ⟨_, hphase, rfl⟩, rfl⟩ := hstep
      exact hconsistent.rewrite hphase (hundisturbed closing (by rw [hphase]; rfl))
  | setEpoch close =>
      simp only [step, bind_eq_ok, okOr_eq_ok, pure_eq_ok, Option.bind_eq_some_iff,
        rewritten?_eq_some] at hstep
      obtain ⟨closing, ⟨_, hphase, rfl⟩, rfl⟩ := hstep
      exact hconsistent.setEpoch hphase (hundisturbed closing (by rw [hphase]; rfl))
  | stop close =>
      simp only [step, bind_eq_ok, okOr_eq_ok, require_eq_ok, pure_eq_ok] at hstep
      obtain ⟨phase, hphase, _, -, rfl⟩ := hstep
      have hother : phase.deleted? = none := by
        rw [Undisturbed, hphase] at hundisturbed
        exact hundisturbed
      exact hconsistent.setClose (not_deleted hphase hother) List.nodup_nil

/-- An undisturbed step does not set the epoch back. -/
theorem epochNumber_step {input : Input} (hundisturbed : Undisturbed state input)
    (hstep : step state input = .ok next) : state.epochNumber ≤ next.epochNumber := by
  cases input with
  | openEpoch close =>
      simp only [step, bind_eq_ok, okOr_eq_ok, pure_eq_ok] at hstep
      obtain ⟨_, -, rfl⟩ := hstep
      exact hundisturbed
  | setEpoch close =>
      simp only [step, bind_eq_ok, okOr_eq_ok, pure_eq_ok, Option.bind_eq_some_iff,
        rewritten?_eq_some] at hstep
      obtain ⟨closing, ⟨_, hphase, rfl⟩, rfl⟩ := hstep
      have hnumber := hundisturbed closing (by rw [hphase]; rfl)
      change state.epochNumber ≤ closing.epochNumber + 1
      omega
  | look update intentId body =>
      simp only [step, bind_eq_ok] at hstep
      obtain ⟨_, -, hstep⟩ := hstep
      split at hstep
      · rw [pure_eq_ok] at hstep
        exact hstep ▸ le_rfl
      · rw [pure_eq_ok] at hstep
        exact hstep ▸ le_rfl
  | readEpoch close now =>
      simp only [step, bind_eq_ok] at hstep
      obtain ⟨_, -, hstep⟩ := hstep
      split at hstep
      · rw [pure_eq_ok] at hstep
        exact hstep ▸ le_rfl
      · rw [pure_eq_ok] at hstep
        exact hstep ▸ le_rfl
  | stop close =>
      simp only [step, bind_eq_ok, pure_eq_ok] at hstep
      obtain ⟨_, -, _, -, rfl⟩ := hstep
      exact le_rfl
  | create intent =>
      rw [step, pure_eq_ok] at hstep
      exact hstep ▸ le_rfl
  | write update now | readIntents close | archive close closedAt commitUrl | delete close
  | rewrite close =>
      simp only [step, bind_eq_ok, pure_eq_ok] at hstep
      obtain ⟨_, -, rfl⟩ := hstep
      exact le_rfl

/-- The run that makes an operation. -/
def Input.close? : Input → Option Nat
  | readIntents close | readEpoch close _ | openEpoch close | archive close _ _ | delete close
  | rewrite close | setEpoch close | stop close => some close
  | create _ | look _ _ _ | write _ _ => none

/-- Other runs stay in their phase. -/
theorem closes_step {input : Input} {close : Nat} (hother : input.close? ≠ some close)
    (hstep : step state input = .ok next) : next.closes close = state.closes close := by
  have hne : ∀ {other}, input.close? = some other → close ≠ other := by
    rintro other hsome rfl
    exact hother hsome
  cases input with
  | create intent =>
      rw [step, pure_eq_ok] at hstep
      exact hstep ▸ rfl
  | look update intentId body =>
      simp only [step, bind_eq_ok] at hstep
      obtain ⟨_, -, hstep⟩ := hstep
      split at hstep <;> exact pure_eq_ok.mp hstep ▸ rfl
  | write update now =>
      simp only [step, bind_eq_ok, pure_eq_ok] at hstep
      obtain ⟨_, -, rfl⟩ := hstep
      rfl
  | readEpoch other now =>
      simp only [step, bind_eq_ok] at hstep
      obtain ⟨_, -, hstep⟩ := hstep
      split at hstep <;> exact pure_eq_ok.mp hstep ▸ setClose_of_ne (hne rfl) _
  | stop other =>
      simp only [step, bind_eq_ok, pure_eq_ok] at hstep
      obtain ⟨_, -, _, -, rfl⟩ := hstep
      exact setClose_of_ne (hne rfl) _
  | readIntents other | openEpoch other | archive other closedAt commitUrl | delete other
  | rewrite other | setEpoch other =>
      simp only [step, bind_eq_ok, pure_eq_ok] at hstep
      obtain ⟨_, -, rfl⟩ := hstep
      exact setClose_of_ne (hne rfl) _

theorem closes_of_run {history : List (State × Input)} {close : Nat}
    (hrun : Run step .empty history state)
    (hothers : ∀ entry ∈ history, entry.2.close? ≠ some close) : state.closes close = none := by
  refine @Run.induct_of_forall _ _ _ _ _ (fun _ input => input.close? ≠ some close)
    (fun _ state => state.closes close = none) _ _ hrun hothers rfl ?_
  intro _ _ _ _ hother hnone hstep
  exact (closes_step hother hstep).trans hnone

/-- No run is between its delete and its writing back. -/
def Settled (state : State) : Prop :=
  ∀ close closing, state.closes close ≠ some (.deleted closing)

/-- What a rollover is to keep, over the steps that led to a state. -/
structure Lossless (history : List (State × Input)) (state : State) : Prop where
  /-- Where no run is in between, a latest status that is not terminal is stored. -/
  stored : Settled state → ∀ id status, state.latest id = some status → ¬ Terminal status →
    ∃ intent, state.intents[id]? = some intent ∧ intent.status = status
  once : state.closed.Nodup
  monotone : ∀ entry ∈ history, entry.1.epochNumber ≤ state.epochNumber

end Runs

section Samples

def sampleIntent (id status : String) : Intent :=
  ⟨id, status, "2026-01-01T00:00:00+00:00", none, none, none, none, none⟩

/-- A run's operations up to its archive and from its delete, the latest first. -/
def sampleArchive (close : Nat) : List Input :=
  [.archive close "2026-01-01T07:00:00+00:00" "https://github.com/", .openEpoch close,
    .readEpoch close "2026-01-01T00:00:00+00:00", .readIntents close]

def sampleFinish (close : Nat) : List Input :=
  [.setEpoch close, .rewrite close, .delete close]

end Samples

end TsnProtocol.Node.EpochRollover
