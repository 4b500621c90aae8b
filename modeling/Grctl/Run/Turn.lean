import Grctl.Run.Transition

/-!
# What the record builders produce

Every batch that `handleRecords` builds has one of the shapes of `Planned`. This file proves that
once, from the builders upwards, and with it what the records of a transition say about the new
state of the run: the status in its description, the timer that guards its activity, the event
that closes its history, and the directive that the activity goes back to.

The records in front of a transition never decide anything; those of a step result ask for the
timer of the activity that ends to be deleted, and nothing else in a batch deletes a timer.

## Main definitions

* `RunStateKind.status`, `HistoryKind.closes`, `Timer.Guards`: what fits a state.
* `Body ri s records`: the records of a transition fit the state `s`.
* `Activity d sn s`: the directive that the activity of the new state goes back to.
* `Turn d sn s notes body`: a transition, with all of this.

## Main results

* `turn_of_handleRecords`, `begun_of_handleRecords`: what the batches of transitions and of starts
  say.
* `planned_of_handleRecords`: every batch has one of the shapes of `Planned`.
-/

namespace Grctl

/-- The status that a run is described with while its state is of a given kind. -/
def RunStateKind.status : RunStateKind → RunStatus
  | .complete => .completed
  | .fail => .failed
  | .cancel => .cancelled
  | .terminate => .terminated
  | _ => .running

/-- The events that close the history of a run. -/
def HistoryKind.closes (k : HistoryKind) : Bool :=
  k == .runCompleted || k == .runFailed || k == .runCancelled || k == .runTerminated

/-- The kind of the timer that guards the activity of a state. -/
def RunState.timerKind (s : RunState) : TimerKind :=
  if s.kind = .wait then .waitTimeout else .stepTimeout

/-- The timer guards the activity of the state. -/
structure Timer.Guards (t : Timer) (s : RunState) : Prop where
  kind : t.kind = s.timerKind
  id : t.id = deriveTimerID s.activeDirectiveID s.timerKind
  directive : t.directive.id = s.activeDirectiveID

/-- The timer that a task deletes. -/
def BackgroundTask.deletes? (task : BackgroundTask) : Option (WFID × TimerKind × TimerID) :=
  match task.payload with
  | .deleteTimer wfID kind timerID => some (wfID, kind, timerID)
  | _ => none

/-- The task by which the step result `d` deletes the timer of the step in progress. -/
def stepTimerTask (d : Directive) (cur : RunState) : BackgroundTask :=
  newDeleteTimerTask d.id d.runInfo.wfID .stepTimeout
    (deriveTimerID cur.activeDirectiveID .stepTimeout)

/-- What a record of a transition says fits the new state `s`. -/
def Record.Fits (s : RunState) : Record → Prop
  | .runInfo info _ => info.status = s.kind.status
  | .timer t => t.Guards s
  | .backgroundTask task => task.deletes? = none
  | _ => True

/-- The records of a transition to the state `s` fit it: the history they add to is the one of the
run that `ri` describes, and it is closed exactly if the run ends. -/
structure Body (ri : RunInfo) (s : RunState) (records : List Record) : Prop where
  fits : ∀ r ∈ records, r.Fits s
  history : ∀ h, Record.history h ∈ records →
    h.kind.closes = s.isTerminal ∧ h.wfID = ri.wfID ∧ h.runID = ri.id
  closing : s.isTerminal = true → ∃ h, records.filterMap Record.history? = [h]

/-- The records that a transition puts in front: events that do not close the history, and for a
step result the task that deletes the timer of the step. -/
structure Notes (d : Directive) (sn : StateSnapshot) (notes : List Record) : Prop where
  allNotes : AllNotes notes
  history : ∀ h, Record.history h ∈ notes →
    h.kind.closes = false ∧ h.wfID = d.runInfo.wfID ∧ h.runID = d.runInfo.id
  tasks : ∀ task, Record.backgroundTask task ∈ notes →
    d.kind = .stepResult ∧ task = stepTimerTask d sn.runState

/-- The directive that the activity of the new state `s` goes back to, when `d` is handled. -/
inductive Activity (d : Directive) (sn : StateSnapshot) (s : RunState) : Prop
  | ended (hs : s.isTerminal = true)
  | kept (hd : d.AsksFor .stepPickedUp ∨ d.kind = .cancel) (hkind : s.kind = sn.runState.kind)
      (hid : s.activeDirectiveID = sn.runState.activeDirectiveID)
  | asked (hd : d.kind = .step ∨ d.kind = .wait) (hid : s.activeDirectiveID = d.id)
  | next {k : DirectiveKind} (hd : d.kind = .stepResult) (hk : d.nextKind? = some k)
      (hkind : k = .step ∨ k = .event ∨ k = .wait) (hfree : sn.runState.pendingCancel = none)
      (hid : s.activeDirectiveID = deriveNextDirectiveID d.id)
  | timeout (hd : d.kind = .waitTimeout)
      (hmsg : ∃ name, d.msg = .waitTimeout name sn.runState.activeDirectiveID)
      (hwait : sn.runState.kind = .wait) (hid : s.activeDirectiveID = deriveNextDirectiveID d.id)
  | nextTimeout (hd : d.kind = .stepResult) (hk : d.nextKind? = some .waitTimeout)
      (hfree : sn.runState.pendingCancel = none)
  | event (hd : d.kind = .wakeFromInbox) (hwait : sn.runState.kind = .wait)
      (hid : s.activeDirectiveID = sn.event.id)

/-- The transition to the state `s` that handling `d` leads to, record by record. -/
structure Turn (d : Directive) (sn : StateSnapshot) (s : RunState) (notes body : List Record) :
    Prop where
  transition : Transition d sn s body
  activity : Activity d sn s
  noted : Notes d sn notes
  told : ∃ ri, Body ri s body ∧
    (ri.SameRun d.runInfo ∨ ∃ cancel, sn.runState.pendingCancel = some cancel ∧ ri = cancel.runInfo)
  retires : d.kind = .stepResult → s.isTerminal = false →
    Record.backgroundTask (stepTimerTask d sn.runState) ∈ notes
  intercepted : d.kind = .stepResult → sn.runState.pendingCancel.isSome = true →
    s.isTerminal = true

theorem Turn.runStates {d : Directive} {sn : StateSnapshot} {s : RunState}
    {notes body : List Record} (h : Turn d sn s notes body) :
    (notes ++ body).filterMap Record.runState? = [(s, sn.runState.seqID)] := by
  rw [List.filterMap_append, h.noted.allNotes.runStates, h.transition.runStates, List.nil_append]

@[simp] theorem RunState.isTerminal_finished (now : Time) (cur : RunState) (kind : RunStateKind) :
    (Records.finished now cur kind).isTerminal = kind.isTerminal := rfl

/-! ### Histories -/

namespace History

variable {d : Directive} {e : HistoryEvent}

theorem about_event (d : Directive) (t : Time) (kind : HistoryKind) (msg : HistoryMessage) :
    About d kind (event d t kind msg) := ⟨rfl, rfl, rfl⟩

theorem about_of_runStarted {t : Time} (h : runStarted d t = .ok e) : About d .runStarted e := by
  rw [runStarted] at h
  split at h <;> simp at h
  exact h ▸ about_event ..

theorem about_of_runCompleted (h : runCompleted d = .ok e) : About d .runCompleted e := by
  rw [runCompleted] at h
  split at h <;> simp only [bind_eq_ok, pure_eq_ok, fail_ne_ok] at h
  obtain ⟨_, -, rfl⟩ := h
  exact about_event ..

theorem about_of_runFailed (h : runFailed d = .ok e) : About d .runFailed e := by
  rw [runFailed] at h
  split at h <;> simp only [bind_eq_ok, pure_eq_ok, fail_ne_ok] at h
  obtain ⟨_, -, rfl⟩ := h
  exact about_event ..

theorem about_of_runCancelReceived (h : runCancelReceived d = .ok e) :
    About d .runCancelReceived e := by
  rw [runCancelReceived] at h
  split at h <;> simp at h
  exact h ▸ about_event ..

theorem about_of_runTerminated (h : runTerminated d = .ok e) : About d .runTerminated e := by
  rw [runTerminated] at h
  split at h <;> simp at h
  exact h ▸ about_event ..

theorem about_of_runCancelled (h : runCancelled d = .ok e) : About d .runCancelled e := by
  rw [runCancelled] at h
  split at h <;> simp only [bind_eq_ok, pure_eq_ok, fail_ne_ok] at h
  obtain ⟨_, -, rfl⟩ := h
  exact about_event ..

theorem about_of_stepPickedUp (h : stepPickedUp d = .ok e) : About d .stepStarted e := by
  rw [stepPickedUp] at h
  split at h <;> simp at h
  exact h ▸ ⟨rfl, rfl, rfl⟩

theorem about_of_stepCompleted {now : Time} {p : DirectiveMessage} {w : Option WorkerID} {ms : ℤ}
    (h : stepCompleted now d p w ms = .ok e) : About d .stepCompleted e := by
  rw [stepCompleted] at h
  simp only [bind_eq_ok, pure_eq_ok] at h
  obtain ⟨_, -, rfl⟩ := h
  exact ⟨rfl, rfl, rfl⟩

theorem about_of_stepFailed {now : Time} {p next : DirectiveMessage} {ms : ℤ}
    (h : stepFailed now d p ms next = .ok e) : About d .stepFailed e := by
  rw [stepFailed] at h
  simp only [bind_eq_ok] at h
  obtain ⟨_, -, h⟩ := h
  split at h <;> simp at h
  exact h ▸ about_event ..

theorem about_of_stepTimedout {now : Time} {cur : RunState} (h : stepTimedout now d cur = .ok e) :
    About d .stepTimeout e := by
  rw [stepTimedout] at h
  split at h <;> simp at h
  exact h ▸ about_event ..

theorem about_of_waitTimedOut {now : Time} (h : waitTimedOut now d = .ok e) :
    About d .waitTimedOut e := by
  rw [waitTimedOut] at h
  split at h <;> simp at h
  exact h ▸ about_event ..

theorem about_of_waitStarted {now : Time} (h : waitStarted now d = .ok e) :
    About d .waitStarted e := by
  rw [waitStarted] at h
  split at h <;> simp at h
  exact h ▸ about_event ..

theorem about_of_eventReceived {now : Time} (h : eventReceived now d = .ok e) :
    About d .eventReceived e := by
  rw [eventReceived] at h
  split at h <;> simp at h
  exact h ▸ about_event ..

end History

/-- Every event but the two that open a run and store an event is a note. -/
theorem History.About.isNote {d : Directive} {kind : HistoryKind} {e : HistoryEvent}
    (h : History.About d kind e) (hkind : kind ≠ .runStarted ∧ kind ≠ .eventReceived) :
    (Record.history e).isNote = true := by
  simp [Record.isNote, h.kind, hkind]

/-! ### Builders that end a run -/

/-- What follows the state of a run that has ended: its result and tasks that delete no timer. -/
def Record.isAftermath : Record → Bool
  | .runOutput .. | .runError .. => true
  | .backgroundTask task => task.deletes?.isNone
  | _ => false

/-- Only such records. -/
def AllAftermath (records : List Record) : Prop := ∀ r ∈ records, r.isAftermath = true

@[simp] theorem allAftermath_nil : AllAftermath [] := by simp [AllAftermath]

@[simp] theorem allAftermath_cons {r : Record} {records : List Record} :
    AllAftermath (r :: records) ↔ r.isAftermath = true ∧ AllAftermath records :=
  List.forall_mem_cons

@[simp] theorem allAftermath_append {records records' : List Record} :
    AllAftermath (records ++ records') ↔ AllAftermath records ∧ AllAftermath records' :=
  List.forall_mem_append

theorem AllAftermath.allNotes {records : List Record} (h : AllAftermath records) :
    AllNotes records := by
  intro r hr
  have := h r hr
  cases r <;> simp_all [Record.isAftermath, Record.isNote]

theorem AllAftermath.histories {records : List Record} (h : AllAftermath records) :
    records.filterMap Record.history? = [] := by
  refine List.filterMap_eq_nil_iff.mpr fun r hr => ?_
  have := h r hr
  cases r <;> simp_all [Record.isAftermath, Record.history?]

theorem AllAftermath.fits {records : List Record} (h : AllAftermath records) (s : RunState) :
    ∀ r ∈ records, r.Fits s := by
  intro r hr
  have := h r hr
  cases r <;> simp_all [Record.isAftermath, Record.Fits]

namespace Records

variable {env : Readings} {d : Directive} {cur : RunState} {records : List Record}

@[simp] theorem allAftermath_parentCallbackRecords {status : RunStatus} {result : Value}
    {errDetails : Option ErrorDetails} :
    AllAftermath (parentCallbackRecords d status result errDetails) := by
  rw [parentCallbackRecords]
  split <;> simp
  rfl

@[simp] theorem allAftermath_workerTerminateRecords :
    AllAftermath (workerTerminateRecords d cur) := by
  rw [workerTerminateRecords]
  split <;> simp
  rfl

@[simp] theorem allAftermath_outputRecords {v : Value} : AllAftermath (outputRecords d v) := by
  unfold outputRecords
  split <;> simp [Record.isAftermath]

@[simp] theorem isAftermath_purgeRecord : (purgeRecord d).isAftermath = true := rfl

@[simp] theorem isAftermath_runError {wf : WFID} {run : RunID} {error : ErrorDetails} :
    (Record.runError wf run error).isAftermath = true := rfl

/-- The four builders that end a run differ in the status, the kind of state and the event. -/
theorem finish_of_parts {now : Time} {kind : RunStateKind} {hk : HistoryKind} {ri : RunInfo}
    {h : HistoryEvent} {rest : List Record} (hkind : kind.isTerminal = true)
    (hri : ri.SameRun d.runInfo ∧ ri.status = kind.status) (hh : History.About d hk h)
    (hcloses : hk.closes = true) (hrest : AllAftermath rest) :
    ∃ s, Finish d cur kind s (.runInfo ri 0 :: .history h ::
        .runState (finished now cur kind) cur.seqID :: rest) ∧
      Body d.runInfo s (.runInfo ri 0 :: .history h ::
        .runState (finished now cur kind) cur.seqID :: rest) := by
  have hnote : (Record.history h).isNote = true := by
    refine hh.isNote ⟨?_, ?_⟩ <;> rintro rfl <;> cases hcloses
  refine ⟨_, .mk hri.1 hnote hrest.allNotes, ?_, fun h' hmem => ?_, fun _ => ⟨h, ?_⟩⟩
  · simp only [List.forall_mem_cons]
    exact ⟨hri.2, trivial, trivial, hrest.fits _⟩
  · simp only [List.mem_cons, reduceCtorEq, Record.history.injEq, false_or] at hmem
    rcases hmem with rfl | hmem
    · exact ⟨by rw [hh.kind, hcloses, RunState.isTerminal_finished, hkind], hh.wfID, hh.runID⟩
    · cases hrest _ hmem
  · simp [List.filterMap_cons, Record.history?, hrest.histories]

theorem finish_of_completeRun (h : completeRun env d cur = .ok records) :
    ∃ s, Finish d cur .complete s records ∧ Body d.runInfo s records := by
  obtain ⟨result, ri, he, -, hri, hhe, rfl⟩ := completeRun_eq_ok h
  exact finish_of_parts rfl (RunInfo.sameRun_of_finishStarted hri)
    (History.about_of_runCompleted hhe) rfl (by simp)

theorem finish_of_terminateRun (h : terminateRun env d cur = .ok records) :
    ∃ s, Finish d cur .terminate s records ∧ Body d.runInfo s records := by
  obtain ⟨reason, ri, he, -, hri, hhe, rfl⟩ := terminateRun_eq_ok h
  cases hri
  exact finish_of_parts rfl ⟨⟨rfl, rfl, rfl⟩, rfl⟩ (History.about_of_runTerminated hhe) rfl
    (by simp)

theorem finish_of_cancelRun (h : cancelRun env d cur = .ok records) :
    ∃ s, Finish d cur .cancel s records ∧ Body d.runInfo s records := by
  obtain ⟨reason, ri, he, -, hri, hhe, rfl⟩ := cancelRun_eq_ok h
  cases hri
  exact finish_of_parts rfl ⟨⟨rfl, rfl, rfl⟩, rfl⟩ (History.about_of_runCancelled hhe) rfl (by simp)

theorem finish_of_failRun (h : failRun env d cur = .ok records) :
    ∃ s, Finish d cur .fail s records ∧ Body d.runInfo s records := by
  obtain ⟨error, ri, he, -, hri, hhe, rfl⟩ := failRun_eq_ok h
  exact finish_of_parts rfl (RunInfo.sameRun_of_finishStarted hri) (History.about_of_runFailed hhe)
    rfl (by simp)

/-- The failure of a started run: four records and the background tasks. -/
theorem exists_failRun (env : Readings) (cur : RunState) {error : ErrorDetails} {t : Time}
    (hmsg : d.msg = .fail error) (hstarted : d.runInfo.startedAt = some t) :
    ∃ ri h, failRun env d cur = .ok ([.runInfo ri 0, .history h,
        .runState (finished env.now cur .fail) cur.seqID,
        .runError d.runInfo.wfID d.runInfo.id error] ++
      (workerTerminateRecords d cur ++ parentCallbackRecords d .failed .nil (some error) ++
        [purgeRecord d])) := by
  simp only [failRun, hmsg, RunInfo.fail, RunInfo.finishStarted, hstarted, History.runFailed,
    History.durationMS, ← List.append_assoc]
  exact ⟨_, _, rfl⟩

/-! ### Builders that go on with a run -/

theorem dispatch_of_dispatch {src : Directive} {stepName : String} {cursor : ℕ} {t : UInt32}
    (h : dispatch env (repairRunInfo src cur) stepName cur cursor t = .ok records)
    (hcursor : cursor = cursorAfter src cur) :
    ∃ s, Dispatch src cur s records ∧ ∀ ri, Body ri s records := by
  simp only [dispatch, bind_eq_ok, wrap_eq_ok, pure_eq_ok] at h
  obtain ⟨timer, htimer, ri, hri, rfl⟩ := h
  obtain ⟨hsame, hstatus⟩ := RunInfo.sameRun_of_startStep hri
  subst hcursor
  rw [stepTimeoutTimer] at htimer
  split at htimer
  · simp at htimer
  · cases htimer
    refine ⟨_, .mk rfl rfl (hsame.trans ⟨rfl, rfl, rfl⟩), fun ri => ⟨?_, ?_, ?_⟩⟩
    · simpa [Record.Fits, hstatus, RunStateKind.status] using ⟨rfl, rfl, rfl⟩
    · simp
    · simp [RunState.isTerminal]

theorem dispatch_of_stepStart {src : Directive} {t : UInt32}
    (h : stepStart env src cur t = .ok records) :
    ∃ s, Dispatch src cur s records ∧ ∀ ri, Body ri s records := by
  obtain ⟨stepName, h⟩ := stepStart_eq_ok h
  exact dispatch_of_dispatch h rfl

theorem dispatch_of_eventStart {src : Directive} {t : UInt32} (hkind : src.kind = .event)
    (h : eventStart env src cur t = .ok records) :
    ∃ s, Dispatch src cur s records ∧ ∀ ri, Body ri s records := by
  obtain ⟨e, hmsg, h⟩ := eventStart_eq_ok h
  exact dispatch_of_dispatch h (by simp [cursorAfter, hkind, hmsg])

theorem suspend_of_wait {sn : StateSnapshot} {t : UInt32} (h : wait env d sn t = .ok records) :
    ∃ s, Suspend d sn s records ∧ Body d.runInfo s records := by
  obtain ⟨_, _, ri, he, -, hri, hhe, rfl⟩ := wait_eq_ok h
  cases hri
  have habout := History.about_of_waitStarted hhe
  refine ⟨_, .mk ⟨rfl, rfl, rfl⟩ (habout.isNote (by decide)) rfl rfl ⟨rfl, rfl, rfl, rfl⟩,
    ?_, ?_, ?_⟩
  · split_ifs <;> simpa [Record.Fits, RunStateKind.status] using ⟨rfl, rfl, rfl⟩
  · intro h hmem
    split_ifs at hmem <;> simp at hmem <;> subst hmem <;>
      exact ⟨by rw [habout.kind]; rfl, habout.wfID, habout.runID⟩
  · simp [RunState.isTerminal]

end Records

/-! ### The plan -/

section Plan

variable {cfg : Defaults} {env failEnv : Readings} {d nd : Directive} {sn : StateSnapshot}
  {records : List Record}

/-- Events in front of a transition, which do not close the history. -/
def Remarks (ri : RunInfo) (notes : List Record) : Prop :=
  ∀ r ∈ notes, r.isNote = true ∧ ∃ h, r = .history h ∧ h.kind.closes = false ∧ h.wfID = ri.wfID ∧
    h.runID = ri.id

theorem remarks_nil (ri : RunInfo) : Remarks ri [] := by simp [Remarks]

theorem History.About.remarks {kind : HistoryKind} {e : HistoryEvent}
    (h : History.About nd kind e) (hnote : kind ≠ .runStarted ∧ kind ≠ .eventReceived)
    (hcloses : kind.closes = false) : Remarks nd.runInfo [.history e] := by
  intro r hr
  rw [List.mem_singleton.mp hr]
  exact ⟨h.isNote hnote, e, rfl, by rw [h.kind, hcloses], h.wfID, h.runID⟩

theorem Remarks.notes {ri : RunInfo} {notes : List Record} (h : Remarks ri notes)
    (hri : ri.SameRun d.runInfo) : Notes d sn notes where
  allNotes r hr := (h r hr).1
  history e he := by
    obtain ⟨-, e', heq, hcloses, hwf, hid⟩ := h _ he
    cases heq
    exact ⟨hcloses, hwf.trans hri.wfID, hid.trans hri.id⟩
  tasks task ht := by
    obtain ⟨-, e', heq, -⟩ := h _ ht
    cases heq

theorem Notes.append {notes notes' : List Record} (h : Notes d sn notes)
    (h' : Notes d sn notes') : Notes d sn (notes ++ notes') where
  allNotes := allNotes_append.mpr ⟨h.allNotes, h'.allNotes⟩
  history e he := (List.mem_append.mp he).elim (h.history e) (h'.history e)
  tasks task ht := (List.mem_append.mp ht).elim (h.tasks task) (h'.tasks task)

/-- What `planTransition` does with the directive `nd`. -/
inductive Move (nd : Directive) (sn : StateSnapshot) : RunState → List Record → Prop
  | finish {src : Directive} {kind : RunStateKind} {s : RunState} {body : List Record}
      (h : Finish src sn.runState kind s body) (hkind : kind.isTerminal = true)
      (hsrc : src.runInfo.SameRun nd.runInfo) (hnd : nd.kind ≠ .event) : Move nd sn s body
  | dispatch {s : RunState} {body : List Record} (hnd : nd.kind = .step ∨ nd.kind = .event)
      (h : Dispatch nd sn.runState s body) : Move nd sn s body
  | timeout {src : Directive} {s : RunState} {body : List Record}
      (h : Dispatch src sn.runState s body) (hnd : nd.kind = .waitTimeout)
      (hwait : sn.runState.kind = .wait) (hid : src.id = deriveNextDirectiveID nd.id)
      (hrun : src.runInfo = nd.runInfo) (hkind : src.kind = .step) : Move nd sn s body
  | suspend {s : RunState} {body : List Record} (hnd : nd.kind = .wait)
      (h : Suspend nd sn s body) : Move nd sn s body
  | pickUp {h : HistoryEvent} {workerID : WorkerID} (hnd : nd.kind = .stepPickedUp)
      (hh : (Record.history h).isNote = true) :
      Move nd sn { sn.runState with workerID := some workerID }
        [.history h, .runState { sn.runState with workerID := some workerID } sn.runState.seqID]

/-- A move with the records in front of it; a wait that times out is the one in progress. -/
structure Course (nd : Directive) (sn : StateSnapshot) (records : List Record) (s : RunState)
    (notes body : List Record) : Prop where
  eq_append : records = notes ++ body
  remarks : Remarks nd.runInfo notes
  move : Move nd sn s body
  told : Body nd.runInfo s body
  named : nd.kind = .waitTimeout → s.isTerminal = true ∨
    ∃ name, nd.msg = .waitTimeout name sn.runState.activeDirectiveID

/-- An event that leaves the rest of the state as it is. -/
theorem Body.of_event {kind : HistoryKind} {e : HistoryEvent} {s : RunState} {n : ℕ}
    (hlive : s.isTerminal = false) (h : History.About nd kind e) (hcloses : kind.closes = false) :
    Body nd.runInfo s [.history e, .runState s n] where
  fits := by simp [Record.Fits]
  history e' he' := by
    simp only [List.mem_cons, Record.history.injEq, reduceCtorEq, List.not_mem_nil, or_false] at he'
    subst he'
    exact ⟨by rw [h.kind, hcloses, hlive], h.wfID, h.runID⟩
  closing hs := absurd (hlive.symm.trans hs) (by decide)

theorem course_of_stepTimeout (hnd : nd.kind = .stepTimeout)
    (h : Records.stepTimeout env nd sn.runState = .ok records) :
    ∃ s notes body, Course nd sn records s notes body := by
  obtain ⟨_, _, he, body, -, -, hhe, hbody, rfl⟩ := Records.stepTimeout_eq_ok h
  obtain ⟨s, hs, hfits⟩ := Records.finish_of_failRun hbody
  exact ⟨s, [.history he], body, rfl,
    (History.about_of_stepTimedout hhe).remarks (by decide) rfl,
    .finish hs rfl ⟨rfl, rfl, rfl⟩ (by simp [hnd]), hfits, by simp [hnd]⟩

theorem course_of_waitTimeout {t : UInt32} (hnd : nd.kind = .waitTimeout)
    (h : Records.waitTimeout env nd sn.runState t = .ok records) :
    ∃ s notes body, Course nd sn records s notes body := by
  obtain ⟨name, he, body, hmsg, hwait, hhe, rfl, hbody⟩ := Records.waitTimeout_eq_ok h
  have hremarks : Remarks nd.runInfo [.history he] :=
    (History.about_of_waitTimedOut hhe).remarks (by decide) rfl
  rcases hbody with hbody | ⟨error, hbody⟩
  · obtain ⟨s, hs, hfits⟩ := Records.dispatch_of_stepStart hbody
    exact ⟨s, [.history he], body, rfl, hremarks, .timeout hs hnd hwait rfl rfl rfl, hfits _,
      fun _ => .inr ⟨name, hmsg⟩⟩
  · obtain ⟨s, hs, hfits⟩ := Records.finish_of_failRun hbody
    refine ⟨s, [.history he], body, rfl, hremarks,
      .finish hs rfl ⟨rfl, rfl, rfl⟩ (by simp [hnd]), hfits, fun _ => .inl ?_⟩
    cases hs
    rfl

theorem course_of_stepPickedUp (hlive : sn.runState.isTerminal = false)
    (hnd : nd.kind = .stepPickedUp) (h : Records.stepPickedUp nd sn.runState = .ok records) :
    ∃ s notes body, Course nd sn records s notes body := by
  obtain ⟨workerID, he, hhe, rfl⟩ := Records.stepPickedUp_eq_ok h
  have habout := History.about_of_stepPickedUp hhe
  exact ⟨_, [], _, rfl, remarks_nil _, .pickUp hnd (habout.isNote (by decide)),
    .of_event hlive habout rfl, by simp [hnd]⟩

theorem course_of_planTransition (hlive : sn.runState.isTerminal = false)
    (h : planTransition cfg env nd sn = .ok records) :
    ∃ s notes body, Course nd sn records s notes body := by
  -- a builder that adds nothing in front of its transition
  have plain {s : RunState} (hnd : nd.kind ≠ .waitTimeout) (hm : Move nd sn s records)
      (hbody : Body nd.runInfo s records) : ∃ s notes body, Course nd sn records s notes body :=
    ⟨s, [], records, rfl, remarks_nil _, hm, hbody, fun hk => absurd hk hnd⟩
  rw [planTransition] at h
  split at h <;> rename_i hnd
  · obtain ⟨s, hs, hbody⟩ := Records.dispatch_of_stepStart h
    exact plain (by simp [hnd]) (.dispatch (.inl hnd) hs) (hbody _)
  · exact course_of_stepPickedUp hlive hnd h
  · obtain ⟨s, hs, hbody⟩ := Records.dispatch_of_eventStart hnd h
    exact plain (by simp [hnd]) (.dispatch (.inr hnd) hs) (hbody _)
  · exact course_of_stepTimeout hnd h
  · obtain ⟨s, hs, hbody⟩ := Records.finish_of_completeRun h
    exact plain (by simp [hnd]) (.finish hs rfl ⟨rfl, rfl, rfl⟩ (by simp [hnd])) hbody
  · obtain ⟨s, hs, hbody⟩ := Records.finish_of_failRun h
    exact plain (by simp [hnd]) (.finish hs rfl ⟨rfl, rfl, rfl⟩ (by simp [hnd])) hbody
  · obtain ⟨s, hs, hbody⟩ := Records.finish_of_terminateRun h
    exact plain (by simp [hnd]) (.finish hs rfl ⟨rfl, rfl, rfl⟩ (by simp [hnd])) hbody
  · obtain ⟨s, hs, hbody⟩ := Records.suspend_of_wait h
    exact plain (by simp [hnd]) (.suspend hnd hs) hbody
  · exact course_of_waitTimeout hnd h
  · simp at h

/-- The batch of a start: the run is described as running, its history is opened and its first
step is guarded. -/
structure Begun (d : Directive) (records : List Record) (s : RunState) : Prop where
  kind : s.kind = .step
  id : s.activeDirectiveID = d.id
  states : ∃ states n, records.filterMap Record.runState? = states ++ [(s, n)]
  tasks : (records.filterMap Record.workerTask?).map Directive.id = [d.id]
  told : Body d.runInfo s records

theorem records_of_start {t : Time} (hstarted : d.runInfo.startedAt = some t)
    (h : Records.start d = .ok records) :
    ∃ e input, records = [.history e, .runInfo d.runInfo 0] ++ input ∧
      History.About d .runStarted e ∧
        ∀ r ∈ input, ∃ v, r = .runInput d.runInfo.wfID d.runInfo.id v := by
  simp only [Records.start, hstarted, bind_eq_ok, wrap_eq_ok, pure_eq_ok] at h
  obtain ⟨e, he, rfl⟩ := h
  refine ⟨e, _, rfl, History.about_of_runStarted he, fun r hr => ?_⟩
  split at hr <;> simp at hr
  exact ⟨_, hr⟩

/-- The batch of a start: the event and the description of the run, its input, the state that the
run begins with, and the dispatch of its first step. -/
theorem parts_of_planFromRunStart (h : planFromRunStart cfg env d = .ok records) :
    ∃ ri e input body, d.runInfo.start env.now = .ok ri ∧ History.About d .runStarted e ∧
      (∀ r ∈ input, ∃ v, r = .runInput ri.wfID ri.id v) ∧
      Records.stepStart env { d with runInfo := ri } (startState env.now d) cfg.stepTimeoutMS =
        .ok body ∧
      records = [.history e, .runInfo ri 0] ++ input ++ .runState (startState env.now d) 0 ::
        body := by
  obtain ⟨ri, run, body, hri, hrun, hbody, rfl⟩ := planFromRunStart_eq_ok h
  obtain ⟨hsame, hstarted, -⟩ := RunInfo.sameRun_of_start hri
  have hstate : { newRunState env.now { d with runInfo := ri } .start with
      startedAt := ri.startedAt } = startState env.now d := by
    simp [startState, newRunState, hstarted, hsame.id, hsame.wfID]
  rw [hstate] at hbody ⊢
  obtain ⟨e, input, rfl, ⟨hk, hwf, hid⟩, hinput⟩ := records_of_start hstarted hrun
  refine ⟨ri, e, input, body, hri, ⟨hk, hwf.trans hsame.wfID, hid.trans hsame.id⟩, hinput, hbody,
    ?_⟩
  rw [List.append_assoc, List.singleton_append]

theorem begun_of_parts {now : Time} {e : HistoryEvent} {ri : RunInfo} {s : RunState}
    {input body : List Record} (he : History.About d .runStarted e) (hstatus : ri.status = .running)
    (hinput : ∀ r ∈ input, ∃ v, r = .runInput ri.wfID ri.id v)
    (h : Dispatch { d with runInfo := ri } (startState now d) s body)
    (hbody : Body d.runInfo s body) :
    Begun d ([.history e, .runInfo ri 0] ++ input ++ .runState (startState now d) 0 :: body) s := by
  have hkind : s.kind = .step := by cases h; rfl
  have hlive : s.isTerminal = false := by simp [RunState.isTerminal, hkind]
  refine ⟨hkind, by cases h; rfl, ⟨[(startState now d, 0)], 0, ?_⟩, ?_, fun r hr => ?_,
    fun e' he' => ?_, fun hterm => absurd (hlive.symm.trans hterm) (by decide)⟩
  · have hnil := filterMap_input_eq_nil (f := Record.runState?) hinput fun _ => rfl
    simp [List.filterMap_cons, Record.runState?, hnil, h.runStates, startState, newRunState]
  · have hnil := filterMap_input_eq_nil (f := Record.workerTask?) hinput fun _ => rfl
    cases h
    simp [List.filterMap_cons, Record.workerTask?, hnil, Records.repairRunInfo]
  · simp only [List.mem_append, List.mem_cons, List.not_mem_nil, or_false] at hr
    rcases hr with ((rfl | rfl) | hr) | rfl | hr
    · trivial
    · rw [Record.Fits, hstatus, hkind]
      rfl
    · obtain ⟨v, rfl⟩ := hinput r hr
      trivial
    · trivial
    · exact hbody.fits r hr
  · simp only [List.mem_append, List.mem_cons, Record.history.injEq, reduceCtorEq, List.not_mem_nil,
      or_false, false_or] at he'
    rcases he' with (rfl | he') | he'
    · exact ⟨by rw [he.kind, hlive]; rfl, he.wfID, he.runID⟩
    · obtain ⟨v, hv⟩ := hinput _ he'
      cases hv
    · exact hbody.history e' he'

theorem begun_of_planFromRunStart (hlive : sn.runState.isTerminal = false)
    (hkind : d.kind = .start) (h : planFromRunStart cfg env d = .ok records) :
    Planned d sn records ∧ ∃ s, Begun d records s := by
  obtain ⟨ri, e, input, step, hri, habout, hinput, hstep, rfl⟩ := parts_of_planFromRunStart h
  obtain ⟨hsame, -, hstatus⟩ := RunInfo.sameRun_of_start hri
  obtain ⟨s, hs, hbody⟩ := Records.dispatch_of_stepStart hstep
  exact ⟨.start hlive hkind habout hsame hinput hs, s,
    begun_of_parts habout hstatus hinput hs (hbody _)⟩

theorem planned_of_eventReceived (hlive : sn.runState.isTerminal = false) (hkind : d.kind = .event)
    (h : Records.eventReceived env d sn = .ok records) : Planned d sn records := by
  obtain ⟨e, he, rfl⟩ := Records.eventReceived_eq_ok h
  exact .event hlive hkind (History.about_of_eventReceived he) ⟨rfl, rfl, rfl, rfl⟩

/-- A transition that `planTransition` makes for the directive at hand. -/
theorem Move.transition {s : RunState} {body : List Record} (h : Move d sn s body)
    (hd : d.kind ≠ .start ∧ d.kind ≠ .event ∧ d.kind ≠ .wakeFromInbox) :
    Transition d sn s body := by
  cases h with
  | finish h hkind hsrc hnd => exact .finish h hkind (.inl hsrc) hd
  | dispatch hnd h => exact .dispatch h (.step (hnd.resolve_right hd.2.1))
  | timeout h hnd hwait hid hrun hkind =>
    exact .dispatch h (.timeout (.inl hnd) hwait hkind (hrun ▸ .refl _))
  | suspend hnd h => exact .suspend h (.inl hnd) (.refl _)
  | pickUp hnd hh => exact .pickUp (.inl hnd) hh

/-- A transition that `planTransition` makes for the message a step result names next. -/
theorem Move.transition_next {s : RunState} {body : List Record} (h : Move nd sn s body)
    (hd : d.kind = .stepResult) (hnext : d.nextKind? = some nd.kind)
    (hid : nd.id = deriveNextDirectiveID d.id) (hrun : nd.runInfo.SameRun d.runInfo) :
    Transition d sn s body := by
  have asks {k : DirectiveKind} (hk : nd.kind = k) : d.AsksFor k := .inr ⟨hd, hk ▸ hnext⟩
  cases h with
  | finish h hkind hsrc _ => exact .finish h hkind (.inl (hsrc.trans hrun)) (by simp [hd])
  | dispatch hnd h => exact .dispatch h (.next hd hnext hnd hid hrun)
  | timeout h hnd hwait _ hrun' hkind =>
    exact .dispatch h (.timeout (asks hnd) hwait hkind (hrun' ▸ hrun))
  | suspend hnd h => exact .suspend h (asks hnd) hrun
  | pickUp hnd hh => exact .pickUp (asks hnd) hh

theorem Finish.isTerminal {src : Directive} {cur s : RunState} {kind : RunStateKind}
    {body : List Record} (h : Finish src cur kind s body) : s.isTerminal = kind.isTerminal := by
  cases h
  rfl

theorem Dispatch.activeDirectiveID {src : Directive} {cur s : RunState} {body : List Record}
    (h : Dispatch src cur s body) : s.activeDirectiveID = src.id := by
  cases h
  rfl

theorem Suspend.activeDirectiveID {src : Directive} {s : RunState} {body : List Record}
    (h : Suspend src sn s body) : s.activeDirectiveID = src.id := by
  cases h
  rfl

theorem Course.activity {s : RunState} {notes body : List Record}
    (h : Course d sn records s notes body)
    (hd : d.kind ≠ .start ∧ d.kind ≠ .event ∧ d.kind ≠ .wakeFromInbox) : Activity d sn s := by
  have hmove := h.move
  cases hmove with
  | finish hf hkind => exact .ended (hf.isTerminal.trans hkind)
  | dispatch hnd hs => exact .asked (.inl (hnd.resolve_right hd.2.1)) hs.activeDirectiveID
  | timeout hs hnd hwait hid =>
    rcases h.named hnd with hterm | hname
    · exact .ended hterm
    · exact .timeout hnd hname hwait (hs.activeDirectiveID.trans hid)
  | suspend hnd hs => exact .asked (.inr hnd) hs.activeDirectiveID
  | pickUp hnd => exact .kept (.inl (.inl hnd)) rfl rfl

theorem Course.activity_next {s : RunState} {notes body : List Record}
    (h : Course nd sn records s notes body) (hd : d.kind = .stepResult)
    (hnext : d.nextKind? = some nd.kind) (hid : nd.id = deriveNextDirectiveID d.id)
    (hfree : sn.runState.pendingCancel = none) : Activity d sn s := by
  have hmove := h.move
  cases hmove with
  | finish hf hkind => exact .ended (hf.isTerminal.trans hkind)
  | dispatch hnd hs =>
    exact .next hd hnext (hnd.imp_right .inl) hfree (hs.activeDirectiveID.trans hid)
  | timeout _ hnd => exact .nextTimeout hd (hnd ▸ hnext) hfree
  | suspend hnd hs =>
    exact .next hd hnext (.inr (.inr hnd)) hfree (hs.activeDirectiveID.trans hid)
  | pickUp hnd => exact .kept (.inl (.inr ⟨hd, hnd ▸ hnext⟩)) rfl rfl

theorem Course.turn {s : RunState} {notes body : List Record} (h : Course d sn records s notes body)
    (hd : d.kind ≠ .start ∧ d.kind ≠ .event ∧ d.kind ≠ .wakeFromInbox)
    (hresult : d.kind ≠ .stepResult) : Turn d sn s notes body where
  transition := h.move.transition hd
  activity := h.activity hd
  noted := h.remarks.notes (.refl _)
  told := ⟨_, h.told, .inl (.refl _)⟩
  retires hk := absurd hk hresult
  intercepted hk := absurd hk hresult

/-- The records by which a step result closes its step. -/
theorem notes_of_parts {kv : Option KVUpdates} {kind : HistoryKind} {e : HistoryEvent}
    (hd : d.kind = .stepResult) (he : History.About d kind e)
    (hkind : kind ≠ .runStarted ∧ kind ≠ .eventReceived) (hcloses : kind.closes = false) :
    Notes d sn (Records.kvRecords d kv ++ [.history e] ++
        Records.deleteStepTimeoutTimer d sn.runState) ∧
      Record.backgroundTask (stepTimerTask d sn.runState) ∈
        Records.kvRecords d kv ++ [.history e] ++
          Records.deleteStepTimeoutTimer d sn.runState := by
  have hkv {r : Record} (hr : r ∈ Records.kvRecords d kv) :
      ∃ kvMap, r = .kv d.runInfo.wfID d.runInfo.id kvMap := by
    cases kv with
    | none => cases hr
    | some kvMap => exact ⟨kvMap, List.mem_singleton.mp hr⟩
  refine ⟨⟨fun r hr => ?_, fun e' hr => ?_, fun task hr => ?_⟩, by
    simp [Records.deleteStepTimeoutTimer, stepTimerTask]⟩
  all_goals
    simp only [Records.deleteStepTimeoutTimer, List.mem_append, List.mem_singleton] at hr
    rcases hr with (hr | hr) | hr
  · obtain ⟨kvMap, rfl⟩ := hkv hr
    rfl
  · exact hr ▸ he.isNote hkind
  · exact hr ▸ rfl
  · obtain ⟨kvMap, hr⟩ := hkv hr
    cases hr
  · cases hr
    exact ⟨by rw [he.kind, hcloses], he.wfID, he.runID⟩
  · cases hr
  · obtain ⟨kvMap, hr⟩ := hkv hr
    cases hr
  · cases hr
  · cases hr
    exact ⟨hd, rfl⟩

theorem notes_of_stepComplete (hd : d.kind = .stepResult)
    (h : Records.stepComplete env d sn.runState = .ok records) :
    Notes d sn records ∧ Record.backgroundTask (stepTimerTask d sn.runState) ∈ records := by
  obtain ⟨_, _, _, _, _, _, _, e, -, he, rfl⟩ := Records.stepComplete_eq_ok h
  exact notes_of_parts hd (History.about_of_stepCompleted he) (by decide) rfl

theorem notes_of_stepFail (hd : d.kind = .stepResult)
    (h : Records.stepFail env d sn.runState = .ok records) :
    Notes d sn records ∧ Record.backgroundTask (stepTimerTask d sn.runState) ∈ records := by
  obtain ⟨_, _, _, _, _, _, _, e, -, he, rfl⟩ := Records.stepFail_eq_ok h
  exact notes_of_parts hd (History.about_of_stepFailed he) (by decide) rfl

/-- A batch that ends the run of a directive. -/
theorem Finish.turn {src : Directive} {kind : RunStateKind} {s : RunState}
    {notes body : List Record} (h : Finish src sn.runState kind s body)
    (hbody : Body src.runInfo s body) (hkind : kind.isTerminal = true)
    (hsrc : src.runInfo.SameRun d.runInfo ∨ sn.runState.pendingCancel = some src)
    (hd : d.kind ≠ .start ∧ d.kind ≠ .event ∧ d.kind ≠ .wakeFromInbox) (hnotes : Notes d sn notes) :
    Turn d sn s notes body where
  transition := .finish h hkind hsrc hd
  activity := .ended (h.isTerminal.trans hkind)
  noted := hnotes
  told := ⟨_, hbody, hsrc.imp_right fun hc => ⟨src, hc, rfl⟩⟩
  retires _ hlive := absurd (hlive.symm.trans (h.isTerminal.trans hkind)) (by decide)
  intercepted _ _ := h.isTerminal.trans hkind

/-- The batch of a step result that `plan` builds asks for the timer of the step to be deleted. -/
theorem turn_of_planFromStepResult (hlive : sn.runState.isTerminal = false)
    (hkind : d.kind = .stepResult) (h : planFromStepResult cfg env d sn = .ok records) :
    ∃ s notes body, records = notes ++ body ∧ Turn d sn s notes body ∧
      Record.backgroundTask (stepTimerTask d sn.runState) ∈ notes := by
  have hd : d.kind ≠ .start ∧ d.kind ≠ .event ∧ d.kind ≠ .wakeFromInbox := by simp [hkind]
  obtain ⟨notes, body, hparts, rfl⟩ := planFromStepResult_eq_ok h
  cases hparts with
  | fail hnotes hbody =>
    obtain ⟨s, hs, hfits⟩ := Records.finish_of_failRun hbody
    obtain ⟨hnotes, htask⟩ := notes_of_stepFail hkind hnotes
    have hturn : Turn d sn s notes body :=
      hs.turn hfits rfl (.inl ⟨rfl, rfl, rfl⟩) hd hnotes
    exact ⟨s, notes, body, rfl, hturn, htask⟩
  | cancel hcancel hnotes hbody =>
    obtain ⟨s, hs, hfits⟩ := Records.finish_of_cancelRun hbody
    obtain ⟨hnotes, htask⟩ := notes_of_stepComplete hkind hnotes
    exact ⟨s, notes, body, rfl, hs.turn hfits rfl (.inr hcancel) hd hnotes, htask⟩
  | next hmsg hfree hnotes hbody =>
    obtain ⟨hnotes, htask⟩ := notes_of_stepComplete hkind hnotes
    obtain ⟨s, notes', body, hcourse⟩ := course_of_planTransition hlive hbody
    have hnext := Directive.nextKind?_of_msg hmsg
    refine ⟨s, notes ++ notes', body, by rw [hcourse.eq_append, List.append_assoc],
      ⟨hcourse.move.transition_next hkind hnext rfl ⟨rfl, rfl, rfl⟩,
        hcourse.activity_next hkind hnext rfl hfree,
        hnotes.append (hcourse.remarks.notes ⟨rfl, rfl, rfl⟩),
        ⟨_, hcourse.told, .inl ⟨rfl, rfl, rfl⟩⟩, fun _ _ => List.mem_append_left _ htask,
        by simp [hfree]⟩, List.mem_append_left _ htask⟩

theorem turn_of_planCancel (hlive : sn.runState.isTerminal = false) (hkind : d.kind = .cancel)
    (h : planCancel env d sn = .ok records) :
    ∃ s notes body, records = notes ++ body ∧ Turn d sn s notes body := by
  have hnotes : Notes d sn [] := (remarks_nil d.runInfo).notes (.refl _)
  rw [planCancel] at h
  split_ifs at h with hstep
  · obtain ⟨e, he, rfl⟩ := Records.cancelReceived_eq_ok h
    have habout := History.about_of_runCancelReceived he
    exact ⟨_, [], _, rfl, .park hkind hstep (habout.isNote (by decide)),
      .kept (.inr hkind) rfl rfl, hnotes, ⟨_, .of_event hlive habout rfl, .inl (.refl _)⟩,
      by simp [hkind], by simp [hkind]⟩
  · obtain ⟨s, hs, hbody⟩ := Records.finish_of_cancelRun h
    exact ⟨s, [], records, rfl, hs.turn hbody rfl (.inl (.refl _)) (by simp [hkind]) hnotes⟩

/-- A wake-up does nothing, or it dispatches the pending event of a waiting run. -/
theorem planWakeFromInbox_cases (hsn : sn.EventSound)
    (h : planWakeFromInbox cfg env sn = .ok records) :
    records = [] ∨ sn.runState.kind = .wait ∧ sn.event.IsEvent ∧
      ∃ s, Dispatch sn.event sn.runState s records ∧ ∀ ri, Body ri s records := by
  rw [planWakeFromInbox] at h
  split_ifs at h with hidle
  · cases h
    exact .inl rfl
  · rw [not_or, not_not] at hidle
    have hevent : sn.event.IsEvent := hsn.resolve_left hidle.2
    simp only [planTransition, hevent.2.1] at h
    exact .inr ⟨hidle.1, hevent, Records.dispatch_of_eventStart hevent.2.1 h⟩

/-- What `plan` builds for a directive that neither starts a run nor sends an event. -/
theorem turn_of_plan (hsn : sn.EventSound) (hkind : d.kind ≠ .start ∧ d.kind ≠ .event)
    (hlive : sn.runState.isTerminal = false) (h : plan cfg env d sn = .ok records) :
    records = [] ∨ ∃ s notes body, records = notes ++ body ∧ Turn d sn s notes body := by
  rw [plan, if_neg (by simp [hlive])] at h
  split at h <;> rename_i hd
  · exact absurd hd hkind.1
  · obtain ⟨s, notes, body, hrecords, hturn, -⟩ := turn_of_planFromStepResult hlive hd h
    exact .inr ⟨s, notes, body, hrecords, hturn⟩
  · exact .inr (turn_of_planCancel hlive hd h)
  · exact absurd hd hkind.2
  · rcases planWakeFromInbox_cases hsn h with rfl | ⟨hwait, hevent, s, hs, hbody⟩
    · exact .inl rfl
    · exact .inr ⟨s, [], records, rfl, .dispatch hs (.inbox hd hwait hevent),
        .event hd hwait hs.activeDirectiveID, (remarks_nil d.runInfo).notes (.refl _),
        ⟨_, hbody _, .inl (.refl _)⟩, by simp [hd], by simp [hd]⟩
  · obtain ⟨s, notes, body, hcourse⟩ := course_of_planTransition hlive h
    exact .inr ⟨s, notes, body, hcourse.eq_append, hcourse.turn ⟨‹_›, ‹_›, ‹_›⟩ ‹_›⟩

/-! ### Errors -/

theorem exists_dispatch {src : Directive} {name : String} {cur : RunState} {cursor : ℕ}
    {t : UInt32} (h : src.msg.dispatchable?.isSome) :
    ∃ records, Records.dispatch env src name cur cursor t = .ok records := by
  obtain ⟨p, hp⟩ := Option.isSome_iff_exists.mp h
  simp only [Records.dispatch, Records.stepTimeoutTimer, hp, RunInfo.startStep, bind_eq_ok,
    wrap_eq_ok, pure_eq_ok]
  exact ⟨_, _, rfl, _, rfl, rfl⟩

theorem exists_planFromRunStart {input : Value} {timeout : UInt32}
    (h : d.msg = .start input timeout) : ∃ records, planFromRunStart cfg env d = .ok records := by
  obtain ⟨ri, hri⟩ : ∃ ri, d.runInfo.start env.now = .ok ri := ⟨_, rfl⟩
  obtain ⟨-, hstarted, -⟩ := RunInfo.sameRun_of_start hri
  obtain ⟨run, hrun⟩ : ∃ run, Records.start { d with runInfo := ri } = .ok run := by
    simp only [Records.start, hstarted, History.runStarted, h, bind_eq_ok, wrap_eq_ok, pure_eq_ok]
    exact ⟨_, _, rfl, rfl⟩
  obtain ⟨step, hstep⟩ : ∃ step, Records.stepStart env { d with runInfo := ri }
      { newRunState env.now { d with runInfo := ri } .start with startedAt := ri.startedAt }
      cfg.stepTimeoutMS = .ok step := by
    simp only [Records.stepStart, Records.repairRunInfo, h, DirectiveMessage.dispatchable?]
    exact exists_dispatch rfl
  rw [h] at hrun hstep
  simp only [planFromRunStart, h, bind_eq_ok, wrap_eq_ok, pure_eq_ok]
  exact ⟨_, ri, hri, run, hrun, step, hstep, rfl⟩

/-- Decoding a directive that starts a run, sends an event or wakes a run leaves no room for a
planning error. -/
theorem exists_plan_of_kind (hd : d.Decoded) (hsn : sn.EventSound)
    (hkind : d.kind = .start ∨ d.kind = .event ∨ d.kind = .wakeFromInbox) :
    ∃ records, plan cfg env d sn = .ok records := by
  have hagrees := hd.2
  rw [plan]
  split_ifs with hterm
  · exact ⟨[], rfl⟩
  rcases hkind with hkind | hkind | hkind <;> simp only [hkind] at hagrees ⊢
  · cases hmsg : d.msg <;> simp [hmsg, DirectiveMessage.agrees] at hagrees
    exact exists_planFromRunStart hmsg
  · cases hmsg : d.msg <;> simp [hmsg, DirectiveMessage.agrees] at hagrees
    simp only [Records.eventReceived, hmsg, History.eventReceived, bind_eq_ok, wrap_eq_ok,
      pure_eq_ok]
    exact ⟨_, _, rfl, rfl⟩
  · rw [planWakeFromInbox]
    split_ifs with hidle
    · exact ⟨[], rfl⟩
    · rw [not_or, not_not] at hidle
      obtain ⟨-, hek, e, he⟩ := hsn.resolve_left hidle.2
      simp only [planTransition, hek, Records.eventStart, Records.repairRunInfo, he]
      exact exists_dispatch rfl

/-- A wake-up never fails a run: it does nothing or dispatches the pending event. -/
theorem handleRecords_of_wake (hd : d.Decoded) (hsn : sn.EventSound)
    (hkind : d.kind = .wakeFromInbox) :
    ∃ records, handleRecords cfg env failEnv d sn = .ok records ∧
      (records = [] ∨ ∃ s, Dispatch sn.event sn.runState s records) := by
  obtain ⟨records, hplan⟩ : ∃ records, plan cfg env d sn = .ok records :=
    exists_plan_of_kind hd hsn (.inr (.inr hkind))
  refine ⟨records, by rw [handleRecords, hplan], ?_⟩
  simp only [plan, hkind] at hplan
  split_ifs at hplan
  · cases hplan
    exact .inl rfl
  · exact (planWakeFromInbox_cases hsn hplan).imp_right fun ⟨_, _, s, hs, _⟩ => ⟨s, hs⟩

/-- What the batch of a start says. -/
theorem begun_of_handleRecords (hd : d.Decoded) (hsn : sn.EventSound) (hkind : d.kind = .start)
    (h : handleRecords cfg env failEnv d sn = .ok records) :
    records = [] ∨ Planned d sn records ∧ ∃ s, Begun d records s := by
  obtain ⟨records', hplan⟩ : ∃ records, plan cfg env d sn = .ok records :=
    exists_plan_of_kind hd hsn (.inl hkind)
  rw [handleRecords, hplan] at h
  cases h
  simp only [plan, hkind] at hplan
  split_ifs at hplan with hterm
  · cases hplan
    exact .inl rfl
  · exact .inr (begun_of_planFromRunStart (Bool.not_eq_true _ ▸ hterm) hkind hplan)

/-- What the batch of a transition says. -/
theorem turn_of_handleRecords (hd : d.Decoded) (hsn : sn.EventSound)
    (hkind : d.kind ≠ .start ∧ d.kind ≠ .event)
    (h : handleRecords cfg env failEnv d sn = .ok records) :
    records = [] ∨ sn.runState.isTerminal = false ∧
      ∃ s notes body, records = notes ++ body ∧ Turn d sn s notes body := by
  by_cases hterm : sn.runState.isTerminal = true
  · left
    simpa [handleRecords, plan, hterm] using h.symm
  rw [Bool.not_eq_true] at hterm
  rw [handleRecords] at h
  split at h
  · rename_i cause hplan
    obtain ⟨s, hs, hbody⟩ := Records.finish_of_failRun h
    have hwake : d.kind ≠ .wakeFromInbox := by
      intro hwake
      obtain ⟨records', hok⟩ : ∃ records, plan cfg env d sn = .ok records :=
        exists_plan_of_kind hd hsn (.inr (.inr hwake))
      simp [hok] at hplan
    exact .inr ⟨hterm, s, [], records, rfl, hs.turn hbody rfl (.inl ⟨rfl, rfl, rfl⟩)
      ⟨hkind.1, hkind.2, hwake⟩ ((remarks_nil d.runInfo).notes (.refl _))⟩
  · exact (turn_of_plan hsn hkind hterm h).imp_right fun hturn => ⟨hterm, hturn⟩

/-- Every batch that handling a directive hands to the store has one of the shapes of `Planned`. -/
theorem planned_of_handleRecords (hd : d.Decoded) (hsn : sn.EventSound)
    (h : handleRecords cfg env failEnv d sn = .ok records) : Planned d sn records := by
  by_cases hstart : d.kind = .start
  · rcases begun_of_handleRecords hd hsn hstart h with rfl | ⟨hplanned, -⟩
    · exact .nothing
    · exact hplanned
  by_cases hevent : d.kind = .event
  · obtain ⟨records', hplan⟩ : ∃ records, plan cfg env d sn = .ok records :=
      exists_plan_of_kind hd hsn (.inr (.inl hevent))
    rw [handleRecords, hplan] at h
    cases h
    simp only [plan, hevent] at hplan
    split_ifs at hplan with hterm
    · cases hplan
      exact .nothing
    · exact planned_of_eventReceived (Bool.not_eq_true _ ▸ hterm) hevent hplan
  · rcases turn_of_handleRecords hd hsn ⟨hstart, hevent⟩ h with
      rfl | ⟨hlive, s, notes, body, rfl, ht⟩
    · exact .nothing
    · exact .transition hlive ht.noted.allNotes ht.transition

end Plan

end Grctl
