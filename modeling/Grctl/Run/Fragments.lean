import Grctl.Run.Closing

/-!
# The pieces of a batch

The planners call the record builders and put together what these return. A property of batches that
two lists pass on to their concatenation therefore holds of every batch if it holds of every piece,
whatever path the planner has taken. `Built.elim` is the rule; a piece is what one builder returns,
or a record that a planner adds by itself.

The background tasks of a batch are a first use of it: the server asks for four of the five kinds of
tasks, and the payload of each is the one of its kind. Nothing ever asks for the deletion of an
inbox event. The timers of a batch are another: each is for a step or for a wait.

## Main definitions

* `Fragment d`: the pieces of a batch for the directive `d`.
* `Built d`: the lists that are put together from them.
* `BackgroundTask.Asked`: the tasks that the server asks for.
* `AsksFor`, `Times`: the tasks and the timers of a list of records.

## Main results

* `built_of_handleRecords`: every batch is put together from pieces.
* `asked_of_handleRecords`, `times_of_handleRecords`: the tasks and the timers of a batch.
-/

namespace Grctl

/-- The kinds of the events that go with a value of the run: its input, its output or its error. -/
def HistoryKind.tells (k : HistoryKind) : Bool :=
  k == .runStarted || k == .runCompleted || k == .runFailed

/-- The kinds of the events that tell the result of a step. -/
def HistoryKind.endsStep (k : HistoryKind) : Bool := k == .stepCompleted || k == .stepFailed

/-- The pieces of a batch for the directive `d`. -/
inductive Fragment (d : Directive) : List Record → Prop
  | start {src : Directive} {records : List Record} (h : Records.start src = .ok records) :
      Fragment d records
  | state {s : RunState} {n : ℕ} : Fragment d [.runState s n]
  | note {src : Directive} {k : HistoryKind} {e : HistoryEvent} (he : History.About src k e)
      (hk : k.tells = false) (hend : k.endsStep = false) : Fragment d [.history e]
  | complete {env : Readings} {src : Directive} {cur : RunState} {records : List Record}
      (h : Records.completeRun env src cur = .ok records) : Fragment d records
  | fail {env : Readings} {src : Directive} {cur : RunState} {records : List Record}
      (h : Records.failRun env src cur = .ok records) : Fragment d records
  | terminate {env : Readings} {src : Directive} {cur : RunState} {records : List Record}
      (h : Records.terminateRun env src cur = .ok records) : Fragment d records
  | cancel {env : Readings} {src : Directive} {cur : RunState} {records : List Record}
      (h : Records.cancelRun env src cur = .ok records) : Fragment d records
  | dispatch {env : Readings} {src : Directive} {name : String} {cur : RunState} {cursor : ℕ}
      {timeoutMS : UInt32} {records : List Record}
      (h : Records.dispatch env src name cur cursor timeoutMS = .ok records) : Fragment d records
  | wait {env : Readings} {src : Directive} {sn : StateSnapshot} {timeoutMS : UInt32}
      {records : List Record} (h : Records.wait env src sn timeoutMS = .ok records) :
      Fragment d records
  | event {env : Readings} {sn : StateSnapshot} {records : List Record}
      (h : Records.eventReceived env d sn = .ok records) : Fragment d records
  | step {processedKind nextMsgKind : DirectiveKind} {processedMsg nextMsg : DirectiveMessage}
      {workerID : Option WorkerID} {durationMS : ℤ} {kvUpdates : Option KVUpdates}
      {k : HistoryKind} {e : HistoryEvent} {cur : RunState}
      (hmsg : d.msg = .stepResult processedKind processedMsg workerID durationMS kvUpdates
        nextMsgKind nextMsg)
      (he : History.About d k e) (hk : k.tells = false) (hend : k.endsStep = true) :
      Fragment d (Records.kvRecords d kvUpdates ++ [.history e] ++
        Records.deleteStepTimeoutTimer d cur)

/-- The lists that are put together from pieces. -/
inductive Built (d : Directive) : List Record → Prop
  | nil : Built d []
  | append {piece records : List Record} (hpiece : Fragment d piece) (h : Built d records) :
      Built d (piece ++ records)

section Built

variable {d : Directive} {piece records records' : List Record}

theorem Fragment.built (h : Fragment d piece) : Built d piece := by
  have happend : Built d (piece ++ []) := .append h .nil
  rwa [List.append_nil] at happend

theorem Built.concat (h : Built d records) (h' : Built d records') :
    Built d (records ++ records') := by
  induction h with
  | nil => exact h'
  | append hpiece _ ih =>
    rw [List.append_assoc]
    exact .append hpiece ih

/-- What holds of the pieces, and of a concatenation if it holds of its parts, holds of the whole
list. -/
theorem Built.elim {P : List Record → Prop} (h : Built d records) (hnil : P [])
    (happend : ∀ a b, P a → P b → P (a ++ b)) (hpiece : ∀ piece, Fragment d piece → P piece) :
    P records := by
  induction h with
  | nil => exact hnil
  | append h _ ih => exact happend _ _ (hpiece _ h) ih

end Built

section Plan

variable {cfg : Defaults} {env failEnv : Readings} {d src : Directive} {sn : StateSnapshot}
  {records : List Record} {cur : RunState}

theorem built_stepStart {timeoutMS : UInt32}
    (h : Records.stepStart env src cur timeoutMS = .ok records) : Built d records := by
  obtain ⟨name, h⟩ := Records.stepStart_eq_ok h
  exact (Fragment.dispatch h).built

/-- An event of the history with the new state of the run. -/
theorem built_receipt {k : HistoryKind} {e : HistoryEvent} {s : RunState} {n : ℕ}
    (he : History.About src k e) (hk : k.tells = false) (hend : k.endsStep = false) :
    Built d [.history e, .runState s n] :=
  .append (.note he hk hend) Fragment.state.built

theorem built_planTransition (h : planTransition cfg env src sn = .ok records) :
    Built d records := by
  rw [planTransition] at h
  split at h
  · exact built_stepStart h
  · obtain ⟨worker, e, he, rfl⟩ := Records.stepPickedUp_eq_ok h
    exact built_receipt (History.about_of_stepPickedUp he) rfl rfl
  · obtain ⟨e, -, h⟩ := Records.eventStart_eq_ok h
    exact (Fragment.dispatch h).built
  · obtain ⟨name, error, e, body, -, -, he, hbody, rfl⟩ := Records.stepTimeout_eq_ok h
    exact .append (.note (History.about_of_stepTimedout he) rfl rfl) (Fragment.fail hbody).built
  · exact (Fragment.complete h).built
  · exact (Fragment.fail h).built
  · exact (Fragment.terminate h).built
  · exact (Fragment.wait h).built
  · obtain ⟨name, e, body, -, -, he, rfl, hbody⟩ := Records.waitTimeout_eq_ok h
    refine .append (.note (History.about_of_waitTimedOut he) rfl rfl) ?_
    rcases hbody with hbody | ⟨error, hbody⟩
    · exact built_stepStart hbody
    · exact (Fragment.fail hbody).built
  · simp at h

theorem built_planFromStepResult (h : planFromStepResult cfg env d sn = .ok records) :
    Built d records := by
  obtain ⟨notes, body, hparts, rfl⟩ := planFromStepResult_eq_ok h
  cases hparts with
  | fail hnotes hbody =>
    obtain ⟨_, _, _, _, _, _, _, e, hmsg, he, rfl⟩ := Records.stepFail_eq_ok hnotes
    exact .append (.step hmsg (History.about_of_stepFailed he) rfl rfl) (Fragment.fail hbody).built
  | cancel _ hnotes hbody =>
    obtain ⟨_, _, _, _, _, _, _, e, hmsg, he, rfl⟩ := Records.stepComplete_eq_ok hnotes
    exact .append (.step hmsg (History.about_of_stepCompleted he) rfl rfl)
      (Fragment.cancel hbody).built
  | next _ _ hnotes hbody =>
    obtain ⟨_, _, _, _, _, _, _, e, hmsg, he, rfl⟩ := Records.stepComplete_eq_ok hnotes
    exact .append (.step hmsg (History.about_of_stepCompleted he) rfl rfl)
      (built_planTransition hbody)

theorem built_plan (h : plan cfg env d sn = .ok records) : Built d records := by
  rw [plan] at h
  split_ifs at h
  · cases h
    exact .nil
  · split at h
    · obtain ⟨ri, run, step, -, hrun, hstep, rfl⟩ := planFromRunStart_eq_ok h
      exact ((Fragment.start hrun).built.concat Fragment.state.built).concat
        (built_stepStart hstep)
    · exact built_planFromStepResult h
    · rw [planCancel] at h
      split_ifs at h
      · obtain ⟨e, he, rfl⟩ := Records.cancelReceived_eq_ok h
        exact built_receipt (History.about_of_runCancelReceived he) rfl rfl
      · exact (Fragment.cancel h).built
    · exact (Fragment.event h).built
    · rw [planWakeFromInbox] at h
      split_ifs at h
      · cases h
        exact .nil
      · exact built_planTransition h
    · exact built_planTransition h

/-- Every batch is put together from pieces. -/
theorem built_of_handleRecords (h : handleRecords cfg env failEnv d sn = .ok records) :
    Built d records := by
  rw [handleRecords] at h
  split at h
  · exact (Fragment.fail h).built
  · exact built_plan h

end Plan

/-! ### Background tasks -/

/-- The tasks that the server asks for. -/
inductive BackgroundTask.Asked : BackgroundTask → Prop
  | deleteTimer {parentID : DirectiveID} {wfID : WFID} {kind : TimerKind} {timerID : TimerID} :
      Asked (newDeleteTimerTask parentID wfID kind timerID)
  | purgeRunResidue {parentID : DirectiveID} {wfID : WFID} :
      Asked (newPurgeRunResidueTask parentID wfID)
  | notifyParentComplete {parentID : DirectiveID} {payload : NotifyParentCompletePayload} :
      Asked (newNotifyParentCompleteTask parentID payload)
  | workerTerminateRun {parentID : DirectiveID} {workerID : WorkerID} {runID : RunID} :
      Asked (newWorkerTerminateRunTask parentID workerID runID)

/-- All tasks of the records are ones that the server asks for. -/
def AsksFor (records : List Record) : Prop :=
  ∀ task, Record.backgroundTask task ∈ records → task.Asked

section AsksFor

variable {d : Directive} {cur : RunState} {records : List Record}

theorem AsksFor.append {a b : List Record} (ha : AsksFor a) (hb : AsksFor b) :
    AsksFor (a ++ b) := fun task htask =>
  (List.mem_append.mp htask).elim (ha task) (hb task)

theorem asksFor_parentCallbackRecords {status : RunStatus} {result : Value}
    {error : Option ErrorDetails} :
    AsksFor (Records.parentCallbackRecords d status result error ++ [Records.purgeRecord d]) := by
  refine AsksFor.append ?_ fun task htask => ?_
  · unfold Records.parentCallbackRecords
    split
    · intro task htask
      cases List.mem_singleton.mp htask
      exact .notifyParentComplete
    · simp [AsksFor]
  · cases List.mem_singleton.mp htask
    exact .purgeRunResidue

theorem asksFor_workerTerminateRecords : AsksFor (Records.workerTerminateRecords d cur) := by
  unfold Records.workerTerminateRecords
  split
  · simp [AsksFor]
  · intro task htask
    cases List.mem_singleton.mp htask
    exact .workerTerminateRun

theorem asksFor_outputRecords {v : Value} : AsksFor (Records.outputRecords d v) := by
  unfold Records.outputRecords
  split <;> simp [AsksFor]

theorem Fragment.asksFor {piece : List Record} (h : Fragment d piece) : AsksFor piece := by
  cases h with
  | start h =>
    rw [Records.start] at h
    split at h
    · cases h
    · simp only [bind_eq_ok, wrap_eq_ok, pure_eq_ok] at h
      obtain ⟨e, -, rfl⟩ := h
      split <;> simp [AsksFor]
  | state => simp [AsksFor]
  | note => simp [AsksFor]
  | complete h =>
    obtain ⟨result, ri, e, -, -, -, rfl⟩ := Records.completeRun_eq_ok h
    rw [List.append_assoc, List.append_assoc]
    exact AsksFor.append (by simp [AsksFor])
      (asksFor_outputRecords.append asksFor_parentCallbackRecords)
  | fail h =>
    obtain ⟨error, ri, e, -, -, -, rfl⟩ := Records.failRun_eq_ok h
    rw [List.append_assoc, List.append_assoc]
    exact AsksFor.append (by simp [AsksFor])
      (asksFor_workerTerminateRecords.append asksFor_parentCallbackRecords)
  | terminate h =>
    obtain ⟨reason, ri, e, -, -, -, rfl⟩ := Records.terminateRun_eq_ok h
    rw [List.append_assoc, List.append_assoc]
    exact AsksFor.append (by simp [AsksFor])
      (asksFor_workerTerminateRecords.append asksFor_parentCallbackRecords)
  | cancel h =>
    obtain ⟨reason, ri, e, -, -, -, rfl⟩ := Records.cancelRun_eq_ok h
    rw [List.append_assoc]
    exact AsksFor.append (by simp [AsksFor]) asksFor_parentCallbackRecords
  | dispatch h =>
    simp only [Records.dispatch, bind_eq_ok, wrap_eq_ok, pure_eq_ok] at h
    obtain ⟨timer, -, ri, -, rfl⟩ := h
    simp [AsksFor]
  | wait h =>
    obtain ⟨t, name, ri, e, -, -, -, rfl⟩ := Records.wait_eq_ok h
    exact AsksFor.append (by simp [AsksFor]) (by split_ifs <;> simp [AsksFor])
  | event h =>
    obtain ⟨e, -, rfl⟩ := Records.eventReceived_eq_ok h
    exact AsksFor.append (by simp [AsksFor]) (by split_ifs <;> simp [AsksFor])
  | @step _ _ _ _ _ _ kvUpdates =>
    refine AsksFor.append (AsksFor.append ?_ (by simp [AsksFor])) fun task htask => ?_
    · cases kvUpdates <;> simp [AsksFor, Records.kvRecords]
    · cases List.mem_singleton.mp htask
      exact .deleteTimer

/-- The tasks of a batch are ones that the server asks for. -/
theorem asked_of_handleRecords {cfg : Defaults} {env failEnv : Readings} {sn : StateSnapshot}
    (h : handleRecords cfg env failEnv d sn = .ok records) : AsksFor records :=
  (built_of_handleRecords h).elim (by simp [AsksFor]) (fun _ _ => AsksFor.append)
    fun _ => Fragment.asksFor

end AsksFor

/-! ### Timers -/

/-- All timers of the records are for a step or a wait. -/
def Times (records : List Record) : Prop :=
  ∀ t, Record.timer t ∈ records → t.kind = .stepTimeout ∨ t.kind = .waitTimeout

section Times

variable {d : Directive} {records : List Record}

theorem Times.append {a b : List Record} (ha : Times a) (hb : Times b) : Times (a ++ b) :=
  fun t ht => (List.mem_append.mp ht).elim (ha t) (hb t)

/-- The end of a run sets no timer. -/
theorem Closing.times {src : Directive} {s : RunState} (h : Closing src s records) :
    Times records := fun t ht => by cases h.onward _ ht

theorem Fragment.times {piece : List Record} (h : Fragment d piece) : Times piece := by
  cases h with
  | start h =>
    rw [Records.start] at h
    split at h
    · cases h
    · simp only [bind_eq_ok, wrap_eq_ok, pure_eq_ok] at h
      obtain ⟨e, -, rfl⟩ := h
      split <;> simp [Times]
  | state => simp [Times]
  | note => simp [Times]
  | complete h => exact (Records.closing_of_completeRun h).times
  | fail h => exact (Records.closing_of_failRun h).times
  | terminate h => exact (Records.closing_of_terminateRun h).times
  | cancel h => exact (Records.closing_of_cancelRun h).times
  | dispatch h =>
    simp only [Records.dispatch, bind_eq_ok, wrap_eq_ok, pure_eq_ok] at h
    obtain ⟨timer, htimer, ri, -, rfl⟩ := h
    rw [Records.stepTimeoutTimer] at htimer
    split at htimer <;> cases htimer
    simp [Times]
  | wait h =>
    obtain ⟨t, name, ri, e, -, -, -, rfl⟩ := Records.wait_eq_ok h
    refine Times.append ?_ (by split_ifs <;> simp [Times])
    simp [Times, Records.createWaitTimeoutTimer]
  | event h =>
    obtain ⟨e, -, rfl⟩ := Records.eventReceived_eq_ok h
    exact Times.append (by simp [Times]) (by split_ifs <;> simp [Times])
  | @step _ _ _ _ _ _ kvUpdates =>
    cases kvUpdates <;> simp [Times, Records.kvRecords, Records.deleteStepTimeoutTimer]

/-- The timers of a batch are for a step or a wait. -/
theorem times_of_handleRecords {cfg : Defaults} {env failEnv : Readings} {sn : StateSnapshot}
    (h : handleRecords cfg env failEnv d sn = .ok records) : Times records :=
  (built_of_handleRecords h).elim (by simp [Times]) (fun _ _ => Times.append)
    fun _ => Fragment.times

end Times

end Grctl
