import Grctl.Run.Plan

/-!
# What a builder that succeeds has built

The record builders and planners look at the type of a message and call each other, and each of
these steps can return an error. The lemmas of this file say, for every builder with such a choice,
what it has found and what it has put together when it returns records. Other files use them instead
of unfolding the builders.

## Main definitions

* `ResultParts`: the two parts of the batch of a step result.

## Main results

* `Records.failRun_eq_ok`, `Records.stepComplete_eq_ok`, `Records.stepFail_eq_ok`,
  `Records.stepTimeout_eq_ok`, `Records.waitTimeout_eq_ok` and so on, one for each builder.
* `planFromRunStart_eq_ok`, `planFromStepResult_eq_ok`.
-/

namespace Grctl

namespace History

variable {d : Directive} {e : HistoryEvent}

theorem runCompleted_eq_ok (h : runCompleted d = .ok e) :
    ∃ result ms, d.msg = .complete result ∧ durationMS d = .ok ms ∧
      e = event d d.timestamp .runCompleted (.runCompleted result ms) := by
  rw [runCompleted] at h
  split at h
  · rename_i result hmsg
    simp only [bind_eq_ok, pure_eq_ok] at h
    obtain ⟨ms, hms, rfl⟩ := h
    exact ⟨result, ms, hmsg, hms, rfl⟩
  · simp at h

theorem runTerminated_eq_ok (h : runTerminated d = .ok e) :
    ∃ reason ms, d.msg = .terminate reason ∧
      e = event d d.timestamp .runTerminated (.runTerminated reason ms) := by
  rw [runTerminated] at h
  split at h
  · rename_i reason hmsg
    exact ⟨reason, _, hmsg, (Except.ok.inj h).symm⟩
  · simp at h

theorem runCancelled_eq_ok (h : runCancelled d = .ok e) :
    ∃ reason ms, d.msg = .cancel reason ∧ durationMS d = .ok ms ∧
      e = event d d.timestamp .runCancelled (.runCancelled reason ms) := by
  rw [runCancelled] at h
  split at h
  · rename_i reason hmsg
    simp only [bind_eq_ok, pure_eq_ok] at h
    obtain ⟨ms, hms, rfl⟩ := h
    exact ⟨reason, ms, hmsg, hms, rfl⟩
  · simp at h

end History

namespace Records

variable {env : Readings} {d : Directive} {cur : RunState} {sn : StateSnapshot} {timeoutMS : UInt32}
  {records : List Record}

theorem completeRun_eq_ok (h : completeRun env d cur = .ok records) :
    ∃ result ri e, d.msg = .complete result ∧ d.runInfo.complete d.timestamp = .ok ri ∧
      History.runCompleted d = .ok e ∧
      records = [.runInfo ri 0, .history e,
          .runState (finished env.now cur .complete) cur.seqID] ++
        outputRecords d result ++ parentCallbackRecords d .completed result none ++
        [purgeRecord d] := by
  simp only [completeRun, bind_eq_ok, wrap_eq_ok, pure_eq_ok] at h
  obtain ⟨ri, hri, e, he, rfl⟩ := h
  obtain ⟨result, ms, hmsg, -⟩ := History.runCompleted_eq_ok he
  exact ⟨result, ri, e, hmsg, hri, he, by rw [hmsg]⟩

theorem terminateRun_eq_ok (h : terminateRun env d cur = .ok records) :
    ∃ reason ri e, d.msg = .terminate reason ∧ d.runInfo.terminate d.timestamp = .ok ri ∧
      History.runTerminated d = .ok e ∧
      records = [.runInfo ri 0, .history e,
          .runState (finished env.now cur .terminate) cur.seqID] ++
        workerTerminateRecords d cur ++
        parentCallbackRecords d .terminated .nil
          (some (stopError "Terminated" "run was terminated" reason)) ++ [purgeRecord d] := by
  simp only [terminateRun, bind_eq_ok, wrap_eq_ok, pure_eq_ok] at h
  obtain ⟨ri, hri, e, he, rfl⟩ := h
  obtain ⟨reason, ms, hmsg, -⟩ := History.runTerminated_eq_ok he
  exact ⟨reason, ri, e, hmsg, hri, he, by rw [hmsg]⟩

theorem cancelReceived_eq_ok (h : cancelReceived d cur = .ok records) :
    ∃ e, History.runCancelReceived d = .ok e ∧
      records = [.history e, .runState { cur with pendingCancel := some d } cur.seqID] := by
  simp only [cancelReceived, bind_eq_ok, wrap_eq_ok, pure_eq_ok] at h
  obtain ⟨e, he, rfl⟩ := h
  exact ⟨e, he, rfl⟩

theorem cancelRun_eq_ok (h : cancelRun env d cur = .ok records) :
    ∃ reason ri e, d.msg = .cancel reason ∧ d.runInfo.cancel d.timestamp = .ok ri ∧
      History.runCancelled d = .ok e ∧
      records = [.runInfo ri 0, .history e, .runState (finished env.now cur .cancel) cur.seqID] ++
        parentCallbackRecords d .cancelled .nil
          (some (stopError "Cancelled" "workflow was cancelled" reason)) ++ [purgeRecord d] := by
  simp only [cancelRun, bind_eq_ok, wrap_eq_ok, pure_eq_ok] at h
  obtain ⟨ri, hri, e, he, rfl⟩ := h
  obtain ⟨reason, ms, hmsg, -⟩ := History.runCancelled_eq_ok he
  exact ⟨reason, ri, e, hmsg, hri, he, by rw [hmsg]⟩

theorem failRun_eq_ok (h : failRun env d cur = .ok records) :
    ∃ error ri e, d.msg = .fail error ∧ d.runInfo.fail d.timestamp = .ok ri ∧
      History.runFailed d = .ok e ∧
      records = [.runInfo ri 0, .history e, .runState (finished env.now cur .fail) cur.seqID,
          .runError d.runInfo.wfID d.runInfo.id error] ++
        workerTerminateRecords d cur ++ parentCallbackRecords d .failed .nil (some error) ++
        [purgeRecord d] := by
  rw [failRun] at h
  split at h
  · rename_i error hmsg
    simp only [bind_eq_ok, wrap_eq_ok, pure_eq_ok] at h
    obtain ⟨ri, hri, e, he, rfl⟩ := h
    exact ⟨error, ri, e, hmsg, hri, he, rfl⟩
  · simp at h

/-- A step is dispatched with the repaired description of its run. -/
theorem stepStart_eq_ok (h : stepStart env d cur timeoutMS = .ok records) :
    ∃ stepName, dispatch env (repairRunInfo d cur) stepName cur (cursorAfter d cur) timeoutMS =
      .ok records := by
  rw [stepStart] at h
  split at h
  · simp at h
  · exact ⟨_, h⟩

theorem eventStart_eq_ok (h : eventStart env d cur timeoutMS = .ok records) :
    ∃ e, d.msg = .event e ∧ dispatch env (repairRunInfo d cur) e.eventName cur
      (e.eventSeqID.getD cur.lastEventSeqID) timeoutMS = .ok records := by
  rw [eventStart] at h
  split at h
  · exact ⟨_, ‹_›, h⟩
  · simp at h

theorem stepPickedUp_eq_ok (h : stepPickedUp d cur = .ok records) :
    ∃ workerID e, History.stepPickedUp d = .ok e ∧
      records = [.history e, .runState { cur with workerID := some workerID } cur.seqID] := by
  rw [stepPickedUp] at h
  split at h
  · simp only [bind_eq_ok, wrap_eq_ok, pure_eq_ok] at h
    obtain ⟨e, he, rfl⟩ := h
    exact ⟨_, e, he, rfl⟩
  · simp at h

theorem stepComplete_eq_ok (h : stepComplete env d cur = .ok records) :
    ∃ processedKind processedMsg workerID durationMS kvUpdates nextMsgKind nextMsg e,
      d.msg = .stepResult processedKind processedMsg workerID durationMS kvUpdates nextMsgKind
        nextMsg ∧
      History.stepCompleted env.now d processedMsg workerID durationMS = .ok e ∧
      records = kvRecords d kvUpdates ++ [.history e] ++ deleteStepTimeoutTimer d cur := by
  rw [stepComplete] at h
  split at h
  · simp only [bind_eq_ok, wrap_eq_ok, pure_eq_ok] at h
    obtain ⟨e, he, rfl⟩ := h
    exact ⟨_, _, _, _, _, _, _, e, ‹_›, he, rfl⟩
  · simp at h

theorem stepFail_eq_ok (h : stepFail env d cur = .ok records) :
    ∃ processedKind processedMsg workerID durationMS kvUpdates nextMsgKind nextMsg e,
      d.msg = .stepResult processedKind processedMsg workerID durationMS kvUpdates nextMsgKind
        nextMsg ∧
      History.stepFailed env.now d processedMsg durationMS nextMsg = .ok e ∧
      records = kvRecords d kvUpdates ++ [.history e] ++ deleteStepTimeoutTimer d cur := by
  rw [stepFail] at h
  split at h
  · rename_i hmsg
    split at h
    · simp only [bind_eq_ok, wrap_eq_ok, pure_eq_ok] at h
      obtain ⟨e, he, rfl⟩ := h
      exact ⟨_, _, _, _, _, _, _, e, hmsg, he, rfl⟩
    · simp at h
  · simp at h

/-- The step that times out is the one in progress. -/
theorem stepTimeout_eq_ok (h : stepTimeout env d cur = .ok records) :
    ∃ stepName error e body, d.msg = .stepTimeout stepName cur.activeDirectiveID ∧
      cur.kind = .step ∧ History.stepTimedout env.now d cur = .ok e ∧
      failRun env (failDirective env d error) cur = .ok body ∧ records = .history e :: body := by
  rw [stepTimeout] at h
  split at h
  · rename_i stepName originalDirectiveID hmsg
    split_ifs at h with hstale
    · simp at h
    · rw [not_or, not_not, not_not] at hstale
      simp only [bind_eq_ok, wrap_eq_ok, pure_eq_ok] at h
      obtain ⟨e, he, body, hbody, rfl⟩ := h
      exact ⟨stepName, _, e, body, hstale.2 ▸ hmsg, hstale.1, he, hbody, rfl⟩
  · simp at h

/-- The wait that times out is the one in progress; it goes on with a step or fails the run. -/
theorem waitTimeout_eq_ok (h : waitTimeout env d cur timeoutMS = .ok records) :
    ∃ name e body, d.msg = .waitTimeout name cur.activeDirectiveID ∧ cur.kind = .wait ∧
      History.waitTimedOut env.now d = .ok e ∧ records = .history e :: body ∧
      (stepStart env (timeoutStepDirective env d name) cur timeoutMS = .ok body ∨
        ∃ error, failRun env (failDirective env d error) cur = .ok body) := by
  rw [waitTimeout] at h
  split at h
  · rename_i name originalDirectiveID hmsg
    split_ifs at h with hstale hname
    · simp at h
    all_goals
      rw [not_or, not_not, not_not] at hstale
      simp only [bind_eq_ok, wrap_eq_ok, pure_eq_ok] at h
      obtain ⟨e, he, body, hbody, rfl⟩ := h
      refine ⟨name, e, body, hstale.2 ▸ hmsg, hstale.1, he, rfl, ?_⟩
    · exact .inl hbody
    · exact .inr ⟨_, hbody⟩
  · simp at h

theorem wait_eq_ok (h : wait env d sn timeoutMS = .ok records) :
    ∃ msgTimeout timeoutStepName ri e, d.msg = .wait msgTimeout timeoutStepName ∧
      d.runInfo.wait env.now = .ok ri ∧ History.waitStarted env.now d = .ok e ∧
      records = [.runInfo ri 0, .history e,
          .timer (createWaitTimeoutTimer env d (if msgTimeout = 0 then timeoutMS else msgTimeout)
            timeoutStepName),
          .runState
            { sn.runState with
              kind := .wait
              enteredAt := env.now
              activeDirectiveID := d.id } sn.runState.seqID] ++
        if sn.event.id ≠ "" then [.directive (wakeDirective env d)] else [] := by
  rw [wait] at h
  split at h
  · simp only [bind_eq_ok, wrap_eq_ok, pure_eq_ok] at h
    obtain ⟨ri, hri, e, he, rfl⟩ := h
    exact ⟨_, _, ri, e, ‹_›, hri, he, rfl⟩
  · simp at h

theorem eventReceived_eq_ok (h : eventReceived env d sn = .ok records) :
    ∃ e, History.eventReceived env.now d = .ok e ∧
      records = [.inbox d, .history e] ++
        if sn.runState.kind = .wait ∧ sn.event.id = "" then [.directive (wakeDirective env d)]
        else [] := by
  rw [eventReceived] at h
  split at h
  · simp only [bind_eq_ok, wrap_eq_ok, pure_eq_ok] at h
    obtain ⟨e, he, rfl⟩ := h
    exact ⟨e, he, rfl⟩
  · simp at h

end Records

section Plan

variable {cfg : Defaults} {env : Readings} {d : Directive} {sn : StateSnapshot}
  {records : List Record}

theorem planFromRunStart_eq_ok (h : planFromRunStart cfg env d = .ok records) :
    ∃ ri run step, d.runInfo.start env.now = .ok ri ∧
      Records.start { d with runInfo := ri } = .ok run ∧
      Records.stepStart env { d with runInfo := ri }
        { newRunState env.now { d with runInfo := ri } .start with startedAt := ri.startedAt }
        cfg.stepTimeoutMS = .ok step ∧
      records = run ++ [.runState
        { newRunState env.now { d with runInfo := ri } .start with startedAt := ri.startedAt } 0] ++
        step := by
  rw [planFromRunStart] at h
  split at h
  · simp only [bind_eq_ok, wrap_eq_ok, pure_eq_ok] at h
    obtain ⟨ri, hri, run, hrun, step, hstep, rfl⟩ := h
    exact ⟨ri, run, step, hri, hrun, hstep, rfl⟩
  · simp at h

/-- The message that a step result names next, with its kind. -/
def DirectiveMessage.next? : DirectiveMessage → Option (DirectiveKind × DirectiveMessage)
  | .stepResult _ _ _ _ _ nextMsgKind nextMsg => some (nextMsgKind, nextMsg)
  | _ => none

/-- The parts of the batch of a step result: the records that close the step, and those of a
failure, of a parked cancel, or of the message that the result names next. -/
inductive ResultParts (cfg : Defaults) (env : Readings) (d : Directive) (sn : StateSnapshot) :
    List Record → List Record → Prop
  | fail {stepName : String} {error : ErrorDetails} {notes body : List Record}
      (hnotes : Records.stepFail env d sn.runState = .ok notes)
      (hbody : Records.failRun env (deriveNextDirective env d .fail (.fail error) sn) sn.runState =
        .ok body) (hnext : d.msg.next? = some (.failStep, .failStep stepName error)) :
      ResultParts cfg env d sn notes body
  | cancel {cancel : Directive} {nextMsgKind : DirectiveKind} {nextMsg : DirectiveMessage}
      {notes body : List Record} (hcancel : sn.runState.pendingCancel = some cancel)
      (hnotes : Records.stepComplete env d sn.runState = .ok notes)
      (hbody : Records.cancelRun env cancel sn.runState = .ok body)
      (hnext : d.msg.next? = some (nextMsgKind, nextMsg)) (hkind : nextMsgKind ≠ .failStep) :
      ResultParts cfg env d sn notes body
  | next {processedKind nextMsgKind : DirectiveKind} {processedMsg nextMsg : DirectiveMessage}
      {workerID : Option WorkerID} {durationMS : ℤ} {kvUpdates : Option KVUpdates}
      {notes body : List Record}
      (hmsg : d.msg = .stepResult processedKind processedMsg workerID durationMS kvUpdates
        nextMsgKind nextMsg)
      (hfree : sn.runState.pendingCancel = none)
      (hnotes : Records.stepComplete env d sn.runState = .ok notes)
      (hbody : planTransition cfg env (deriveNextDirective env d nextMsgKind nextMsg sn) sn =
        .ok body) : ResultParts cfg env d sn notes body

theorem planFromStepResult_eq_ok (h : planFromStepResult cfg env d sn = .ok records) :
    ∃ notes body, ResultParts cfg env d sn notes body ∧ records = notes ++ body := by
  rw [planFromStepResult] at h
  split at h
  · rename_i hmsg
    split_ifs at h with hkind
    · split at h
      · simp only [bind_eq_ok, wrap_eq_ok, pure_eq_ok] at h
        obtain ⟨notes, hnotes, body, hbody, rfl⟩ := h
        exact ⟨notes, body, .fail hnotes hbody (by rw [hmsg, hkind]; rfl), rfl⟩
      · simp at h
    · simp only [bind_eq_ok, wrap_eq_ok] at h
      obtain ⟨notes, hnotes, h⟩ := h
      split at h
      all_goals
        rename_i hcancel
        simp only [bind_eq_ok, wrap_eq_ok, pure_eq_ok] at h
        obtain ⟨body, hbody, rfl⟩ := h
      · exact ⟨notes, body, .cancel hcancel hnotes hbody (by rw [hmsg]; rfl) hkind, rfl⟩
      · exact ⟨notes, body, .next hmsg hcancel hnotes hbody, rfl⟩
  · simp at h

end Plan

end Grctl
