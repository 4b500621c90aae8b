import Grctl.Run.Plan

/-!
# Missing values

A directive carries a copy of the description of its run, made when the directive was published.
The copy may lack a start time, and the builders treat that differently: completing or failing a
run refuses it with an error, terminating looks first, dispatching a step repairs it from the run
state, and cancelling dereferences it.

So planning can only panic on a cancel without a start time, handled directly or after it was
parked in the run state.

## Main definitions

* `NoPanic`: a call returns a value or an error.

## Main results

* `noPanic_plan`, `noPanic_buildUnexpectedFailure`.
-/

namespace Grctl

/-- The call does not panic. -/
def NoPanic {α : Type} (x : Outcome α) : Prop := ∀ f, x = .error f → ∃ message, f = .error message

section Calls

variable {α β : Type} {x : Outcome α} {f : α → Outcome β}

@[simp] theorem noPanic_ok (a : α) : NoPanic (.ok a) := fun _ h => by cases h

@[simp] theorem noPanic_pure (a : α) : NoPanic (pure a : Outcome α) := noPanic_ok a

@[simp] theorem noPanic_fail (message : String) : NoPanic (fail message : Outcome α) := by
  rintro _ ⟨⟩
  exact ⟨message, rfl⟩

@[simp] theorem noPanic_wrap {context : String} : NoPanic (wrap context x) ↔ NoPanic x := by
  rcases x with (_ | _ | _) | _ <;> simp [NoPanic, wrap]

theorem NoPanic.bind (hx : NoPanic x) (hf : ∀ a, x = .ok a → NoPanic (f a)) :
    NoPanic (x >>= f) := by
  cases x with
  | error e =>
    rintro _ ⟨⟩
    exact hx e rfl
  | ok a => exact hf a rfl

/-- The rule for a call in the middle of a function, whose error is given a context. -/
theorem NoPanic.wrap_bind {context : String} (hx : NoPanic x)
    (hf : ∀ a, x = .ok a → NoPanic (f a)) : NoPanic (wrap context x >>= f) :=
  (noPanic_wrap.mpr hx).bind fun a ha => hf a (wrap_eq_ok.mp ha)

end Calls

variable {cfg : Defaults} {env failEnv : Readings} {now : Time} {d : Directive} {cur : RunState}
  {sn : StateSnapshot}

/-! ### History events -/

namespace History

theorem noPanic_durationMS (h : d.runInfo.startedAt ≠ none) : NoPanic (durationMS d) := by
  rw [durationMS]
  split
  · contradiction
  · simp

theorem noPanic_runStarted : NoPanic (runStarted d now) := by
  rw [runStarted]
  split <;> simp

theorem noPanic_runCompleted (h : d.runInfo.startedAt ≠ none) : NoPanic (runCompleted d) := by
  rw [runCompleted]
  split
  · exact (noPanic_durationMS h).bind fun _ _ => noPanic_pure _
  · simp

theorem noPanic_runFailed (h : d.runInfo.startedAt ≠ none) : NoPanic (runFailed d) := by
  rw [runFailed]
  split
  · exact (noPanic_durationMS h).bind fun _ _ => noPanic_pure _
  · simp

theorem noPanic_runCancelReceived : NoPanic (runCancelReceived d) := by
  rw [runCancelReceived]
  split <;> simp

theorem noPanic_runTerminated : NoPanic (runTerminated d) := by
  rw [runTerminated]
  split <;> simp

theorem noPanic_runCancelled (h : d.runInfo.startedAt ≠ none) : NoPanic (runCancelled d) := by
  rw [runCancelled]
  split
  · exact (noPanic_durationMS h).bind fun _ _ => noPanic_pure _
  · simp

theorem noPanic_stepPickedUp : NoPanic (stepPickedUp d) := by
  rw [stepPickedUp]
  split <;> simp

theorem noPanic_procStepName {p : DirectiveMessage} : NoPanic (procStepName p) := by
  rw [procStepName]
  split <;> simp

theorem noPanic_stepCompleted {p : DirectiveMessage} {w : Option WorkerID} {ms : ℤ} :
    NoPanic (stepCompleted now d p w ms) :=
  noPanic_procStepName.wrap_bind fun _ _ => noPanic_pure _

theorem noPanic_stepFailed {p next : DirectiveMessage} {ms : ℤ} :
    NoPanic (stepFailed now d p ms next) := by
  refine noPanic_procStepName.wrap_bind fun _ _ => ?_
  split <;> simp

theorem noPanic_stepTimedout : NoPanic (stepTimedout now d cur) := by
  rw [stepTimedout]
  split <;> simp

theorem noPanic_waitTimedOut : NoPanic (waitTimedOut now d) := by
  rw [waitTimedOut]
  split <;> simp

theorem noPanic_waitStarted : NoPanic (waitStarted now d) := by
  rw [waitStarted]
  split <;> simp

theorem noPanic_eventReceived : NoPanic (eventReceived now d) := by
  rw [eventReceived]
  split <;> simp

end History

/-! ### Record builders -/

namespace Records

/-- Completing and failing a run check the start time before they use it. -/
theorem noPanic_finishStarted {α : Type} {context : String} {status : RunStatus}
    {k : RunInfo → Outcome α} (hk : ∀ ri, d.runInfo.startedAt ≠ none → NoPanic (k ri)) :
    NoPanic (wrap context (d.runInfo.finishStarted status d.timestamp) >>= k) := by
  rw [RunInfo.finishStarted]
  split
  · exact (noPanic_fail _).wrap_bind fun _ h => by simp at h
  · rename_i t ht
    exact (noPanic_ok _).wrap_bind fun ri _ => hk ri (by simp [ht])

theorem noPanic_completeRun : NoPanic (completeRun env d cur) :=
  noPanic_finishStarted fun _ h =>
    (History.noPanic_runCompleted h).wrap_bind fun _ _ => noPanic_pure _

theorem noPanic_failRun : NoPanic (failRun env d cur) := by
  rw [failRun]
  split
  · exact noPanic_finishStarted fun _ h =>
      (History.noPanic_runFailed h).wrap_bind fun _ _ => noPanic_pure _
  · simp

theorem noPanic_terminateRun : NoPanic (terminateRun env d cur) :=
  (noPanic_ok _).wrap_bind fun _ _ =>
    History.noPanic_runTerminated.wrap_bind fun _ _ => noPanic_pure _

theorem noPanic_cancelReceived : NoPanic (cancelReceived d cur) :=
  History.noPanic_runCancelReceived.wrap_bind fun _ _ => noPanic_pure _

/-- Cancelling a run needs a start time and does not look for it first. -/
theorem noPanic_cancelRun (h : d.runInfo.startedAt ≠ none) : NoPanic (cancelRun env d cur) :=
  (noPanic_ok _).wrap_bind fun _ _ =>
    (History.noPanic_runCancelled h).wrap_bind fun _ _ => noPanic_pure _

theorem noPanic_dispatch {name : String} {cursor : ℕ} {t : UInt32} :
    NoPanic (dispatch env d name cur cursor t) := by
  refine NoPanic.bind ?_ fun _ _ => (noPanic_ok _).wrap_bind fun _ _ => noPanic_pure _
  rw [noPanic_wrap]
  rw [stepTimeoutTimer]
  split <;> simp

theorem noPanic_stepStart {t : UInt32} : NoPanic (stepStart env d cur t) := by
  simp only [stepStart]
  split
  · simp
  · exact noPanic_dispatch

theorem noPanic_eventStart {t : UInt32} : NoPanic (eventStart env d cur t) := by
  simp only [eventStart]
  split
  · exact noPanic_dispatch
  · simp

theorem noPanic_stepPickedUp : NoPanic (stepPickedUp d cur) := by
  rw [stepPickedUp]
  split
  · exact History.noPanic_stepPickedUp.wrap_bind fun _ _ => noPanic_pure _
  · simp

theorem noPanic_stepComplete : NoPanic (stepComplete env d cur) := by
  rw [stepComplete]
  split
  · exact History.noPanic_stepCompleted.wrap_bind fun _ _ => noPanic_pure _
  · simp

theorem noPanic_stepFail : NoPanic (stepFail env d cur) := by
  rw [stepFail]
  split
  · split
    · exact History.noPanic_stepFailed.wrap_bind fun _ _ => noPanic_pure _
    · simp
  · simp

theorem noPanic_stepTimeout : NoPanic (stepTimeout env d cur) := by
  rw [stepTimeout]
  split
  · split_ifs
    · simp
    · exact History.noPanic_stepTimedout.wrap_bind fun _ _ =>
        noPanic_failRun.wrap_bind fun _ _ => noPanic_pure _
  · simp

theorem noPanic_wait {t : UInt32} : NoPanic (wait env d sn t) := by
  rw [wait]
  split
  · exact (noPanic_ok _).wrap_bind fun _ _ =>
      History.noPanic_waitStarted.wrap_bind fun _ _ => noPanic_pure _
  · simp

theorem noPanic_eventReceived : NoPanic (eventReceived env d sn) := by
  rw [eventReceived]
  split
  · exact History.noPanic_eventReceived.wrap_bind fun _ _ => noPanic_pure _
  · simp

theorem noPanic_waitTimeout {t : UInt32} : NoPanic (waitTimeout env d cur t) := by
  rw [waitTimeout]
  split
  · split_ifs
    · simp
    · exact History.noPanic_waitTimedOut.wrap_bind fun _ _ =>
        noPanic_stepStart.wrap_bind fun _ _ => noPanic_pure _
    · exact History.noPanic_waitTimedOut.wrap_bind fun _ _ =>
        noPanic_failRun.wrap_bind fun _ _ => noPanic_pure _
  · simp

theorem noPanic_start (h : d.runInfo.startedAt ≠ none) : NoPanic (start d) := by
  rw [start]
  split
  · contradiction
  · exact History.noPanic_runStarted.wrap_bind fun _ _ => noPanic_pure _

end Records

/-! ### The plan -/

theorem noPanic_planTransition : NoPanic (planTransition cfg env d sn) := by
  rw [planTransition]
  split
  · exact Records.noPanic_stepStart
  · exact Records.noPanic_stepPickedUp
  · exact Records.noPanic_eventStart
  · exact Records.noPanic_stepTimeout
  · exact Records.noPanic_completeRun
  · exact Records.noPanic_failRun
  · exact Records.noPanic_terminateRun
  · exact Records.noPanic_wait
  · exact Records.noPanic_waitTimeout
  · simp

theorem noPanic_planFromRunStart : NoPanic (planFromRunStart cfg env d) := by
  rw [planFromRunStart]
  split
  · refine (noPanic_ok _).wrap_bind fun ri hri => ?_
    have hstarted : ri.startedAt ≠ none := by
      simp [(RunInfo.sameRun_of_start hri).2.1]
    exact (Records.noPanic_start hstarted).wrap_bind fun _ _ =>
      Records.noPanic_stepStart.wrap_bind fun _ _ => noPanic_pure _
  · simp

theorem noPanic_planFromStepResult
    (hpending : ∀ c, sn.runState.pendingCancel = some c → c.runInfo.startedAt ≠ none) :
    NoPanic (planFromStepResult cfg env d sn) := by
  rw [planFromStepResult]
  split
  · split_ifs
    · split
      · exact Records.noPanic_stepFail.wrap_bind fun _ _ =>
          Records.noPanic_failRun.wrap_bind fun _ _ => noPanic_pure _
      · simp
    · refine Records.noPanic_stepComplete.wrap_bind fun _ _ => ?_
      split
      · rename_i c hc
        exact (Records.noPanic_cancelRun (hpending c hc)).wrap_bind
          fun _ _ => noPanic_pure _
      · exact noPanic_planTransition.wrap_bind fun _ _ => noPanic_pure _
  · simp

/-- Planning does not panic when cancels, handled or parked, know when their run was started. -/
theorem noPanic_plan (hcancel : d.kind = .cancel → d.runInfo.startedAt ≠ none)
    (hpending : ∀ c, sn.runState.pendingCancel = some c → c.runInfo.startedAt ≠ none) :
    NoPanic (plan cfg env d sn) := by
  rw [plan]
  split_ifs
  · simp
  · split
    · exact noPanic_planFromRunStart
    · exact noPanic_planFromStepResult hpending
    · rename_i hkind
      rw [planCancel]
      split_ifs
      · exact Records.noPanic_cancelReceived
      · exact Records.noPanic_cancelRun (hcancel hkind)
    · exact Records.noPanic_eventReceived
    · rw [planWakeFromInbox]
      split_ifs
      · simp
      · exact noPanic_planTransition
    · exact noPanic_planTransition

theorem noPanic_buildUnexpectedFailure {cause : String} :
    NoPanic (Records.buildUnexpectedFailure env d cause cur) :=
  Records.noPanic_failRun

end Grctl
