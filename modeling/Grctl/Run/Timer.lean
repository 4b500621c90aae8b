import Grctl.Run.Manager

/-!
# Fired timers

`TimerMsgHandler.Handle` turns a fired timer into a directive for the run manager
(`run/timer.go`): a timeout of the step or wait the timer was set for, or, when the timer has been
delivered too often or does not fit its kind, a failure of the run. It looks at the timer alone;
whether the run is still in the step or wait is left to the record builders.

A publication that fails is retried and has no other effect, so the handler is modelled as the
directive it publishes.

## Main definitions

* `TimerMsgHandler.handle`: the directive a fired timer is turned into, if any.
* `TimerMsgHandler.fire`: a fired timer and the handling of its directive.
-/

namespace Grctl.TimerMsgHandler

/-- `buildStepTimeoutDirective`; the directive has no timestamp. -/
def buildStepTimeoutDirective (newID : DirectiveID) (timer : Timer) : Except String Directive :=
  match timer.directive.msg.dispatchable? with
  | none => .error ("expected DispatchableMessage directive but got " ++ timer.directive.msg.goType)
  | some (stepName, _) =>
    .ok
      { id := newID
        kind := .stepTimeout
        runInfo := timer.directive.runInfo
        msg := .stepTimeout stepName timer.directive.id }

/-- `buildWaitTimeoutDirective`; the directive has no timestamp. -/
def buildWaitTimeoutDirective (newID : DirectiveID) (timer : Timer) : Except String Directive :=
  match timer.directive.msg with
  | .wait _ timeoutStepName =>
    .ok
      { id := newID
        kind := .waitTimeout
        runInfo := timer.directive.runInfo
        msg := .waitTimeout timeoutStepName timer.directive.id }
  | m => .error ("expected Wait but got " ++ m.goType)

/-- The directive `applyFailure` publishes. -/
def applyFailure (env : Readings) (d : Directive) (cause : String) : Directive where
  id := env.newID
  timestamp := env.now
  kind := .fail
  runInfo := d.runInfo
  msg := .fail { type := "TimerExhausted", message := cause }

/-- The directive `handleStepTimeout` publishes. -/
def handleStepTimeout (env : Readings) (timer : Timer) : Directive :=
  match buildStepTimeoutDirective env.newID timer with
  | .ok d => d
  | .error err =>
    applyFailure env timer.directive ("failed to build step timeout directive: " ++ err)

/-- The directive `handleWaitTimeout` publishes. -/
def handleWaitTimeout (env : Readings) (timer : Timer) : Directive :=
  match buildWaitTimeoutDirective env.newID timer with
  | .ok d => d
  | .error err =>
    applyFailure env timer.directive ("failed to build wait timeout directive: " ++ err)

/-- `handleDirectiveTimer`. -/
def handleDirectiveTimer (maxDeliveries : ℕ) (env : Readings) (timer : Timer) (numDelivered : ℕ) :
    Option Directive :=
  if numDelivered > maxDeliveries then
    some (applyFailure env timer.directive
      ("timer " ++ timer.id ++ " exceeded max delivery count " ++ toString maxDeliveries))
  else match timer.kind with
    | .stepTimeout => some (handleStepTimeout env timer)
    | .waitTimeout => some (handleWaitTimeout env timer)
    | .other _ => none

/-- `TimerMsgHandler.Handle`: timers without a directive are dropped, those with a command too. -/
def handle (maxDeliveries : ℕ) (env : Readings) (timer : Timer) (numDelivered : ℕ) :
    Option Directive :=
  if timer.directive.id ≠ "" then handleDirectiveTimer maxDeliveries env timer numDelivered
  else none

/-- A fired timer, followed by `Manager.Handle` on the directive it publishes, when nothing else
happens meanwhile. A directive that the stream does not take is not handled. -/
def fire (cfg : Manager.Config) (timerEnv env failEnv : Readings) (timer : Timer)
    (numDelivered : ℕ) (l : Stream) : Outcome Stream :=
  match handle cfg.maxTimerDeliveries timerEnv timer numDelivered with
  | none => .ok l
  | some d =>
    if d.subject.Taken then
      (Manager.handle cfg env failEnv d (publishDirective cfg.dup l d)).map (·.stream)
    else .ok l

variable {env : Readings} {timer : Timer} {d : Directive} {n m : ℕ}

/-- The directives that a fired timer is turned into. -/
inductive FiredAs (env : Readings) (timer : Timer) : Directive → Prop
  | stepTimeout {stepName : String} (hkind : timer.kind = .stepTimeout) :
      FiredAs env timer
        { id := env.newID, kind := .stepTimeout, runInfo := timer.directive.runInfo,
          msg := .stepTimeout stepName timer.directive.id }
  | waitTimeout {timeoutStepName : String} (hkind : timer.kind = .waitTimeout) :
      FiredAs env timer
        { id := env.newID, kind := .waitTimeout, runInfo := timer.directive.runInfo,
          msg := .waitTimeout timeoutStepName timer.directive.id }
  | failure {cause : String} : FiredAs env timer (applyFailure env timer.directive cause)

theorem FiredAs.runInfo (h : FiredAs env timer d) : d.runInfo = timer.directive.runInfo := by
  cases h <;> rfl

theorem FiredAs.id (h : FiredAs env timer d) : d.id = env.newID := by
  cases h <;> rfl

theorem FiredAs.agrees (h : FiredAs env timer d) : d.msg.agrees d.kind = true := by
  cases h <;> rfl

theorem firedAs_handleStepTimeout (hkind : timer.kind = .stepTimeout) :
    FiredAs env timer (handleStepTimeout env timer) := by
  unfold handleStepTimeout buildStepTimeoutDirective
  cases timer.directive.msg.dispatchable? with
  | none => exact .failure
  | some p => exact .stepTimeout hkind

theorem firedAs_handleWaitTimeout (hkind : timer.kind = .waitTimeout) :
    FiredAs env timer (handleWaitTimeout env timer) := by
  unfold handleWaitTimeout buildWaitTimeoutDirective
  cases timer.directive.msg with
  | wait => exact .waitTimeout hkind
  | _ => exact .failure

/-- What a fired timer publishes is one of the directives for its kind. -/
theorem firedAs_of_handle (h : handle m env timer n = some d) : FiredAs env timer d := by
  simp only [handle, handleDirectiveTimer] at h
  split_ifs at h
  · cases h
    exact .failure
  · cases hkind : timer.kind with
    | stepTimeout =>
      simp only [hkind, Option.some.injEq] at h
      exact h ▸ firedAs_handleStepTimeout hkind
    | waitTimeout =>
      simp only [hkind, Option.some.injEq] at h
      exact h ▸ firedAs_handleWaitTimeout hkind
    | other name => simp [hkind] at h

/-- A step or wait timer with a directive publishes one of these. -/
theorem exists_handle (hid : timer.directive.id ≠ "")
    (hkind : timer.kind = .stepTimeout ∨ timer.kind = .waitTimeout) :
    ∃ d, handle m env timer n = some d ∧ FiredAs env timer d := by
  obtain ⟨d, hd⟩ : ∃ d, handle m env timer n = some d := by
    simp only [handle, if_pos hid, handleDirectiveTimer]
    split_ifs
    · exact ⟨_, rfl⟩
    · rcases hkind with hkind | hkind <;> simp only [hkind] <;> exact ⟨_, rfl⟩
  exact ⟨d, hd, firedAs_of_handle hd⟩

end Grctl.TimerMsgHandler
