import Grctl.Run.Turn

/-!
# Plans of step results

A step result is planned in two parts: the records that close its step, and what is to happen
next. Whether the first part can be built depends on the result alone, on the step that it says
was processed. The second part is decided by a parked cancel, if there is one, and otherwise by
the message that the result names.

The errors that planning can return here are therefore those of the result itself, whatever the
state of the run: a result that has been planned once is planned in every other state as well.

## Main definitions

* `Directive.processedStep?`: the step that a result says was processed.

## Main results

* `finish_of_stepResult`: a parked cancel overrules what a result names next.
* `plan_of_handleRecords`: a result that has been planned in one state does not fail in another.
-/

namespace Grctl

/-- The message that a step result says was processed can be dispatched, so it names a step. -/
def Directive.processedStep? (d : Directive) : Option (String × UInt32) :=
  match d.msg with
  | .stepResult _ processedMsg _ _ _ _ _ => processedMsg.dispatchable?
  | _ => none

section Builders

variable {env : Readings} {d : Directive} {cur : RunState}

theorem Directive.msg_of_processedStep (h : d.processedStep?.isSome = true) :
    ∃ pk p worker ms kv nk n, d.msg = .stepResult pk p worker ms kv nk n := by
  cases hm : d.msg with
  | stepResult pk p worker ms kv nk n => exact ⟨pk, p, worker, ms, kv, nk, n, rfl⟩
  | _ => simp [Directive.processedStep?, hm] at h

/-- A cancel ends a run or, without a start time, panics; there is no error. -/
theorem cancelRun_cases (env : Readings) (cur : RunState)
    (hmsg : ∃ reason, d.msg = .cancel reason) :
    (∃ records, Records.cancelRun env d cur = .ok records) ∨
      Records.cancelRun env d cur = .error .nilDereference := by
  obtain ⟨reason, hreason⟩ := hmsg
  cases ht : d.runInfo.startedAt with
  | none =>
    right
    simp only [Records.cancelRun, RunInfo.cancel, wrap_ok, History.runCancelled, hreason,
      History.durationMS, ht]
    rfl
  | some t =>
    left
    simp only [Records.cancelRun, RunInfo.cancel, History.runCancelled, hreason,
      History.durationMS, ht, bind_eq_ok, wrap_eq_ok, pure_eq_ok]
    exact ⟨_, _, rfl, _, ⟨_, rfl, rfl⟩, rfl⟩

/-- A run is failed only if it has a start time. -/
theorem startedAt_of_failRun {records : List Record} (h : Records.failRun env d cur = .ok records) :
    ∃ t, d.runInfo.startedAt = some t := by
  obtain ⟨error, ri, e, -, hri, -⟩ := Records.failRun_eq_ok h
  rw [RunInfo.fail, RunInfo.finishStarted] at hri
  split at hri
  · simp at hri
  · exact ⟨_, ‹_›⟩

theorem exists_completeRun (env : Readings) (cur : RunState) {result : Value} {t : Time}
    (hmsg : d.msg = .complete result) (ht : d.runInfo.startedAt = some t) :
    ∃ records, Records.completeRun env d cur = .ok records := by
  simp only [Records.completeRun, hmsg, RunInfo.complete, RunInfo.finishStarted, ht,
    History.runCompleted, History.durationMS, bind_eq_ok, wrap_eq_ok, pure_eq_ok]
  exact ⟨_, _, rfl, _, ⟨_, rfl, rfl⟩, rfl⟩

theorem exists_stepComplete (env : Readings) (cur : RunState)
    (hproc : d.processedStep?.isSome = true) :
    ∃ records, Records.stepComplete env d cur = .ok records := by
  obtain ⟨pk, p, worker, ms, kv, nk, n, hm⟩ := d.msg_of_processedStep hproc
  rw [Directive.processedStep?, hm] at hproc
  obtain ⟨step, hstep⟩ := Option.isSome_iff_exists.mp hproc
  simp only [Records.stepComplete, hm, History.stepCompleted, History.procStepName, hstep,
    bind_eq_ok, wrap_eq_ok, pure_eq_ok]
  exact ⟨_, _, ⟨_, rfl, rfl⟩, rfl⟩

theorem isSome_of_procStepName {p : DirectiveMessage} {name : String}
    (h : History.procStepName p = .ok name) : p.dispatchable?.isSome = true := by
  rw [History.procStepName] at h
  split at h
  · rename_i hp
    rw [hp, Option.isSome_some]
  · simp at h

/-- A step is closed only if the result names one that was processed. -/
theorem processedStep_of_stepComplete {records : List Record}
    (h : Records.stepComplete env d cur = .ok records) : d.processedStep?.isSome = true := by
  obtain ⟨_, _, _, _, _, _, _, e, hm, he, -⟩ := Records.stepComplete_eq_ok h
  simp only [History.stepCompleted, bind_eq_ok, wrap_eq_ok] at he
  obtain ⟨name, hname, -⟩ := he
  rw [Directive.processedStep?, hm]
  exact isSome_of_procStepName hname

theorem processedStep_of_stepFail {records : List Record}
    (h : Records.stepFail env d cur = .ok records) : d.processedStep?.isSome = true := by
  obtain ⟨_, _, _, _, _, _, _, e, hm, he, -⟩ := Records.stepFail_eq_ok h
  simp only [History.stepFailed, bind_eq_ok, wrap_eq_ok] at he
  obtain ⟨name, hname, -⟩ := he
  rw [Directive.processedStep?, hm]
  exact isSome_of_procStepName hname

theorem exists_stepFail (env : Readings) (cur : RunState)
    (hproc : d.processedStep?.isSome = true) {pk nk : DirectiveKind} {p : DirectiveMessage}
    {worker : Option WorkerID} {ms : ℤ} {kv : Option KVUpdates} {name : String}
    {error : ErrorDetails}
    (hm : d.msg = .stepResult pk p worker ms kv nk (.failStep name error)) :
    ∃ records, Records.stepFail env d cur = .ok records := by
  rw [Directive.processedStep?, hm] at hproc
  obtain ⟨step, hstep⟩ := Option.isSome_iff_exists.mp hproc
  simp only [Records.stepFail, hm, History.stepFailed, History.procStepName, hstep, bind_eq_ok,
    wrap_eq_ok, pure_eq_ok]
  exact ⟨_, _, ⟨_, rfl, rfl⟩, rfl⟩

end Builders

section Plan

variable {cfg : Defaults} {env failEnv : Readings} {d cancel : Directive} {sn : StateSnapshot}
  {records : List Record}

variable {pk nk : DirectiveKind} {p n : DirectiveMessage} {worker : Option WorkerID} {ms : ℤ}
  {kv : Option KVUpdates}

theorem plan_of_stepResult (hlive : sn.runState.isTerminal = false) (hd : d.kind = .stepResult) :
    plan cfg env d sn = planFromStepResult cfg env d sn := by
  simp [plan, hlive, hd]

theorem planFromStepResult_of_cancel {notes : List Record}
    (hm : d.msg = .stepResult pk p worker ms kv nk n) (hnk : nk ≠ .failStep)
    (hnotes : Records.stepComplete env d sn.runState = .ok notes)
    (hcancel : sn.runState.pendingCancel = some cancel) :
    planFromStepResult cfg env d sn = (do
      let rest ← wrap "failed to build cancel run records"
        (Records.cancelRun env cancel sn.runState)
      return notes ++ rest) := by
  simp only [planFromStepResult, hm, if_neg hnk, hnotes, wrap_ok, hcancel]
  rfl

theorem planFromStepResult_of_next {notes : List Record}
    (hm : d.msg = .stepResult pk p worker ms kv nk n) (hnk : nk ≠ .failStep)
    (hnotes : Records.stepComplete env d sn.runState = .ok notes)
    (hfree : sn.runState.pendingCancel = none) :
    planFromStepResult cfg env d sn = (do
      let rest ← wrap "failed to build transition records"
        (planTransition cfg env (deriveNextDirective env d nk n sn) sn)
      return notes ++ rest) := by
  simp only [planFromStepResult, hm, if_neg hnk, hnotes, wrap_ok, hfree]
  rfl

/-- A step result that would go on with a run is overruled by a parked cancel. -/
theorem finish_of_stepResult (hlive : sn.runState.isTerminal = false) (hd : d.kind = .stepResult)
    (hproc : d.processedStep?.isSome = true) (hnext : d.nextKind? ≠ some .failStep)
    (hcancel : sn.runState.pendingCancel = some cancel)
    (hmsg : ∃ reason, cancel.msg = .cancel reason)
    (h : handleRecords cfg env failEnv d sn = .ok records) :
    ∃ s notes body, records = notes ++ body ∧ AllNotes notes ∧
      Finish cancel sn.runState .cancel s body := by
  obtain ⟨notes, hnotes⟩ := exists_stepComplete env sn.runState hproc
  obtain ⟨pk, p, worker, ms, kv, nk, n, hm⟩ := d.msg_of_processedStep hproc
  have hnk : nk ≠ .failStep := fun hk => hnext (hk ▸ Directive.nextKind?_of_msg hm)
  rw [handleRecords, plan_of_stepResult hlive hd,
    planFromStepResult_of_cancel hm hnk hnotes hcancel] at h
  rcases cancelRun_cases env sn.runState hmsg with ⟨body, hbody⟩ | hpanic
  · obtain ⟨s, hs, -⟩ := Records.finish_of_cancelRun hbody
    rw [hbody] at h
    cases h
    exact ⟨s, notes, body, rfl, (notes_of_stepComplete hd hnotes).1.allNotes, hs⟩
  · rw [hpanic] at h
    cases h

/-- What a result names next can be planned in every state, unless the run is to end and has no
start time. -/
theorem exists_planTransition_next {t : Time} (hagrees : n.agrees nk = true)
    (hnk : nk ∈ [DirectiveKind.step, .wait, .complete, .fail])
    (ht : d.runInfo.startedAt = some t) :
    ∃ records, planTransition cfg env (deriveNextDirective env d nk n sn) sn = .ok records := by
  simp only [List.mem_cons, List.not_mem_nil, or_false] at hnk
  rcases hnk with rfl | rfl | rfl | rfl <;> cases n <;> simp [DirectiveMessage.agrees] at hagrees
  · simp only [planTransition, deriveNextDirective, Records.stepStart, Records.repairRunInfo,
      DirectiveMessage.dispatchable?]
    exact exists_dispatch rfl
  · simp only [planTransition, deriveNextDirective, Records.wait, RunInfo.wait, History.waitStarted,
      bind_eq_ok, wrap_eq_ok, pure_eq_ok]
    exact ⟨_, _, rfl, _, rfl, rfl⟩
  · exact exists_completeRun (d := deriveNextDirective env d _ _ sn) env sn.runState rfl ht
  · obtain ⟨ri, e, hfail⟩ :=
      Records.exists_failRun (d := deriveNextDirective env d _ _ sn) env sn.runState rfl ht
    exact ⟨_, hfail⟩

/-- A step result that names a step which was processed is planned in every state: the errors that
planning could still return mean that the run has no start time, and then it cannot be failed
either. -/
theorem plan_of_handleRecords (hd : d.Decoded) (hkind : d.kind = .stepResult)
    (hproc : d.processedStep?.isSome = true) (hnext : d.NamesNext)
    (hcancel : ∀ c, sn.runState.pendingCancel = some c → ∃ reason, c.msg = .cancel reason)
    (h : handleRecords cfg env failEnv d sn = .ok records) : plan cfg env d sn = .ok records := by
  rw [handleRecords] at h
  split at h
  swap
  · exact h
  rename_i cause hplan
  exfalso
  obtain ⟨t, ht⟩ := startedAt_of_failRun h
  change d.runInfo.startedAt = some t at ht
  have hlive : sn.runState.isTerminal = false := by
    by_contra hterm
    simp [plan, Bool.not_eq_false _ ▸ hterm] at hplan
  rw [plan_of_stepResult hlive hkind] at hplan
  obtain ⟨pk, p, worker, ms, kv, nk, n, hm⟩ := d.msg_of_processedStep hproc
  have hagrees : n.agrees nk = true := by
    have := hd.2
    rw [hkind, hm, DirectiveMessage.agrees, Bool.and_eq_true] at this
    exact this.2
  by_cases hnk : nk = .failStep
  · subst hnk
    cases n <;> simp [DirectiveMessage.agrees] at hagrees
    rename_i name error
    obtain ⟨notes, hnotes⟩ := exists_stepFail env sn.runState hproc hm
    obtain ⟨ri, e, hbody⟩ := Records.exists_failRun
      (d := { deriveNextDirective env d .failStep (.failStep name error) sn with
        kind := .fail, msg := .fail error }) env sn.runState rfl ht
    simp only [planFromStepResult, hm, if_true, hnotes, wrap_ok, hbody] at hplan
    cases hplan
  · obtain ⟨notes, hnotes⟩ := exists_stepComplete env sn.runState hproc
    cases hc : sn.runState.pendingCancel with
    | some cancel =>
      rw [planFromStepResult_of_cancel hm hnk hnotes hc] at hplan
      rcases cancelRun_cases env sn.runState (hcancel cancel hc) with ⟨body, hbody⟩ | hpanic
      · rw [hbody] at hplan
        cases hplan
      · rw [hpanic] at hplan
        cases hplan
    | none =>
      rw [planFromStepResult_of_next hm hnk hnotes hc] at hplan
      have hmem := hnext nk (Directive.nextKind?_of_msg hm)
      obtain ⟨body, hbody⟩ : ∃ body,
          planTransition cfg env (deriveNextDirective env d nk n sn) sn = .ok body :=
        exists_planTransition_next hagrees (by simp_all) ht
      rw [hbody] at hplan
      cases hplan

end Plan

end Grctl
