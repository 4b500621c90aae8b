import Grctl.Run.Turn

/-!
# The runs that a batch is about

Every record but a background task names a run: it is stored under the identifiers of that run, or
carries a description of it. The builders take these identifiers from two places, the directive
they turn into records and the state of the run. A directive may hand a builder another one than
itself: a parked cancellation, or the event that a wake-up dispatches.

## Main definitions

* `Record.scope?`: the run that a record names.
* `Within`: records that name certain runs only.

## Main results

* `within_of_handleRecords`, `within_of_handleRecords_own`: the runs that the batch of a directive
  can be about.
-/

namespace Grctl

/-- The identifiers of a run. -/
abbrev RunKey := WFID × RunID

/-- The run of a description. -/
def RunInfo.key (ri : RunInfo) : RunKey := (ri.wfID, ri.id)

/-- The run of a state. -/
def RunState.key (s : RunState) : RunKey := (s.wfID, s.runID)

/-- The run that a record names. -/
def Record.scope? : Record → Option RunKey
  | .runInfo info _ => some info.key
  | .runInput wfID runID _ | .runOutput wfID runID _ | .runError wfID runID _ | .kv wfID runID _ =>
    some (wfID, runID)
  | .runState s _ => some s.key
  | .timer t => some (t.wfID, t.directive.runInfo.id)
  | .history h => some (h.wfID, h.runID)
  | .inbox d | .workerTask d | .directive d => some d.runInfo.key
  | .backgroundTask _ => none

/-- All records name one of the given runs, or none. -/
def Within (keys : List RunKey) (records : List Record) : Prop :=
  ∀ r ∈ records, ∀ key ∈ r.scope?, key ∈ keys

section Within

variable {keys keys' : List RunKey} {records records' : List Record} {r : Record}

@[simp] theorem within_nil : Within keys [] := by simp [Within]

@[simp] theorem within_cons :
    Within keys (r :: records) ↔ (∀ key ∈ r.scope?, key ∈ keys) ∧ Within keys records :=
  List.forall_mem_cons

@[simp] theorem within_append :
    Within keys (records ++ records') ↔ Within keys records ∧ Within keys records' :=
  List.forall_mem_append

theorem Within.mono (h : Within keys records) (hsub : keys ⊆ keys') : Within keys' records :=
  fun r hr key hkey => hsub (h r hr key hkey)

end Within

theorem RunInfo.SameRun.key_eq {ri ri' : RunInfo} (h : ri.SameRun ri') : ri.key = ri'.key := by
  rw [key, key, h.wfID, h.id]

theorem History.About.key_eq {d : Directive} {k : HistoryKind} {e : HistoryEvent}
    (h : History.About d k e) : (e.wfID, e.runID) = d.runInfo.key := by
  rw [h.wfID, h.runID]
  rfl

namespace Records

variable {env : Readings} {d : Directive} {cur : RunState} {sn : StateSnapshot}
  {records : List Record} {timeoutMS : UInt32}

@[simp] theorem within_parentCallbackRecords {keys : List RunKey} {status : RunStatus}
    {result : Value} {error : Option ErrorDetails} :
    Within keys (parentCallbackRecords d status result error) := by
  unfold parentCallbackRecords
  split <;> simp [Record.scope?]

@[simp] theorem within_workerTerminateRecords {keys : List RunKey} :
    Within keys (workerTerminateRecords d cur) := by
  unfold workerTerminateRecords
  split <;> simp [Record.scope?]

@[simp] theorem within_outputRecords {keys : List RunKey} {v : Value} :
    Within (d.runInfo.key :: keys) (outputRecords d v) := by
  unfold outputRecords
  split <;> simp [Record.scope?, RunInfo.key]

@[simp] theorem within_kvRecords {keys : List RunKey} {kv : Option KVUpdates} :
    Within (d.runInfo.key :: keys) (kvRecords d kv) := by
  cases kv <;> simp [kvRecords, Record.scope?, RunInfo.key]

/-- The end of a run: what the four terminal builders have in common. -/
theorem within_end {now : Time} {kind : RunStateKind} {k : HistoryKind} {ri : RunInfo}
    {e : HistoryEvent} {rest : List Record} {n : ℕ} (hri : ri.SameRun d.runInfo)
    (he : History.About d k e) (hrest : Within [d.runInfo.key, cur.key] rest) :
    Within [d.runInfo.key, cur.key]
      (.runInfo ri 0 :: .history e :: .runState (finished now cur kind) n :: rest) := by
  simp only [within_cons, Record.scope?, Option.mem_some_iff, forall_eq', hri.key_eq, he.key_eq]
  exact ⟨by simp, by simp, by simp [finished, RunState.key], hrest⟩

theorem within_completeRun (h : completeRun env d cur = .ok records) :
    Within [d.runInfo.key, cur.key] records := by
  obtain ⟨result, ri, e, -, hri, he, rfl⟩ := completeRun_eq_ok h
  exact within_end (RunInfo.sameRun_of_finishStarted hri).1 (History.about_of_runCompleted he)
    (by simp [purgeRecord, Record.scope?])

theorem within_failRun (h : failRun env d cur = .ok records) :
    Within [d.runInfo.key, cur.key] records := by
  obtain ⟨error, ri, e, -, hri, he, rfl⟩ := failRun_eq_ok h
  exact within_end (RunInfo.sameRun_of_finishStarted hri).1 (History.about_of_runFailed he)
    (by simp [purgeRecord, Record.scope?, RunInfo.key])

theorem within_terminateRun (h : terminateRun env d cur = .ok records) :
    Within [d.runInfo.key, cur.key] records := by
  obtain ⟨reason, ri, e, -, hri, he, rfl⟩ := terminateRun_eq_ok h
  cases hri
  exact within_end ⟨rfl, rfl, rfl⟩ (History.about_of_runTerminated he)
    (by simp [purgeRecord, Record.scope?])

theorem within_cancelRun (h : cancelRun env d cur = .ok records) :
    Within [d.runInfo.key, cur.key] records := by
  obtain ⟨reason, ri, e, -, hri, he, rfl⟩ := cancelRun_eq_ok h
  cases hri
  exact within_end ⟨rfl, rfl, rfl⟩ (History.about_of_runCancelled he)
    (by simp [purgeRecord, Record.scope?])

/-- An event of the history that is followed by a change of the state. -/
theorem within_receipt {k : HistoryKind} {e : HistoryEvent} {s : RunState} {n : ℕ}
    (he : History.About d k e) (hs : s.key = cur.key) :
    Within [d.runInfo.key, cur.key] [.history e, .runState s n] := by
  simp [Record.scope?, he.key_eq, hs]

theorem within_dispatch {name : String} {cursor : ℕ}
    (h : dispatch env d name cur cursor timeoutMS = .ok records) :
    Within [d.runInfo.key, cur.key] records := by
  simp only [dispatch, bind_eq_ok, wrap_eq_ok, pure_eq_ok] at h
  obtain ⟨timer, htimer, ri, hri, rfl⟩ := h
  have hkey := (RunInfo.sameRun_of_startStep hri).1.key_eq
  have htimer : timer.wfID = d.runInfo.wfID ∧ timer.directive = d := by
    rw [stepTimeoutTimer] at htimer
    split at htimer
    · simp at htimer
    · cases htimer
      exact ⟨rfl, rfl⟩
  have hkeys : (timer.wfID, timer.directive.runInfo.id) = d.runInfo.key := by
    rw [htimer.1, htimer.2]
    rfl
  simp only [within_cons, Record.scope?, Option.mem_some_iff, forall_eq', hkey, hkeys]
  exact ⟨by simp, by simp, by simp, by simp [RunState.key], within_nil⟩

theorem within_stepStart (h : stepStart env d cur timeoutMS = .ok records) :
    Within [d.runInfo.key, cur.key] records := by
  obtain ⟨name, h⟩ := stepStart_eq_ok h
  exact (within_dispatch h :)

theorem within_eventStart (h : eventStart env d cur timeoutMS = .ok records) :
    Within [d.runInfo.key, cur.key] records := by
  obtain ⟨e, -, h⟩ := eventStart_eq_ok h
  exact (within_dispatch h :)

theorem within_wait (h : wait env d sn timeoutMS = .ok records) :
    Within [d.runInfo.key, sn.runState.key] records := by
  obtain ⟨t, name, ri, e, -, hri, he, rfl⟩ := wait_eq_ok h
  cases hri
  have hkey := (History.about_of_waitStarted he).key_eq
  split_ifs <;>
    simp [Record.scope?, hkey, RunInfo.key, RunState.key, createWaitTimeoutTimer, wakeDirective]

theorem within_cons_history {k : HistoryKind} {e : HistoryEvent} (he : History.About d k e)
    (h : Within [d.runInfo.key, cur.key] records) :
    Within [d.runInfo.key, cur.key] (.history e :: records) := by
  simp only [within_cons, Record.scope?, Option.mem_some_iff, forall_eq', he.key_eq]
  exact ⟨by simp, h⟩

theorem within_stepTimeout (h : stepTimeout env d cur = .ok records) :
    Within [d.runInfo.key, cur.key] records := by
  obtain ⟨name, error, e, body, -, -, he, hbody, rfl⟩ := stepTimeout_eq_ok h
  exact within_cons_history (History.about_of_stepTimedout he) (within_failRun hbody :)

theorem within_waitTimeout (h : waitTimeout env d cur timeoutMS = .ok records) :
    Within [d.runInfo.key, cur.key] records := by
  obtain ⟨name, e, body, -, -, he, rfl, hbody⟩ := waitTimeout_eq_ok h
  refine within_cons_history (History.about_of_waitTimedOut he) ?_
  rcases hbody with hbody | ⟨error, hbody⟩
  · exact (within_stepStart hbody :)
  · exact (within_failRun hbody :)

/-- What closes a step before the transition of a step result. -/
theorem within_step {k : HistoryKind} {e : HistoryEvent} {kv : Option KVUpdates}
    (he : History.About d k e) :
    Within [d.runInfo.key, cur.key]
      (kvRecords d kv ++ [.history e] ++ deleteStepTimeoutTimer d cur) := by
  simp [Record.scope?, he.key_eq, deleteStepTimeoutTimer]

end Records

section Plan

variable {cfg : Defaults} {env failEnv : Readings} {d : Directive} {sn : StateSnapshot}
  {records : List Record}

theorem within_planTransition (h : planTransition cfg env d sn = .ok records) :
    Within [d.runInfo.key, sn.runState.key] records := by
  rw [planTransition] at h
  split at h
  · exact Records.within_stepStart h
  · obtain ⟨worker, e, he, rfl⟩ := Records.stepPickedUp_eq_ok h
    exact Records.within_receipt (History.about_of_stepPickedUp he) rfl
  · exact Records.within_eventStart h
  · exact Records.within_stepTimeout h
  · exact Records.within_completeRun h
  · exact Records.within_failRun h
  · exact Records.within_terminateRun h
  · exact Records.within_wait h
  · exact Records.within_waitTimeout h
  · simp at h

/-- The runs that a directive can change: its own, the one its snapshot shows, that of a parked
cancellation, and that of an event it dispatches. -/
def scopeOf (d : Directive) (sn : StateSnapshot) : List RunKey :=
  [d.runInfo.key, sn.runState.key] ++
    (if d.kind = .stepResult then (sn.runState.pendingCancel.map (·.runInfo.key)).toList else []) ++
    if d.kind = .wakeFromInbox then [sn.event.runInfo.key] else []

theorem own_subset_scopeOf (d : Directive) (sn : StateSnapshot) :
    [d.runInfo.key, sn.runState.key] ⊆ scopeOf d sn := by
  intro key hkey
  simp only [scopeOf, List.mem_append]
  exact .inl (.inl hkey)

theorem within_planFromStepResult (hd : d.kind = .stepResult)
    (h : planFromStepResult cfg env d sn = .ok records) : Within (scopeOf d sn) records := by
  have hown := own_subset_scopeOf d sn
  obtain ⟨notes, body, hparts, rfl⟩ := planFromStepResult_eq_ok h
  rw [within_append]
  cases hparts with
  | fail hnotes hbody =>
    obtain ⟨_, _, _, _, _, _, _, e, -, he, rfl⟩ := Records.stepFail_eq_ok hnotes
    exact ⟨(Records.within_step (History.about_of_stepFailed he)).mono hown,
      (Records.within_failRun hbody).mono hown⟩
  | cancel hcancel hnotes hbody =>
    obtain ⟨_, _, _, _, _, _, _, e, -, he, rfl⟩ := Records.stepComplete_eq_ok hnotes
    refine ⟨(Records.within_step (History.about_of_stepCompleted he)).mono hown,
      (Records.within_cancelRun hbody).mono ?_⟩
    simp [scopeOf, hd, hcancel]
  | next hmsg hfree hnotes hbody =>
    obtain ⟨_, _, _, _, _, _, _, e, -, he, rfl⟩ := Records.stepComplete_eq_ok hnotes
    exact ⟨(Records.within_step (History.about_of_stepCompleted he)).mono hown,
      (within_planTransition hbody).mono hown⟩

theorem within_start (h : Records.start d = .ok records) : Within [d.runInfo.key] records := by
  rw [Records.start] at h
  split at h
  · cases h
  · simp only [bind_eq_ok, wrap_eq_ok, pure_eq_ok] at h
    obtain ⟨e, he, rfl⟩ := h
    have hkey := (History.about_of_runStarted he).key_eq
    simp only [within_append, within_cons, Record.scope?, Option.mem_some_iff, forall_eq', hkey]
    refine ⟨⟨by simp, by simp, within_nil⟩, ?_⟩
    split <;> simp [Record.scope?, RunInfo.key]

theorem within_planFromRunStart (h : planFromRunStart cfg env d = .ok records) :
    Within [d.runInfo.key] records := by
  obtain ⟨ri, run, step, hri, hrun, hstep, rfl⟩ := planFromRunStart_eq_ok h
  have hkey : ri.key = d.runInfo.key := (RunInfo.sameRun_of_start hri).1.key_eq
  have hrun := within_start hrun
  have hstep := Records.within_stepStart hstep
  simp only [newRunState, RunState.key] at hstep
  rw [← hkey, within_append, within_append]
  refine ⟨⟨hrun, ?_⟩, hstep.mono ?_⟩
  · simp [Record.scope?, RunState.key, newRunState, RunInfo.key]
  · simp [RunInfo.key]

theorem within_eventReceived (h : Records.eventReceived env d sn = .ok records) :
    Within [d.runInfo.key] records := by
  obtain ⟨e, he, rfl⟩ := Records.eventReceived_eq_ok h
  have hkey := (History.about_of_eventReceived he).key_eq
  split_ifs <;> simp [Record.scope?, hkey, Records.wakeDirective]

theorem within_planCancel (h : planCancel env d sn = .ok records) :
    Within [d.runInfo.key, sn.runState.key] records := by
  rw [planCancel] at h
  split_ifs at h
  · obtain ⟨e, he, rfl⟩ := Records.cancelReceived_eq_ok h
    exact Records.within_receipt (History.about_of_runCancelReceived he) rfl
  · exact Records.within_cancelRun h

theorem within_plan (h : plan cfg env d sn = .ok records) : Within (scopeOf d sn) records := by
  have hown := own_subset_scopeOf d sn
  have hself : [d.runInfo.key] ⊆ scopeOf d sn := by simp [scopeOf]
  rw [plan] at h
  split_ifs at h
  · cases h
    exact within_nil
  · split at h
    · exact (within_planFromRunStart h).mono hself
    · rename_i hd
      exact within_planFromStepResult hd h
    · exact (within_planCancel h).mono hown
    · exact (within_eventReceived h).mono hself
    · rename_i hd
      rw [planWakeFromInbox] at h
      split_ifs at h
      · cases h
        exact within_nil
      · refine (within_planTransition h).mono ?_
        simp [scopeOf, hd]
    · exact (within_planTransition h).mono hown

/-- A start and an event are planned from the directive alone. -/
theorem within_of_handleRecords_own (hd : d.Decoded) (hsn : sn.EventSound)
    (hkind : d.kind = .start ∨ d.kind = .event)
    (h : handleRecords cfg env failEnv d sn = .ok records) : Within [d.runInfo.key] records := by
  obtain ⟨records', hplan⟩ : ∃ records, plan cfg env d sn = .ok records :=
    exists_plan_of_kind hd hsn (hkind.imp_right .inl)
  rw [handleRecords, hplan] at h
  cases h
  rw [plan] at hplan
  split_ifs at hplan
  · cases hplan
    exact within_nil
  · rcases hkind with hkind | hkind <;> simp only [hkind] at hplan
    · exact within_planFromRunStart hplan
    · exact within_eventReceived hplan

/-- The batch of a directive is about its run, apart from a parked cancellation and a dispatched
event, which bring their own. -/
theorem within_of_handleRecords (h : handleRecords cfg env failEnv d sn = .ok records) :
    Within (scopeOf d sn) records := by
  rw [handleRecords] at h
  split at h
  · exact (Records.within_failRun h :).mono (own_subset_scopeOf d sn)
  · exact within_plan h

end Plan

end Grctl
