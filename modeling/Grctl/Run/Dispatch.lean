import Grctl.Run.Plan

/-!
# Dispatching an event, and the timers of steps and waits

`EventStart` is a copy of `StepStart`, kept apart for the events of an inbox. This file compares
the two: on an event they build the same records, except for what they read from the clock
(`event_paths_agree`). `Record.timeless` is a record without those readings; of a timer it keeps
the time that it runs for.

It also says how long the timers of a dispatch and of a wait run: for the timeout of the message,
or for the default of the server when the message has none.

## Main definitions

* `Record.timeless`, `effectiveTimeout`.

## Main results

* `Records.timeless_dispatch`, `Records.eventStart_eq_stepStart`, `event_paths_agree`.
* `Records.duration_of_stepStart`, `Records.duration_of_eventStart`, `Records.duration_of_wait`.
-/

namespace Grctl

/-- The time for which a timer is set. -/
def Timer.duration (t : Timer) : ℤ := t.expiresAt - t.createdAt

/-- A record without its readings of the clock: a timer is set at time `0`, and the time at which
a state was entered is `0`. -/
def Record.timeless : Record → Record
  | .timer t => .timer { t with createdAt := 0, expiresAt := t.duration }
  | .runState s expectedSeq => .runState { s with enteredAt := 0 } expectedSeq
  | r => r

/-- The timeout in milliseconds that a message with the given one gets. -/
def effectiveTimeout (timeoutMS defaultMS : UInt32) : UInt32 :=
  if timeoutMS = 0 then defaultMS else timeoutMS

@[simp]
theorem effectiveTimeout_zero (defaultMS : UInt32) : effectiveTimeout 0 defaultMS = defaultMS :=
  if_pos rfl

@[simp]
theorem effectiveTimeout_self (ms : UInt32) : effectiveTimeout ms ms = ms :=
  ite_id ..

@[simp]
theorem addMilliseconds_sub (t : Time) (ms : UInt32) :
    t.addMilliseconds ms - t = ms.toNat * 1000000 :=
  Int.sub_eq_iff_eq_add'.2 rfl

namespace Records

variable {env env' : Readings} {d : Directive} {cur : RunState} {records : List Record}
  {timer : Timer} {stepName : String} {timeoutMS defaultMS : UInt32}

/-! ### The two paths of an event -/

/-- The timer of a step with the timeout `ms`. -/
def stepTimer (env : Readings) (d : Directive) (stepName : String) (ms : UInt32) : Timer where
  id := deriveTimerID d.id .stepTimeout
  kind := .stepTimeout
  wfID := d.runInfo.wfID
  createdAt := env.now
  expiresAt := env.now.addMilliseconds ms
  stepName := stepName
  directive := d

/-- The state of a run whose directive `d` has been dispatched. -/
def stepState (env : Readings) (d : Directive) (cur : RunState) (cursor : ℕ) : RunState :=
  { cur with
    kind := .step
    enteredAt := env.now
    activeDirectiveID := d.id
    lastEventSeqID := cursor }

/-- A message that can be dispatched is dispatched. -/
theorem dispatch_eq_ok (env : Readings) (stepName : String) (cur : RunState) (cursor : ℕ)
    (defaultMS : UInt32) {name : String}
    (hmsg : d.msg.dispatchable? = some (name, timeoutMS)) :
    ∃ ri, d.runInfo.startStep stepName d.timestamp = .ok ri ∧
      dispatch env d stepName cur cursor defaultMS = .ok
        [.timer (stepTimer env d name (effectiveTimeout timeoutMS defaultMS)), .runInfo ri 0,
          .workerTask { d with runInfo := ri },
          .runState (stepState env d cur cursor) cur.seqID] := by
  refine ⟨_, rfl, ?_⟩
  simp only [dispatch, stepTimeoutTimer, hmsg, wrap, RunInfo.startStep]
  rfl

/-- The records of a dispatch do not depend on the clock. -/
theorem timeless_dispatch (env env' : Readings) {cursor : ℕ} {name : String}
    (hmsg : d.msg.dispatchable? = some (name, timeoutMS)) :
    ∃ records records', dispatch env d stepName cur cursor defaultMS = .ok records ∧
      dispatch env' d stepName cur cursor defaultMS = .ok records' ∧
      records.map Record.timeless = records'.map Record.timeless := by
  obtain ⟨ri, hri, h⟩ := dispatch_eq_ok env stepName cur cursor defaultMS hmsg
  obtain ⟨ri', hri', h'⟩ := dispatch_eq_ok env' stepName cur cursor defaultMS hmsg
  obtain rfl : ri = ri' := Except.ok.inj (hri.symm.trans hri')
  refine ⟨_, _, h, h', ?_⟩
  simp [Record.timeless, Timer.duration, stepTimer, stepState]

/-- On an event, with the same readings, `EventStart` builds the records of `StepStart`. -/
theorem eventStart_eq_stepStart {e : Event} (hkind : d.kind = .event) (hmsg : d.msg = .event e) :
    eventStart env d cur defaultMS = stepStart env d cur defaultMS := by
  simp [eventStart, stepStart, repairRunInfo, cursorAfter, hkind, hmsg,
    DirectiveMessage.dispatchable?]

/-! ### How long timers run -/

/-- The timer of a dispatch. -/
theorem duration_of_dispatch {cursor : ℕ} {name : String}
    (hmsg : d.msg.dispatchable? = some (name, timeoutMS))
    (h : dispatch env d stepName cur cursor defaultMS = .ok records)
    (htimer : Record.timer timer ∈ records) :
    timer.duration = (effectiveTimeout timeoutMS defaultMS).toNat * 1000000 := by
  obtain ⟨ri, -, h'⟩ := dispatch_eq_ok env stepName cur cursor defaultMS hmsg
  obtain rfl := Except.ok.inj (h.symm.trans h')
  simp only [List.mem_cons, Record.timer.injEq, reduceCtorEq, List.not_mem_nil, or_false] at htimer
  rw [htimer, Timer.duration, stepTimer, addMilliseconds_sub]

theorem duration_of_stepStart (hmsg : d.msg.dispatchable? = some (stepName, timeoutMS))
    (h : stepStart env d cur defaultMS = .ok records) (htimer : Record.timer timer ∈ records) :
    timer.duration = (effectiveTimeout timeoutMS defaultMS).toNat * 1000000 := by
  have hrepaired : (repairRunInfo d cur).msg.dispatchable? = some (stepName, timeoutMS) := hmsg
  simp only [stepStart, hrepaired] at h
  exact duration_of_dispatch hrepaired h htimer

theorem duration_of_eventStart {e : Event} (hmsg : d.msg = .event e)
    (h : eventStart env d cur defaultMS = .ok records) (htimer : Record.timer timer ∈ records) :
    timer.duration = (effectiveTimeout e.timeout defaultMS).toNat * 1000000 := by
  have hrepaired : (repairRunInfo d cur).msg = .event e := hmsg
  simp only [eventStart, hrepaired] at h
  exact duration_of_dispatch (by rw [hrepaired]; rfl) h htimer

theorem duration_of_wait {sn : StateSnapshot} {timeoutStepName : String}
    (hmsg : d.msg = .wait timeoutMS timeoutStepName)
    (h : wait env d sn defaultMS = .ok records) (htimer : Record.timer timer ∈ records) :
    timer.duration = (effectiveTimeout timeoutMS defaultMS).toNat * 1000000 := by
  simp only [wait, hmsg, wrap_eq_ok, bind_eq_ok, pure_eq_ok] at h
  obtain ⟨_, -, _, -, rfl⟩ := h
  have hwake : Record.timer timer ∉
      if sn.event.id ≠ "" then [Record.directive (wakeDirective env d)] else [] := by
    split_ifs <;> simp
  simp only [List.cons_append, List.nil_append, List.mem_cons, Record.timer.injEq, reduceCtorEq,
    hwake, or_false, false_or] at htimer
  rw [htimer, Timer.duration, createWaitTimeoutTimer, addMilliseconds_sub, effectiveTimeout]

end Records

/-- **The two event-dispatch paths agree.** For an event, `EventStart` and `StepStart` build the
same records in the same order, up to their readings of the clock. -/
theorem event_paths_agree (env env' : Readings) (d : Directive) (e : Event) (cur : RunState)
    (defaultMS : UInt32) (hkind : d.kind = .event) (hmsg : d.msg = .event e) :
    ∃ records records', Records.eventStart env d cur defaultMS = .ok records ∧
      Records.stepStart env' d cur defaultMS = .ok records' ∧
      records.map Record.timeless = records'.map Record.timeless := by
  have hrepaired : (Records.repairRunInfo d cur).msg.dispatchable? =
      some (e.eventName, e.timeout) := by
    simp [Records.repairRunInfo, hmsg, DirectiveMessage.dispatchable?]
  rw [Records.eventStart_eq_stepStart hkind hmsg]
  simp only [Records.stepStart, hrepaired]
  exact Records.timeless_dispatch env env' hrepaired

namespace Sample

/-- An event that knows its place in the inbox, with a run description from before the start. -/
def inboxEvent : Directive where
  id := "pay"
  timestamp := 2000000
  kind := .event
  runInfo := { id := "r1", wfID := "wf", wfType := "order", status := .scheduled }
  msg := .event { eventSeqID := some 7, eventName := "paid" }

/-- The state of the run of the event. -/
def waitingState : RunState :=
  { RunState.zero with
    wfID := "wf", runID := "r1", kind := .wait, seqID := 5, startedAt := some 1000000 }

end Sample

/-- The paths agree on an event of the inbox, at different times; both repair the description. -/
theorem event_paths_agree_inbox :
    ∃ records records',
      Records.eventStart { now := 3000000, newID := "" } Sample.inboxEvent Sample.waitingState
        300000 = .ok records ∧
      Records.stepStart { now := 4000000, newID := "" } Sample.inboxEvent Sample.waitingState
        300000 = .ok records' ∧
      records.map Record.timeless = records'.map Record.timeless :=
  event_paths_agree _ _ Sample.inboxEvent { eventSeqID := some 7, eventName := "paid" } _ _ rfl rfl

end Grctl
