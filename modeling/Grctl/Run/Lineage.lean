import Grctl.Run.Turn

/-!
# Where run descriptions come from

A transition writes the description of a run as a whole: into its own record, into the task for a
worker and into the directive of a timer. The description is not read from the store but taken from
a directive: the one at hand, the event it wakes the run for, or a parked cancel. Whatever such a
copy lacks is lost, unless the transition repairs it.

This file says for every record of a batch which copy it goes back to and what was done to it. Steps
and events that are dispatched are repaired; waits and the four ends of a run are not.

## Main definitions

* `RunInfo.repaired`, `RunInfo.dispatched`: what dispatching makes of a description.
* `Record.Stems kind src cur`: the record goes back to the description `src`, carried by a directive
  of the given kind.
* `Source d sn kind src`: handling `d` may write what goes back to `src`.
* `Traced d sn records`: the batch goes back to one description.

## Main results

* `traced_of_handleRecords`, `stems_of_start`.
-/

namespace Grctl

namespace RunInfo

/-- The description that `StepStart` and `EventStart` go on with. -/
def repaired (ri : RunInfo) (cur : RunState) : RunInfo :=
  { ri with
    historySeqID := if ri.historySeqID = 0 then cur.seqID else ri.historySeqID
    startedAt := ri.startedAt <|> cur.startedAt }

/-- The description of a run for which a step is dispatched. -/
def dispatched (ri : RunInfo) (cur : RunState) (timestamp : Time) : RunInfo :=
  { (ri.repaired cur).withCreatedAt timestamp with status := .running }

@[simp] theorem withCreatedAt_historySeqID (ri : RunInfo) (t : Time) :
    (ri.withCreatedAt t).historySeqID = ri.historySeqID := by
  unfold withCreatedAt
  split_ifs <;> rfl

@[simp] theorem withCreatedAt_startedAt (ri : RunInfo) (t : Time) :
    (ri.withCreatedAt t).startedAt = ri.startedAt := by
  unfold withCreatedAt
  split_ifs <;> rfl

/-- Dispatching changes nothing on a description that lacks nothing. -/
theorem dispatched_eq_self {ri : RunInfo} {cur : RunState} (hstatus : ri.status = .running)
    (hstarted : ri.startedAt.isSome = true) (hseq : cur.seqID = 0) : ri.dispatched cur 0 = ri := by
  obtain ⟨t, ht⟩ := Option.isSome_iff_exists.mp hstarted
  obtain ⟨id, wfID, wfType, status, pw, pr, pc, createdAt, startedAt, completedAt, n⟩ := ri
  simp only at hstatus ht
  subst hstatus ht
  simp only [dispatched, repaired, withCreatedAt, hseq]
  split_ifs <;> simp_all [Time.isZero]

end RunInfo

/-- The kinds of directives that are handed to a worker. -/
def DirectiveKind.isDispatched (k : DirectiveKind) : Bool :=
  k == .start || k == .step || k == .event || k == .waitTimeout

/-- Whether a record carries the description of a run that it takes on. -/
def Record.carriesRunInfo : Record → Bool
  | .runInfo .. | .workerTask _ | .timer _ => true
  | _ => false

/-- The record goes back to the description `src`, carried by a directive of kind `kind`, where
`cur` is the current state. -/
inductive Record.Stems (kind : DirectiveKind) (src : RunInfo) (cur : RunState) : Record → Prop
  | dispatched {n : ℕ} {t : Time} (hkind : kind.isDispatched = true) :
      Stems kind src cur (.runInfo (src.dispatched cur t) n)
  | task {task : Directive} {t : Time} (hkind : kind.isDispatched = true)
      (htask : task.runInfo = src.dispatched cur t) : Stems kind src cur (.workerTask task)
  | stepTimer {timer : Timer} (hkind : kind.isDispatched = true)
      (htimer : timer.directive.runInfo = src.repaired cur) (hid : timer.directive.id ≠ "") :
      Stems kind src cur (.timer timer)
  | waiting {n : ℕ} (hkind : kind = .wait) :
      Stems kind src cur (.runInfo { src with status := .running } n)
  | waitTimer {timer : Timer} (hkind : kind = .wait) (htimer : timer.directive.runInfo = src)
      (hid : timer.directive.id ≠ "") : Stems kind src cur (.timer timer)
  | ended {n : ℕ} {status : RunStatus} {t : Time}
      (hstarted : src.startedAt.isSome = true ∨ kind = .terminate) :
      Stems kind src cur (.runInfo { src with status := status, completedAt := some t } n)
  | other {r : Record} (hr : r.carriesRunInfo = false) : Stems kind src cur r

/-- The description that the step named next by a step result goes on with. -/
def nextRunInfo (d : Directive) (sn : StateSnapshot) : RunInfo :=
  { d.runInfo with historySeqID := sn.lastHistorySeqID + 1 }

/-- The descriptions that handling `d` can go back to, and the kinds of directives that carry
them. -/
inductive Source (d : Directive) (sn : StateSnapshot) : DirectiveKind → RunInfo → Prop
  | direct (hd : d.kind ≠ .start ∧ d.kind ≠ .event ∧ d.kind ≠ .stepResult ∧
      d.kind ≠ .wakeFromInbox) : Source d sn d.kind d.runInfo
  | next {k : DirectiveKind} (hd : d.kind = .stepResult) (hk : d.nextKind? = some k) :
      Source d sn k (nextRunInfo d sn)
  | nextFailure (hd : d.kind = .stepResult) : Source d sn .fail (nextRunInfo d sn)
  | parked {cancel : Directive} (hd : d.kind = .stepResult)
      (hcancel : sn.runState.pendingCancel = some cancel) : Source d sn .cancel cancel.runInfo
  | inbox (hd : d.kind = .wakeFromInbox) (hwait : sn.runState.kind = .wait)
      (hevent : sn.event.IsEvent) : Source d sn .event sn.event.runInfo
  | failure (hd : d.kind ≠ .wakeFromInbox) : Source d sn .fail d.runInfo

/-! ### The record builders -/

section Builders

variable {kind : DirectiveKind} {src : RunInfo} {env : Readings} {d : Directive} {cur : RunState}
  {records : List Record}

/-- Every record goes back to one description. -/
def AllStem (kind : DirectiveKind) (src : RunInfo) (cur : RunState) (records : List Record) :
    Prop :=
  ∀ r ∈ records, r.Stems kind src cur

theorem allStem_of_carriesRunInfo (h : ∀ r ∈ records, r.carriesRunInfo = false) :
    AllStem kind src cur records := fun r hr => .other (h r hr)

theorem AllStem.append {records' : List Record} (h : AllStem kind src cur records)
    (h' : AllStem kind src cur records') : AllStem kind src cur (records ++ records') :=
  List.forall_mem_append.mpr ⟨h, h'⟩

theorem AllStem.cons {r : Record} (hr : r.Stems kind src cur) (h : AllStem kind src cur records) :
    AllStem kind src cur (r :: records) := List.forall_mem_cons.mpr ⟨hr, h⟩

theorem AllAftermath.allStem (h : AllAftermath records) : AllStem kind src cur records :=
  allStem_of_carriesRunInfo fun r hr => by
    have := h r hr
    cases r <;> first | rfl | cases this

namespace Records

/-- The records of a run that ends, which the four builders have in common. -/
theorem allStem_of_end {now t : Time} {k : RunStateKind} {status : RunStatus} {h : HistoryEvent}
    (hstarted : d.runInfo.startedAt.isSome = true ∨ kind = .terminate)
    (hrest : AllAftermath records) :
    AllStem kind d.runInfo cur
      (.runInfo { d.runInfo with status := status, completedAt := some t } 0 :: .history h ::
        .runState (finished now cur k) cur.seqID :: records) :=
  .cons (.ended hstarted) (.cons (.other rfl) (.cons (.other rfl) hrest.allStem))

theorem finishStarted_eq_ok {status : RunStatus} {t : Time} {ri ri' : RunInfo}
    (h : ri.finishStarted status t = .ok ri') :
    ri.startedAt.isSome = true ∧ ri' = { ri with status := status, completedAt := some t } := by
  rw [RunInfo.finishStarted] at h
  split at h
  · simp at h
  · rename_i hstarted
    cases h
    exact ⟨by simp [hstarted], rfl⟩

theorem allStem_of_completeRun (h : completeRun env d cur = .ok records) :
    AllStem kind d.runInfo cur records := by
  obtain ⟨result, ri, he, -, hri, -, rfl⟩ := completeRun_eq_ok h
  obtain ⟨hstarted, rfl⟩ := finishStarted_eq_ok hri
  exact allStem_of_end (.inl hstarted) (by simp)

theorem allStem_of_failRun (h : failRun env d cur = .ok records) :
    AllStem kind d.runInfo cur records := by
  obtain ⟨error, ri, he, -, hri, -, rfl⟩ := failRun_eq_ok h
  obtain ⟨hstarted, rfl⟩ := finishStarted_eq_ok hri
  exact allStem_of_end (.inl hstarted) (by simp)

/-- The failures that are made up on the spot describe the run like the directive at hand. -/
theorem allStem_of_failDirective {env' : Readings} {error : ErrorDetails}
    (h : failRun env (failDirective env' d error) cur = .ok records) :
    AllStem kind d.runInfo cur records := by
  have hstem : AllStem kind (failDirective env' d error).runInfo cur records :=
    allStem_of_failRun h
  exact hstem

theorem allStem_of_terminateRun (h : terminateRun env d cur = .ok records) :
    AllStem .terminate d.runInfo cur records := by
  obtain ⟨reason, ri, he, -, hri, -, rfl⟩ := terminateRun_eq_ok h
  cases hri
  exact allStem_of_end (.inr rfl) (by simp)

theorem durationMS_eq_ok {ms : ℤ} (h : History.durationMS d = .ok ms) :
    d.runInfo.startedAt.isSome = true := by
  rw [History.durationMS] at h
  split at h
  · cases h
  · rename_i hstarted
    simp [hstarted]

/-- A cancelled run has a start time: its event computes the duration. -/
theorem allStem_of_cancelRun (h : cancelRun env d cur = .ok records) :
    AllStem kind d.runInfo cur records := by
  obtain ⟨reason, ri, he, -, hri, hhe, rfl⟩ := cancelRun_eq_ok h
  cases hri
  obtain ⟨_, ms, -, hms, -⟩ := History.runCancelled_eq_ok hhe
  exact allStem_of_end (.inl (durationMS_eq_ok hms)) (by simp)

theorem stepTimeoutTimer_eq_ok {timeoutMS : UInt32} {timer : Timer}
    (h : stepTimeoutTimer env d timeoutMS = .ok timer) : timer.directive = d := by
  rw [stepTimeoutTimer] at h
  split at h
  · simp at h
  · cases h
    rfl

theorem allStem_of_dispatch {step : String} {cursor : ℕ} {timeoutMS : UInt32}
    (hkind : kind.isDispatched = true) (hid : d.id ≠ "")
    (h : dispatch env (repairRunInfo d cur) step cur cursor timeoutMS = .ok records) :
    AllStem kind d.runInfo cur records := by
  simp only [dispatch, bind_eq_ok, wrap_eq_ok, pure_eq_ok] at h
  obtain ⟨timer, htimer, ri, hri, rfl⟩ := h
  cases hri
  have hd := stepTimeoutTimer_eq_ok htimer
  refine .cons (.stepTimer hkind (by rw [hd]; rfl) (by rw [hd]; exact hid))
    (.cons (.dispatched hkind) (.cons (.task hkind rfl) (.cons (.other rfl) ?_)))
  exact fun r hr => by cases hr

theorem allStem_of_stepStart {timeoutMS : UInt32} (hkind : kind.isDispatched = true)
    (hid : d.id ≠ "") (h : stepStart env d cur timeoutMS = .ok records) :
    AllStem kind d.runInfo cur records := by
  obtain ⟨stepName, h⟩ := stepStart_eq_ok h
  exact allStem_of_dispatch hkind hid h

theorem allStem_of_eventStart {timeoutMS : UInt32} (hkind : kind.isDispatched = true)
    (hid : d.id ≠ "") (h : eventStart env d cur timeoutMS = .ok records) :
    AllStem kind d.runInfo cur records := by
  obtain ⟨e, -, h⟩ := eventStart_eq_ok h
  exact allStem_of_dispatch hkind hid h

theorem allStem_of_stepPickedUp (h : stepPickedUp d cur = .ok records) :
    AllStem kind src cur records := by
  obtain ⟨workerID, he, -, rfl⟩ := stepPickedUp_eq_ok h
  exact allStem_of_carriesRunInfo (by simp [Record.carriesRunInfo])

theorem allStem_of_wait {sn : StateSnapshot} {timeoutMS : UInt32} (hid : d.id ≠ "")
    (h : wait env d sn timeoutMS = .ok records) :
    AllStem .wait d.runInfo sn.runState records := by
  obtain ⟨_, _, ri, he, -, hri, -, rfl⟩ := wait_eq_ok h
  cases hri
  refine .cons (.waiting rfl) (.cons (.other rfl) (.cons (.waitTimer rfl rfl hid)
    (.cons (.other rfl) (allStem_of_carriesRunInfo fun r hr => ?_))))
  split_ifs at hr <;> simp at hr
  exact hr ▸ rfl

end Records

end Builders

/-! ### The plan -/

section Plan

variable {cfg : Defaults} {env failEnv : Readings} {d nd : Directive} {sn : StateSnapshot}
  {records : List Record}

theorem allStem_of_stepTimeout (h : Records.stepTimeout env nd sn.runState = .ok records) :
    AllStem nd.kind nd.runInfo sn.runState records := by
  obtain ⟨_, _, he, body, -, -, -, hbody, rfl⟩ := Records.stepTimeout_eq_ok h
  exact .cons (.other rfl) (Records.allStem_of_failDirective hbody)

theorem allStem_of_waitTimeout {timeoutMS : UInt32} (hnd : nd.kind = .waitTimeout)
    (h : Records.waitTimeout env nd sn.runState timeoutMS = .ok records) :
    AllStem nd.kind nd.runInfo sn.runState records := by
  obtain ⟨_, he, body, -, -, -, rfl, hbody⟩ := Records.waitTimeout_eq_ok h
  refine .cons (.other rfl) ?_
  rcases hbody with hbody | ⟨error, hbody⟩
  · have hkind : nd.kind.isDispatched = true := by rw [hnd]; rfl
    have hstem := Records.allStem_of_stepStart hkind (deriveNextDirectiveID_ne_empty nd.id) hbody
    exact hstem
  · exact Records.allStem_of_failDirective hbody

/-- A transition goes back to the description that its directive carries. -/
theorem allStem_of_planTransition (hid : nd.id ≠ "")
    (h : planTransition cfg env nd sn = .ok records) :
    AllStem nd.kind nd.runInfo sn.runState records := by
  rw [planTransition] at h
  split at h <;> rename_i hnd
  · exact Records.allStem_of_stepStart (by rw [hnd]; rfl) hid h
  · exact Records.allStem_of_stepPickedUp h
  · exact Records.allStem_of_eventStart (by rw [hnd]; rfl) hid h
  · exact allStem_of_stepTimeout h
  · exact Records.allStem_of_completeRun h
  · exact Records.allStem_of_failRun h
  · exact hnd ▸ Records.allStem_of_terminateRun h
  · exact hnd ▸ Records.allStem_of_wait hid h
  · exact allStem_of_waitTimeout hnd h
  · simp at h

/-- The records that close a step describe no run. -/
theorem carriesRunInfo_of_notes {notes : List Record} (h : AllNotes notes) :
    ∀ r ∈ notes, r.carriesRunInfo = false := by
  intro r hr
  have := h r hr
  cases r <;> first | rfl | cases this

/-- A batch either describes no run, or it goes back to one description. -/
def Traced (d : Directive) (sn : StateSnapshot) (records : List Record) : Prop :=
  (∀ r ∈ records, r.carriesRunInfo = false) ∨
    ∃ kind src, Source d sn kind src ∧ AllStem kind src sn.runState records

theorem traced_of_planFromStepResult (hd : d.kind = .stepResult)
    (h : planFromStepResult cfg env d sn = .ok records) : Traced d sn records := by
  obtain ⟨notes, body, hparts, rfl⟩ := planFromStepResult_eq_ok h
  -- the records that close the step describe no run
  have traced {kind : DirectiveKind} {src : RunInfo} (hnotes : AllNotes notes)
      (hsrc : Source d sn kind src) (hbody : AllStem kind src sn.runState body) :
      Traced d sn (notes ++ body) :=
    .inr ⟨kind, src, hsrc,
      (allStem_of_carriesRunInfo (carriesRunInfo_of_notes hnotes)).append hbody⟩
  cases hparts with
  | fail hnotes hbody =>
    exact traced (notes_of_stepFail hd hnotes).1.allNotes (.nextFailure hd)
      (Records.allStem_of_failRun hbody)
  | cancel hcancel hnotes hbody =>
    exact traced (notes_of_stepComplete hd hnotes).1.allNotes (.parked hd hcancel)
      (Records.allStem_of_cancelRun hbody)
  | next hmsg hfree hnotes hbody =>
    exact traced (notes_of_stepComplete hd hnotes).1.allNotes
      (.next hd (Directive.nextKind?_of_msg hmsg))
      (allStem_of_planTransition (deriveNextDirectiveID_ne_empty d.id) hbody)

theorem traced_of_planCancel (hd : d.kind = .cancel) (h : planCancel env d sn = .ok records) :
    Traced d sn records := by
  rw [planCancel] at h
  split_ifs at h
  · obtain ⟨he, -, rfl⟩ := Records.cancelReceived_eq_ok h
    exact .inl (by simp [Record.carriesRunInfo])
  · exact .inr ⟨_, _, .direct (by simp [hd]), Records.allStem_of_cancelRun h⟩

theorem traced_of_eventReceived (h : Records.eventReceived env d sn = .ok records) :
    Traced d sn records := by
  obtain ⟨he, -, rfl⟩ := Records.eventReceived_eq_ok h
  refine .inl (List.forall_mem_append.mpr ⟨by simp [Record.carriesRunInfo], fun r hr => ?_⟩)
  split_ifs at hr <;> simp at hr
  exact hr ▸ rfl

/-- Every batch of the plan that is not a start goes back to one description. -/
theorem traced_of_plan (hdec : d.Decoded) (hsn : sn.EventSound) (hd : d.kind ≠ .start)
    (h : plan cfg env d sn = .ok records) : Traced d sn records := by
  have nothing : Traced d sn [] := .inl fun r hr => by cases hr
  rw [plan] at h
  split_ifs at h
  · cases h
    exact nothing
  · split at h <;> rename_i hkind
    · exact absurd hkind hd
    · exact traced_of_planFromStepResult hkind h
    · exact traced_of_planCancel hkind h
    · exact traced_of_eventReceived h
    · rw [planWakeFromInbox] at h
      split_ifs at h with hidle
      · cases h
        exact nothing
      · rw [not_or, not_not] at hidle
        have hevent := hsn.resolve_left hidle.2
        exact .inr ⟨_, _, .inbox hkind hidle.1 hevent,
          hevent.2.1 ▸ allStem_of_planTransition hevent.1 h⟩
    · exact .inr ⟨_, _, .direct ⟨hd, ‹_›, ‹_›, ‹_›⟩, allStem_of_planTransition hdec.1 h⟩

/-- Every batch that is not a start goes back to one description. A wake-up does not fail, so that
its own description is never used. -/
theorem traced_of_handleRecords (hdec : d.Decoded) (hsn : sn.EventSound) (hd : d.kind ≠ .start)
    (h : handleRecords cfg env failEnv d sn = .ok records) : Traced d sn records := by
  rw [handleRecords] at h
  split at h
  · rename_i hplan
    refine .inr ⟨_, _, .failure fun hwake => ?_, Records.allStem_of_failDirective h⟩
    obtain ⟨records', hok⟩ : ∃ records, plan cfg env d sn = .ok records :=
      exists_plan_of_kind hdec hsn (.inr (.inr hwake))
    simp [hok] at hplan
  · exact traced_of_plan hdec hsn hd h

/-- A start describes the run as started, and its first step goes back to that description. -/
theorem stems_of_start (hdec : d.Decoded) (hd : d.kind = .start)
    (hlive : sn.runState.isTerminal = false) (h : plan cfg env d sn = .ok records) :
    ∃ ri, d.runInfo.start env.now = .ok ri ∧
      AllStem .start ri (startState env.now d) records ∧ ∀ s n, Record.runState s n ∈ records →
        s.startedAt = some env.now := by
  rw [plan, if_neg (by simp [hlive])] at h
  simp only [hd] at h
  obtain ⟨ri, e, input, step, hri, -, hinput, hstep, rfl⟩ := parts_of_planFromRunStart h
  obtain ⟨-, hstarted, hstatus⟩ := RunInfo.sameRun_of_start hri
  have hself : (Record.runInfo ri 0).Stems .start ri (startState env.now d) := by
    have hstem : (Record.runInfo (ri.dispatched (startState env.now d) 0) 0).Stems .start ri
      (startState env.now d) := .dispatched rfl
    rwa [RunInfo.dispatched_eq_self hstatus (by simp [hstarted]) rfl] at hstem
  refine ⟨ri, hri, fun r hr => ?_, fun s n hs => ?_⟩
  · simp only [List.mem_append, List.mem_cons, List.not_mem_nil, or_false] at hr
    rcases hr with ((rfl | rfl) | hr) | rfl | hr
    · exact .other rfl
    · exact hself
    · obtain ⟨v, rfl⟩ := hinput r hr
      exact .other rfl
    · exact .other rfl
    · have hid : ({ d with runInfo := ri } : Directive).id ≠ "" := hdec.1
      exact Records.allStem_of_stepStart rfl hid hstep r hr
  · obtain ⟨s', hdispatch, -⟩ := Records.dispatch_of_stepStart hstep
    cases hdispatch
    simp only [List.mem_append, List.mem_cons, List.not_mem_nil, reduceCtorEq, false_or,
      or_false, Record.runState.injEq] at hs
    rcases hs with hs | ⟨rfl, -⟩ | ⟨rfl, -⟩
    · obtain ⟨v, hv⟩ := hinput _ hs
      cases hv
    · rfl
    · rfl

end Plan

end Grctl
