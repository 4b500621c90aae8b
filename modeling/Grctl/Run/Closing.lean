import Grctl.Run.Turn

/-!
# Batches that end a run

Ten paths of `plan` end a run, and so does `BuildUnexpectedFailure`. All of them go through one of
the four builders `CompleteRun`, `FailRun`, `CancelRun` and `TerminateRun`, some with records in
front: the end of a step, or the event of a timeout. This file says what every such batch contains
and what it does not contain.

The builders are handed different directives: the one at hand, the message that a step result names
next, a parked cancel, the pending event, or a failure made up on the spot. `Terminates` says which
one it is on each path, because the parent of a run is found through the description that the
terminating directive carries.

## Main definitions

* `RunStateKind.closing`, `HistoryMessage.outcome?`: the event that closes the history of a run, and
  what it says about the outcome.
* `Terminates env d sn kind src`: planning `d` ends the run in a state of this kind, on behalf of
  `src`.
* `EndedBy`: the same for a batch of the plan or of `BuildUnexpectedFailure`.
* `Closing src s records`: a complete batch that ends a run in the state `s`.
* `GoesOn records`, `Closes P sn records`: the batch does not end the run, or it is a complete end
  on behalf of a directive with `P`.

## Main results

* `closes_of_plan`, `closes_of_handleRecords`.
* `terminal_batch_complete`: what a batch with a terminal run state contains.
-/

namespace Grctl

/-- The event that closes the history of a run which ends in a state of a given kind. -/
def RunStateKind.closing : RunStateKind → HistoryKind
  | .complete => .runCompleted
  | .cancel => .runCancelled
  | .terminate => .runTerminated
  | _ => .runFailed

/-- The outcome of a run as its closing event tells it: the status, the result and the error that a
parent is told. -/
def HistoryMessage.outcome? : HistoryMessage → Option (RunStatus × Value × Option ErrorDetails)
  | .runCompleted result _ => some (.completed, result, none)
  | .runFailed error _ => some (.failed, .nil, some error)
  | .runCancelled reason _ =>
    some (.cancelled, .nil, some (Records.stopError "Cancelled" "workflow was cancelled" reason))
  | .runTerminated reason _ =>
    some (.terminated, .nil, some (Records.stopError "Terminated" "run was terminated" reason))
  | _ => none

/-- The workflow that a task purges. -/
def BackgroundTask.purges? (task : BackgroundTask) : Option WFID :=
  match task.payload with
  | .purgeRunResidue wfID => some wfID
  | _ => none

/-- What a task tells a parent. -/
def BackgroundTask.notice? (task : BackgroundTask) : Option NotifyParentCompletePayload :=
  match task.payload with
  | .notifyParentComplete payload => some payload
  | _ => none

/-- The worker and the run that a task stops. -/
def BackgroundTask.stops? (task : BackgroundTask) : Option (WorkerID × RunID) :=
  match task.payload with
  | .workerTerminateRun workerID runID => some (workerID, runID)
  | _ => none

namespace Record

/-- The task of a background task record. -/
def task? : Record → Option BackgroundTask
  | .backgroundTask task => some task
  | _ => none

/-- The error of an error record. -/
def runError? : Record → Option ErrorDetails
  | .runError _ _ error => some error
  | _ => none

/-- The result of an output record. -/
def runOutput? : Record → Option Value
  | .runOutput _ _ result => some result
  | _ => none

/-- The record that lets a run go on: a timer, a task for a worker or a directive. -/
def isOnward : Record → Bool
  | .timer _ | .workerTask _ | .directive _ => true
  | _ => false

/-- The records between the terminal state and the tasks that every ended run leaves: its result or
its error, and the task that stops its worker. -/
def isAside : Record → Bool
  | .runError .. | .runOutput .. => true
  | .backgroundTask task => task.stops?.isSome
  | _ => false

/-- The records that stand in front of the end of a run: updates of the step that ends, an event
that does not close the history, and the task that deletes a timer. -/
def isPreface : Record → Bool
  | .kv .. => true
  | .history h => !h.kind.closes
  | .backgroundTask task => task.deletes?.isSome
  | _ => false

end Record

/-- The tasks of a batch, as far as `f` looks at them. -/
def tasksBy {α : Type} (f : BackgroundTask → Option α) (records : List Record) : List α :=
  (records.filterMap Record.task?).filterMap f

theorem tasksBy_append {α : Type} (f : BackgroundTask → Option α) (records records' : List Record) :
    tasksBy f (records ++ records') = tasksBy f records ++ tasksBy f records' := by
  simp [tasksBy]

/-- The parent of a run is told when both its workflow and the step to call are known. -/
def RunInfo.hasCallback (ri : RunInfo) : Bool :=
  ri.parentWFID.isSome && ri.parentCallbackStep.isSome

/-- The kind of state in which a transition to `nd` ends a run, and the directive on whose behalf it
does. A timeout ends the run on behalf of a failure with the description of the timeout. -/
inductive EndsBy (env : Readings) (nd : Directive) : RunStateKind → Directive → Prop
  | complete (h : nd.kind = .complete) : EndsBy env nd .complete nd
  | fail (h : nd.kind = .fail) : EndsBy env nd .fail nd
  | terminate (h : nd.kind = .terminate) : EndsBy env nd .terminate nd
  | timeout {error : ErrorDetails} (h : nd.kind = .stepTimeout ∨ nd.kind = .waitTimeout) :
      EndsBy env nd .fail (Records.failDirective env nd error)

/-- The kind of state in which planning `d` ends a run, and the directive on whose behalf it does. A
step result ends the run with the failure it names, or with the cancel that waits for it, or, if
none does, with the message it names next. -/
inductive Terminates (env : Readings) (d : Directive) (sn : StateSnapshot) :
    RunStateKind → Directive → Prop
  | cancelled (hd : d.kind = .cancel) (hstep : sn.runState.kind ≠ .step) :
      Terminates env d sn .cancel d
  | failedStep {stepName : String} {error : ErrorDetails} (hd : d.kind = .stepResult)
      (hnext : d.msg.next? = some (.failStep, .failStep stepName error)) :
      Terminates env d sn .fail (deriveNextDirective env d .fail (.fail error) sn)
  | parked {cancel : Directive} {k : DirectiveKind} {m : DirectiveMessage}
      (hd : d.kind = .stepResult) (hnext : d.msg.next? = some (k, m)) (hk : k ≠ .failStep)
      (hcancel : sn.runState.pendingCancel = some cancel) : Terminates env d sn .cancel cancel
  | next {k : DirectiveKind} {m : DirectiveMessage} {kind : RunStateKind} {src : Directive}
      (hd : d.kind = .stepResult) (hnext : d.msg.next? = some (k, m))
      (hfree : sn.runState.pendingCancel = none)
      (h : EndsBy env (deriveNextDirective env d k m sn) kind src) : Terminates env d sn kind src
  | event {kind : RunStateKind} {src : Directive} (hd : d.kind = .wakeFromInbox)
      (hwait : sn.runState.kind = .wait) (h : EndsBy env sn.event kind src) :
      Terminates env d sn kind src
  | direct {kind : RunStateKind} {src : Directive} (h : EndsBy env d kind src) :
      Terminates env d sn kind src

/-- How a batch ends a run: planning the directive does, or a failure with the description of the
directive, when it cannot be planned. -/
inductive EndedBy (cfg : Defaults) (env : Readings) (d : Directive) (sn : StateSnapshot)
    (records : List Record) : RunStateKind → Directive → Prop
  | planned {kind : RunStateKind} {src : Directive} (h : plan cfg env d sn = .ok records)
      (hsrc : Terminates env d sn kind src) : EndedBy cfg env d sn records kind src
  | unexpected {cause : String} {error : ErrorDetails}
      (h : Records.buildUnexpectedFailure env d cause sn.runState = .ok records) :
      EndedBy cfg env d sn records .fail (Records.failDirective env d error)

/-- A complete batch that ends a run in the state `s`, on behalf of the directive `src`. -/
structure Closing (src : Directive) (s : RunState) (records : List Record) : Prop where
  states : ∃ n, records.filterMap Record.runState? = [(s, n)]
  idle : s.activeDirectiveID = ""
  info : ∃ ri, records.filterMap Record.runInfo? = [ri] ∧ ri.status = s.kind.status ∧
    ri.completedAt.isSome = true ∧ ri.wfID = src.runInfo.wfID ∧ ri.id = src.runInfo.id
  event : ∃ h result error,
    (records.filterMap Record.history?).filter (fun h => h.kind.closes) = [h] ∧
    h.kind = s.kind.closing ∧ h.msg.outcome? = some (s.kind.status, result, error) ∧
    (tasksBy BackgroundTask.notice? records).map (fun p => (p.status, p.result, p.error)) =
      if src.runInfo.hasCallback then [(s.kind.status, result, error)] else []
  purge : tasksBy BackgroundTask.purges? records = [src.runInfo.wfID]
  errors : records.filterMap Record.runError? ≠ [] ↔ s.kind = .fail
  outputs : records.filterMap Record.runOutput? ≠ [] → s.kind = .complete
  stops : ∀ p ∈ tasksBy BackgroundTask.stops? records, s.workerID = some p.1 ∧ p.2 = s.runID
  onward : ∀ r ∈ records, r.isOnward = false

/-! ### Records in front -/

theorem filterMap_preface {β : Type} {f : Record → Option β} {notes : List Record}
    (hnotes : ∀ r ∈ notes, r.isPreface = true)
    (hf : ∀ r : Record, r.isPreface = true → f r = none) :
    notes.filterMap f = [] :=
  List.filterMap_eq_nil_iff.mpr fun r hr => hf r (hnotes r hr)

/-- The only tasks in front of the end of a run delete timers. -/
theorem tasksBy_preface {α : Type} {f : BackgroundTask → Option α} {notes : List Record}
    (hnotes : ∀ r ∈ notes, r.isPreface = true)
    (hf : ∀ task : BackgroundTask, task.deletes?.isSome = true → f task = none) :
    tasksBy f notes = [] := by
  rw [tasksBy, List.filterMap_filterMap]
  refine filterMap_preface hnotes fun r hr => ?_
  cases r with
  | backgroundTask task => exact hf task hr
  | _ => rfl

theorem history_preface {notes : List Record} (hnotes : ∀ r ∈ notes, r.isPreface = true) :
    (notes.filterMap Record.history?).filter (fun h => h.kind.closes) = [] := by
  refine List.filter_eq_nil_iff.mpr fun h hh hcloses => ?_
  obtain ⟨r, hr, hrh⟩ := List.mem_filterMap.mp hh
  obtain rfl := Record.history?_eq_some.mp hrh
  have hpreface := hnotes _ hr
  simp [Record.isPreface, hcloses] at hpreface

/-- Records in front leave a batch complete. -/
theorem Closing.prepend {src : Directive} {s : RunState} {notes body : List Record}
    (h : Closing src s body) (hnotes : ∀ r ∈ notes, r.isPreface = true) :
    Closing src s (notes ++ body) := by
  have plain {β : Type} (f : Record → Option β)
      (hf : ∀ r : Record, r.isPreface = true → f r = none) :
      (notes ++ body).filterMap f = body.filterMap f := by
    rw [List.filterMap_append, filterMap_preface hnotes hf, List.nil_append]
  have tasks {α : Type} (f : BackgroundTask → Option α)
      (hf : ∀ task : BackgroundTask, task.deletes?.isSome = true → f task = none) :
      tasksBy f (notes ++ body) = tasksBy f body := by
    rw [tasksBy_append, tasksBy_preface hnotes hf, List.nil_append]
  obtain ⟨e, result, error, he, hkind, hout, hnotice⟩ := h.event
  constructor
  · rw [plain _ fun r hr => by cases r <;> first | rfl | cases hr]
    exact h.states
  · exact h.idle
  · rw [plain _ fun r hr => by cases r <;> first | rfl | cases hr]
    exact h.info
  · refine ⟨e, result, error, ?_, hkind, hout, ?_⟩
    · rw [List.filterMap_append, List.filter_append, history_preface hnotes, List.nil_append, he]
    · rw [tasks _ fun task ht => ?_, hnotice]
      rcases task with ⟨_, _, payload⟩
      cases payload <;> first | rfl | cases ht
  · rw [tasks _ fun task ht => ?_, h.purge]
    rcases task with ⟨_, _, payload⟩
    cases payload <;> first | rfl | cases ht
  · rw [plain _ fun r hr => by cases r <;> first | rfl | cases hr]
    exact h.errors
  · rw [plain _ fun r hr => by cases r <;> first | rfl | cases hr]
    exact h.outputs
  · rw [tasks _ fun task ht => ?_]
    · exact h.stops
    · rcases task with ⟨_, _, payload⟩
      cases payload <;> first | rfl | cases ht
  · intro r hr
    rcases List.mem_append.mp hr with hr | hr
    · have := hnotes r hr
      cases r <;> first | rfl | cases this
    · exact h.onward r hr

/-! ### The four builders -/

namespace Records

variable {env : Readings} {d : Directive} {cur : RunState} {records front : List Record}

theorem filterMap_aside {β : Type} {f : Record → Option β}
    (hfront : ∀ r ∈ front, r.isAside = true) (hf : ∀ r : Record, r.isAside = true → f r = none) :
    front.filterMap f = [] :=
  List.filterMap_eq_nil_iff.mpr fun r hr => hf r (hfront r hr)

theorem tasksBy_aside {α : Type} {f : BackgroundTask → Option α}
    (hfront : ∀ r ∈ front, r.isAside = true)
    (hf : ∀ task : BackgroundTask, task.stops?.isSome = true → f task = none) :
    tasksBy f front = [] := by
  rw [tasksBy, List.filterMap_filterMap]
  refine filterMap_aside hfront fun r hr => ?_
  cases r with
  | backgroundTask task => exact hf task hr
  | _ => rfl

theorem tasksBy_parentCallbackRecords {status : RunStatus} {result : Value}
    {error : Option ErrorDetails} :
    (tasksBy BackgroundTask.notice? (parentCallbackRecords d status result error)).map
        (fun p => (p.status, p.result, p.error)) =
      (if d.runInfo.hasCallback then [(status, result, error)] else []) ∧
    tasksBy BackgroundTask.purges? (parentCallbackRecords d status result error) = [] := by
  rw [parentCallbackRecords, RunInfo.hasCallback]
  cases d.runInfo.parentWFID <;> cases d.runInfo.parentCallbackStep <;> exact ⟨rfl, rfl⟩

theorem tasksBy_stops_parentCallbackRecords {status : RunStatus} {result : Value}
    {error : Option ErrorDetails} :
    tasksBy BackgroundTask.stops? (parentCallbackRecords d status result error) = [] := by
  rw [parentCallbackRecords]
  split <;> rfl

theorem filterMap_parentCallbackRecords {β : Type} {f : Record → Option β} {status : RunStatus}
    {result : Value} {error : Option ErrorDetails} (hf : ∀ task, f (.backgroundTask task) = none) :
    (parentCallbackRecords d status result error).filterMap f = [] := by
  rw [parentCallbackRecords]
  split <;> simp [hf]

/-- What the four builders have in common, with `front` for what only some of them add. -/
theorem closing_of_parts {now : Time} {kind : RunStateKind} {ri : RunInfo} {h : HistoryEvent}
    {result : Value} {error : Option ErrorDetails}
    (hri : ri.status = kind.status ∧ ri.completedAt.isSome = true ∧
      ri.wfID = d.runInfo.wfID ∧ ri.id = d.runInfo.id)
    (hkind : h.kind = kind.closing) (hmsg : h.msg.outcome? = some (kind.status, result, error))
    (hfront : ∀ r ∈ front, r.isAside = true)
    (herrors : front.filterMap Record.runError? ≠ [] ↔ kind = .fail)
    (houtputs : front.filterMap Record.runOutput? ≠ [] → kind = .complete)
    (hstops : ∀ p ∈ tasksBy BackgroundTask.stops? front,
      cur.workerID = some p.1 ∧ p.2 = cur.runID) :
    Closing d (finished now cur kind)
      ([.runInfo ri 0, .history h, .runState (finished now cur kind) cur.seqID] ++ front ++
        parentCallbackRecords d kind.status result error ++ [purgeRecord d]) := by
  have hcloses : h.kind.closes = true := by
    rw [hkind]
    cases kind <;> rfl
  have plain {β : Type} (f : Record → Option β) (hf : ∀ r : Record, r.isAside = true → f r = none)
      (htask : ∀ task, f (.backgroundTask task) = none) (rs : List Record) :
      (rs ++ front ++ parentCallbackRecords d kind.status result error ++
        [purgeRecord d]).filterMap f = rs.filterMap f := by
    simp [List.filterMap_append, filterMap_aside hfront hf, filterMap_parentCallbackRecords htask,
      purgeRecord, htask]
  have tasks {α : Type} (f : BackgroundTask → Option α)
      (hf : ∀ task : BackgroundTask, task.stops?.isSome = true → f task = none) :
      tasksBy f ([.runInfo ri 0, .history h, .runState (finished now cur kind) cur.seqID] ++
          front ++ parentCallbackRecords d kind.status result error ++ [purgeRecord d]) =
        tasksBy f (parentCallbackRecords d kind.status result error) ++
          tasksBy f [purgeRecord d] := by
    rw [tasksBy_append, tasksBy_append, tasksBy_append, tasksBy_aside hfront hf]
    rfl
  constructor
  · exact ⟨cur.seqID, plain _ (fun r hr => by cases r <;> first | rfl | cases hr) (fun _ => rfl) _⟩
  · rfl
  · exact ⟨ri, plain _ (fun r hr => by cases r <;> first | rfl | cases hr) (fun _ => rfl) _, hri⟩
  · refine ⟨h, result, error, ?_, hkind, hmsg, ?_⟩
    · rw [plain _ (fun r hr => by cases r <;> first | rfl | cases hr) (fun _ => rfl)]
      exact List.filter_cons_of_pos hcloses
    · rw [tasks _ fun task ht => ?_, List.map_append, tasksBy_parentCallbackRecords.1]
      · exact List.append_nil _
      · rcases task with ⟨_, _, payload⟩
        cases payload <;> first | rfl | cases ht
  · rw [tasks _ fun task ht => ?_, tasksBy_parentCallbackRecords.2]
    · rfl
    · rcases task with ⟨_, _, payload⟩
      cases payload <;> first | rfl | cases ht
  · rw [List.filterMap_append, List.filterMap_append, List.filterMap_append,
      filterMap_parentCallbackRecords fun _ => rfl, List.append_nil]
    exact (List.append_nil _).symm ▸ herrors
  · rw [List.filterMap_append, List.filterMap_append, List.filterMap_append,
      filterMap_parentCallbackRecords fun _ => rfl, List.append_nil]
    exact (List.append_nil _).symm ▸ houtputs
  · rw [tasksBy_append, tasksBy_append, tasksBy_append, tasksBy_stops_parentCallbackRecords,
      List.append_nil]
    exact (List.append_nil _).symm ▸ hstops
  · simp only [List.forall_mem_append, List.forall_mem_cons]
    refine ⟨⟨⟨⟨rfl, rfl, rfl, by simp⟩, fun r hr => ?_⟩, fun r hr => ?_⟩, rfl, by simp⟩
    · have := hfront r hr
      cases r <;> first | rfl | cases this
    · have := allAftermath_parentCallbackRecords r hr
      cases r <;> first | rfl | cases this

theorem closed_of_finishStarted {status : RunStatus} {t : Time} {ri : RunInfo}
    (h : d.runInfo.finishStarted status t = .ok ri) :
    ri.status = status ∧ ri.completedAt.isSome = true ∧ ri.wfID = d.runInfo.wfID ∧
      ri.id = d.runInfo.id := by
  rw [RunInfo.finishStarted] at h
  split at h
  · simp at h
  · cases h
    exact ⟨rfl, rfl, rfl, rfl⟩

theorem closing_of_completeRun (h : completeRun env d cur = .ok records) :
    Closing d (finished env.now cur .complete) records := by
  obtain ⟨result, ri, he, hmsg, hri, hhe, rfl⟩ := completeRun_eq_ok h
  obtain ⟨_, ms, hmsg', -, rfl⟩ := History.runCompleted_eq_ok hhe
  cases hmsg.symm.trans hmsg'
  refine closing_of_parts (closed_of_finishStarted hri) rfl rfl (fun r hr => ?_) ?_
    (fun _ => rfl) ?_
  all_goals unfold outputRecords at *
  · split at hr
    · cases hr
    · rw [List.mem_singleton.mp hr]
      rfl
  · split <;> simp [Record.runError?]
  · split <;> simp [tasksBy, Record.task?]

theorem isAside_workerTerminateRecords {r : Record} (hr : r ∈ workerTerminateRecords d cur) :
    r.isAside = true := by
  rw [workerTerminateRecords] at hr
  split at hr
  · cases hr
  · rw [List.mem_singleton.mp hr]
    rfl

theorem filterMap_workerTerminateRecords {β : Type} {f : Record → Option β}
    (hf : ∀ task, f (.backgroundTask task) = none) :
    (workerTerminateRecords d cur).filterMap f = [] := by
  rw [workerTerminateRecords]
  split <;> simp [hf]

theorem stops_workerTerminateRecords :
    ∀ p ∈ tasksBy BackgroundTask.stops? (workerTerminateRecords d cur),
      cur.workerID = some p.1 ∧ p.2 = cur.runID := by
  intro p hp
  rw [workerTerminateRecords] at hp
  split at hp
  · cases hp
  · rename_i hworker
    rw [show p = (_, cur.runID) from List.mem_singleton.mp hp]
    exact ⟨hworker, rfl⟩

theorem closing_of_terminateRun (h : terminateRun env d cur = .ok records) :
    Closing d (finished env.now cur .terminate) records := by
  obtain ⟨reason, ri, he, hmsg, hri, hhe, rfl⟩ := terminateRun_eq_ok h
  cases hri
  obtain ⟨_, ms, hmsg', rfl⟩ := History.runTerminated_eq_ok hhe
  cases hmsg.symm.trans hmsg'
  refine closing_of_parts ⟨rfl, rfl, rfl, rfl⟩ rfl rfl
    (fun r => isAside_workerTerminateRecords) ?_ ?_ stops_workerTerminateRecords
  · simp [filterMap_workerTerminateRecords (f := Record.runError?) fun _ => rfl]
  · simp [filterMap_workerTerminateRecords (f := Record.runOutput?) fun _ => rfl]

theorem closing_of_cancelRun (h : cancelRun env d cur = .ok records) :
    Closing d (finished env.now cur .cancel) records := by
  obtain ⟨reason, ri, he, hmsg, hri, hhe, rfl⟩ := cancelRun_eq_ok h
  cases hri
  obtain ⟨_, ms, hmsg', -, rfl⟩ := History.runCancelled_eq_ok hhe
  cases hmsg.symm.trans hmsg'
  exact closing_of_parts ⟨rfl, rfl, rfl, rfl⟩ rfl rfl (List.forall_mem_nil _) (by simp) (by simp)
    (List.forall_mem_nil _)

theorem closing_of_failRun (h : failRun env d cur = .ok records) :
    Closing d (finished env.now cur .fail) records := by
  obtain ⟨error, ri, he, hmsg, hri, hhe, rfl⟩ := failRun_eq_ok h
  rw [History.runFailed, hmsg] at hhe
  simp only [bind_eq_ok, pure_eq_ok] at hhe
  obtain ⟨ms, -, rfl⟩ := hhe
  have hfront : ∀ r ∈ Record.runError d.runInfo.wfID d.runInfo.id error ::
      workerTerminateRecords d cur, r.isAside = true := by
    simp only [List.forall_mem_cons]
    exact ⟨rfl, fun r => isAside_workerTerminateRecords⟩
  refine closing_of_parts (closed_of_finishStarted hri) rfl rfl hfront ?_ ?_
    stops_workerTerminateRecords
  · simp [Record.runError?]
  · simp [List.filterMap_cons, Record.runOutput?,
      filterMap_workerTerminateRecords (f := Record.runOutput?) fun _ => rfl]

end Records

/-! ### The plan -/

section Plan

variable {cfg : Defaults} {env : Readings} {d nd : Directive} {sn : StateSnapshot}
  {records : List Record} {s : RunState}

/-- A batch that does not end the run: its states are live, and its only tasks delete timers. -/
structure GoesOn (records : List Record) : Prop where
  live : ∀ s n, Record.runState s n ∈ records → s.isTerminal = false
  tasks : ∀ task, Record.backgroundTask task ∈ records → task.deletes?.isSome = true

theorem GoesOn.tasksBy_eq_nil {α : Type} {f : BackgroundTask → Option α} (h : GoesOn records)
    (hf : ∀ task : BackgroundTask, task.deletes?.isSome = true → f task = none) :
    tasksBy f records = [] := by
  rw [tasksBy, List.filterMap_filterMap]
  refine List.filterMap_eq_nil_iff.mpr fun r hr => ?_
  cases r with
  | backgroundTask task => exact hf task (h.tasks task hr)
  | _ => rfl

/-- The batch is a complete end of the run in progress, with a kind of state and on behalf of a
directive with `P`, or it does not end it. -/
def Closes (P : RunStateKind → Directive → Prop) (sn : StateSnapshot) (records : List Record) :
    Prop :=
  (∃ src now kind, kind.isTerminal = true ∧ P kind src ∧
    Closing src (Records.finished now sn.runState kind) records) ∨ GoesOn records

variable {P : RunStateKind → Directive → Prop}

theorem Closing.closes {src : Directive} {now : Time} {kind : RunStateKind}
    (h : Closing src (Records.finished now sn.runState kind) records)
    (hkind : kind.isTerminal = true) (hsrc : P kind src) : Closes P sn records :=
  .inl ⟨src, now, kind, hkind, hsrc, h⟩

theorem Closes.mono {P' : RunStateKind → Directive → Prop} (h : Closes P sn records)
    (himp : ∀ kind src, P kind src → P' kind src) : Closes P' sn records := by
  rcases h with ⟨src, now, kind, hkind, hsrc, hclosing⟩ | hgoesOn
  · exact hclosing.closes hkind (himp kind src hsrc)
  · exact .inr hgoesOn

theorem Closing.eq_of_mem {src : Directive} {s' : RunState} {n : ℕ} (h : Closing src s records)
    (hs' : Record.runState s' n ∈ records) : s' = s := by
  obtain ⟨m, hstates⟩ := h.states
  have hmem : (s', n) ∈ records.filterMap Record.runState? := List.mem_filterMap.mpr ⟨_, hs', rfl⟩
  rw [hstates] at hmem
  cases List.mem_singleton.mp hmem
  rfl

/-- Records in front of a batch do not matter, whether it ends the run or not. -/
theorem Closes.prepend {notes body : List Record} (h : Closes P sn body)
    (hnotes : ∀ r ∈ notes, r.isPreface = true) : Closes P sn (notes ++ body) := by
  rcases h with ⟨src, now, kind, hkind, hsrc, hclosing⟩ | hgoesOn
  · exact (hclosing.prepend hnotes).closes hkind hsrc
  · refine .inr ⟨fun s n hs => ?_, fun task ht => ?_⟩
    · rcases List.mem_append.mp hs with hs | hs
      · cases hnotes _ hs
      · exact hgoesOn.live s n hs
    · rcases List.mem_append.mp ht with ht | ht
      · exact hnotes _ ht
      · exact hgoesOn.tasks task ht

/-! Dispatches, waits and receipts leave the run in a live state. -/

theorem Dispatch.goesOn {src : Directive} {cur : RunState} (h : Dispatch src cur s records) :
    GoesOn records := by
  cases h
  refine ⟨fun s' n hs' => ?_, by simp⟩
  simp only [List.mem_cons, List.not_mem_nil, reduceCtorEq, false_or, or_false] at hs'
  cases hs'
  rfl

theorem Suspend.goesOn {src : Directive} (h : Suspend src sn s records) : GoesOn records := by
  cases h
  refine ⟨fun s' n hs' => ?_, fun task ht => ?_⟩
  · rcases List.mem_append.mp hs' with hs' | hs'
    · simp only [List.mem_cons, List.not_mem_nil, reduceCtorEq, false_or, or_false] at hs'
      cases hs'
      rfl
    · split at hs' <;> simp at hs'
  · rcases List.mem_append.mp ht with ht | ht
    · simp at ht
    · split at ht <;> simp at ht

/-- An event next to a state that is as live as the current one. -/
theorem goesOn_of_receipt {h : HistoryEvent} {n : ℕ} (hs : s.isTerminal = false) :
    GoesOn [.history h, .runState s n] := by
  refine ⟨fun s' n' hs' => ?_, by simp⟩
  simp only [List.mem_cons, List.not_mem_nil, reduceCtorEq, false_or, or_false] at hs'
  cases hs'
  exact hs

theorem goesOn_of_stepPickedUp (hlive : sn.runState.isTerminal = false)
    (h : Records.stepPickedUp nd sn.runState = .ok records) : GoesOn records := by
  obtain ⟨workerID, he, -, rfl⟩ := Records.stepPickedUp_eq_ok h
  exact goesOn_of_receipt hlive

theorem goesOn_of_cancelReceived (hlive : sn.runState.isTerminal = false)
    (h : Records.cancelReceived nd sn.runState = .ok records) : GoesOn records := by
  obtain ⟨he, -, rfl⟩ := Records.cancelReceived_eq_ok h
  exact goesOn_of_receipt hlive

theorem goesOn_of_eventReceived (h : Records.eventReceived env nd sn = .ok records) :
    GoesOn records := by
  obtain ⟨he, -, rfl⟩ := Records.eventReceived_eq_ok h
  constructor
  all_goals
    intros
    split_ifs at * <;> simp_all

theorem goesOn_of_planFromRunStart (h : planFromRunStart cfg env d = .ok records) :
    GoesOn records := by
  obtain ⟨ri, e, input, step, -, -, hinput, hstep, rfl⟩ := parts_of_planFromRunStart h
  obtain ⟨s, hs, -⟩ := Records.dispatch_of_stepStart hstep
  constructor
  · intro s' n hs'
    simp only [List.mem_append, List.mem_cons, List.not_mem_nil, reduceCtorEq, false_or,
      or_false] at hs'
    rcases hs' with hs' | hs' | hs'
    · obtain ⟨v, hv⟩ := hinput _ hs'
      cases hv
    · cases hs'
      rfl
    · exact hs.goesOn.live s' n hs'
  · intro task ht
    simp only [List.mem_append, List.mem_cons, List.not_mem_nil, reduceCtorEq, false_or,
      or_false] at ht
    rcases ht with ht | ht
    · obtain ⟨v, hv⟩ := hinput _ ht
      cases hv
    · exact hs.goesOn.tasks task ht

theorem isPreface_event {kind : HistoryKind} {e : HistoryEvent} (h : History.About nd kind e)
    (hcloses : kind.closes = false) : ∀ r ∈ [Record.history e], r.isPreface = true := by
  intro r hr
  rw [List.mem_singleton.mp hr, Record.isPreface, h.kind, hcloses]
  rfl

/-- The records that close a step. -/
theorem isPreface_step {kv : Option KVUpdates} {kind : HistoryKind} {e : HistoryEvent}
    (h : History.About d kind e) (hcloses : kind.closes = false) :
    ∀ r ∈ Records.kvRecords d kv ++ [.history e] ++ Records.deleteStepTimeoutTimer d sn.runState,
      r.isPreface = true := by
  simp only [List.forall_mem_append]
  refine ⟨⟨fun r hr => ?_, isPreface_event h hcloses⟩, fun r hr => ?_⟩
  · cases kv with
    | none => cases hr
    | some kvMap =>
      rw [List.mem_singleton.mp hr]
      rfl
  · rw [List.mem_singleton.mp hr]
    rfl

theorem isPreface_stepComplete (h : Records.stepComplete env d sn.runState = .ok records) :
    ∀ r ∈ records, r.isPreface = true := by
  obtain ⟨_, _, _, _, _, _, _, he, -, hhe, rfl⟩ := Records.stepComplete_eq_ok h
  exact isPreface_step (History.about_of_stepCompleted hhe) rfl

theorem isPreface_stepFail (h : Records.stepFail env d sn.runState = .ok records) :
    ∀ r ∈ records, r.isPreface = true := by
  obtain ⟨_, _, _, _, _, _, _, he, -, hhe, rfl⟩ := Records.stepFail_eq_ok h
  exact isPreface_step (History.about_of_stepFailed hhe) rfl

theorem closes_of_stepTimeout (hnd : nd.kind = .stepTimeout)
    (h : Records.stepTimeout env nd sn.runState = .ok records) :
    Closes (EndsBy env nd) sn records := by
  obtain ⟨_, _, he, body, -, -, hhe, hbody, rfl⟩ := Records.stepTimeout_eq_ok h
  exact ((Records.closing_of_failRun hbody).closes rfl (.timeout (.inl hnd))).prepend
    (isPreface_event (History.about_of_stepTimedout hhe) rfl)

theorem closes_of_waitTimeout {timeoutMS : UInt32} (hnd : nd.kind = .waitTimeout)
    (h : Records.waitTimeout env nd sn.runState timeoutMS = .ok records) :
    Closes (EndsBy env nd) sn records := by
  obtain ⟨_, he, body, -, -, hhe, rfl, hbody⟩ := Records.waitTimeout_eq_ok h
  refine Closes.prepend ?_ (isPreface_event (History.about_of_waitTimedOut hhe) rfl)
  rcases hbody with hbody | ⟨error, hbody⟩
  · obtain ⟨s, hs, -⟩ := Records.dispatch_of_stepStart hbody
    exact .inr hs.goesOn
  · exact (Records.closing_of_failRun hbody).closes rfl (.timeout (.inr hnd))

theorem closes_of_planTransition (hlive : sn.runState.isTerminal = false)
    (h : planTransition cfg env nd sn = .ok records) : Closes (EndsBy env nd) sn records := by
  rw [planTransition] at h
  split at h <;> rename_i hnd
  · obtain ⟨s, hs, -⟩ := Records.dispatch_of_stepStart h
    exact .inr hs.goesOn
  · exact .inr (goesOn_of_stepPickedUp hlive h)
  · obtain ⟨s, hs, -⟩ := Records.dispatch_of_eventStart hnd h
    exact .inr hs.goesOn
  · exact closes_of_stepTimeout hnd h
  · exact (Records.closing_of_completeRun h).closes rfl (.complete hnd)
  · exact (Records.closing_of_failRun h).closes rfl (.fail hnd)
  · exact (Records.closing_of_terminateRun h).closes rfl (.terminate hnd)
  · obtain ⟨s, hs, -⟩ := Records.suspend_of_wait h
    exact .inr hs.goesOn
  · exact closes_of_waitTimeout hnd h
  · simp at h

theorem closes_of_planFromStepResult (hlive : sn.runState.isTerminal = false)
    (hd : d.kind = .stepResult) (h : planFromStepResult cfg env d sn = .ok records) :
    Closes (Terminates env d sn) sn records := by
  obtain ⟨notes, body, hparts, rfl⟩ := planFromStepResult_eq_ok h
  cases hparts with
  | fail hnotes hbody hnext =>
    exact ((Records.closing_of_failRun hbody).closes rfl (.failedStep hd hnext)).prepend
      (isPreface_stepFail hnotes)
  | cancel hcancel hnotes hbody hnext hk =>
    exact ((Records.closing_of_cancelRun hbody).closes rfl (.parked hd hnext hk hcancel)).prepend
      (isPreface_stepComplete hnotes)
  | @next _ k _ m _ _ _ _ _ hmsg hfree hnotes hbody =>
    have hends := closes_of_planTransition hlive hbody
    have hnext : d.msg.next? = some (k, m) := by
      rw [hmsg]
      rfl
    exact (hends.mono fun kind src => .next hd hnext hfree).prepend (isPreface_stepComplete hnotes)

/-- Every batch of the plan that ends a run is complete. -/
theorem closes_of_plan (hlive : sn.runState.isTerminal = false)
    (h : plan cfg env d sn = .ok records) : Closes (Terminates env d sn) sn records := by
  rw [plan, if_neg (by simp [hlive])] at h
  split at h <;> rename_i hkind
  · exact .inr (goesOn_of_planFromRunStart h)
  · exact closes_of_planFromStepResult hlive hkind h
  · rw [planCancel] at h
    split_ifs at h with hstep
    · exact .inr (goesOn_of_cancelReceived hlive h)
    · exact (Records.closing_of_cancelRun h).closes rfl (.cancelled hkind hstep)
  · exact .inr (goesOn_of_eventReceived h)
  · rw [planWakeFromInbox] at h
    split_ifs at h with hidle
    · cases h
      exact .inr ⟨by simp, by simp⟩
    · rw [not_or, not_not] at hidle
      exact (closes_of_planTransition hlive h).mono fun kind src => .event hkind hidle.1
  · exact (closes_of_planTransition hlive h).mono fun kind src => .direct

theorem closes_of_buildUnexpectedFailure (cfg : Defaults) {cause : String}
    (h : Records.buildUnexpectedFailure env d cause sn.runState = .ok records) :
    Closes (EndedBy cfg env d sn records) sn records :=
  (Records.closing_of_failRun h).closes rfl (.unexpected h)

/-- Every batch that is handed to the store ends the run completely or not at all. -/
theorem closes_of_handleRecords {failEnv : Readings}
    (h : handleRecords cfg env failEnv d sn = .ok records) :
    Closes (fun _ _ => True) sn records := by
  rw [handleRecords] at h
  split at h
  · exact (closes_of_buildUnexpectedFailure cfg h).mono fun _ _ _ => trivial
  · cases hlive : sn.runState.isTerminal with
    | false => exact (closes_of_plan hlive h).mono fun _ _ _ => trivial
    | true =>
      rw [plan, if_pos hlive] at h
      cases h
      exact .inr ⟨by simp, by simp⟩

end Plan

/-- A batch that `plan` or `BuildUnexpectedFailure` builds for a run in progress and that has a
terminal run state is complete: one state and one description with the status of that state, one
closing event, one task that purges the workflow, and, if the description that the run is ended with
names a parent and a step of it, one task that tells the parent the outcome of that event. That
description is the one of the directive that ends the run on the path taken: the cancel that waited
for a step result, the message that the result names next, the pending event, or the directive at
hand. The error of a failed run is recorded, a result only for a completed one, and nothing goes
on. -/
theorem terminal_batch_complete (cfg : Defaults) (env : Readings) (d : Directive)
    (sn : StateSnapshot) (records : List Record) (hlive : sn.runState.isTerminal = false)
    (h : plan cfg env d sn = .ok records ∨
      ∃ cause, Records.buildUnexpectedFailure env d cause sn.runState = .ok records)
    (s : RunState) (n : ℕ) (hs : Record.runState s n ∈ records) (hterm : s.isTerminal = true) :
    ∃ src, EndedBy cfg env d sn records s.kind src ∧ Closing src s records := by
  have hcloses : Closes (EndedBy cfg env d sn records) sn records := by
    rcases h with h | ⟨cause, h⟩
    · exact (closes_of_plan hlive h).mono fun kind src => .planned h
    · exact closes_of_buildUnexpectedFailure cfg h
  rcases hcloses with ⟨src, now, kind, -, hsrc, hclosing⟩ | hgoesOn
  · obtain rfl := hclosing.eq_of_mem hs
    exact ⟨src, hsrc, hclosing⟩
  · simp [hgoesOn.live s n hs] at hterm

/-- The step `pay` of a child run of the workflow `up` has failed. -/
def failedChildStep : Directive where
  id := "d1"
  timestamp := 5000000
  kind := .stepResult
  runInfo :=
    { id := "r1", wfID := "wf", wfType := "Order", startedAt := some 1000000
      parentWFID := some "up", parentCallbackStep := some "join" }
  msg := .stepResult .step (.step "pay" 0) (some "w1") 12 none .failStep
    (.failStep "pay" { message := "declined", type := "PaymentError" })

/-- The child run while its step is in progress. -/
def payingChild : StateSnapshot where
  runState := { wfID := "wf", runID := "r1", kind := .step, activeDirectiveID := "t1" }

theorem terminal_batch_complete_failedChildStep : ∃ records s src,
    plan ⟨1000, 1000⟩ ⟨9000000, "n1"⟩ failedChildStep payingChild = .ok records ∧
      s.kind = .fail ∧ Closing src s records := by
  have hplan : plan ⟨1000, 1000⟩ ⟨9000000, "n1"⟩ failedChildStep payingChild = .ok _ := rfl
  obtain ⟨src, -, hclosing⟩ := terminal_batch_complete _ _ _ _ _ rfl (.inl hplan) _ _
    (.tail _ (.tail _ (.tail _ (.tail _ (.head _))))) rfl
  exact ⟨_, _, src, hplan, rfl, hclosing⟩

end Grctl
