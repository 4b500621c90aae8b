import Grctl.Types.Directive

/-!
# Records, history events and background tasks

A planned batch is a list of `Record`s, the values of `types/record.go`: what one directive
changes in the durable state of its run. The payload of a background task is kept decoded.

Of the history messages only those that the server itself writes are listed; the events that
workers append to the history are the constructor `recorded`.

## Main definitions

* `HistoryMessage`, `HistoryEvent`.
* `BackgroundTask` and its constructors.
* `Record`, `StateSnapshot`, `HandleResult`.
-/

namespace Grctl

/-- `HistoryKind`, for the events the server writes; `recorded` stands for those of a worker. -/
inductive HistoryKind
  | runStarted
  | runCompleted
  | runFailed
  | runCancelReceived
  | runCancelled
  | runTerminated
  | stepStarted
  | stepCompleted
  | stepFailed
  | stepTimeout
  | waitStarted
  | waitTimedOut
  | eventReceived
  | recorded
  deriving DecidableEq, Repr

/-- The messages of history events. -/
inductive HistoryMessage
  | runStarted (input : Value)
  | runCompleted (result : Value) (durationMS : ℤ)
  | runFailed (error : ErrorDetails) (durationMS : ℤ)
  | runCancelReceived
  | runCancelled (reason : String) (durationMS : ℤ)
  | runTerminated (reason : String) (durationMS : ℤ)
  | stepStarted (stepName : String) (workerID : WorkerID)
  | stepCompleted (stepName : String) (workerID : WorkerID) (durationMS : ℤ)
  | stepFailed (stepName : String) (error : ErrorDetails) (durationMS : ℤ)
  | stepTimedout (stepName : String) (durationMS : ℤ)
  | waitStarted (directiveID : DirectiveID) (timeout : UInt32) (timeoutStepName : String)
  | waitTimedOut (originalDirectiveID : DirectiveID) (timeoutStepName : String)
  | eventReceived (eventName : String) (payload : Value)
  | recorded (content : Value)
  deriving DecidableEq, Repr

/-- `HistoryEvent`. -/
structure HistoryEvent where
  wfID : WFID
  runID : RunID
  workerID : WorkerID := ""
  timestamp : Time
  kind : HistoryKind
  msg : HistoryMessage
  deriving DecidableEq, Repr

/-- `BackgroundTaskKind`. -/
inductive BackgroundTaskKind
  | deleteTimer
  | deleteInboxEvent
  | purgeRunResidue
  | notifyParentComplete
  | workerTerminateRun
  | other (text : String)
  deriving DecidableEq, Repr

/-- The text of a background task kind. -/
def BackgroundTaskKind.text : BackgroundTaskKind → String
  | .deleteTimer => "delete_timer"
  | .deleteInboxEvent => "delete_inbox_event"
  | .purgeRunResidue => "purge_run_residue"
  | .notifyParentComplete => "notify_parent_complete"
  | .workerTerminateRun => "worker_terminate_run"
  | .other text => text

/-- `NotifyParentCompletePayload`. -/
structure NotifyParentCompletePayload where
  parentWFID : WFID
  stepName : String
  childWFID : WFID
  status : RunStatus
  result : Value
  error : Option ErrorDetails
  deriving DecidableEq, Repr

/-- The decoded payload of a background task; `raw` is one that does not decode. -/
inductive TaskPayload
  | deleteTimer (wfID : WFID) (kind : TimerKind) (timerID : TimerID)
  | deleteInboxEvent (seqID : ℕ)
  | purgeRunResidue (wfID : WFID)
  | notifyParentComplete (payload : NotifyParentCompletePayload)
  | workerTerminateRun (workerID : WorkerID) (runID : RunID)
  | raw (bytes : String)
  deriving DecidableEq, Repr

/-- `BackgroundTask`. -/
structure BackgroundTask where
  kind : BackgroundTaskKind
  deduplicationID : DirectiveID
  payload : TaskPayload
  deriving DecidableEq, Repr

/-- `DeriveBgTaskID`. -/
def deriveBgTaskID (parentID : DirectiveID) (taskKind : BackgroundTaskKind) : DirectiveID :=
  "bg." ++ taskKind.text ++ "." ++ parentID

/-- The task constructors of `background_task.go` differ only in kind and payload: each derives
its deduplication identifier from the directive that asks for the task. -/
def newTask (parentID : DirectiveID) (kind : BackgroundTaskKind) (payload : TaskPayload) :
    BackgroundTask where
  kind := kind
  deduplicationID := deriveBgTaskID parentID kind
  payload := payload

/-- `NewDeleteTimerTask`. -/
def newDeleteTimerTask (parentID : DirectiveID) (wfID : WFID) (kind : TimerKind)
    (timerID : TimerID) : BackgroundTask :=
  newTask parentID .deleteTimer (.deleteTimer wfID kind timerID)

/-- `NewPurgeRunResidueTask`. -/
def newPurgeRunResidueTask (parentID : DirectiveID) (wfID : WFID) : BackgroundTask :=
  newTask parentID .purgeRunResidue (.purgeRunResidue wfID)

/-- `NewWorkerTerminateRunTask`. -/
def newWorkerTerminateRunTask (parentID : DirectiveID) (workerID : WorkerID) (runID : RunID) :
    BackgroundTask :=
  newTask parentID .workerTerminateRun (.workerTerminateRun workerID runID)

/-- `NewNotifyParentCompleteTask`. -/
def newNotifyParentCompleteTask (parentID : DirectiveID)
    (payload : NotifyParentCompletePayload) : BackgroundTask :=
  newTask parentID .notifyParentComplete (.notifyParentComplete payload)

/-- The records of `types/record.go`. -/
inductive Record
  | runInfo (info : RunInfo) (expectedSeq : ℕ)
  | runInput (wfID : WFID) (runID : RunID) (input : Value)
  | runOutput (wfID : WFID) (runID : RunID) (result : Value)
  | runError (wfID : WFID) (runID : RunID) (error : ErrorDetails)
  | runState (state : RunState) (expectedSeq : ℕ)
  | timer (timer : Timer)
  | history (history : HistoryEvent)
  | inbox (directive : Directive)
  | kv (wfID : WFID) (runID : RunID) (kvMap : KVUpdates)
  | workerTask (directive : Directive)
  | directive (directive : Directive)
  | backgroundTask (task : BackgroundTask)
  deriving DecidableEq, Repr

namespace Record

/-- The run state and the expected sequence of a run state record. -/
def runState? : Record → Option (RunState × ℕ)
  | .runState state expectedSeq => some (state, expectedSeq)
  | _ => none

/-- The directive of a worker task. -/
def workerTask? : Record → Option Directive
  | .workerTask d => some d
  | _ => none

/-- The directive of an inbox record. -/
def inbox? : Record → Option Directive
  | .inbox d => some d
  | _ => none

/-- The directive that a record publishes. -/
def directive? : Record → Option Directive
  | .directive d => some d
  | _ => none

/-- The description of a run description record. -/
def runInfo? : Record → Option RunInfo
  | .runInfo info _ => some info
  | _ => none

/-- The event of a history record. -/
def history? : Record → Option HistoryEvent
  | .history h => some h
  | _ => none

variable {r : Record}

theorem runState?_eq_some {s : RunState} {n : ℕ} :
    r.runState? = some (s, n) ↔ r = .runState s n := by
  cases r <;> simp [runState?]

theorem history?_eq_some {h : HistoryEvent} : r.history? = some h ↔ r = .history h := by
  cases r <;> simp [history?]

end Record

/-- `StateSnapshot`: the state of a run as the run manager sees it. -/
structure StateSnapshot where
  runState : RunState := .zero
  event : Directive := .zero
  lastHistorySeqID : ℕ := 0
  deriving DecidableEq, Repr

/-- `HandleResult`, less the delay and the message, which no caller branches on. -/
inductive HandleResult
  | failed
  | processed
  | retryable
  deriving DecidableEq, Repr

end Grctl
