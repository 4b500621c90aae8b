import Grctl.Store.JSStateStore

/-!
# Background tasks

`BgTaskHandler.Handle` decides what a delivered background task does (`run/bgtask.go`). Only the
decision is made here; the effects are operations of the store, of the timers, or messages to a
worker. The notification of a parent reads the store before it decides, and is given in full.
-/

namespace Grctl.BgTask

/-- What handling a background task does. -/
inductive Action
  | discard
  | cancelTimer (wfID : WFID) (kind : TimerKind) (timerID : TimerID)
  | deleteInboxEvent (seqID : ℕ)
  | purgeRunResidue (wfID : WFID)
  | notifyParent (payload : NotifyParentCompletePayload)
  | terminateWorkerRun (workerID : WorkerID) (runID : RunID)
  deriving DecidableEq, Repr

/-- `BgTaskHandler.Handle`: a task that was delivered too often, has an unknown kind or does not
decode is discarded. -/
def handle (maxDeliveries : ℕ) (task : BackgroundTask) (numDelivered : ℕ) : Action :=
  if numDelivered > maxDeliveries then .discard
  else match task.kind, task.payload with
    | .deleteTimer, .deleteTimer wfID kind timerID => .cancelTimer wfID kind timerID
    | .deleteInboxEvent, .deleteInboxEvent seqID => .deleteInboxEvent seqID
    | .purgeRunResidue, .purgeRunResidue wfID => .purgeRunResidue wfID
    | .notifyParentComplete, .notifyParentComplete payload => .notifyParent payload
    | .workerTerminateRun, .workerTerminateRun workerID runID => .terminateWorkerRun workerID runID
    | _, _ => .discard

/-- The event `handleNotifyParentComplete` publishes to a parent run that has not finished. -/
def parentDirective (now : Time) (task : BackgroundTask) (payload : NotifyParentCompletePayload)
    (parent : RunInfo) : Directive where
  id := "notify." ++ task.deduplicationID
  timestamp := now
  kind := .event
  runInfo := parent
  msg := .event
    { eventName := payload.stepName
      payload := .childOutcome payload.status payload.result payload.error }

/-- The parent run that `handleNotifyParentComplete` finds: an error is retried, and a parent that
has finished is not called back. -/
def parentRun (l : Stream) (payload : NotifyParentCompletePayload) : Outcome (Option RunInfo) :=
  match getRunByWFID l payload.parentWFID with
  | .error fault => .error fault
  | .ok none => fail "workflow run not found"
  | .ok (some parent) => .ok (if parent.status.isTerminal then none else some parent)

/-- `handleNotifyParentComplete`, when nothing else happens between its read and its publication:
the directive it publishes, if any. -/
def handleNotifyParentComplete (now : Time) (l : Stream) (task : BackgroundTask)
    (payload : NotifyParentCompletePayload) : Outcome (Option Directive) := do
  let parent ← parentRun l payload
  return parent.map (parentDirective now task payload)

theorem parentRun_eq_some {l : Stream} {payload : NotifyParentCompletePayload} {parent : RunInfo} :
    parentRun l payload = .ok (some parent) ↔
      getRunByWFID l payload.parentWFID = .ok (some parent) ∧
        parent.status.isTerminal = false := by
  rw [parentRun]
  split
  · simp_all
  · simp_all [fail]
  · simp_all
    grind

end Grctl.BgTask
