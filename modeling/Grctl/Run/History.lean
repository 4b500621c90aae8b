import Grctl.Types.Record

/-!
# History events

The constructors of `run/history/history.go`. Each asserts the type of the directive's message
and reads the run it names; those of a finished run also compute its duration, and it is there
that a missing start time matters: `RunCompleted`, `RunFailed` and `RunCancelled` dereference it,
`RunTerminated` looks first.

Every clock reading is the parameter `now`.
-/

namespace Grctl.History

/-- The envelope shared by all events of the run a directive names. -/
def event (d : Directive) (timestamp : Time) (kind : HistoryKind) (msg : HistoryMessage) :
    HistoryEvent where
  wfID := d.runInfo.wfID
  runID := d.runInfo.id
  timestamp := timestamp
  kind := kind
  msg := msg

/-- `d.Timestamp.Sub(*d.RunInfo.StartedAt).Milliseconds()`, which panics without a start time. -/
def durationMS (d : Directive) : Outcome ℤ :=
  match d.runInfo.startedAt with
  | none => .error .nilDereference
  | some startedAt => .ok (d.timestamp.subMilliseconds startedAt)

/-- `RunStarted`. -/
def runStarted (d : Directive) (timestamp : Time) : Outcome HistoryEvent :=
  match d.msg with
  | .start input _ => .ok (event d timestamp .runStarted (.runStarted input))
  | m => fail ("expected Start directive but got " ++ m.goType)

/-- `RunCompleted`. -/
def runCompleted (d : Directive) : Outcome HistoryEvent :=
  match d.msg with
  | .complete result => do
    let duration ← durationMS d
    return event d d.timestamp .runCompleted (.runCompleted result duration)
  | m => fail ("expected Complete directive but got " ++ m.goType)

/-- `RunFailed`; its error text names `Complete`. -/
def runFailed (d : Directive) : Outcome HistoryEvent :=
  match d.msg with
  | .fail error => do
    let duration ← durationMS d
    return event d d.timestamp .runFailed (.runFailed error duration)
  | m => fail ("expected Complete directive but got " ++ m.goType)

/-- `RunCancelReceived`. -/
def runCancelReceived (d : Directive) : Outcome HistoryEvent :=
  match d.msg with
  | .cancel _ => .ok (event d d.timestamp .runCancelReceived .runCancelReceived)
  | m => fail ("expected CancelSchedule directive but got " ++ m.goType)

/-- `RunTerminated`: the duration of a run without a start time is zero. -/
def runTerminated (d : Directive) : Outcome HistoryEvent :=
  match d.msg with
  | .terminate reason =>
    let duration := match d.runInfo.startedAt with
      | none => 0
      | some startedAt => d.timestamp.subMilliseconds startedAt
    .ok (event d d.timestamp .runTerminated (.runTerminated reason duration))
  | m => fail ("expected Terminate directive but got " ++ m.goType)

/-- `RunCancelled`. -/
def runCancelled (d : Directive) : Outcome HistoryEvent :=
  match d.msg with
  | .cancel reason => do
    let duration ← durationMS d
    return event d d.timestamp .runCancelled (.runCancelled reason duration)
  | m => fail ("expected Cancel directive but got " ++ m.goType)

/-- `StepStarted`, of a start or a step directive; its error text names `StepResult`. -/
def stepStarted (now : Time) (d : Directive) : Outcome HistoryEvent :=
  if d.kind = .start then
    .ok (event d now .stepStarted (.stepStarted "start" ""))
  else
    match d.msg with
    | .step name _ => .ok (event d now .stepStarted (.stepStarted name ""))
    | m => fail ("expected StepResult directive but got " ++ m.goType)

/-- `StepPickedUp`. -/
def stepPickedUp (d : Directive) : Outcome HistoryEvent :=
  match d.msg with
  | .stepPickedUp stepName workerID timestamp =>
    .ok { event d timestamp .stepStarted (.stepStarted stepName workerID) with
      workerID := workerID }
  | m => fail ("expected StepPickedUp directive but got " ++ m.goType)

/-- `StepResult.ProcStepName`. -/
def procStepName (processedMsg : DirectiveMessage) : Outcome String :=
  match processedMsg.dispatchable? with
  | some (stepName, _) => .ok stepName
  | none => fail ("wrong message type. Processed message should be DispatchableMessage: " ++
      processedMsg.goType)

/-- `StepCompleted`, for a result that processed `processedMsg`. -/
def stepCompleted (now : Time) (d : Directive) (processedMsg : DirectiveMessage)
    (workerID : Option WorkerID) (durationMS : ℤ) : Outcome HistoryEvent := do
  let stepName ← wrap "cannot publish step complete event" (procStepName processedMsg)
  let worker := workerID.getD ""
  return { event d now .stepCompleted (.stepCompleted stepName worker durationMS) with
    workerID := worker }

/-- `StepFailed`, for a result that processed `processedMsg` and names `nextMsg`. -/
def stepFailed (now : Time) (d : Directive) (processedMsg : DirectiveMessage) (durationMS : ℤ)
    (nextMsg : DirectiveMessage) : Outcome HistoryEvent := do
  let stepName ← wrap "cannot publish step failed event" (procStepName processedMsg)
  match nextMsg with
  | .failStep _ error =>
    return event d now .stepFailed (.stepFailed stepName error durationMS)
  | m => fail ("cannot publish step failed event: expected FailStep next msg but got " ++ m.goType)

/-- `StepTimedout`. -/
def stepTimedout (now : Time) (d : Directive) (currentState : RunState) : Outcome HistoryEvent :=
  match d.msg with
  | .stepTimeout stepName _ =>
    .ok (event d now .stepTimeout
      (.stepTimedout stepName (now.subMilliseconds currentState.enteredAt)))
  | m => fail ("cannot publish step timeout event: expected StepTimeout but got " ++ m.goType)

/-- `WaitTimedOut`. -/
def waitTimedOut (now : Time) (d : Directive) : Outcome HistoryEvent :=
  match d.msg with
  | .waitTimeout timeoutStepName originalDirectiveID =>
    .ok (event d now .waitTimedOut (.waitTimedOut originalDirectiveID timeoutStepName))
  | m => fail ("cannot publish wait timed out history event: " ++
      "expected WaitTimeout directive but got " ++ m.goType)

/-- `WaitStarted`. -/
def waitStarted (now : Time) (d : Directive) : Outcome HistoryEvent :=
  match d.msg with
  | .wait timeout timeoutStepName =>
    .ok (event d now .waitStarted (.waitStarted d.id timeout timeoutStepName))
  | m => fail ("cannot publish wait started history event: expected Wait directive but got " ++
      m.goType)

/-- `EventReceived`. -/
def eventReceived (now : Time) (d : Directive) : Outcome HistoryEvent :=
  match d.msg with
  | .event e => .ok (event d now .eventReceived (.eventReceived e.eventName e.payload))
  | m => fail ("cannot publish event received history event: expected Event directive but got " ++
      m.goType)

end Grctl.History
