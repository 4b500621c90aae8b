import Grctl.Run.History

/-!
# Record builders

The functions of `run/record`: each turns a directive and the current state of its run into the
records of one transition. A builder that writes a run state copies the current one, changes the
fields of its transition and expects the sequence number the current state was read at.

`Readings` are the clock and the identifier generator: one reading of each stands for all those
of one call. Encoding the payload of a background task cannot fail and is not modelled as a
fallible step.

## Main definitions

* Run transitions: `start`, `completeRun`, `terminateRun`, `cancelReceived`, `cancelRun`,
  `failRun`, `buildUnexpectedFailure`.
* Step transitions: `stepStart`, `stepPickedUp`, `stepComplete`, `stepFail`, `stepTimeout`.
* Waits and events: `wait`, `eventReceived`, `eventStart`, `waitTimeout`.
-/

namespace Grctl

/-- What a call reads from outside the store: `time.Now().UTC()` and `NewDirectiveID()`. -/
structure Readings where
  now : Time
  newID : DirectiveID
  deriving DecidableEq, Repr

namespace Records

/-! ### Ending a run -/

/-- `parentCallbackRecords`. -/
def parentCallbackRecords (d : Directive) (status : RunStatus) (result : Value)
    (errDetails : Option ErrorDetails) : List Record :=
  match d.runInfo.parentWFID, d.runInfo.parentCallbackStep with
  | some parentWFID, some stepName =>
    [.backgroundTask (newNotifyParentCompleteTask d.id
      { parentWFID, stepName, childWFID := d.runInfo.wfID, status, result, error := errDetails })]
  | _, _ => []

/-- The command that stops the worker of a run, when one is known. -/
def workerTerminateRecords (d : Directive) (currentState : RunState) : List Record :=
  match currentState.workerID with
  | none => []
  | some workerID =>
    [.backgroundTask (newWorkerTerminateRunTask d.id workerID currentState.runID)]

/-- The task that clears what a finished run leaves behind. -/
def purgeRecord (d : Directive) : Record :=
  .backgroundTask (newPurgeRunResidueTask d.id d.runInfo.wfID)

/-- The state of a run that has ended, as all four terminal builders set it. -/
def finished (now : Time) (currentState : RunState) (kind : RunStateKind) : RunState :=
  { currentState with kind := kind, enteredAt := now, activeDirectiveID := "" }

/-- `Start`; the start time must already be set. -/
def start (d : Directive) : Outcome (List Record) :=
  match d.runInfo.startedAt with
  | none => .error .nilDereference
  | some startedAt => do
    let h ← wrap "failed to create run started history event" (History.runStarted d startedAt)
    let input := match d.msg with
      | .start .nil _ => []
      | .start input _ => [Record.runInput d.runInfo.wfID d.runInfo.id input]
      | _ => []
    return [.history h, .runInfo d.runInfo 0] ++ input

/-- The output record and the result of a completed run. -/
def outputRecords (d : Directive) : Value → List Record
  | .nil => []
  | result => [.runOutput d.runInfo.wfID d.runInfo.id result]

/-- `CompleteRun`. -/
def completeRun (env : Readings) (d : Directive) (currentState : RunState) :
    Outcome (List Record) := do
  let ri ← wrap "failed to create run completed state update" (d.runInfo.complete d.timestamp)
  let h ← wrap "failed to create run completed history event" (History.runCompleted d)
  let result := match d.msg with
    | .complete result => result
    | _ => .nil
  return [.runInfo ri 0, .history h,
      .runState (finished env.now currentState .complete) currentState.seqID] ++
    outputRecords d result ++ parentCallbackRecords d .completed result none ++ [purgeRecord d]

/-- The error a parent is told for a run that was stopped: a given reason replaces the default
text. -/
def stopError (type defaultMessage reason : String) : ErrorDetails where
  type := type
  message := if reason = "" then defaultMessage else reason

/-- `TerminateRun`. -/
def terminateRun (env : Readings) (d : Directive) (currentState : RunState) :
    Outcome (List Record) := do
  let ri ← wrap "failed to create run terminated state update" (d.runInfo.terminate d.timestamp)
  let h ← wrap "failed to create run terminated history event" (History.runTerminated d)
  let reason := match d.msg with
    | .terminate reason => reason
    | _ => ""
  return [.runInfo ri 0, .history h,
      .runState (finished env.now currentState .terminate) currentState.seqID] ++
    workerTerminateRecords d currentState ++
    parentCallbackRecords d .terminated .nil
      (some (stopError "Terminated" "run was terminated" reason)) ++ [purgeRecord d]

/-- `CancelReceived`: the cancel is parked in the state until the step in progress ends. -/
def cancelReceived (d : Directive) (currentState : RunState) : Outcome (List Record) := do
  let he ← wrap "failed to create run cancel received history event" (History.runCancelReceived d)
  return [.history he,
    .runState { currentState with pendingCancel := some d } currentState.seqID]

/-- `CancelRun`. -/
def cancelRun (env : Readings) (d : Directive) (currentState : RunState) :
    Outcome (List Record) := do
  let ri ← wrap "failed to create run cancelled state update" (d.runInfo.cancel d.timestamp)
  let h ← wrap "failed to create run cancelled history event" (History.runCancelled d)
  let reason := match d.msg with
    | .cancel reason => reason
    | _ => ""
  return [.runInfo ri 0, .history h,
      .runState (finished env.now currentState .cancel) currentState.seqID] ++
    parentCallbackRecords d .cancelled .nil
      (some (stopError "Cancelled" "workflow was cancelled" reason)) ++ [purgeRecord d]

/-- `FailRun`. -/
def failRun (env : Readings) (d : Directive) (currentState : RunState) : Outcome (List Record) :=
  match d.msg with
  | .fail error => do
    let ri ← wrap "failed to create run failed state update" (d.runInfo.fail d.timestamp)
    let he ← wrap "failed to create run failed history event" (History.runFailed d)
    return [.runInfo ri 0, .history he,
        .runState (finished env.now currentState .fail) currentState.seqID,
        .runError d.runInfo.wfID d.runInfo.id error] ++
      workerTerminateRecords d currentState ++
      parentCallbackRecords d .failed .nil (some error) ++ [purgeRecord d]
  | m => fail ("can not create run failed state update: expected RunFailed but got " ++ m.goType)

/-- The directives that `BuildUnexpectedFailure`, `StepTimeoutFailure` and `WaitTimeout` fail a
run with: a fresh identifier, the run of the directive at hand and an error. -/
def failDirective (env : Readings) (d : Directive) (error : ErrorDetails) : Directive where
  id := env.newID
  timestamp := env.now
  kind := .fail
  runInfo := d.runInfo
  msg := .fail error

/-- `BuildUnexpectedFailure`. -/
def buildUnexpectedFailure (env : Readings) (d : Directive) (cause : String)
    (currentState : RunState) : Outcome (List Record) :=
  failRun env (failDirective env d
    { type := "UnexpectedFailure"
      message := "An unexpected error occurred while processing directive " ++ d.id ++
        " of kind " ++ d.kind.text ++ ": " ++ cause }) currentState

/-! ### Steps -/

/-- The repairs `StepStart` and `EventStart` make to the run description of the directive they
dispatch: a missing history bound or start time is taken from the current state. -/
def repairRunInfo (d : Directive) (currentState : RunState) : Directive :=
  { d with runInfo := { d.runInfo with
    historySeqID := if d.runInfo.historySeqID = 0 then currentState.seqID
      else d.runInfo.historySeqID
    startedAt := d.runInfo.startedAt <|> currentState.startedAt } }

/-- `StepTimeoutTimer`. -/
def stepTimeoutTimer (env : Readings) (d : Directive) (defaultTimeoutMS : UInt32) :
    Outcome Timer :=
  match d.msg.dispatchable? with
  | none => fail ("unexpected message type for directive kind " ++ d.kind.text ++ ": got <nil>")
  | some (stepName, timeoutMS) =>
    let timeout := if timeoutMS = 0 then defaultTimeoutMS else timeoutMS
    .ok
      { id := deriveTimerID d.id .stepTimeout
        kind := .stepTimeout
        wfID := d.runInfo.wfID
        createdAt := env.now
        expiresAt := env.now.addMilliseconds timeout
        stepName := stepName
        directive := d }

/-- The records of a dispatched step; the cursor of the run is moved to `lastEventSeqID`. -/
def dispatch (env : Readings) (d : Directive) (stepName : String) (currentState : RunState)
    (lastEventSeqID : ℕ) (defaultTimeoutMS : UInt32) : Outcome (List Record) := do
  let timer ← wrap "failed to create step timeout timer" (stepTimeoutTimer env d defaultTimeoutMS)
  let ri ← wrap "failed to create step started state update"
    (d.runInfo.startStep stepName d.timestamp)
  return [.timer timer, .runInfo ri 0, .workerTask { d with runInfo := ri },
    .runState
      { currentState with
        kind := .step
        enteredAt := env.now
        activeDirectiveID := d.id
        lastEventSeqID := lastEventSeqID } currentState.seqID]

/-- The cursor of a run after a directive has been dispatched: an event that knows its place in
the inbox moves it. -/
def cursorAfter (d : Directive) (currentState : RunState) : ℕ :=
  match d.kind, d.msg with
  | .event, .event e => e.eventSeqID.getD currentState.lastEventSeqID
  | _, _ => currentState.lastEventSeqID

/-- `StepStart`. -/
def stepStart (env : Readings) (d : Directive) (currentState : RunState)
    (defaultTimeoutMS : UInt32) : Outcome (List Record) :=
  let d := repairRunInfo d currentState
  match d.msg.dispatchable? with
  | none => fail ("can not create step started state update: expected DispatchableMessage but got "
      ++ d.msg.goType)
  | some (stepName, _) =>
    dispatch env d stepName currentState (cursorAfter d currentState) defaultTimeoutMS

/-- `StepPickedUp`. -/
def stepPickedUp (d : Directive) (currentState : RunState) : Outcome (List Record) :=
  match d.msg with
  | .stepPickedUp _ workerID _ => do
    let h ← wrap "failed to create step.started history event" (History.stepPickedUp d)
    return [.history h,
      .runState { currentState with workerID := some workerID } currentState.seqID]
  | m => fail ("expected StepPickedUp but got " ++ m.goType)

/-- `DeleteStepTimeoutTimer`: the timer is found through the active directive. -/
def deleteStepTimeoutTimer (d : Directive) (currentState : RunState) : List Record :=
  [.backgroundTask (newDeleteTimerTask d.id d.runInfo.wfID .stepTimeout
    (deriveTimerID currentState.activeDirectiveID .stepTimeout))]

/-- The record of a worker's key-value updates. -/
def kvRecords (d : Directive) : Option KVUpdates → List Record
  | none => []
  | some kvMap => [.kv d.runInfo.wfID d.runInfo.id kvMap]

/-- `StepComplete`. -/
def stepComplete (env : Readings) (d : Directive) (currentState : RunState) :
    Outcome (List Record) :=
  match d.msg with
  | .stepResult _ processedMsg workerID durationMS kvUpdates _ _ => do
    let h ← wrap "failed to create step completed history event"
      (History.stepCompleted env.now d processedMsg workerID durationMS)
    return kvRecords d kvUpdates ++ [.history h] ++ deleteStepTimeoutTimer d currentState
  | m => fail ("can not create step completed state update: expected StepResult but got " ++
      m.goType)

/-- `StepFail`. -/
def stepFail (env : Readings) (d : Directive) (currentState : RunState) :
    Outcome (List Record) :=
  match d.msg with
  | .stepResult _ processedMsg _ durationMS kvUpdates _ nextMsg =>
    match nextMsg with
    | .failStep .. => do
      let h ← wrap "failed to create step failed history event"
        (History.stepFailed env.now d processedMsg durationMS nextMsg)
      return kvRecords d kvUpdates ++ [.history h] ++ deleteStepTimeoutTimer d currentState
    | m => fail ("can not create step failed state update: expected FailStep next msg but got " ++
        m.goType)
  | m => fail ("can not create step failed state update: expected StepResult but got " ++ m.goType)

/-- `ErrStaleDirective`. -/
def errStaleDirective : String := "stale step timeout directive"

/-- `StepTimeoutFailure`. -/
def stepTimeoutFailure (env : Readings) (d : Directive) (stepName : String)
    (currentState : RunState) : Outcome (List Record) :=
  failRun env (failDirective env d
    { type := "StepTimeout", message := "step " ++ stepName ++ " timed out" }) currentState

/-- `StepTimeout`. -/
def stepTimeout (env : Readings) (d : Directive) (currentState : RunState) :
    Outcome (List Record) :=
  match d.msg with
  | .stepTimeout stepName originalDirectiveID =>
    if currentState.kind ≠ .step ∨ currentState.activeDirectiveID ≠ originalDirectiveID then
      fail errStaleDirective
    else do
      let he ← wrap "failed to create step timeout history event"
        (History.stepTimedout env.now d currentState)
      let failUpdates ← wrap "failed to create step timeout failure updates"
        (stepTimeoutFailure env d stepName currentState)
      return .history he :: failUpdates
  | m => fail ("can not create step timeout records: expected StepTimeout but got " ++ m.goType)

/-! ### Waits and events -/

/-- `createWaitTimeoutTimer`. -/
def createWaitTimeoutTimer (env : Readings) (d : Directive) (timeout : UInt32)
    (timeoutStepName : String) : Timer where
  id := deriveTimerID d.id .waitTimeout
  kind := .waitTimeout
  wfID := d.runInfo.wfID
  createdAt := env.now
  expiresAt := env.now.addMilliseconds timeout
  stepName := timeoutStepName
  directive := d

/-- The wake-up that `Wait` and `EventReceived` publish for the run of a directive. -/
def wakeDirective (env : Readings) (d : Directive) : Directive where
  id := deriveNextDirectiveID d.id
  timestamp := env.now
  kind := .wakeFromInbox
  runInfo := d.runInfo
  msg := .wakeFromInbox

/-- `Wait`. -/
def wait (env : Readings) (d : Directive) (sn : StateSnapshot) (defaultWaitTimeoutMS : UInt32) :
    Outcome (List Record) :=
  match d.msg with
  | .wait msgTimeout timeoutStepName => do
    let currentState := sn.runState
    let ri ← wrap "failed to create wait state update" (d.runInfo.wait env.now)
    let h ← wrap "failed to create wait started history event" (History.waitStarted env.now d)
    let timeout := if msgTimeout = 0 then defaultWaitTimeoutMS else msgTimeout
    -- an event that is already in the inbox is dispatched by a wake-up, in a batch of its own
    let wake := if sn.event.id ≠ "" then [Record.directive (wakeDirective env d)] else []
    return [.runInfo ri 0, .history h,
      .timer (createWaitTimeoutTimer env d timeout timeoutStepName),
      .runState
        { currentState with
          kind := .wait
          enteredAt := env.now
          activeDirectiveID := d.id } currentState.seqID] ++ wake
  | m => fail ("can not create wait state update: expected Wait but got " ++ m.goType)

/-- `EventReceived`. -/
def eventReceived (env : Readings) (d : Directive) (sn : StateSnapshot) :
    Outcome (List Record) :=
  match d.msg with
  | .event _ => do
    let h ← wrap "failed to create event received history event"
      (History.eventReceived env.now d)
    -- only a wait that sees nothing else to dispatch is woken
    let wake := if sn.runState.kind = .wait ∧ sn.event.id = "" then
      [Record.directive (wakeDirective env d)] else []
    return [.inbox d, .history h] ++ wake
  | m => fail ("can not create event received state update: expected Event but got " ++ m.goType)

/-- `EventStart`. -/
def eventStart (env : Readings) (d : Directive) (currentState : RunState)
    (defaultTimeoutMS : UInt32) : Outcome (List Record) :=
  let d := repairRunInfo d currentState
  match d.msg with
  | .event e =>
    dispatch env d e.eventName currentState (e.eventSeqID.getD currentState.lastEventSeqID)
      defaultTimeoutMS
  | m => fail ("can not create step started state update: expected DispatchableMessage but got "
      ++ m.goType)

/-- The step `WaitTimeout` runs when the wait names one. -/
def timeoutStepDirective (env : Readings) (d : Directive) (timeoutStepName : String) :
    Directive where
  id := deriveNextDirectiveID d.id
  timestamp := env.now
  kind := .step
  runInfo := d.runInfo
  msg := .step timeoutStepName 0

/-- `WaitTimeout`. -/
def waitTimeout (env : Readings) (d : Directive) (currentState : RunState)
    (defaultTimeoutMS : UInt32) : Outcome (List Record) :=
  match d.msg with
  | .waitTimeout timeoutStepName originalDirectiveID =>
    if currentState.kind ≠ .wait ∨ currentState.activeDirectiveID ≠ originalDirectiveID then
      fail errStaleDirective
    else do
      let he ← wrap "failed to create wait timed out history event"
        (History.waitTimedOut env.now d)
      if timeoutStepName ≠ "" then
        let stepRecords ← wrap ("failed to start timeout step " ++ quoted timeoutStepName)
          (stepStart env (timeoutStepDirective env d timeoutStepName) currentState
            defaultTimeoutMS)
        return .history he :: stepRecords
      else
        let failRecords ← wrap "failed to fail run on wait timeout"
          (failRun env (failDirective env d
            { type := "WaitTimeout", message := "wait timed out without a timeout step" })
            currentState)
        return .history he :: failRecords
  | m => fail ("can not create wait timeout records: expected WaitTimeout but got " ++ m.goType)

end Records

end Grctl
