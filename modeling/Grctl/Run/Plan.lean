import Grctl.Run.Records

/-!
# Planning

`plan` decides, from a directive and a snapshot of its run, which records are to be committed
(`run/plan.go`). A directive of a finished run plans nothing; otherwise the kind of the directive
selects a transition. A step result is composed: the records that close the step, followed by
those of the message it names next, or by a cancellation that was parked while the step ran.

## Main definitions

* `plan`, `planFromRunStart`, `planFromStepResult`, `planCancel`, `planWakeFromInbox`,
  `planTransition`.
* `handleRecords`: the batch a handled directive leads to, including the one that fails the run
  when planning returns an error.
-/

namespace Grctl

/-- The default timeouts of a `Manager`, in milliseconds. -/
structure Defaults where
  stepTimeoutMS : UInt32
  waitTimeoutMS : UInt32
  deriving DecidableEq, Repr

/-- `planFromRunStart`; the snapshot is not consulted. -/
def planFromRunStart (cfg : Defaults) (env : Readings) (d : Directive) :
    Outcome (List Record) :=
  match d.msg with
  | .start .. => do
    let ri ← wrap "failed to create run started state update" (d.runInfo.start env.now)
    let d := { d with runInfo := ri }
    let runState := { newRunState env.now d .start with startedAt := ri.startedAt }
    let runStartRecords ← wrap "failed to create run start records" (Records.start d)
    let startStepRecords ← wrap "failed to create start step records during run start"
      (Records.stepStart env d runState cfg.stepTimeoutMS)
    return runStartRecords ++ [.runState runState 0] ++ startStepRecords
  | m => fail ("expected Start message but got " ++ m.goType)

/-- `planTransition`. -/
def planTransition (cfg : Defaults) (env : Readings) (d : Directive) (sn : StateSnapshot) :
    Outcome (List Record) :=
  match d.kind with
  | .step => Records.stepStart env d sn.runState cfg.stepTimeoutMS
  | .stepPickedUp => Records.stepPickedUp d sn.runState
  | .event => Records.eventStart env d sn.runState cfg.stepTimeoutMS
  | .stepTimeout => Records.stepTimeout env d sn.runState
  | .complete => Records.completeRun env d sn.runState
  | .fail => Records.failRun env d sn.runState
  | .terminate => Records.terminateRun env d sn.runState
  | .wait => Records.wait env d sn cfg.waitTimeoutMS
  | .waitTimeout => Records.waitTimeout env d sn.runState cfg.stepTimeoutMS
  | k => fail ("unknown directive kind: " ++ k.text)

/-- `deriveNextDirective`, with the history bound `planFromStepResult` sets on it. -/
def deriveNextDirective (env : Readings) (d : Directive) (nextMsgKind : DirectiveKind)
    (nextMsg : DirectiveMessage) (sn : StateSnapshot) : Directive where
  id := deriveNextDirectiveID d.id
  timestamp := env.now
  kind := nextMsgKind
  runInfo := { d.runInfo with historySeqID := sn.lastHistorySeqID + 1 }
  msg := nextMsg

/-- `planFromStepResult`. -/
def planFromStepResult (cfg : Defaults) (env : Readings) (d : Directive) (sn : StateSnapshot) :
    Outcome (List Record) :=
  match d.msg with
  | .stepResult _ _ _ _ _ nextMsgKind nextMsg =>
    let nextD := deriveNextDirective env d nextMsgKind nextMsg sn
    if nextMsgKind = .failStep then
      match nextMsg with
      | .failStep _ error => do
        let stepFailRecords ← wrap "failed to build step fail records"
          (Records.stepFail env d sn.runState)
        -- a failed step fails the run
        let failRunRecords ← wrap "failed to build fail run records"
          (Records.failRun env { nextD with kind := .fail, msg := .fail error } sn.runState)
        return stepFailRecords ++ failRunRecords
      | m => fail ("expected FailStep next msg but got " ++ m.goType)
    else do
      let stepCompleteRecords ← wrap "failed to build step complete records"
        (Records.stepComplete env d sn.runState)
      match sn.runState.pendingCancel with
      | some cancel =>
        let cancelRecords ← wrap "failed to build cancel run records"
          (Records.cancelRun env cancel sn.runState)
        return stepCompleteRecords ++ cancelRecords
      | none =>
        let transitionRecords ← wrap "failed to build transition records"
          (planTransition cfg env nextD sn)
        return stepCompleteRecords ++ transitionRecords
  | m => fail ("expected StepResult message but got " ++ m.goType)

/-- `planCancel`: a cancel waits for the step in progress. -/
def planCancel (env : Readings) (d : Directive) (sn : StateSnapshot) : Outcome (List Record) :=
  if sn.runState.kind = .step then Records.cancelReceived d sn.runState
  else Records.cancelRun env d sn.runState

/-- `planWakeFromInbox`: the pending event of a waiting run is dispatched. -/
def planWakeFromInbox (cfg : Defaults) (env : Readings) (sn : StateSnapshot) :
    Outcome (List Record) :=
  if sn.runState.kind ≠ .wait ∨ sn.event.id = "" then .ok []
  else planTransition cfg env sn.event sn

/-- `plan`. -/
def plan (cfg : Defaults) (env : Readings) (d : Directive) (sn : StateSnapshot) :
    Outcome (List Record) :=
  if sn.runState.isTerminal then .ok []
  else match d.kind with
    | .start => planFromRunStart cfg env d
    | .stepResult => planFromStepResult cfg env d sn
    | .cancel => planCancel env d sn
    | .event => Records.eventReceived env d sn
    | .wakeFromInbox => planWakeFromInbox cfg env sn
    | _ => planTransition cfg env d sn

/-- The records `Manager.Handle` hands to the store: those of the plan, or, when planning returns
an error, those of `failAndCommit`, which takes readings of its own. -/
def handleRecords (cfg : Defaults) (env failEnv : Readings) (d : Directive) (sn : StateSnapshot) :
    Outcome (List Record) :=
  match plan cfg env d sn with
  | .error (.error cause) => Records.buildUnexpectedFailure failEnv d cause sn.runState
  | r => r

end Grctl
