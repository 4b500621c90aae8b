import Grctl.Types.RunInfo

/-!
# Directives, run states and timers

A `Directive` is the unit of work of the server: API commands, worker results, fired timers and
the server's own wake-ups all reach the run manager as directives of one run. The message types
of `types/external/v1/directive.go` are the constructors of `DirectiveMessage`; a Go type
assertion on `Directive.Msg` is a match on them, and the nil interface is the constructor `nil`.

The field `KVRevs` stands in the wire format only and is never set.

## Main definitions

* `DirectiveMessage`, `DirectiveMessage.dispatchable?`, `DirectiveMessage.goType`.
* `Directive`, `RunState`, `Timer`, `Command`.
* `DirectiveMessage.agrees`, `Directive.Decoded`: what decoding a stored directive can yield.
* `deriveNextDirectiveID`, `deriveTimerID`.
-/

namespace Grctl

/-- `DirectiveKind`; `unset` is the empty string of a zero directive. -/
inductive DirectiveKind
  | unset
  | terminate
  | cancel
  | start
  | event
  | stepResult
  | stepPickedUp
  | fail
  | failStep
  | complete
  | wait
  | step
  | stepTimeout
  | waitTimeout
  | wakeFromInbox
  deriving DecidableEq, Repr

/-- The text of a directive kind. -/
def DirectiveKind.text : DirectiveKind → String
  | .unset => ""
  | .terminate => "terminate"
  | .cancel => "cancel"
  | .start => "start"
  | .event => "event"
  | .stepResult => "step_result"
  | .stepPickedUp => "step_picked_up"
  | .fail => "fail"
  | .failStep => "fail_step"
  | .complete => "complete"
  | .wait => "wait"
  | .step => "step"
  | .stepTimeout => "step_timeout"
  | .waitTimeout => "wait_timeout"
  | .wakeFromInbox => "wake_from_inbox"

/-- `KVUpdates`: a map, listed in the order in which it is iterated. -/
abbrev KVUpdates := List (String × Value)

/-- `Event`. The stream sequence is unset until the event is read back from the inbox. -/
structure Event where
  eventSeqID : Option ℕ := none
  eventName : String
  payload : Value := .nil
  timeout : UInt32 := 0
  deriving DecidableEq, Repr

/-- The messages a directive can carry. -/
inductive DirectiveMessage
  | nil
  | start (input : Value) (timeout : UInt32)
  | step (name : String) (timeout : UInt32)
  | stepTimeout (stepName : String) (originalDirectiveID : DirectiveID)
  | failStep (stepName : String) (error : ErrorDetails)
  | wait (timeout : UInt32) (timeoutStepName : String)
  | waitTimeout (timeoutStepName : String) (originalDirectiveID : DirectiveID)
  | wakeFromInbox
  | cancel (reason : String)
  | terminate (reason : String)
  | event (event : Event)
  | complete (result : Value)
  | fail (error : ErrorDetails)
  | stepPickedUp (stepName : String) (workerID : WorkerID) (timestamp : Time)
  | stepResult (processedMsgKind : DirectiveKind) (processedMsg : DirectiveMessage)
      (workerID : Option WorkerID) (durationMS : ℤ) (kvUpdates : Option KVUpdates)
      (nextMsgKind : DirectiveKind) (nextMsg : DirectiveMessage)
  deriving DecidableEq, Repr

namespace DirectiveMessage

/-- The type assertion to `DispatchableMessage`, with the values of its methods `StepName` and
`TimeoutMS`. -/
def dispatchable? : DirectiveMessage → Option (String × UInt32)
  | .start _ timeout => some ("start", timeout)
  | .step name timeout => some (name, timeout)
  | .event e => some (e.eventName, e.timeout)
  | _ => none

/-- The dynamic type of a message, as the format verb `%T` prints it. -/
def goType : DirectiveMessage → String
  | .nil => "<nil>"
  | .start .. => "*external.Start"
  | .step .. => "*external.Step"
  | .stepTimeout .. => "*external.StepTimeout"
  | .failStep .. => "*external.FailStep"
  | .wait .. => "*external.Wait"
  | .waitTimeout .. => "*external.WaitTimeout"
  | .wakeFromInbox => "*external.WakeFromInbox"
  | .cancel _ => "*external.Cancel"
  | .terminate _ => "*external.Terminate"
  | .event _ => "*external.Event"
  | .complete _ => "*external.Complete"
  | .fail _ => "*external.Fail"
  | .stepPickedUp .. => "*external.StepPickedUp"
  | .stepResult .. => "*external.StepResult"

/-- Whether a message has the type that `DirectiveFactories` creates for a kind, at every level:
what decoding a message of that kind yields. -/
def agrees : DirectiveKind → DirectiveMessage → Bool
  | .start, .start .. => true
  | .step, .step .. => true
  | .stepTimeout, .stepTimeout .. => true
  | .failStep, .failStep .. => true
  | .wait, .wait .. => true
  | .waitTimeout, .waitTimeout .. => true
  | .wakeFromInbox, .wakeFromInbox => true
  | .cancel, .cancel _ => true
  | .terminate, .terminate _ => true
  | .event, .event _ => true
  | .complete, .complete _ => true
  | .fail, .fail _ => true
  | .stepPickedUp, .stepPickedUp .. => true
  | .stepResult, .stepResult pk p _ _ _ nk n => agrees pk p && agrees nk n
  | _, _ => false

end DirectiveMessage

/-- `Directive`. -/
structure Directive where
  id : DirectiveID
  timestamp : Time := 0
  kind : DirectiveKind
  runInfo : RunInfo
  attempt : ℕ := 0
  msg : DirectiveMessage
  deriving DecidableEq, Repr

namespace Directive

/-- The zero value `Directive{}`. -/
def zero : Directive where
  id := ""
  kind := .unset
  runInfo := .zero
  msg := .nil

/-- A directive as decoding a stored message with a non-empty identifier yields it: the message
agrees with the kind. -/
def Decoded (d : Directive) : Prop := d.id ≠ "" ∧ d.msg.agrees d.kind = true

instance (d : Directive) : Decidable d.Decoded := inferInstanceAs (Decidable (_ ∧ _))

/-- The directive concerns the run `run` of the workflow identifier `wf`. -/
def OfRun (d : Directive) (wf : WFID) (run : RunID) : Prop :=
  d.runInfo.wfID = wf ∧ d.runInfo.id = run

instance (d : Directive) (wf : WFID) (run : RunID) : Decidable (d.OfRun wf run) :=
  inferInstanceAs (Decidable (_ ∧ _))

/-- The directive starts the run `run` of `wf`. -/
def Starts (wf : WFID) (run : RunID) (d : Directive) : Prop := d.kind = .start ∧ d.OfRun wf run

instance (wf : WFID) (run : RunID) (d : Directive) : Decidable (d.Starts wf run) :=
  inferInstanceAs (Decidable (_ ∧ _))

end Directive

/-- `DeriveNextDirectiveID`. -/
def deriveNextDirectiveID (parentID : DirectiveID) : DirectiveID := "next." ++ parentID

/-- A derived identifier is never the empty one. -/
theorem deriveNextDirectiveID_ne_empty (id : DirectiveID) : deriveNextDirectiveID id ≠ "" := by
  intro h
  have := congrArg String.length h
  simp [deriveNextDirectiveID] at this

/-- `RunStateKind`; `unset` is the empty string of a run without a stored state. -/
inductive RunStateKind
  | unset
  | idle
  | start
  | step
  | wait
  | complete
  | fail
  | cancel
  | terminate
  deriving DecidableEq, Repr

/-- `RunState`: the durable state of a run. The sequence `seqID` is filled in on reading and is
not stored. -/
structure RunState where
  wfID : WFID
  runID : RunID
  kind : RunStateKind
  enteredAt : Time := 0
  startedAt : Option Time := none
  lastEventSeqID : ℕ := 0
  activeDirectiveID : DirectiveID := ""
  workerID : Option WorkerID := none
  pendingCancel : Option Directive := none
  seqID : ℕ := 0
  deriving DecidableEq, Repr

namespace RunState

/-- The zero value `RunState{}`, the state of a run that has none stored. -/
def zero : RunState where
  wfID := ""
  runID := ""
  kind := .unset

/-- `RunState.IsTerminal`. -/
def isTerminal (s : RunState) : Bool :=
  s.kind == .complete || s.kind == .fail || s.kind == .cancel || s.kind == .terminate

end RunState

/-- `NewRunState`. -/
def newRunState (now : Time) (d : Directive) (kind : RunStateKind) : RunState where
  wfID := d.runInfo.wfID
  runID := d.runInfo.id
  kind := kind
  enteredAt := now

/-- `TimerKind`. -/
inductive TimerKind
  | waitTimeout
  | stepTimeout
  | other (text : String)
  deriving DecidableEq, Repr

/-- The text of a timer kind. -/
def TimerKind.text : TimerKind → String
  | .waitTimeout => "wait_timeout"
  | .stepTimeout => "step_timeout"
  | .other text => text

/-- `DeriveTimerID`. -/
def deriveTimerID (directiveID : DirectiveID) (kind : TimerKind) : TimerID :=
  kind.text ++ "." ++ directiveID

/-- `CmdKind`; `unset` is the empty string of a zero command. -/
inductive CmdKind
  | unset
  | runCancel
  | runDescribe
  | runEvent
  | runStart
  | runTerminate
  | workerRegister
  | workerTerminateRun
  deriving DecidableEq, Repr

/-- `EventDef`. -/
structure EventDef where
  name : String := ""
  timeoutMS : UInt32 := 0
  deriving DecidableEq, Repr

/-- `WorkflowTypeDef`. -/
structure WorkflowTypeDef where
  type : WFType
  startStep : String
  steps : List String
  events : List EventDef
  queries : List String
  startStepTimeoutMS : UInt32
  deriving DecidableEq, Repr

/-- The messages a command can carry; the nil interface is `nil`. -/
inductive CommandMessage
  | nil
  | start (runInfo : RunInfo) (input : Value)
  | cancel (wfID : WFID) (reason : String)
  | terminate (wfID : WFID) (reason : String)
  | describe (wfID : WFID)
  | event (wfID : WFID) (eventName : String) (payload : Value)
  | register (workerID : String) (types : List WorkflowTypeDef)
  | workerTerminateRun (runID : RunID)
  deriving DecidableEq, Repr

/-- The dynamic type of a command message, as the format verb `%T` prints it. -/
def CommandMessage.goType : CommandMessage → String
  | .nil => "<nil>"
  | .start .. => "*external.StartCmd"
  | .cancel .. => "*external.CancelCmd"
  | .terminate .. => "*external.TerminateCmd"
  | .describe .. => "*external.DescribeCmd"
  | .event .. => "*external.EventCmd"
  | .register .. => "*external.RegisterCmd"
  | .workerTerminateRun .. => "*external.WorkerTerminateRunCmd"

/-- `Command`. -/
structure Command where
  id : CmdID
  kind : CmdKind
  timestamp : Time := 0
  msg : CommandMessage
  senderID : String := ""
  deriving DecidableEq, Repr

/-- The zero value `Command{}`. -/
def Command.zero : Command where
  id := ""
  kind := .unset
  msg := .nil

/-- `Timer`: a directive or a command to act on at a later time. -/
structure Timer where
  id : TimerID
  kind : TimerKind
  wfID : WFID
  createdAt : Time
  expiresAt : Time
  stepName : String
  directive : Directive
  command : Command := .zero
  deriving DecidableEq, Repr

end Grctl
