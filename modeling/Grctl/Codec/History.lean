import Grctl.Codec.Directive
import Grctl.Run.History

/-!
# The wire format of history events

`HistoryEvent` has an encoder and a decoder of its own (`types/external/v1/history.go`), with the
kind next to the bytes of the message and one factory for each of the kinds that the server and the
workers write. The messages of the workers' kinds are passed through as the values they hold.

## Main definitions

* `historyMessageFactories`, `HistoryKind.text`, `HistoryMessage.agrees`.
* `encodeHistory`, `decodeHistory`.
* `History.Built`: the events that the functions of package `history` build.

## Main results

* `decodeHistory_encodeHistory`, `History.Built.agrees`.
-/

namespace Grctl

open Wire

/-- The text of a kind; `worker` is the text of the worker's kind that `recorded` stands for. -/
def HistoryKind.text (worker : String) : HistoryKind → String
  | .runStarted => "run.started"
  | .runCompleted => "run.completed"
  | .runFailed => "run.failed"
  | .runCancelReceived => "run.cancel_received"
  | .runCancelled => "run.cancelled"
  | .runTerminated => "run.terminated"
  | .stepStarted => "step.started"
  | .stepCompleted => "step.completed"
  | .stepFailed => "step.failed"
  | .stepTimeout => "step.timeout"
  | .waitStarted => "wait.started"
  | .waitTimedOut => "wait.timed_out"
  | .eventReceived => "event.received"
  | .recorded => worker

/-- `historyMessageFactories`. -/
def historyMessageFactories : List (String × HistoryKind) :=
  [("run.scheduled", .recorded), ("run.started", .runStarted), ("run.completed", .runCompleted),
    ("run.failed", .runFailed), ("run.cancel_received", .runCancelReceived),
    ("run.cancelled", .runCancelled), ("run.terminated", .runTerminated),
    ("run.timeout", .recorded),
    ("step.started", .stepStarted), ("step.completed", .stepCompleted),
    ("step.failed", .stepFailed), ("step.cancelled", .recorded), ("step.timeout", .stepTimeout),
    ("wait.started", .waitStarted), ("wait.timed_out", .waitTimedOut),
    ("event.received", .eventReceived),
    ("task.started", .recorded), ("task.completed", .recorded), ("task.failed", .recorded),
    ("task.attempt_failed", .recorded), ("task.cancelled", .recorded),
    ("timestamp.recorded", .recorded), ("random.recorded", .recorded),
    ("uuid.recorded", .recorded), ("sleep.recorded", .recorded), ("child.started", .recorded),
    ("parent.event_sent", .recorded)]

/-- Whether a message has the type that the factory of a kind creates. -/
def HistoryMessage.agrees : HistoryKind → HistoryMessage → Bool
  | .runStarted, .runStarted _ => true
  | .runCompleted, .runCompleted .. => true
  | .runFailed, .runFailed .. => true
  | .runCancelReceived, .runCancelReceived => true
  | .runCancelled, .runCancelled .. => true
  | .runTerminated, .runTerminated .. => true
  | .stepStarted, .stepStarted .. => true
  | .stepCompleted, .stepCompleted .. => true
  | .stepFailed, .stepFailed .. => true
  | .stepTimeout, .stepTimedout .. => true
  | .waitStarted, .waitStarted .. => true
  | .waitTimedOut, .waitTimedOut .. => true
  | .eventReceived, .eventReceived .. => true
  | .recorded, .recorded _ => true
  | _, _ => false

namespace Codec

/-! ### Plain structs -/

/-- `RunStarted`. -/
def runStarted : Format Value Value :=
  (Fields.make id |>.field (.plain "input" any .nil) id (by decide)).record fun _ => rfl

/-- `RunCompleted`. -/
def runCompleted : Format Value (Value × ℤ) :=
  (Fields.make Prod.mk
    |>.field (.plain "result" any .nil) Prod.fst (by decide)
    |>.field (.plain "duration_ms" .int 0) Prod.snd (by decide)).record fun _ => rfl

/-- `RunFailed`. -/
def runFailed : Format Value (ErrorDetails × ℤ) :=
  (Fields.make Prod.mk
    |>.field (.plain "error" errorDetails ⟨"", "", ""⟩) Prod.fst (by decide)
    |>.field (.plain "duration_ms" .int 0) Prod.snd (by decide)).record fun _ => rfl

/-- `RunCancelled` and `RunTerminated`. -/
def runStopped : Format Value (String × ℤ) :=
  (Fields.make Prod.mk
    |>.field (.plain "reason" .text "") Prod.fst (by decide)
    |>.field (.plain "duration_ms" .int 0) Prod.snd (by decide)).record fun _ => rfl

/-- `StepStarted`. -/
def stepStarted : Format Value (String × WorkerID) :=
  (Fields.make (fun stepName workerID => (stepName, workerID))
    |>.field (.plain "step_name" .text "") (fun p => p.1) (by decide)
    |>.field (.plain "worker_id" .text "") (fun p => p.2) (by decide)).record fun _ => rfl

/-- `StepCompleted`. -/
def stepCompleted : Format Value (String × WorkerID × ℤ) :=
  (Fields.make (fun stepName workerID durationMS => (stepName, workerID, durationMS))
    |>.field (.plain "step_name" .text "") (fun p => p.1) (by decide)
    |>.field (.plain "worker_id" .text "") (fun p => p.2.1) (by decide)
    |>.field (.plain "duration_ms" .int 0) (fun p => p.2.2) (by decide)).record fun _ => rfl

/-- `StepFailed`. -/
def stepFailed : Format Value (String × ErrorDetails × ℤ) :=
  (Fields.make (fun stepName error durationMS => (stepName, error, durationMS))
    |>.field (.plain "step_name" .text "") (fun p => p.1) (by decide)
    |>.field (.plain "error" errorDetails ⟨"", "", ""⟩) (fun p => p.2.1) (by decide)
    |>.field (.plain "duration_ms" .int 0) (fun p => p.2.2) (by decide)).record fun _ => rfl

/-- `StepTimedout`. -/
def stepTimedout : Format Value (String × ℤ) :=
  (Fields.make Prod.mk
    |>.field (.plain "step_name" .text "") Prod.fst (by decide)
    |>.field (.plain "duration_ms" .int 0) Prod.snd (by decide)).record fun _ => rfl

/-- `WaitStarted`. -/
def waitStarted : Format Value (DirectiveID × UInt32 × String) :=
  (Fields.make (fun directiveID timeout timeoutStepName => (directiveID, timeout, timeoutStepName))
    |>.field (.plain "directive_id" .text "") (fun p => p.1) (by decide)
    |>.field (.plain "timeout_ms" .uint32 0) (fun p => p.2.1) (by decide)
    |>.field (.plain "timeout_step_name" .text "") (fun p => p.2.2) (by decide)).record
    fun _ => rfl

/-- `WaitTimedOut`. -/
def waitTimedOut : Format Value (DirectiveID × String) :=
  (Fields.make Prod.mk
    |>.field (.plain "original_directive_id" .text "") Prod.fst (by decide)
    |>.field (.plain "timeout_step_name" .text "") Prod.snd (by decide)).record fun _ => rfl

/-- `EventReceived`. -/
def eventReceived : Format Value (String × Value) :=
  (Fields.make Prod.mk
    |>.field (.plain "event_name" .text "") Prod.fst (by decide)
    |>.field (.plain "payload" any .nil) Prod.snd (by decide)).record fun _ => rfl

@[simp] theorem valid_runStarted (a : Value) : runStarted.Valid a :=
  Fields.valid_record (by simp)

@[simp] theorem valid_runCompleted (a : Value × ℤ) : runCompleted.Valid a :=
  Fields.valid_record (by simp)

@[simp] theorem valid_runFailed (a : ErrorDetails × ℤ) : runFailed.Valid a :=
  Fields.valid_record (by simp)

@[simp] theorem valid_runStopped (a : String × ℤ) : runStopped.Valid a :=
  Fields.valid_record (by simp)

@[simp] theorem valid_stepStarted (a : String × WorkerID) : stepStarted.Valid a :=
  Fields.valid_record (by simp)

@[simp] theorem valid_stepCompleted (a : String × WorkerID × ℤ) : stepCompleted.Valid a :=
  Fields.valid_record (by simp)

@[simp] theorem valid_stepFailed (a : String × ErrorDetails × ℤ) : stepFailed.Valid a :=
  Fields.valid_record (by simp)

@[simp] theorem valid_stepTimedout (a : String × ℤ) : stepTimedout.Valid a :=
  Fields.valid_record (by simp)

@[simp] theorem valid_waitStarted (a : DirectiveID × UInt32 × String) : waitStarted.Valid a :=
  Fields.valid_record (by simp)

@[simp] theorem valid_waitTimedOut (a : DirectiveID × String) : waitTimedOut.Valid a :=
  Fields.valid_record (by simp)

@[simp] theorem valid_eventReceived (a : String × Value) : eventReceived.Valid a :=
  Fields.valid_record (by simp)

end Codec

/-! ### Events -/

/-- `msgpack.Marshal` of a history message. -/
def encodeHistoryMessage : HistoryMessage → Document
  | .runStarted input => Codec.runStarted.encode input
  | .runCompleted result durationMS => Codec.runCompleted.encode (result, durationMS)
  | .runFailed error durationMS => Codec.runFailed.encode (error, durationMS)
  | .runCancelReceived => Codec.noFields.encode ()
  | .runCancelled reason durationMS => Codec.runStopped.encode (reason, durationMS)
  | .runTerminated reason durationMS => Codec.runStopped.encode (reason, durationMS)
  | .stepStarted stepName workerID => Codec.stepStarted.encode (stepName, workerID)
  | .stepCompleted stepName workerID durationMS =>
    Codec.stepCompleted.encode (stepName, workerID, durationMS)
  | .stepFailed stepName error durationMS => Codec.stepFailed.encode (stepName, error, durationMS)
  | .stepTimedout stepName durationMS => Codec.stepTimedout.encode (stepName, durationMS)
  | .waitStarted directiveID timeout timeoutStepName =>
    Codec.waitStarted.encode (directiveID, timeout, timeoutStepName)
  | .waitTimedOut originalDirectiveID timeoutStepName =>
    Codec.waitTimedOut.encode (originalDirectiveID, timeoutStepName)
  | .eventReceived eventName payload => Codec.eventReceived.encode (eventName, payload)
  | .recorded content => Codec.any.encode content

/-- The message that the factory of a kind creates, filled in by `msgpack.Unmarshal`. -/
def decodeHistoryMessage (kind : HistoryKind) (doc : Document) : Outcome HistoryMessage :=
  match kind with
  | .runStarted => do
    let input ← unmarshal Codec.runStarted doc
    return .runStarted input
  | .runCompleted => do
    let (result, durationMS) ← unmarshal Codec.runCompleted doc
    return .runCompleted result durationMS
  | .runFailed => do
    let (error, durationMS) ← unmarshal Codec.runFailed doc
    return .runFailed error durationMS
  | .runCancelReceived => do
    let () ← unmarshal Codec.noFields doc
    return .runCancelReceived
  | .runCancelled => do
    let (reason, durationMS) ← unmarshal Codec.runStopped doc
    return .runCancelled reason durationMS
  | .runTerminated => do
    let (reason, durationMS) ← unmarshal Codec.runStopped doc
    return .runTerminated reason durationMS
  | .stepStarted => do
    let (stepName, workerID) ← unmarshal Codec.stepStarted doc
    return .stepStarted stepName workerID
  | .stepCompleted => do
    let (stepName, workerID, durationMS) ← unmarshal Codec.stepCompleted doc
    return .stepCompleted stepName workerID durationMS
  | .stepFailed => do
    let (stepName, error, durationMS) ← unmarshal Codec.stepFailed doc
    return .stepFailed stepName error durationMS
  | .stepTimeout => do
    let (stepName, durationMS) ← unmarshal Codec.stepTimedout doc
    return .stepTimedout stepName durationMS
  | .waitStarted => do
    let (directiveID, timeout, timeoutStepName) ← unmarshal Codec.waitStarted doc
    return .waitStarted directiveID timeout timeoutStepName
  | .waitTimedOut => do
    let (originalDirectiveID, timeoutStepName) ← unmarshal Codec.waitTimedOut doc
    return .waitTimedOut originalDirectiveID timeoutStepName
  | .eventReceived => do
    let (eventName, payload) ← unmarshal Codec.eventReceived doc
    return .eventReceived eventName payload
  | .recorded => do
    let content ← unmarshal Codec.any doc
    return .recorded content

/-- `historyWire`. -/
structure HistoryWire where
  wfID : WFID
  runID : RunID
  workerID : WorkerID
  timestamp : Time
  kind : String
  msg : Option Document

/-- The format of `historyWire`. -/
def historyWire : Format Value HistoryWire :=
  (Fields.make HistoryWire.mk
    |>.field (.plain "w" .text "") HistoryWire.wfID (by decide)
    |>.field (.plain "r" .text "") HistoryWire.runID (by decide)
    |>.field (.plain "wo" .text "") HistoryWire.workerID (by decide)
    |>.field (.plain "ts" .time 0) HistoryWire.timestamp (by decide)
    |>.field (.plain "k" .text "") HistoryWire.kind (by decide)
    |>.field (.plain "m" .bin none) HistoryWire.msg (by decide)).record fun _ => rfl

@[simp] theorem valid_historyWire (wire : HistoryWire) : historyWire.Valid wire :=
  Fields.valid_record (by simp)

/-- `HistoryEvent.EncodeMsgpack`; a message is never nil here. -/
def encodeHistory (worker : String) (e : HistoryEvent) : Document :=
  historyWire.encode
    { wfID := e.wfID
      runID := e.runID
      workerID := e.workerID
      timestamp := e.timestamp
      kind := e.kind.text worker
      msg := some (encodeHistoryMessage e.msg) }

/-- `HistoryEvent.DecodeMsgpack`. -/
def decodeHistory (doc : Document) : Outcome HistoryEvent :=
  match historyWire.decode doc with
  | none => fail "failed to decode history: msgpack: cannot decode"
  | some wire =>
    match historyMessageFactories.lookup wire.kind with
    | none => fail ("unknown history kind: " ++ wire.kind)
    | some kind => do
      let msg ← wrap ("failed to unmarshal message for kind " ++ wire.kind)
        (match wire.msg with
          | none => fail "EOF"
          | some sub => decodeHistoryMessage kind sub)
      return {
        wfID := wire.wfID
        runID := wire.runID
        workerID := wire.workerID
        timestamp := wire.timestamp
        kind := kind
        msg := msg }

/-! ### Round trips -/

theorem decodeHistoryMessage_encodeHistoryMessage {kind : HistoryKind} {msg : HistoryMessage}
    (h : msg.agrees kind = true) :
    decodeHistoryMessage kind (encodeHistoryMessage msg) = .ok msg := by
  cases msg <;> cases kind <;> first
    | (cases h; done)
    | (rw [decodeHistoryMessage, encodeHistoryMessage, unmarshal_encode (by simp)]
       rfl)

/-- The kinds that the server writes are known to the decoder. -/
theorem lookup_text {kind : HistoryKind} {worker : String}
    (h : kind = .recorded → historyMessageFactories.lookup worker = some .recorded) :
    historyMessageFactories.lookup (kind.text worker) = some kind := by
  cases kind <;> simp only [HistoryKind.text] <;> first | exact h rfl | decide

theorem decodeHistory_encodeHistory {worker : String} {e : HistoryEvent}
    (h : e.msg.agrees e.kind = true)
    (hworker : e.kind = .recorded → historyMessageFactories.lookup worker = some .recorded) :
    decodeHistory (encodeHistory worker e) = .ok e := by
  rw [decodeHistory, encodeHistory, historyWire.decode_encode _ (valid_historyWire _)]
  simp only [lookup_text hworker, decodeHistoryMessage_encodeHistoryMessage h, wrap_ok]
  rfl

/-! ### The events of package `history` -/

/-- The event is built by a function of package `history`. -/
inductive History.Built (e : HistoryEvent) : Prop
  | runStarted {d : Directive} {timestamp : Time} (h : runStarted d timestamp = .ok e)
  | runCompleted {d : Directive} (h : runCompleted d = .ok e)
  | runFailed {d : Directive} (h : runFailed d = .ok e)
  | runCancelReceived {d : Directive} (h : runCancelReceived d = .ok e)
  | runTerminated {d : Directive} (h : runTerminated d = .ok e)
  | runCancelled {d : Directive} (h : runCancelled d = .ok e)
  | stepStarted {now : Time} {d : Directive} (h : stepStarted now d = .ok e)
  | stepPickedUp {d : Directive} (h : stepPickedUp d = .ok e)
  | stepCompleted {now : Time} {d : Directive} {processedMsg : DirectiveMessage}
      {workerID : Option WorkerID} {durationMS : ℤ}
      (h : stepCompleted now d processedMsg workerID durationMS = .ok e)
  | stepFailed {now : Time} {d : Directive} {processedMsg nextMsg : DirectiveMessage}
      {durationMS : ℤ} (h : stepFailed now d processedMsg durationMS nextMsg = .ok e)
  | stepTimedout {now : Time} {d : Directive} {currentState : RunState}
      (h : stepTimedout now d currentState = .ok e)
  | waitTimedOut {now : Time} {d : Directive} (h : waitTimedOut now d = .ok e)
  | waitStarted {now : Time} {d : Directive} (h : waitStarted now d = .ok e)
  | eventReceived {now : Time} {d : Directive} (h : eventReceived now d = .ok e)

/-- Every function of package `history` gives its event the kind of its message, which is one of
the server's. -/
theorem History.Built.agrees {e : HistoryEvent} (h : Built e) :
    e.msg.agrees e.kind = true ∧ e.kind ≠ .recorded := by
  cases h with
  | runStarted h | runCancelReceived h | runTerminated h | stepPickedUp h | stepTimedout h
  | waitTimedOut h | waitStarted h | eventReceived h =>
    simp only [History.runStarted, History.runCancelReceived, History.runTerminated,
      History.stepPickedUp, History.stepTimedout, History.waitTimedOut, History.waitStarted,
      History.eventReceived] at h
    split at h
    · cases h
      exact ⟨rfl, nofun⟩
    · simp at h
  | runCompleted h | runFailed h | runCancelled h =>
    -- the duration is computed first
    simp only [History.runCompleted, History.runFailed, History.runCancelled] at h
    split at h
    · obtain ⟨_, -, h⟩ := bind_eq_ok.1 h
      cases h
      exact ⟨rfl, nofun⟩
    · simp at h
  | stepStarted h =>
    unfold History.stepStarted at h
    split_ifs at h
    · cases h
      exact ⟨rfl, nofun⟩
    · split at h
      · cases h
        exact ⟨rfl, nofun⟩
      · simp at h
  | stepCompleted h =>
    obtain ⟨_, -, h⟩ := bind_eq_ok.1 h
    cases h
    exact ⟨rfl, nofun⟩
  | stepFailed h =>
    obtain ⟨_, -, h⟩ := bind_eq_ok.1 h
    split at h
    · cases h
      exact ⟨rfl, nofun⟩
    · simp at h

end Grctl
