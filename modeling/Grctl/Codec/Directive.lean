import Grctl.Types.Directive
import Grctl.Wire.Format

/-!
# The wire format of directives

`Directive` and `StepResult` have encoders and decoders of their own (`directive.go`): the kind of a
message is written next to it, and the decoder creates the message that `DirectiveFactories` has for
that kind. The messages inside a step result are encoded the same way, so that a directive can nest
messages to any depth. A directive without an identifier is written as the zero wire value, and a
wire value without an identifier is read as the zero directive.

Bytes are represented by the documents that they encode (`Wire.Doc`); payloads of Go's type `any`
are kept as they are. What msgpack does with plain structs is `Wire.Fields.record`, with the tags of
the source. The texts of errors of msgpack itself are not modelled.

## Main definitions

* `unmarshal`, `Codec.runInfo`, and the formats of the messages.
* `encodeMessage`, `decodeMessage`, `encodeDirective`, `decodeDirective`.
* `Directive.Sendable`.

## Main results

* `decodeMessage_stepResult_iff`, `decodeDirective_eq_ok_iff`: what is accepted.
* `decodeMessage_encodeMessage`, `decodeDirective_encodeDirective`.
-/

namespace Grctl

open Wire

/-- A document with payloads of Go's type `any`. -/
abbrev Document := Doc Value

/-- `msgpack.Unmarshal` into a value with a given format. -/
def unmarshal {α : Type} (f : Format Value α) (doc : Document) : Outcome α :=
  match f.decode doc with
  | none => fail "msgpack: cannot decode"
  | some a => .ok a

theorem unmarshal_encode {α : Type} {f : Format Value α} {a : α} (h : f.Valid a) :
    unmarshal f (f.encode a) = .ok a := by
  rw [unmarshal, f.decode_encode a h]

theorem unmarshal_eq_ok {α : Type} {f : Format Value α} {doc : Document} {a : α} :
    unmarshal f doc = .ok a ↔ f.decode doc = some a := by
  unfold unmarshal
  cases f.decode doc <;> simp

/-- The text of a run status. -/
def RunStatus.text : RunStatus → String
  | .pending => "pending"
  | .scheduled => "scheduled"
  | .running => "running"
  | .completed => "completed"
  | .failed => "failed"
  | .cancelled => "cancelled"
  | .timedOut => "timed_out"
  | .terminated => "terminated"
  | .other text => text

/-- The run status with a given text. -/
def RunStatus.ofText (text : String) : RunStatus :=
  ([.pending, .scheduled, .running, .completed, .failed, .cancelled, .timedOut,
    .terminated].find? (fun s : RunStatus => s.text = text)).getD (.other text)

/-- `other` is used for the texts that no constant has. -/
def RunStatus.Canonical (s : RunStatus) : Prop :=
  RunStatus.ofText s.text = s
  deriving Decidable

/-- The kinds that `DirectiveFactories` has a message for. -/
def directiveFactories : List DirectiveKind :=
  [.start, .cancel, .terminate, .event, .complete, .fail, .step, .failStep, .wait, .stepResult,
    .stepPickedUp, .stepTimeout, .waitTimeout, .wakeFromInbox]

/-- `DirectiveFactories[kind]`, for the text of a kind. -/
def directiveFactory? (text : String) : Option DirectiveKind :=
  directiveFactories.find? fun kind => kind.text = text

namespace Codec

/-! ### Plain structs -/

/-- A pointer to a text. -/
def textPtr : Format Value (Option String) :=
  Format.text.nullable (by simp [Format.text])

/-- A pointer to a time. -/
def timePtr : Format Value (Option Time) :=
  Format.time.nullable (by simp [Format.time])

/-- A pointer to a signed number. -/
def intPtr : Format Value (Option ℤ) :=
  Format.int.nullable (by simp [Format.int])

/-- A pointer to an unsigned number. -/
def natPtr : Format Value (Option ℕ) :=
  Format.nat.nullable (by simp [Format.nat])

/-- A value of type `any`. -/
def any : Format Value Value :=
  Format.payload .nil

@[simp] theorem valid_textPtr (o : Option String) : textPtr.Valid o := fun _ _ => trivial

@[simp] theorem valid_timePtr (o : Option Time) : timePtr.Valid o := fun _ _ => trivial

@[simp] theorem valid_intPtr (o : Option ℤ) : intPtr.Valid o := fun _ _ => trivial

@[simp] theorem valid_natPtr (o : Option ℕ) : natPtr.Valid o := fun _ _ => trivial

@[simp] theorem valid_any (v : Value) : any.Valid v := trivial

/-- The text of a run status. -/
def runStatus : Format Value RunStatus :=
  Format.named RunStatus.text fun text => some (RunStatus.ofText text)

/-- `ErrorDetails`. -/
def errorDetails : Format Value ErrorDetails :=
  (Fields.make ErrorDetails.mk
    |>.field (.plain "message" .text "") ErrorDetails.message (by decide)
    |>.field (.plain "stack_trace" .text "") ErrorDetails.stackTrace (by decide)
    |>.field (.plain "type" .text "") ErrorDetails.type (by decide)).record fun _ => rfl

@[simp] theorem valid_errorDetails (e : ErrorDetails) : errorDetails.Valid e :=
  Fields.valid_record (by simp)

/-- `RunInfo`. The library also leaves out a pointer to the zero time. This is not modelled: as with
plain structs in general, the library is taken to read back what was written. -/
def runInfo : Format Value RunInfo :=
  (Fields.make RunInfo.mk
    |>.field (.plain "id" .text "") RunInfo.id (by decide)
    |>.field (.plain "wf_id" .text "") RunInfo.wfID (by decide)
    |>.field (.plain "wf_type" .text "") RunInfo.wfType (by decide)
    |>.field (.omitEmpty "status" runStatus (.other "")) RunInfo.status (by decide)
    |>.field (.omitEmpty "worker_name" .text "") RunInfo.workerName (by decide)
    |>.field (.omitEmpty "parent_wf_id" textPtr none) RunInfo.parentWFID (by decide)
    |>.field (.omitEmpty "parent_wf_type" textPtr none) RunInfo.parentWFType (by decide)
    |>.field (.omitEmpty "parent_run_id" textPtr none) RunInfo.parentRunID (by decide)
    |>.field (.omitEmpty "parent_callback_step" textPtr none) RunInfo.parentCallbackStep (by decide)
    |>.field (.omitEmpty "timeout" intPtr none) RunInfo.timeout (by decide)
    |>.field (.plain "created_at" .time 0) RunInfo.createdAt (by decide)
    |>.field (.omitEmpty "scheduled_at" timePtr none) RunInfo.scheduledAt (by decide)
    |>.field (.omitEmpty "started_at" timePtr none) RunInfo.startedAt (by decide)
    |>.field (.omitEmpty "completed_at" timePtr none) RunInfo.completedAt (by decide)
    |>.field (.omitEmpty "history_seq_id" .nat 0) RunInfo.historySeqID (by decide)).record
    fun _ => rfl

theorem valid_runInfo {info : RunInfo} (h : info.status.Canonical) : runInfo.Valid info := by
  have hstatus : runStatus.Valid info.status := congrArg some h
  exact Fields.valid_record (by simp [hstatus])

/-- `Start`. -/
def start : Format Value (Value × UInt32) :=
  (Fields.make Prod.mk
    |>.field (.plain "input" any .nil) Prod.fst (by decide)
    |>.field (.plain "timeout_ms" .uint32 0) Prod.snd (by decide)).record fun _ => rfl

@[simp] theorem valid_start (a : Value × UInt32) : start.Valid a :=
  Fields.valid_record (by simp)

/-- `Step`. -/
def step : Format Value (String × UInt32) :=
  (Fields.make Prod.mk
    |>.field (.plain "step_name" .text "") Prod.fst (by decide)
    |>.field (.plain "timeout_ms" .uint32 0) Prod.snd (by decide)).record fun _ => rfl

@[simp] theorem valid_step (a : String × UInt32) : step.Valid a :=
  Fields.valid_record (by simp)

/-- `StepTimeout`. -/
def stepTimeout : Format Value (String × DirectiveID) :=
  (Fields.make Prod.mk
    |>.field (.plain "step_name" .text "") Prod.fst (by decide)
    |>.field (.omitEmpty "original_directive_id" .text "") Prod.snd (by decide)).record fun _ => rfl

@[simp] theorem valid_stepTimeout (a : String × DirectiveID) : stepTimeout.Valid a :=
  Fields.valid_record (by simp)

/-- `FailStep`. -/
def failStep : Format Value (String × ErrorDetails) :=
  (Fields.make Prod.mk
    |>.field (.plain "step_name" .text "") Prod.fst (by decide)
    |>.field (.plain "error" errorDetails ⟨"", "", ""⟩) Prod.snd (by decide)).record fun _ => rfl

@[simp] theorem valid_failStep (a : String × ErrorDetails) : failStep.Valid a :=
  Fields.valid_record (by simp)

/-- `Wait`. -/
def wait : Format Value (UInt32 × String) :=
  (Fields.make Prod.mk
    |>.field (.plain "timeout_ms" .uint32 0) Prod.fst (by decide)
    |>.field (.plain "timeout_step_name" .text "") Prod.snd (by decide)).record fun _ => rfl

@[simp] theorem valid_wait (a : UInt32 × String) : wait.Valid a :=
  Fields.valid_record (by simp)

/-- `WaitTimeout`. -/
def waitTimeout : Format Value (String × DirectiveID) :=
  (Fields.make Prod.mk
    |>.field (.plain "timeout_step_name" .text "") Prod.fst (by decide)
    |>.field (.plain "original_directive_id" .text "") Prod.snd (by decide)).record fun _ => rfl

@[simp] theorem valid_waitTimeout (a : String × DirectiveID) : waitTimeout.Valid a :=
  Fields.valid_record (by simp)

/-- `WakeFromInbox` and the other structs without fields. -/
def noFields : Format Value Unit :=
  (Fields.make ()).record fun _ => rfl

@[simp] theorem valid_noFields (a : Unit) : noFields.Valid a :=
  Fields.valid_record (by simp)

/-- `Cancel` and `Terminate`. -/
def reason : Format Value String :=
  (Fields.make id |>.field (.plain "reason" .text "") id (by decide)).record fun _ => rfl

@[simp] theorem valid_reason (a : String) : reason.Valid a :=
  Fields.valid_record (by simp)

/-- `Event`. -/
def event : Format Value Event :=
  (Fields.make Event.mk
    |>.field (.omitEmpty "event_seq_id" natPtr none) Event.eventSeqID (by decide)
    |>.field (.plain "event_name" .text "") Event.eventName (by decide)
    |>.field (.plain "payload" any .nil) Event.payload (by decide)
    |>.field (.plain "timeout_ms" .uint32 0) Event.timeout (by decide)).record fun _ => rfl

@[simp] theorem valid_event (a : Event) : event.Valid a :=
  Fields.valid_record (by simp)

/-- `Complete`. -/
def complete : Format Value Value :=
  (Fields.make id |>.field (.plain "result" any .nil) id (by decide)).record fun _ => rfl

@[simp] theorem valid_complete (a : Value) : complete.Valid a :=
  Fields.valid_record (by simp)

/-- `Fail`. -/
def failure : Format Value ErrorDetails :=
  (Fields.make id
    |>.field (.plain "error" errorDetails ⟨"", "", ""⟩) id (by decide)).record fun _ => rfl

@[simp] theorem valid_failure (a : ErrorDetails) : failure.Valid a :=
  Fields.valid_record (by simp)

/-- `StepPickedUp`. -/
def stepPickedUp : Format Value (String × WorkerID × Time) :=
  (Fields.make (fun stepName workerID timestamp => (stepName, workerID, timestamp))
    |>.field (.plain "step_name" .text "") (fun p => p.1) (by decide)
    |>.field (.plain "worker_id" .text "") (fun p => p.2.1) (by decide)
    |>.field (.plain "timestamp" .time 0) (fun p => p.2.2) (by decide)).record fun _ => rfl

@[simp] theorem valid_stepPickedUp (a : String × WorkerID × Time) : stepPickedUp.Valid a :=
  Fields.valid_record (by simp)

end Codec

/-! ### Messages -/

/-- `stepResultWire`: the messages are kept as raw documents. -/
structure StepResultWire where
  processedMsgKind : String
  processedMsg : Option Document
  workerID : Option WorkerID
  durationMS : ℤ
  kvUpdates : Option KVUpdates
  nextMsgKind : String
  nextMsg : Option Document

/-- The fields of `stepResultWire`. -/
def stepResultFields : Fields Value StepResultWire StepResultWire :=
  Fields.make StepResultWire.mk
    |>.field (.plain "processed_msg_kind" .text "") StepResultWire.processedMsgKind (by decide)
    |>.field (.raw "processed_msg") StepResultWire.processedMsg (by decide)
    |>.field (.plain "worker_id" Codec.textPtr none) StepResultWire.workerID (by decide)
    |>.field (.plain "duration_ms" .int 0) StepResultWire.durationMS (by decide)
    |>.field (.omitEmpty "kv_updates" (Codec.any.dict.nullable (by simp [Format.dict])) none)
      StepResultWire.kvUpdates (by decide)
    |>.field (.plain "next_msg_kind" .text "") StepResultWire.nextMsgKind (by decide)
    |>.field (.raw "next_msg") StepResultWire.nextMsg (by decide)

/-- The format of `stepResultWire`. -/
def stepResultWire : Format Value StepResultWire :=
  stepResultFields.record fun _ => rfl

/-- `msgpack.Marshal` of a message: the type of the message alone decides how it is written. -/
def encodeMessage : DirectiveMessage → Document
  | .nil => .nil
  | .start input timeout => Codec.start.encode (input, timeout)
  | .step name timeout => Codec.step.encode (name, timeout)
  | .stepTimeout stepName originalDirectiveID =>
    Codec.stepTimeout.encode (stepName, originalDirectiveID)
  | .failStep stepName error => Codec.failStep.encode (stepName, error)
  | .wait timeout timeoutStepName => Codec.wait.encode (timeout, timeoutStepName)
  | .waitTimeout timeoutStepName originalDirectiveID =>
    Codec.waitTimeout.encode (timeoutStepName, originalDirectiveID)
  | .wakeFromInbox => Codec.noFields.encode ()
  | .cancel reason => Codec.reason.encode reason
  | .terminate reason => Codec.reason.encode reason
  | .event event => Codec.event.encode event
  | .complete result => Codec.complete.encode result
  | .fail error => Codec.failure.encode error
  | .stepPickedUp stepName workerID timestamp =>
    Codec.stepPickedUp.encode (stepName, workerID, timestamp)
  | .stepResult processedMsgKind processedMsg workerID durationMS kvUpdates nextMsgKind nextMsg =>
    stepResultWire.encode
      { processedMsgKind := processedMsgKind.text
        processedMsg := some (encodeMessage processedMsg)
        workerID := workerID
        durationMS := durationMS
        kvUpdates := kvUpdates
        nextMsgKind := nextMsgKind.text
        nextMsg := some (encodeMessage nextMsg) }

/-- The raw messages of a step result are smaller than the step result. -/
theorem sizeOf_of_stepResultWire {doc sub : Document} {wire : StepResultWire}
    (hwire : stepResultWire.decode doc = some wire)
    (hsub : wire.processedMsg = some sub ∨ wire.nextMsg = some sub) :
    sizeOf sub < sizeOf doc := by
  obtain ⟨find, hfind, hdecode⟩ := Fields.decode_record.1 hwire
  simp only [stepResultFields, Fields.decode_field, Fields.decode_make] at hdecode
  obtain ⟨_, nm, ⟨_, _, ⟨_, _, ⟨_, _, ⟨_, _, ⟨_, pm, ⟨_, _, rfl, -, rfl⟩, hpm, rfl⟩, -, rfl⟩, -,
    rfl⟩, -, rfl⟩, -, rfl⟩, hnm, rfl⟩ := hdecode
  cases hpm
  cases hnm
  rcases hsub with hsub | hsub <;> exact sizeOf_of_finder hfind hsub

/-- A message is decoded into the one that the factory of its kind creates. -/
def decodeMessage (kind : DirectiveKind) (doc : Document) : Outcome DirectiveMessage :=
  match kind with
  | .unset => fail "unknown directive kind: "
  | .start => do
    let (input, timeout) ← unmarshal Codec.start doc
    return .start input timeout
  | .step => do
    let (name, timeout) ← unmarshal Codec.step doc
    return .step name timeout
  | .stepTimeout => do
    let (stepName, originalDirectiveID) ← unmarshal Codec.stepTimeout doc
    return .stepTimeout stepName originalDirectiveID
  | .failStep => do
    let (stepName, error) ← unmarshal Codec.failStep doc
    return .failStep stepName error
  | .wait => do
    let (timeout, timeoutStepName) ← unmarshal Codec.wait doc
    return .wait timeout timeoutStepName
  | .waitTimeout => do
    let (timeoutStepName, originalDirectiveID) ← unmarshal Codec.waitTimeout doc
    return .waitTimeout timeoutStepName originalDirectiveID
  | .wakeFromInbox => do
    let () ← unmarshal Codec.noFields doc
    return .wakeFromInbox
  | .cancel => do
    let reason ← unmarshal Codec.reason doc
    return .cancel reason
  | .terminate => do
    let reason ← unmarshal Codec.reason doc
    return .terminate reason
  | .event => do
    let event ← unmarshal Codec.event doc
    return .event event
  | .complete => do
    let result ← unmarshal Codec.complete doc
    return .complete result
  | .fail => do
    let error ← unmarshal Codec.failure doc
    return .fail error
  | .stepPickedUp => do
    let (stepName, workerID, timestamp) ← unmarshal Codec.stepPickedUp doc
    return .stepPickedUp stepName workerID timestamp
  | .stepResult =>
    match _ : stepResultWire.decode doc with
    | none => fail "failed to decode step result: msgpack: cannot decode"
    | some wire =>
      match directiveFactory? wire.processedMsgKind, _ : wire.processedMsg with
      | none, _ => fail ("unknown processed msg kind: " ++ wire.processedMsgKind)
      | some _, none => fail "failed to unmarshal ProcessedMsg: EOF"
      | some processedMsgKind, some processedDoc => do
        let processedMsg ← wrap "failed to unmarshal ProcessedMsg"
          (decodeMessage processedMsgKind processedDoc)
        match directiveFactory? wire.nextMsgKind, _ : wire.nextMsg with
        | none, _ => fail ("unknown next msg kind: " ++ wire.nextMsgKind)
        | some _, none => fail "failed to unmarshal NextMsg: EOF"
        | some nextMsgKind, some nextDoc => do
          let nextMsg ← wrap "failed to unmarshal NextMsg" (decodeMessage nextMsgKind nextDoc)
          return .stepResult processedMsgKind processedMsg wire.workerID wire.durationMS
            wire.kvUpdates nextMsgKind nextMsg
termination_by sizeOf doc
decreasing_by
  · exact sizeOf_of_stepResultWire (by assumption) (.inl (by assumption))
  · exact sizeOf_of_stepResultWire (by assumption) (.inr (by assumption))

/-! ### Round trips -/

theorem directiveFactory?_text {kind : DirectiveKind} (h : kind ≠ .unset) :
    directiveFactory? kind.text = some kind := by
  cases kind <;> first | exact absurd rfl h | decide

theorem DirectiveMessage.agrees_ne_unset {kind : DirectiveKind} {msg : DirectiveMessage}
    (h : msg.agrees kind = true) : kind ≠ .unset := by
  rintro rfl
  cases msg <;> cases h

theorem valid_stepResultWire (wire : StepResultWire) : stepResultWire.Valid wire :=
  Fields.valid_record (by simp [stepResultFields])

/-- What a step result is decoded from: a wire value with two known kinds and two messages that
decode as messages of these kinds. -/
structure StepResultParts (doc : Document) where
  wire : StepResultWire
  processedMsgKind : DirectiveKind
  processedDoc : Document
  processedMsg : DirectiveMessage
  nextMsgKind : DirectiveKind
  nextDoc : Document
  nextMsg : DirectiveMessage
  decode_doc : stepResultWire.decode doc = some wire
  factory_processed : directiveFactory? wire.processedMsgKind = some processedMsgKind
  processed_eq : wire.processedMsg = some processedDoc
  decode_processed : decodeMessage processedMsgKind processedDoc = .ok processedMsg
  factory_next : directiveFactory? wire.nextMsgKind = some nextMsgKind
  next_eq : wire.nextMsg = some nextDoc
  decode_next : decodeMessage nextMsgKind nextDoc = .ok nextMsg

/-- The step result that is decoded from its parts. -/
def StepResultParts.message {doc : Document} (p : StepResultParts doc) : DirectiveMessage :=
  .stepResult p.processedMsgKind p.processedMsg p.wire.workerID p.wire.durationMS p.wire.kvUpdates
    p.nextMsgKind p.nextMsg

theorem decodeMessage_stepResult_iff {doc : Document} {msg : DirectiveMessage} :
    decodeMessage .stepResult doc = .ok msg ↔ ∃ p : StepResultParts doc, p.message = msg := by
  rw [decodeMessage]
  constructor
  · intro h
    split at h
    · simp at h
    · rename_i wire hwire
      split at h
      · simp at h
      · simp at h
      · rename_i processedMsgKind processedDoc hpk hp
        simp only [bind_eq_ok, wrap_eq_ok] at h
        obtain ⟨processedMsg, hpm, h⟩ := h
        split at h
        · simp at h
        · simp at h
        · rename_i nextMsgKind nextDoc hnk hn
          simp only [bind_eq_ok, wrap_eq_ok, pure_eq_ok] at h
          obtain ⟨nextMsg, hnm, h⟩ := h
          exact ⟨⟨wire, processedMsgKind, processedDoc, processedMsg, nextMsgKind, nextDoc, nextMsg,
            hwire, hpk, hp, hpm, hnk, hn, hnm⟩, h⟩
  · rintro ⟨p, rfl⟩
    split
    · rename_i hnone
      cases hnone.symm.trans p.decode_doc
    · rename_i wire hwire
      obtain rfl := Option.some_inj.1 (p.decode_doc.symm.trans hwire)
      split
      · rename_i hnone
        cases hnone.symm.trans p.factory_processed
      · rename_i hnone
        cases hnone.symm.trans p.processed_eq
      · rename_i processedMsgKind processedDoc hpk hp
        obtain rfl := Option.some_inj.1 (p.factory_processed.symm.trans hpk)
        obtain rfl := Option.some_inj.1 (p.processed_eq.symm.trans hp)
        simp only [bind_eq_ok, wrap_eq_ok]
        refine ⟨p.processedMsg, p.decode_processed, ?_⟩
        split
        · rename_i hnone
          cases hnone.symm.trans p.factory_next
        · rename_i hnone
          cases hnone.symm.trans p.next_eq
        · rename_i nextMsgKind nextDoc hnk hn
          obtain rfl := Option.some_inj.1 (p.factory_next.symm.trans hnk)
          obtain rfl := Option.some_inj.1 (p.next_eq.symm.trans hn)
          simp only [bind_eq_ok, wrap_eq_ok, pure_eq_ok]
          exact ⟨p.nextMsg, p.decode_next, rfl⟩

/-- The messages of all kinds are read back as they were, to any depth of step results. -/
theorem decodeMessage_encodeMessage {kind : DirectiveKind} {msg : DirectiveMessage}
    (h : msg.agrees kind = true) : decodeMessage kind (encodeMessage msg) = .ok msg := by
  induction msg generalizing kind with
  | nil => cases kind <;> cases h
  | stepResult processedMsgKind processedMsg workerID durationMS kvUpdates nextMsgKind nextMsg
      ihp ihn =>
    obtain rfl : kind = .stepResult := by cases kind <;> first | rfl | cases h
    obtain ⟨hp, hn⟩ : processedMsg.agrees processedMsgKind = true ∧
        nextMsg.agrees nextMsgKind = true := by
      simpa [DirectiveMessage.agrees] using h
    exact decodeMessage_stepResult_iff.2 ⟨{
      wire := _
      processedMsgKind := processedMsgKind
      processedDoc := encodeMessage processedMsg
      processedMsg := processedMsg
      nextMsgKind := nextMsgKind
      nextDoc := encodeMessage nextMsg
      nextMsg := nextMsg
      decode_doc := stepResultWire.decode_encode _ (valid_stepResultWire _)
      factory_processed := directiveFactory?_text (DirectiveMessage.agrees_ne_unset hp)
      processed_eq := rfl
      decode_processed := ihp hp
      factory_next := directiveFactory?_text (DirectiveMessage.agrees_ne_unset hn)
      next_eq := rfl
      decode_next := ihn hn }, rfl⟩
  | start | step | stepTimeout | failStep | wait | waitTimeout | wakeFromInbox | cancel
  | terminate | event | complete | fail | stepPickedUp =>
    -- plain structs: a kind that agrees is the kind of the constructor
    cases kind <;> first
      | (cases h; done)
      | (rw [decodeMessage, encodeMessage, unmarshal_encode (by simp)]
         rfl)

/-! ### Directives -/

/-- `directiveWire`. -/
structure DirectiveWire where
  id : DirectiveID := ""
  kind : String := ""
  timestamp : Time := 0
  runInfo : RunInfo := .zero
  attempt : ℕ := 0
  kvRevs : Option (List (String × ℕ)) := none
  msg : Option Document := none

/-- The format of `directiveWire`. -/
def directiveWire : Format Value DirectiveWire :=
  (Fields.make DirectiveWire.mk
    |>.field (.plain "id" .text "") DirectiveWire.id (by decide)
    |>.field (.plain "k" .text "") DirectiveWire.kind (by decide)
    |>.field (.plain "t" .time 0) DirectiveWire.timestamp (by decide)
    |>.field (.plain "r" Codec.runInfo .zero) DirectiveWire.runInfo (by decide)
    |>.field (.plain "a" .nat 0) DirectiveWire.attempt (by decide)
    |>.field (.omitEmpty "kvs" (Format.nat.dict.nullable (by simp [Format.dict])) none)
      DirectiveWire.kvRevs (by decide)
    |>.field (.plain "m" .bin none) DirectiveWire.msg (by decide)).record fun _ => rfl

/-- The wire value of a directive. -/
def Directive.wire (d : Directive) : DirectiveWire where
  id := d.id
  kind := d.kind.text
  timestamp := d.timestamp
  runInfo := d.runInfo
  attempt := d.attempt
  msg := some (encodeMessage d.msg)

/-- `Directive.EncodeMsgpack`. -/
def encodeDirective (d : Directive) : Outcome Document :=
  if d.id = "" then
    .ok (directiveWire.encode {})
  else if d.msg = .nil then
    fail "directive message cannot be nil"
  else
    .ok (directiveWire.encode d.wire)

/-- `Directive.DecodeMsgpack`. -/
def decodeDirective (doc : Document) : Outcome Directive :=
  match directiveWire.decode doc with
  | none => fail "failed to decode directive: msgpack: cannot decode"
  | some wire =>
    if wire.id = "" then
      .ok .zero
    else
      match directiveFactory? wire.kind, wire.msg with
      | none, _ => fail ("unknown directive kind: " ++ wire.kind)
      | some _, none => fail ("failed to unmarshal message for kind " ++ wire.kind ++ ": EOF")
      | some kind, some sub => do
        let msg ← wrap ("failed to unmarshal message for kind " ++ wire.kind)
          (decodeMessage kind sub)
        return {
          id := wire.id
          kind := kind
          timestamp := wire.timestamp
          runInfo := wire.runInfo
          attempt := wire.attempt
          msg := msg }

theorem valid_directiveWire {wire : DirectiveWire} (h : wire.runInfo.status.Canonical) :
    directiveWire.Valid wire :=
  Fields.valid_record (by simp [Codec.valid_runInfo h])

/-- What a directive with an identifier is decoded from. -/
structure DirectiveParts (doc : Document) where
  wire : DirectiveWire
  kind : DirectiveKind
  sub : Document
  msg : DirectiveMessage
  decode_doc : directiveWire.decode doc = some wire
  id_ne : wire.id ≠ ""
  factory : directiveFactory? wire.kind = some kind
  msg_eq : wire.msg = some sub
  decode_msg : decodeMessage kind sub = .ok msg

/-- The directive that is decoded from its parts. -/
def DirectiveParts.directive {doc : Document} (p : DirectiveParts doc) : Directive where
  id := p.wire.id
  kind := p.kind
  timestamp := p.wire.timestamp
  runInfo := p.wire.runInfo
  attempt := p.wire.attempt
  msg := p.msg

/-- A document decodes to the zero directive, if it has no identifier, or to the directive of its
parts. -/
theorem decodeDirective_eq_ok_iff {doc : Document} {d : Directive} :
    decodeDirective doc = .ok d ↔
      (∃ wire, directiveWire.decode doc = some wire ∧ wire.id = "" ∧ d = .zero) ∨
        ∃ p : DirectiveParts doc, p.directive = d := by
  rw [decodeDirective]
  constructor
  · intro h
    split at h
    · simp at h
    · rename_i wire hwire
      split at h
      · rename_i hid
        exact .inl ⟨wire, hwire, hid, (Except.ok.inj h).symm⟩
      · rename_i hid
        split at h
        · simp at h
        · simp at h
        · rename_i kind sub hkind hsub
          simp only [bind_eq_ok, wrap_eq_ok, pure_eq_ok] at h
          obtain ⟨msg, hmsg, h⟩ := h
          exact .inr ⟨⟨wire, kind, sub, msg, hwire, hid, hkind, hsub, hmsg⟩, h⟩
  · rintro (⟨wire, hwire, hid, rfl⟩ | ⟨p, rfl⟩)
    · simp [hwire, hid]
    · simp [p.decode_doc, p.id_ne, p.factory, p.msg_eq, p.decode_msg, DirectiveParts.directive]

/-- A directive that decodes to the same value after encoding: its message agrees with its kind at
every level. -/
structure Directive.Sendable (d : Directive) : Prop where
  decoded : d.Decoded
  status : d.runInfo.status.Canonical

theorem decodeDirective_encodeDirective {d : Directive} (h : d.Sendable) :
    (encodeDirective d >>= decodeDirective) = .ok d := by
  have hmsg := h.decoded.2
  have hne : d.msg ≠ .nil := by
    intro hnil
    rw [hnil] at hmsg
    cases hk : d.kind <;> simp [hk, DirectiveMessage.agrees] at hmsg
  have hencode : encodeDirective d = .ok (directiveWire.encode d.wire) := by
    rw [encodeDirective, if_neg h.decoded.1, if_neg hne]
  have hvalid : directiveWire.Valid d.wire := valid_directiveWire h.status
  refine bind_eq_ok.2 ⟨_, hencode, decodeDirective_eq_ok_iff.2 (.inr ⟨{
    wire := d.wire
    kind := d.kind
    sub := encodeMessage d.msg
    msg := d.msg
    decode_doc := directiveWire.decode_encode d.wire hvalid
    id_ne := h.decoded.1
    factory := directiveFactory?_text (DirectiveMessage.agrees_ne_unset hmsg)
    msg_eq := rfl
    decode_msg := decodeMessage_encodeMessage hmsg }, rfl⟩)⟩

/-- A directive without an identifier is read back as the zero directive, whatever else it
holds. -/
theorem decodeDirective_encodeDirective_zero {d : Directive} (h : d.id = "") :
    (encodeDirective d >>= decodeDirective) = .ok .zero := by
  have hencode : encodeDirective d = .ok (directiveWire.encode {}) := by
    rw [encodeDirective, if_pos h]
  have hvalid : directiveWire.Valid {} := valid_directiveWire (by decide)
  exact bind_eq_ok.2 ⟨_, hencode, decodeDirective_eq_ok_iff.2
    (.inl ⟨_, directiveWire.decode_encode _ hvalid, rfl, rfl⟩)⟩

end Grctl
