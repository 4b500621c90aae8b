import Grctl.Codec.Directive

/-!
# The wire format of commands

`Command` has an encoder and a decoder of its own (`command.go`), built like those of `Directive`:
a kind next to the bytes of a message, one factory for each kind, and an empty encoding for a
command without an identifier. The encoder also asks for a sender.

## Main definitions

* `CmdKind.text`, `CommandMessage.agrees`, `Command.Sendable`.
* `encodeCommandMessage`, `decodeCmd`, `encodeCommand`, `decodeCommand`.

## Main results

* `decodeCmd_encodeCommandMessage`, `decodeCommand_encodeCommand`.
-/

namespace Grctl

open Wire

/-- The text of a command kind. -/
def CmdKind.text : CmdKind → String
  | .unset => ""
  | .runCancel => "run.cancel"
  | .runDescribe => "run.describe"
  | .runEvent => "run.event"
  | .runStart => "run.start"
  | .runTerminate => "run.terminate"
  | .workerRegister => "worker.register"
  | .workerTerminateRun => "worker.terminate_run"

/-- The kinds that `commandMessageFactories` has a message for. -/
def commandMessageFactories : List CmdKind :=
  [.runStart, .runCancel, .runDescribe, .runTerminate, .runEvent, .workerRegister,
    .workerTerminateRun]

/-- `commandMessageFactories[kind]`, for the text of a kind. -/
def commandMessageFactory? (text : String) : Option CmdKind :=
  commandMessageFactories.find? fun kind => kind.text = text

/-- Whether a message has the type that the factory of a kind creates. -/
def CommandMessage.agrees : CmdKind → CommandMessage → Bool
  | .runStart, .start .. => true
  | .runCancel, .cancel .. => true
  | .runDescribe, .describe _ => true
  | .runTerminate, .terminate .. => true
  | .runEvent, .event .. => true
  | .workerRegister, .register .. => true
  | .workerTerminateRun, .workerTerminateRun _ => true
  | _, _ => false

namespace Codec

/-! ### Plain structs -/

/-- `StartCmd`. -/
def startCmd : Format Value (RunInfo × Value) :=
  (Fields.make Prod.mk
    |>.field (.plain "run_info" runInfo .zero) Prod.fst (by decide)
    |>.field (.plain "input" any .nil) Prod.snd (by decide)).record fun _ => rfl

/-- `CancelCmd` and `TerminateCmd`. -/
def reasonCmd : Format Value (WFID × String) :=
  (Fields.make Prod.mk
    |>.field (.plain "wf_id" .text "") Prod.fst (by decide)
    |>.field (.plain "reason" .text "") Prod.snd (by decide)).record fun _ => rfl

/-- `DescribeCmd`. -/
def describeCmd : Format Value WFID :=
  (Fields.make id |>.field (.plain "wf_id" .text "") id (by decide)).record fun _ => rfl

/-- `EventCmd`. -/
def eventCmd : Format Value (WFID × String × Value) :=
  (Fields.make (fun wfID eventName payload => (wfID, eventName, payload))
    |>.field (.plain "wf_id" .text "") (fun p => p.1) (by decide)
    |>.field (.plain "event_name" .text "") (fun p => p.2.1) (by decide)
    |>.field (.plain "payload" any .nil) (fun p => p.2.2) (by decide)).record fun _ => rfl

/-- `EventDef`. -/
def eventDef : Format Value EventDef :=
  (Fields.make EventDef.mk
    |>.field (.plain "name" .text "") EventDef.name (by decide)
    |>.field (.plain "timeout_ms" .uint32 0) EventDef.timeoutMS (by decide)).record fun _ => rfl

/-- `WorkflowTypeDef`. -/
def workflowTypeDef : Format Value WorkflowTypeDef :=
  (Fields.make WorkflowTypeDef.mk
    |>.field (.plain "type" .text "") WorkflowTypeDef.type (by decide)
    |>.field (.plain "start_step" .text "") WorkflowTypeDef.startStep (by decide)
    |>.field (.plain "steps" Format.text.list []) WorkflowTypeDef.steps (by decide)
    |>.field (.plain "events" eventDef.list []) WorkflowTypeDef.events (by decide)
    |>.field (.plain "queries" Format.text.list []) WorkflowTypeDef.queries (by decide)
    |>.field (.plain "start_step_timeout_ms" .uint32 0) WorkflowTypeDef.startStepTimeoutMS
      (by decide)).record fun _ => rfl

/-- `RegisterCmd`. -/
def registerCmd : Format Value (String × List WorkflowTypeDef) :=
  (Fields.make Prod.mk
    |>.field (.plain "worker_id" .text "") Prod.fst (by decide)
    |>.field (.plain "types" workflowTypeDef.list []) Prod.snd (by decide)).record fun _ => rfl

/-- `WorkerTerminateRunCmd`. -/
def workerTerminateRunCmd : Format Value RunID :=
  (Fields.make id |>.field (.plain "run_id" .text "") id (by decide)).record fun _ => rfl

theorem valid_startCmd {info : RunInfo} {input : Value} (h : info.status.Canonical) :
    startCmd.Valid (info, input) :=
  Fields.valid_record (by simp [valid_runInfo h])

@[simp] theorem valid_reasonCmd (a : WFID × String) : reasonCmd.Valid a :=
  Fields.valid_record (by simp)

@[simp] theorem valid_describeCmd (a : WFID) : describeCmd.Valid a :=
  Fields.valid_record (by simp)

@[simp] theorem valid_eventCmd (a : WFID × String × Value) : eventCmd.Valid a :=
  Fields.valid_record (by simp)

@[simp] theorem valid_eventDef (a : EventDef) : eventDef.Valid a :=
  Fields.valid_record (by simp)

@[simp] theorem valid_workflowTypeDef (a : WorkflowTypeDef) : workflowTypeDef.Valid a :=
  Fields.valid_record (by simp)

@[simp] theorem valid_registerCmd (a : String × List WorkflowTypeDef) : registerCmd.Valid a :=
  Fields.valid_record (by simp)

@[simp] theorem valid_workerTerminateRunCmd (a : RunID) : workerTerminateRunCmd.Valid a :=
  Fields.valid_record (by simp)

end Codec

/-! ### Messages -/

/-- `msgpack.Marshal` of a command message. -/
def encodeCommandMessage : CommandMessage → Document
  | .nil => .nil
  | .start runInfo input => Codec.startCmd.encode (runInfo, input)
  | .cancel wfID reason => Codec.reasonCmd.encode (wfID, reason)
  | .terminate wfID reason => Codec.reasonCmd.encode (wfID, reason)
  | .describe wfID => Codec.describeCmd.encode wfID
  | .event wfID eventName payload => Codec.eventCmd.encode (wfID, eventName, payload)
  | .register workerID types => Codec.registerCmd.encode (workerID, types)
  | .workerTerminateRun runID => Codec.workerTerminateRunCmd.encode runID

/-- The message that the factory of a kind creates, filled in by `msgpack.Unmarshal`. -/
def unmarshalCmd (kind : CmdKind) (doc : Document) : Outcome CommandMessage :=
  match kind with
  | .unset => fail "unknown command kind: "
  | .runStart => do
    let (runInfo, input) ← unmarshal Codec.startCmd doc
    return .start runInfo input
  | .runCancel => do
    let (wfID, reason) ← unmarshal Codec.reasonCmd doc
    return .cancel wfID reason
  | .runTerminate => do
    let (wfID, reason) ← unmarshal Codec.reasonCmd doc
    return .terminate wfID reason
  | .runDescribe => do
    let wfID ← unmarshal Codec.describeCmd doc
    return .describe wfID
  | .runEvent => do
    let (wfID, eventName, payload) ← unmarshal Codec.eventCmd doc
    return .event wfID eventName payload
  | .workerRegister => do
    let (workerID, types) ← unmarshal Codec.registerCmd doc
    return .register workerID types
  | .workerTerminateRun => do
    let runID ← unmarshal Codec.workerTerminateRunCmd doc
    return .workerTerminateRun runID

/-- `DecodeCmd`, with the kind of the message. -/
def decodeCmd (kind : String) (data : Option Document) : Outcome (CmdKind × CommandMessage) :=
  match commandMessageFactory? kind, data with
  | none, _ => fail ("unknown command kind: " ++ kind)
  | some _, none => fail "EOF"
  | some kind, some doc => do
    let msg ← unmarshalCmd kind doc
    return (kind, msg)

/-! ### Commands -/

/-- `commandWire`. -/
structure CommandWire where
  id : CmdID := ""
  kind : String := ""
  msg : Option Document := none
  timestamp : Time := 0
  senderID : String := ""

/-- The format of `commandWire`. -/
def commandWire : Format Value CommandWire :=
  (Fields.make CommandWire.mk
    |>.field (.plain "id" .text "") CommandWire.id (by decide)
    |>.field (.plain "k" .text "") CommandWire.kind (by decide)
    |>.field (.plain "m" .bin none) CommandWire.msg (by decide)
    |>.field (.plain "t" .time 0) CommandWire.timestamp (by decide)
    |>.field (.plain "s" .text "") CommandWire.senderID (by decide)).record fun _ => rfl

/-- The wire value of a command. -/
def Command.wire (c : Command) : CommandWire where
  id := c.id
  kind := c.kind.text
  msg := some (encodeCommandMessage c.msg)
  timestamp := c.timestamp
  senderID := c.senderID

/-- `Command.EncodeMsgpack`. -/
def encodeCommand (c : Command) : Outcome Document :=
  if c.id = "" then
    .ok (commandWire.encode {})
  else if c.msg = .nil then
    fail "command message cannot be nil"
  else if c.senderID = "" then
    fail "command sender ID cannot be empty"
  else
    .ok (commandWire.encode c.wire)

/-- `Command.DecodeMsgpack`. -/
def decodeCommand (doc : Document) : Outcome Command :=
  match commandWire.decode doc with
  | none => fail "failed to decode command: msgpack: cannot decode"
  | some wire =>
    if wire.id = "" then
      .ok .zero
    else do
      let (kind, msg) ← wrap ("failed to decode command message for kind " ++ wire.kind)
        (decodeCmd wire.kind wire.msg)
      return {
        id := wire.id
        kind := kind
        msg := msg
        timestamp := wire.timestamp
        senderID := wire.senderID }

/-! ### Round trips -/

theorem decodeCmd_eq_ok_iff {text : String} {data : Option Document} {kind : CmdKind}
    {msg : CommandMessage} :
    decodeCmd text data = .ok (kind, msg) ↔
      commandMessageFactory? text = some kind ∧
        ∃ doc, data = some doc ∧ unmarshalCmd kind doc = .ok msg := by
  unfold decodeCmd
  split
  · simp_all
  · simp_all
  · rename_i kind' doc hkind
    simp only [bind_eq_ok, pure_eq_ok, Prod.mk.injEq, hkind, Option.some.injEq]
    constructor
    · rintro ⟨_, hmsg, rfl, rfl⟩
      exact ⟨rfl, doc, rfl, hmsg⟩
    · rintro ⟨rfl, _, rfl, hmsg⟩
      exact ⟨msg, hmsg, rfl, rfl⟩

theorem commandMessageFactory?_text {kind : CmdKind} (h : kind ≠ .unset) :
    commandMessageFactory? kind.text = some kind := by
  cases kind <;> first | exact absurd rfl h | decide

theorem CommandMessage.agrees_ne_unset {kind : CmdKind} {msg : CommandMessage}
    (h : msg.agrees kind = true) : kind ≠ .unset := by
  rintro rfl
  cases msg <;> cases h

@[simp] theorem valid_commandWire (wire : CommandWire) : commandWire.Valid wire :=
  Fields.valid_record (by simp)

/-- The status in the run description of a start command is canonical. -/
def CommandMessage.Canonical : CommandMessage → Prop
  | .start runInfo _ => runInfo.status.Canonical
  | _ => True

instance (msg : CommandMessage) : Decidable msg.Canonical := by
  cases msg <;> unfold CommandMessage.Canonical <;> infer_instance

/-- A command that decodes to the same value after encoding: it has an identifier and a sender, and
its message agrees with its kind. -/
structure Command.Sendable (c : Command) : Prop where
  id_ne : c.id ≠ ""
  senderID_ne : c.senderID ≠ ""
  agrees : c.msg.agrees c.kind = true
  status : c.msg.Canonical

theorem unmarshalCmd_encodeCommandMessage {kind : CmdKind} {msg : CommandMessage}
    (h : msg.agrees kind = true) (hs : msg.Canonical) :
    unmarshalCmd kind (encodeCommandMessage msg) = .ok msg := by
  cases msg with
  | nil => cases kind <;> cases h
  | start runInfo input =>
    obtain rfl : kind = .runStart := by cases kind <;> first | rfl | cases h
    rw [unmarshalCmd, encodeCommandMessage, unmarshal_encode (Codec.valid_startCmd hs)]
    rfl
  | cancel | terminate | describe | event | register | workerTerminateRun =>
    cases kind <;> first
      | (cases h; done)
      | (rw [unmarshalCmd, encodeCommandMessage, unmarshal_encode (by simp)]
         rfl)

theorem decodeCmd_encodeCommandMessage {kind : CmdKind} {msg : CommandMessage}
    (h : msg.agrees kind = true) (hs : msg.Canonical) :
    decodeCmd kind.text (some (encodeCommandMessage msg)) = .ok (kind, msg) :=
  decodeCmd_eq_ok_iff.2 ⟨commandMessageFactory?_text (CommandMessage.agrees_ne_unset h), _,
    rfl, unmarshalCmd_encodeCommandMessage h hs⟩

theorem decodeCommand_encodeCommand {c : Command} (h : c.Sendable) :
    (encodeCommand c >>= decodeCommand) = .ok c := by
  have hne : c.msg ≠ .nil := by
    intro hnil
    have hmsg := h.agrees
    rw [hnil] at hmsg
    cases hk : c.kind <;> simp [hk, CommandMessage.agrees] at hmsg
  have hencode : encodeCommand c = .ok (commandWire.encode c.wire) := by
    rw [encodeCommand, if_neg h.id_ne, if_neg hne, if_neg h.senderID_ne]
  have hid : c.wire.id ≠ "" := h.id_ne
  have hmsg : decodeCmd c.wire.kind c.wire.msg = .ok (c.kind, c.msg) :=
    decodeCmd_encodeCommandMessage h.agrees h.status
  refine bind_eq_ok.2 ⟨_, hencode, ?_⟩
  rw [decodeCommand, commandWire.decode_encode _ (valid_commandWire _)]
  simp only [if_neg hid, hmsg, wrap_ok]
  rfl

/-- A command without an identifier is read back as the zero command. -/
theorem decodeCommand_encodeCommand_zero {c : Command} (h : c.id = "") :
    (encodeCommand c >>= decodeCommand) = .ok .zero := by
  have hencode : encodeCommand c = .ok (commandWire.encode {}) := by
    rw [encodeCommand, if_pos h]
  refine bind_eq_ok.2 ⟨_, hencode, ?_⟩
  rw [decodeCommand, commandWire.decode_encode _ (valid_commandWire _)]
  rfl

end Grctl
