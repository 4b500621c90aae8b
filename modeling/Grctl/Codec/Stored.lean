import Grctl.Codec.Command

/-!
# The wire formats of run states and timers

`RunState` and `Timer` are plain structs that hold values with encoders of their own: a run state
may hold the cancel directive that waits for its step to finish, and a timer holds a directive and a
command of which one is set. Those values are documents inside the document of the struct.

The kind of a run state is a string in the source, and any text is accepted for it; `RunStateFields`
keeps the text, and `RunState.fields` is the embedding of the run states with a known kind. The
stream sequence `SeqID` is not serialised and is no field of it.

## Main definitions

* `RunStateFields`, `RunState.fields`, `encodeRunState`, `decodeRunState`.
* `encodeTimer`, `decodeTimer`, `Timer.Sendable`.

## Main results

* `RunState.fields_inj`: the fields determine a run state up to its sequence.
* `decodeRunState_encodeRunState`, `decodeTimer_encodeTimer`.
-/

namespace Grctl

open Wire

/-! ### Directives and commands inside other values -/

/-- A directive as other values hold it: unset, or one that encodes to itself. -/
def Directive.Carried (d : Directive) : Prop := d = .zero ∨ d.Sendable

/-- A command as other values hold it. -/
def Command.Carried (c : Command) : Prop := c = .zero ∨ c.Sendable

theorem Directive.Carried.decode_encode {d : Directive} (h : d.Carried) :
    ∃ doc, encodeDirective d = .ok doc ∧ decodeDirective doc = .ok d := by
  rcases h with rfl | h
  · exact bind_eq_ok.1 (decodeDirective_encodeDirective_zero rfl)
  · exact bind_eq_ok.1 (decodeDirective_encodeDirective h)

theorem Command.Carried.decode_encode {c : Command} (h : c.Carried) :
    ∃ doc, encodeCommand c = .ok doc ∧ decodeCommand doc = .ok c := by
  rcases h with rfl | h
  · exact bind_eq_ok.1 (decodeCommand_encodeCommand_zero rfl)
  · exact bind_eq_ok.1 (decodeCommand_encodeCommand h)

theorem encodeDirective_ne_nil {d : Directive} {doc : Document} (h : encodeDirective d = .ok doc) :
    doc ≠ .nil := by
  unfold encodeDirective at h
  split_ifs at h
  · cases h
    exact Fields.encode_record_ne_nil
  · simp at h
  · cases h
    exact Fields.encode_record_ne_nil

/-! ### Run states -/

/-- The text of the kind of a run state. -/
def RunStateKind.text : RunStateKind → String
  | .unset => ""
  | .idle => "idle"
  | .start => "start"
  | .step => "step"
  | .wait => "wait"
  | .complete => "complete"
  | .fail => "fail"
  | .cancel => "cancel"
  | .terminate => "terminate"

/-- The kind of a run state with a given text. No other text is one of the constants. -/
def RunStateKind.ofText? (text : String) : Option RunStateKind :=
  [.unset, .idle, .start, .step, .wait, .complete, .fail, .cancel, .terminate].find?
    fun kind : RunStateKind => kind.text = text

/-- The fields of `RunState` that are serialised, with a pending cancel of type `δ`: a document on
the wire, a directive once it is decoded. -/
structure RunStateFields (δ : Type) where
  wfID : WFID
  runID : RunID
  kind : String
  enteredAt : Time
  startedAt : Option Time
  lastEventSeqID : ℕ
  activeDirectiveID : DirectiveID
  workerID : Option WorkerID
  pendingCancel : Option δ

/-- The serialised fields of a run state. -/
def RunState.fields (s : RunState) : RunStateFields Directive where
  wfID := s.wfID
  runID := s.runID
  kind := s.kind.text
  enteredAt := s.enteredAt
  startedAt := s.startedAt
  lastEventSeqID := s.lastEventSeqID
  activeDirectiveID := s.activeDirectiveID
  workerID := s.workerID
  pendingCancel := s.pendingCancel

theorem RunStateKind.text_inj {kind kind' : RunStateKind} (h : kind.text = kind'.text) :
    kind = kind' := by
  cases kind <;> cases kind' <;> first | rfl | (revert h; decide)

theorem RunState.fields_inj {s s' : RunState} (h : s.fields = s'.fields) :
    { s with seqID := s'.seqID } = s' := by
  obtain ⟨_, _, _, _, _, _, _, _, _, _⟩ := s
  obtain ⟨_, _, _, _, _, _, _, _, _, _⟩ := s'
  simp only [RunState.fields, RunStateFields.mk.injEq] at h
  obtain ⟨rfl, rfl, hkind, rfl, rfl, rfl, rfl, rfl, rfl⟩ := h
  obtain rfl := RunStateKind.text_inj hkind
  rfl

/-- The same fields with another pending cancel. -/
def RunStateFields.withCancel {δ ε : Type} (s : RunStateFields δ) (pendingCancel : Option ε) :
    RunStateFields ε :=
  { s with pendingCancel := pendingCancel }

/-- The format of `RunState`, less the encoding of its pending cancel. The start time is read back
as it was written, as in `Codec.runInfo`. -/
def runStateWire : Format Value (RunStateFields Document) :=
  (Fields.make RunStateFields.mk
    |>.field (.plain "wf_id" .text "") RunStateFields.wfID (by decide)
    |>.field (.plain "run_id" .text "") RunStateFields.runID (by decide)
    |>.field (.plain "kind" .text "") RunStateFields.kind (by decide)
    |>.field (.plain "entered_at" .time 0) RunStateFields.enteredAt (by decide)
    |>.field (.omitEmpty "started_at" Codec.timePtr none) RunStateFields.startedAt (by decide)
    |>.field (.plain "last_event_seq_id" .nat 0) RunStateFields.lastEventSeqID (by decide)
    |>.field (.omitEmpty "active_directive_id" .text "") RunStateFields.activeDirectiveID
      (by decide)
    |>.field (.omitEmpty "worker_id" Codec.textPtr none) RunStateFields.workerID (by decide)
    |>.field (.raw "pending_cancel") RunStateFields.pendingCancel (by decide)).record fun _ => rfl

theorem valid_runStateWire (s : RunStateFields Document) : runStateWire.Valid s :=
  Fields.valid_record (by simp)

/-- `msgpack.Marshal` of a run state: a pending cancel is written only if there is one. -/
def encodeRunState (s : RunStateFields Directive) : Outcome Document :=
  match s.pendingCancel with
  | none => .ok (runStateWire.encode (s.withCancel none))
  | some d => do
    let doc ← encodeDirective d
    return runStateWire.encode (s.withCancel (some doc))

/-- `msgpack.Unmarshal` into a run state; `nil` is read as the nil pointer. -/
def decodeRunState (doc : Document) : Outcome (RunStateFields Directive) := do
  let wire ← unmarshal runStateWire doc
  match wire.pendingCancel with
  | none => return wire.withCancel none
  | some .nil => return wire.withCancel none
  | some sub => do
    let d ← decodeDirective sub
    return wire.withCancel (some d)

theorem decodeRunState_encodeRunState {s : RunStateFields Directive}
    (h : ∀ d ∈ s.pendingCancel, d.Carried) : (encodeRunState s >>= decodeRunState) = .ok s := by
  obtain ⟨wfID, runID, kind, enteredAt, startedAt, lastEventSeqID, activeDirectiveID, workerID,
    pendingCancel⟩ := s
  cases pendingCancel with
  | none =>
    exact bind_eq_ok.2 ⟨_, rfl, bind_eq_ok.2 ⟨_, unmarshal_encode (valid_runStateWire _), rfl⟩⟩
  | some d =>
    obtain ⟨doc, hencode, hdecode⟩ := (h d rfl).decode_encode
    refine bind_eq_ok.2 ⟨_, bind_eq_ok.2 ⟨doc, hencode, rfl⟩,
      bind_eq_ok.2 ⟨_, unmarshal_encode (valid_runStateWire _), ?_⟩⟩
    have hnil := encodeDirective_ne_nil hencode
    cases doc with
    | nil => exact absurd rfl hnil
    | _ => exact bind_eq_ok.2 ⟨d, hdecode, rfl⟩

/-! ### Timers -/

/-- The timer kind with a given text. -/
def TimerKind.ofText (text : String) : TimerKind :=
  ([.waitTimeout, .stepTimeout].find? (fun kind : TimerKind => kind.text = text)).getD (.other text)

/-- `other` is used for the texts that no constant has. -/
def TimerKind.Canonical (kind : TimerKind) : Prop :=
  TimerKind.ofText kind.text = kind
  deriving Decidable

/-- The fields of `Timer`, with the documents of the directive and the command. -/
structure TimerWire where
  id : TimerID
  kind : TimerKind
  wfID : WFID
  createdAt : Time
  expiresAt : Time
  stepName : String
  directive : Option Document
  command : Option Document

/-- The format of `Timer`, less the encodings of the directive and the command. -/
def timerWire : Format Value TimerWire :=
  (Fields.make TimerWire.mk
    |>.field (.plain "id" .text "") TimerWire.id (by decide)
    |>.field (.plain "k" (.named TimerKind.text fun text => some (TimerKind.ofText text))
      (.other "")) TimerWire.kind (by decide)
    |>.field (.plain "wfid" .text "") TimerWire.wfID (by decide)
    |>.field (.plain "created" .time 0) TimerWire.createdAt (by decide)
    |>.field (.plain "expires" .time 0) TimerWire.expiresAt (by decide)
    |>.field (.omitEmpty "step" .text "") TimerWire.stepName (by decide)
    |>.field (.raw "d") TimerWire.directive (by decide)
    |>.field (.raw "c") TimerWire.command (by decide)).record fun _ => rfl

theorem valid_timerWire {wire : TimerWire} (h : wire.kind.Canonical) : timerWire.Valid wire := by
  have hkind : some (TimerKind.ofText wire.kind.text) = some wire.kind := congrArg some h
  exact Fields.valid_record (by simp [hkind])

/-- `msgpack.Marshal` of a timer. -/
def encodeTimer (t : Timer) : Outcome Document := do
  let directive ← encodeDirective t.directive
  let command ← encodeCommand t.command
  return timerWire.encode {
    id := t.id
    kind := t.kind
    wfID := t.wfID
    createdAt := t.createdAt
    expiresAt := t.expiresAt
    stepName := t.stepName
    directive := some directive
    command := some command }

/-- The value of a field that was read with `decode`, if it was there at all. -/
def decodeField {α : Type} (zero : α) (decode : Document → Outcome α) :
    Option Document → Outcome α
  | none => .ok zero
  | some doc => decode doc

/-- `msgpack.Unmarshal` into a timer. -/
def decodeTimer (doc : Document) : Outcome Timer := do
  let wire ← unmarshal timerWire doc
  let directive ← decodeField .zero decodeDirective wire.directive
  let command ← decodeField .zero decodeCommand wire.command
  return {
    id := wire.id
    kind := wire.kind
    wfID := wire.wfID
    createdAt := wire.createdAt
    expiresAt := wire.expiresAt
    stepName := wire.stepName
    directive := directive
    command := command }

/-- A timer that decodes to the same value after encoding. -/
structure Timer.Sendable (t : Timer) : Prop where
  kind : t.kind.Canonical
  directive : t.directive.Carried
  command : t.command.Carried

theorem decodeTimer_encodeTimer {t : Timer} (h : t.Sendable) :
    (encodeTimer t >>= decodeTimer) = .ok t := by
  obtain ⟨directive, hencd, hdecd⟩ := h.directive.decode_encode
  obtain ⟨command, hencc, hdecc⟩ := h.command.decode_encode
  refine bind_eq_ok.2 ⟨_, bind_eq_ok.2 ⟨directive, hencd, bind_eq_ok.2 ⟨command, hencc, rfl⟩⟩, ?_⟩
  exact bind_eq_ok.2 ⟨_, unmarshal_encode (valid_timerWire h.kind),
    bind_eq_ok.2 ⟨t.directive, hdecd, bind_eq_ok.2 ⟨t.command, hdecc, rfl⟩⟩⟩

end Grctl
