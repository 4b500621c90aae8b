import Grctl.Log.SubjectLog
import Grctl.Text.Tokens
import Grctl.Types.Record

/-!
# Subjects, payloads and the record encoder

Everything the server keeps lives in one stream. `Subject` has a constructor for each subject
builder of `natsreg/manifest.go`; identifiers are single subject tokens, so that different
constructors or arguments give different subjects. `Data` is the decoded payload of a message:
what is stored under a subject is kept as the value that decoding it yields.

Identifiers and keys come from clients and workers, which may send any text. NATS has no subjects
with empty tokens or with whitespace, and the stream lists some families of subjects with `*`, which
stands for one token. `Subject.Taken` says in terms of the arguments which subjects the stream takes
messages for; `Subject.inStream_iff` compares it with the texts of the subjects and the patterns of
`EnsureStateStream`.

`recordToNats` is the encoder of `jsstore/record2nats.go`. It sets two kinds of headers: an
expected last sequence, on a run description or a run state whose expected sequence is not `0`,
and a message identifier, on directives and background tasks only.

## Main definitions

* `Subject`, `PurgePattern`, `Data`, `Msg`, `Stream`.
* `SubjectText`, `SubjectToken`, `Subject.Taken`, `RunInfo.Taken`, `Record.Taken`.
* `Record.messages`, `recordToNats`.
-/

namespace Grctl

open SubjectLog

/-- The subjects of the state stream. -/
inductive Subject
  | directive (wfType : WFType) (wfID : WFID) (runID : RunID)
  | history (wfID : WFID) (runID : RunID)
  | timer (wfID : WFID) (kind : TimerKind) (timerID : TimerID)
  | runInfo (wfType : WFType) (wfID : WFID) (runID : RunID)
  | runInput (wfID : WFID) (runID : RunID)
  | runOutput (wfID : WFID) (runID : RunID)
  | runError (wfID : WFID) (runID : RunID)
  | kv (wfID : WFID) (runID : RunID) (key : String)
  | inbox (wfID : WFID)
  | runState (wfID : WFID) (runID : RunID)
  | workerTask (wfType : WFType) (wfID : WFID) (runID : RunID)
  | bgTask
  deriving DecidableEq, Repr

/-- The wildcard patterns that are purged; all of them name a workflow identifier and no run. -/
inductive PurgePattern
  | directives (wfID : WFID)
  | timers (wfID : WFID)
  | inbox (wfID : WFID)
  | workerTasks (wfID : WFID)
  deriving DecidableEq, Repr

/-- Whether a subject matches a purge pattern. -/
def PurgePattern.covers : PurgePattern → Subject → Bool
  | .directives wfID, .directive _ wfID' _ => wfID == wfID'
  | .timers wfID, .timer wfID' _ _ => wfID == wfID'
  | .inbox wfID, .inbox wfID' => wfID == wfID'
  | .workerTasks wfID, .workerTask _ wfID' _ => wfID == wfID'
  | _, _ => false

/-! ### Subjects that the stream takes -/

/-- A text that can be part of a subject: no token is empty, and there is no whitespace. -/
def SubjectText (s : String) : Prop :=
  Text.WellFormed Char.isWhitespace '.' s.toList
  deriving Decidable

theorem SubjectText.ne_empty {s : String} (h : SubjectText s) : s ≠ "" := by
  rintro rfl
  exact absurd h (by decide)

/-- A text without dots. -/
def DotFree (s : String) : Prop :=
  '.' ∉ s.toList
  deriving Decidable

/-- One token of a subject. -/
def SubjectToken (s : String) : Prop :=
  SubjectText s ∧ DotFree s
  deriving Decidable

/-- The stream takes messages with this subject. It lists most families with `>`; the descriptions,
inputs, outputs and errors of runs and the key-value pairs are listed with `*` for each argument. -/
def Subject.Taken : Subject → Prop
  | .directive wfType wfID runID | .workerTask wfType wfID runID =>
    SubjectText wfType ∧ SubjectText wfID ∧ SubjectText runID
  | .history wfID runID | .runState wfID runID => SubjectText wfID ∧ SubjectText runID
  | .timer wfID kind timerID => SubjectText wfID ∧ SubjectText kind.text ∧ SubjectText timerID
  | .runInfo wfType wfID runID => SubjectToken wfType ∧ SubjectToken wfID ∧ SubjectToken runID
  | .runInput wfID runID | .runOutput wfID runID | .runError wfID runID =>
    SubjectToken wfID ∧ SubjectToken runID
  | .kv wfID runID key => SubjectToken wfID ∧ SubjectToken runID ∧ SubjectToken key
  | .inbox wfID => SubjectText wfID
  | .bgTask => True

instance : (s : Subject) → Decidable s.Taken
  | .directive .. | .workerTask .. => inferInstanceAs (Decidable (_ ∧ _ ∧ _))
  | .history .. | .runState .. => inferInstanceAs (Decidable (_ ∧ _))
  | .timer .. => inferInstanceAs (Decidable (_ ∧ _ ∧ _))
  | .runInfo .. | .kv .. => inferInstanceAs (Decidable (_ ∧ _ ∧ _))
  | .runInput .. | .runOutput .. | .runError .. => inferInstanceAs (Decidable (_ ∧ _))
  | .inbox wfID => inferInstanceAs (Decidable (SubjectText wfID))
  | .bgTask => inferInstanceAs (Decidable True)

/-- The stream takes the description of the run. -/
def RunInfo.Taken (ri : RunInfo) : Prop :=
  (Subject.runInfo ri.wfType ri.wfID ri.id).Taken
  deriving Decidable

/-- The stream takes the directives of a run whose description it takes. -/
theorem RunInfo.Taken.texts {ri : RunInfo} (h : ri.Taken) :
    SubjectText ri.wfType ∧ SubjectText ri.wfID ∧ SubjectText ri.id :=
  ⟨h.1.1, h.2.1.1, h.2.2.1⟩

/-- The decoded payload of a stored message. The sequence of a run state is not part of it. -/
inductive Data
  | runInfo (info : RunInfo)
  | value (value : Value)
  | error (error : ErrorDetails)
  | runState (state : RunState)
  | timer (timer : Timer)
  | history (history : HistoryEvent)
  | directive (directive : Directive)
  | bgTask (task : BackgroundTask)
  deriving DecidableEq, Repr

/-- A message of the state stream; identifiers for deduplication are directive identifiers. -/
abbrev Msg := Message Subject DirectiveID Data

/-- A stored message of the state stream. -/
abbrev StreamEntry := Entry Subject DirectiveID Data

/-- The state stream. -/
abbrev Stream := Log Subject DirectiveID Data

/-- `Nats-Expected-Last-Subject-Sequence` is set for positive values only. -/
def expectedLastHeader (expectedSeq : ℕ) : Option ℕ :=
  if expectedSeq > 0 then some expectedSeq else none

/-- `DirectiveSubject`, with the run that a directive names. -/
def Directive.subject (d : Directive) : Subject :=
  .directive d.runInfo.wfType d.runInfo.wfID d.runInfo.id

/-- A published directive. -/
def Directive.message (d : Directive) : Msg where
  subject := d.subject
  data := .directive d
  msgId := some d.id

/-- The messages a record is stored as. -/
def Record.messages : Record → List Msg
  | .runInfo info expectedSeq =>
    [{ subject := .runInfo info.wfType info.wfID info.id
       data := .runInfo info
       expectedLast := expectedLastHeader expectedSeq }]
  | .runInput wfID runID input => [{ subject := .runInput wfID runID, data := .value input }]
  | .runOutput wfID runID result => [{ subject := .runOutput wfID runID, data := .value result }]
  | .runError wfID runID error => [{ subject := .runError wfID runID, data := .error error }]
  | .runState state expectedSeq =>
    [{ subject := .runState state.wfID state.runID
       data := .runState { state with seqID := 0 }
       expectedLast := expectedLastHeader expectedSeq }]
  | .timer t => [{ subject := .timer t.wfID t.kind t.id, data := .timer t }]
  | .history h => [{ subject := .history h.wfID h.runID, data := .history h }]
  | .inbox d => [{ subject := .inbox d.runInfo.wfID, data := .directive d }]
  | .kv wfID runID kvMap =>
    kvMap.map fun u => { subject := .kv wfID runID u.1, data := .value u.2 }
  | .workerTask d =>
    [{ subject := .workerTask d.runInfo.wfType d.runInfo.wfID d.runInfo.id
       data := .directive d }]
  | .directive d => [d.message]
  | .backgroundTask task =>
    [{ subject := .bgTask, data := .bgTask task, msgId := some task.deduplicationID }]

/-- The stream takes all messages of a record. -/
def Record.Taken (r : Record) : Prop :=
  ∀ m ∈ r.messages, m.subject.Taken
  deriving Decidable

/-- `recordToNats`: a run state without identifiers is refused. -/
def recordToNats (r : Record) : Outcome (List Msg) :=
  match r with
  | .runState state _ =>
    if state.wfID = "" ∨ state.runID = "" then fail "run state WFID and RunID are required"
    else .ok r.messages
  | _ => .ok r.messages

/-! ### What a stored message comes from -/

section Messages

variable {r : Record} {m : Msg}

theorem Record.eq_of_mem_messages_runState {wf : WFID} {run : RunID} (hm : m ∈ r.messages)
    (hs : m.subject = .runState wf run) :
    ∃ s n, r = .runState s n ∧ s.wfID = wf ∧ s.runID = run ∧
      m.data = .runState { s with seqID := 0 } := by
  cases r <;> grind [messages, Directive.message, Directive.subject]

theorem Record.eq_of_mem_messages_data_runState {s : RunState} (hm : m ∈ r.messages)
    (hs : m.data = .runState s) : ∃ s₀ n, r = .runState s₀ n ∧ { s₀ with seqID := 0 } = s := by
  cases r <;> grind [messages, Directive.message, Directive.subject]

theorem Record.eq_of_mem_messages_inbox {wf : WFID} (hm : m ∈ r.messages)
    (hs : m.subject = .inbox wf) :
    ∃ d, r = .inbox d ∧ d.runInfo.wfID = wf ∧ m.data = .directive d := by
  cases r <;> grind [messages, Directive.message, Directive.subject]

theorem Record.eq_of_mem_messages_directive {ty : WFType} {wf : WFID} {run : RunID}
    (hm : m ∈ r.messages) (hs : m.subject = .directive ty wf run) :
    ∃ d, r = .directive d ∧ m = d.message := by
  cases r <;> grind [messages, Directive.message, Directive.subject]

theorem Record.eq_of_mem_messages_history {wf : WFID} {run : RunID} (hm : m ∈ r.messages)
    (hs : m.subject = .history wf run) : ∃ h, r = .history h ∧ h.wfID = wf ∧ h.runID = run := by
  cases r <;> grind [messages, Directive.message, Directive.subject]

end Messages

end Grctl
