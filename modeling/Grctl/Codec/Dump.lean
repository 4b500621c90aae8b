import Grctl.Codec.Accepted
import Grctl.Natsreg.Family
import Grctl.Store.JSStateStore

/-!
# The dump of the state stream

The command that dumps the stream (`grctl/commands/debug_dump.go`) has nothing but the subject of a
message to tell which type its data was encoded from: it looks at the beginning of the subject for
some families and at its end for the others. The writer is `recordToNats`, whose data is encoded
here by `encodeData`.

Subjects of the same family are told apart from the others by their first token, which comes from
the manifest. The end of a subject is looked at for the families under `grctl_run`, but the
key-value pairs of a run come after them in the same switch, and their subjects end with the key.

How msgpack encodes a value of Go's type `any` is the parameter `any`, a format for all values.
The decoder of a background task does not look into its payload, which is kept as a document.

## Main definitions

* `BackgroundTask.fields`, `encodeData`, `Data.decoded`: what is written.
* `dumpType`, `decodeBySubject`: how it is read.
* `Data.ReadBack`: the data that decodes to itself.

## Main results

* `dumpType_render`: the type that is read under each subject.
* `decodeAs_eq_iff`: what is decoded with the type it was encoded from.
* `dump_agrees_iff`.
-/

namespace Grctl

open Wire Text

/-! ### Background tasks -/

/-- `BackgroundTask`, with the payload as the bytes it is encoded to. -/
structure BackgroundTaskFields where
  kind : String
  deduplicationID : DirectiveID
  payload : Option Document

namespace Codec

/-- A pointer to error details. -/
def errorPtr : Format Value (Option ErrorDetails) :=
  errorDetails.nullable fun _ => Fields.encode_record_ne_nil

/-- `DeleteTimerPayload`. -/
def deleteTimerPayload : Format Value (WFID × String × TimerID) :=
  (Fields.make (fun wfID kind timerID => (wfID, kind, timerID))
    |>.field (.plain "wf_id" .text "") (fun p => p.1) (by decide)
    |>.field (.plain "kind" .text "") (fun p => p.2.1) (by decide)
    |>.field (.plain "timer_id" .text "") (fun p => p.2.2) (by decide)).record fun _ => rfl

/-- `DeleteInboxEventPayload`. -/
def deleteInboxEventPayload : Format Value ℕ :=
  (Fields.make id |>.field (.plain "seq_id" .nat 0) id (by decide)).record fun _ => rfl

/-- `PurgeRunResiduePayload`. -/
def purgeRunResiduePayload : Format Value WFID :=
  (Fields.make (fun wfID : WFID => wfID)
    |>.field (.plain "wf_id" .text "") id (by decide)).record fun _ => rfl

/-- `NotifyParentCompletePayload`. -/
def notifyParentCompletePayload : Format Value NotifyParentCompletePayload :=
  (Fields.make NotifyParentCompletePayload.mk
    |>.field (.plain "parent_wf_id" .text "") NotifyParentCompletePayload.parentWFID (by decide)
    |>.field (.plain "step_name" .text "") NotifyParentCompletePayload.stepName (by decide)
    |>.field (.plain "child_wf_id" .text "") NotifyParentCompletePayload.childWFID (by decide)
    |>.field (.plain "status" runStatus (.other "")) NotifyParentCompletePayload.status (by decide)
    |>.field (.omitEmpty "result" any .nil) NotifyParentCompletePayload.result (by decide)
    |>.field (.omitEmpty "error" errorPtr none) NotifyParentCompletePayload.error
      (by decide)).record fun _ => rfl

/-- `WorkerTerminateRunPayload`. -/
def workerTerminateRunPayload : Format Value (WorkerID × RunID) :=
  (Fields.make Prod.mk
    |>.field (.plain "worker_id" .text "") Prod.fst (by decide)
    |>.field (.plain "run_id" .text "") Prod.snd (by decide)).record fun _ => rfl

/-- `BackgroundTask`. -/
def backgroundTask : Format Value BackgroundTaskFields :=
  (Fields.make BackgroundTaskFields.mk
    |>.field (.plain "kind" .text "") BackgroundTaskFields.kind (by decide)
    |>.field (.plain "deduplication_id" .text "") BackgroundTaskFields.deduplicationID (by decide)
    |>.field (.plain "payload" .bin none) BackgroundTaskFields.payload (by decide)).record
    fun _ => rfl

theorem valid_backgroundTask (task : BackgroundTaskFields) : backgroundTask.Valid task :=
  Fields.valid_record (by simp)

end Codec

/-- `msgpack.Marshal` of the payload of a task. -/
def encodeTaskPayload : TaskPayload → Document
  | .deleteTimer wfID kind timerID => Codec.deleteTimerPayload.encode (wfID, kind.text, timerID)
  | .deleteInboxEvent seqID => Codec.deleteInboxEventPayload.encode seqID
  | .purgeRunResidue wfID => Codec.purgeRunResiduePayload.encode wfID
  | .notifyParentComplete payload => Codec.notifyParentCompletePayload.encode payload
  | .workerTerminateRun workerID runID => Codec.workerTerminateRunPayload.encode (workerID, runID)
  | .raw bytes => .payload (.raw bytes)

/-- The fields of a task. -/
def BackgroundTask.fields (task : BackgroundTask) : BackgroundTaskFields where
  kind := task.kind.text
  deduplicationID := task.deduplicationID
  payload := some (encodeTaskPayload task.payload)

/-! ### The writer -/

section Writer

variable (any : Format Value Value) (worker : String)

/-- The bytes of a message: `msgpack.Marshal` of what the record holds. `worker` is the kind of the
history events of workers. -/
def encodeData : Data → Outcome Document
  | .runInfo ri => .ok (Codec.runInfo.encode ri)
  | .value v => .ok (any.encode v)
  | .error ed => .ok (Codec.errorDetails.encode ed)
  | .runState s => encodeRunState s.fields
  | .timer t => encodeTimer t
  | .history h => .ok (encodeHistory worker h)
  | .directive d => encodeDirective d
  | .bgTask bt => .ok (Codec.backgroundTask.encode bt.fields)

end Writer

/-- What the dump decodes a message to. -/
inductive Decoded
  | directive (directive : Directive)
  | history (history : HistoryEvent)
  | timer (timer : Timer)
  | runState (state : RunStateFields Directive)
  | bgTask (task : BackgroundTaskFields)
  | runInfo (info : RunInfo)
  | error (error : ErrorDetails)
  | any (value : Value)

/-- The types that the dump decodes to. -/
inductive DumpType
  | directive
  | history
  | timer
  | runState
  | bgTask
  | runInfo
  | error
  | any
  deriving DecidableEq, Repr

/-- The type of a decoded value. -/
def Decoded.type : Decoded → DumpType
  | .directive _ => .directive
  | .history _ => .history
  | .timer _ => .timer
  | .runState _ => .runState
  | .bgTask _ => .bgTask
  | .runInfo _ => .runInfo
  | .error _ => .error
  | .any _ => .any

/-- The value that was encoded, as the dump should show it. -/
def Data.decoded : Data → Decoded
  | .runInfo ri => .runInfo ri
  | .value v => .any v
  | .error ed => .error ed
  | .runState s => .runState s.fields
  | .timer t => .timer t
  | .history h => .history h
  | .directive d => .directive d
  | .bgTask bt => .bgTask bt.fields

/-! ### The reader -/

/-- `strings.HasPrefix`. -/
def beginsWith (s word : String) : Bool := word.toList.isPrefixOf s.toList

/-- `strings.HasSuffix`. -/
def endsWith (s word : String) : Bool := word.toList.isSuffixOf s.toList

/-- The cases of `decodeBySubject`, in their order. -/
def dumpType (subject : String) : DumpType :=
  if beginsWith subject "grctl_directive." || beginsWith subject "grctl_cancel." ||
      beginsWith subject "grctl_events." || beginsWith subject "grctl_worker_task." then .directive
  else if beginsWith subject "grctl_history." then .history
  else if beginsWith subject "grctl_timers." || subject = "grctl_timers_fired" then .timer
  else if beginsWith subject "grctl_state.run_state." then .runState
  else if subject = "grctl_bg_task" then .bgTask
  else if endsWith subject ".info" then .runInfo
  else if endsWith subject ".error" then .error
  -- .input, .output, grctl_wf_kv.*, and anything unknown
  else .any

section Reader

variable (any : Format Value Value)

/-- `msgpack.Unmarshal` into a value of the given type. -/
def decodeAs (data : Document) : DumpType → Outcome Decoded
  | .directive => do
    let d ← decodeDirective data
    return .directive d
  | .history => do
    let h ← decodeHistory data
    return .history h
  | .timer => do
    let t ← decodeTimer data
    return .timer t
  | .runState => do
    let s ← decodeRunState data
    return .runState s
  | .bgTask => do
    let bt ← unmarshal Codec.backgroundTask data
    return .bgTask bt
  | .runInfo => do
    let ri ← unmarshal Codec.runInfo data
    return .runInfo ri
  | .error => do
    let ed ← unmarshal Codec.errorDetails data
    return .error ed
  | .any => do
    let v ← unmarshal any data
    return .any v

/-- `decodeBySubject`. -/
def decodeBySubject (subject : String) (data : Document) : Outcome Decoded :=
  decodeAs any data (dumpType subject)

end Reader

/-! ### The types of the subjects -/

section Types

variable (it : Iteration) {s : Subject} {text word : String}

theorem beginsWith_eq_true : beginsWith text word = true ↔ word.toList <+: text.toList :=
  List.isPrefixOf_iff_prefix

theorem endsWith_eq_true : endsWith text word = true ↔ word.toList <:+ text.toList :=
  List.isSuffixOf_iff_suffix

/-- The beginning of a subject with more than one token: only its first token counts. -/
theorem beginsWith_render (hs : s ≠ .bgTask) (family : String) (hdot : '.' ∉ family.toList)
    (hword : word.toList = family.toList ++ ['.']) :
    beginsWith (s.render it) word = decide (s.head = family) := by
  obtain ⟨tail, htail⟩ := Subject.exists_tail it hs
  rw [Bool.eq_iff_iff, beginsWith_eq_true, htail, hword,
    prefix_cons_iff hdot s.dot_not_mem_head, decide_eq_true_iff, String.toList_inj]
  simp [eq_comm]

/-- A subject with more than one token is no single word. -/
theorem render_ne_word (hs : s ≠ .bgTask) (word : String) (hdot : '.' ∉ word.toList) :
    s.render it ≠ word := by
  obtain ⟨tail, htail⟩ := Subject.exists_tail it hs
  rintro rfl
  rw [htail] at hdot
  simp at hdot

theorem beginsWith_state (hs : s ≠ .bgTask) :
    beginsWith (s.render it) "grctl_state.run_state." = decide (s.head = "grctl_state") := by
  rw [Bool.eq_iff_iff, beginsWith_eq_true, decide_eq_true_iff]
  constructor
  · intro h
    have hstate : beginsWith (s.render it) "grctl_state." = true :=
      beginsWith_eq_true.2 (List.IsPrefix.trans ⟨"run_state.".toList, rfl⟩ h)
    rw [beginsWith_render it hs "grctl_state" (by decide) rfl] at hstate
    exact of_decide_eq_true hstate
  · intro h
    cases s with
    | runState wfID runID =>
      obtain ⟨tail, htail⟩ := Subject.exists_tail_runState it wfID runID
      exact ⟨tail, by rw [htail]; simp⟩
    | _ => simp [Subject.head] at h

/-- The end of a subject: only its last token counts. -/
theorem endsWith_eq {init last token : List Char} (htext : text.toList = init ++ '.' :: last)
    (hlast : '.' ∉ last) (htoken : '.' ∉ token) (hword : word.toList = '.' :: token) :
    endsWith text word = decide (last = token) := by
  rw [Bool.eq_iff_iff, endsWith_eq_true, htext, hword, suffix_cons_iff htoken hlast,
    decide_eq_true_iff, eq_comm]

/-- The type that is read off the last token. -/
def lastTokenType (last : List Char) : DumpType :=
  if last = "info".toList then .runInfo else if last = "error".toList then .error else .any

theorem lastTokenType_eq {init last : List Char} (htext : text.toList = init ++ '.' :: last)
    (hlast : '.' ∉ last) :
    (if endsWith text ".info" then DumpType.runInfo
      else if endsWith text ".error" then .error else .any) = lastTokenType last := by
  rw [endsWith_eq htext hlast (by decide : '.' ∉ "info".toList) rfl,
    endsWith_eq htext hlast (by decide : '.' ∉ "error".toList) rfl, lastTokenType]
  simp only [decide_eq_true_eq]

/-- The type that a subject is meant for. -/
def Subject.dumpType : Subject → DumpType
  | .directive .. | .inbox _ | .workerTask .. => .directive
  | .history .. => .history
  | .timer .. => .timer
  | .runState .. => .runState
  | .bgTask => .bgTask
  | .runInfo .. => .runInfo
  | .runError .. => .error
  | .runInput .. | .runOutput .. | .kv .. => .any

/-- What the first token does not decide is decided at the end. -/
theorem dumpType_eq (hs : s ≠ .bgTask) :
    Grctl.dumpType (s.render it) =
      if s.head = "grctl_run" ∨ s.head = "grctl_wf_kv" then
        if endsWith (s.render it) ".info" then .runInfo
        else if endsWith (s.render it) ".error" then .error else .any
      else s.dumpType := by
  rw [Grctl.dumpType, beginsWith_render it hs "grctl_directive" (by decide) rfl,
    beginsWith_render it hs "grctl_cancel" (by decide) rfl,
    beginsWith_render it hs "grctl_events" (by decide) rfl,
    beginsWith_render it hs "grctl_worker_task" (by decide) rfl,
    beginsWith_render it hs "grctl_history" (by decide) rfl,
    beginsWith_render it hs "grctl_timers" (by decide) rfl, beginsWith_state it hs,
    decide_eq_false (render_ne_word it hs "grctl_timers_fired" (by decide)),
    if_neg (render_ne_word it hs "grctl_bg_task" (by decide))]
  cases s <;> simp [Subject.head, Subject.dumpType] at hs ⊢

/-- A subject is read as the type it is meant for, unless it is that of a key-value pair whose last
token is `info` or `error`. -/
theorem dumpType_render (htokens : ∀ wfID runID key, s = .kv wfID runID key →
      IsToken wfID ∧ IsToken runID ∧ IsToken key) :
    Grctl.dumpType (s.render it) = s.dumpType ↔
      ∀ wfID runID key, s = .kv wfID runID key →
        kvToken it wfID runID key ≠ "info" ∧ kvToken it wfID runID key ≠ "error" := by
  by_cases hs : s = .bgTask
  · subst hs
    rw [render_bgTask]
    simp [show Grctl.dumpType "grctl_bg_task" = .bgTask by decide, Subject.dumpType]
  rw [dumpType_eq it hs]
  cases s with
  | runInfo wfType wfID runID =>
    obtain ⟨init, hinit⟩ := Subject.exists_init_runInfo it wfType wfID runID
    rw [lastTokenType_eq hinit (by decide)]
    simp [Subject.head, Subject.dumpType, lastTokenType]
  | runError wfID runID =>
    obtain ⟨init, hinit⟩ := Subject.exists_init_runError it wfID runID
    rw [lastTokenType_eq hinit (by decide)]
    simp [Subject.head, Subject.dumpType, lastTokenType]
  | runInput wfID runID =>
    obtain ⟨init, hinit⟩ := Subject.exists_init_runInput it wfID runID
    rw [lastTokenType_eq hinit (by decide)]
    simp [Subject.head, Subject.dumpType, lastTokenType]
  | runOutput wfID runID =>
    obtain ⟨init, hinit⟩ := Subject.exists_init_runOutput it wfID runID
    rw [lastTokenType_eq hinit (by decide)]
    simp [Subject.head, Subject.dumpType, lastTokenType]
  | kv wfID runID key =>
    obtain ⟨init, hinit⟩ := exists_init_kv it wfID runID key
    obtain ⟨hwf, hrun, hkey⟩ := htokens wfID runID key rfl
    rw [lastTokenType_eq hinit (dot_not_mem_kvToken it hwf hrun hkey)]
    simp only [Subject.head, Subject.dumpType, lastTokenType, String.toList_inj]
    split_ifs <;> simp_all
  | _ => simp [Subject.head]

end Types

/-! ### The reader against the writer -/

/-- The data that decodes to itself as its own type: directives, commands and history events with a
message of their kind, a directive or command that is not empty having an identifier. -/
def Data.ReadBack (worker : String) : Data → Prop
  | .runInfo ri => ri.status.Canonical
  | .value _ | .error _ | .bgTask _ => True
  | .runState s => ∀ d ∈ s.pendingCancel, d.Carried
  | .timer t => t.Sendable
  | .history h => h.msg.agrees h.kind = true ∧
      (h.kind = .recorded → historyMessageFactories.lookup worker = some .recorded)
  | .directive d => d.Carried

section Agreement

variable {any : Format Value Value} {worker : String} {data : Data} {doc : Document}

theorem type_of_decodeAs {type : DumpType} {x : Decoded} (h : decodeAs any doc type = .ok x) :
    x.type = type := by
  cases type with
  | _ =>
    obtain ⟨_, -, h⟩ := bind_eq_ok.1 h
    cases h
    rfl

/-- A decoded value is tagged with its type, which loses nothing. -/
theorem tagged_eq_ok {α : Type} {x : Outcome α} {tag : α → Decoded}
    (htag : Function.Injective tag) {a : α} :
    (do let b ← x; return tag b) = .ok (tag a) ↔ x = .ok a := by
  simp only [bind_eq_ok, pure_eq_ok]
  constructor
  · rintro ⟨b, hx, hb⟩
    rwa [← htag hb]
  · intro hx
    exact ⟨a, hx, rfl⟩

/-- What is decoded as the type it was encoded from. -/
theorem decodeAs_eq_iff (hany : ∀ v, any.Valid v) (h : encodeData any worker data = .ok doc) :
    decodeAs any doc data.decoded.type = .ok data.decoded ↔ data.ReadBack worker := by
  cases data with
  | runInfo ri =>
    cases h
    refine (tagged_eq_ok fun _ _ => Decoded.runInfo.inj).trans ?_
    rw [unmarshal_eq_ok, decode_encode_runInfo, Option.some_inj, RunInfo.canonical_eq_self,
      Data.ReadBack]
  | value v =>
    cases h
    exact (tagged_eq_ok fun _ _ => Decoded.any.inj).trans
      (iff_true_intro (unmarshal_encode (hany v)))
  | error ed =>
    cases h
    exact (tagged_eq_ok fun _ _ => Decoded.error.inj).trans
      (iff_true_intro (unmarshal_encode (Codec.valid_errorDetails ed)))
  | bgTask bt =>
    cases h
    exact (tagged_eq_ok fun _ _ => Decoded.bgTask.inj).trans
      (iff_true_intro (unmarshal_encode (Codec.valid_backgroundTask bt.fields)))
  | runState s =>
    exact (tagged_eq_ok fun _ _ => Decoded.runState.inj).trans (decodeRunState_eq_iff h)
  | timer t => exact (tagged_eq_ok fun _ _ => Decoded.timer.inj).trans (decodeTimer_eq_iff h)
  | history e =>
    cases h
    exact (tagged_eq_ok fun _ _ => Decoded.history.inj).trans decodeHistory_eq_iff
  | directive d =>
    exact (tagged_eq_ok fun _ _ => Decoded.directive.inj).trans (decodeDirective_eq_iff h)

end Agreement

/-- The writer puts data under the subjects of its type. -/
theorem Record.dumpType_of_mem {r : Record} {m : Msg} (hm : m ∈ r.messages) :
    m.subject.dumpType = m.data.decoded.type := by
  cases r with
  | kv wfID runID kvMap =>
    obtain ⟨u, -, rfl⟩ := List.mem_map.1 hm
    rfl
  | _ =>
    obtain rfl := List.mem_singleton.1 hm
    rfl

/-- A message is decoded to what was encoded if and only if that decodes to itself and the message
is not that of a key-value pair whose last token is `info` or `error`. -/
theorem dump_agrees_iff (any : Format Value Value) (hany : ∀ v, any.Valid v) (worker : String)
    (it : Iteration) {r : Record} {msgs : List Msg} (h : recordToNats r = .ok msgs) {m : Msg}
    (hm : m ∈ msgs) (htokens : ∀ wfID runID key, m.subject = .kv wfID runID key →
      IsToken wfID ∧ IsToken runID ∧ IsToken key) {data : Document}
    (hdata : encodeData any worker m.data = .ok data) :
    decodeBySubject any (m.subject.render it) data = .ok m.data.decoded ↔
      (∀ wfID runID key, m.subject = .kv wfID runID key →
        kvToken it wfID runID key ≠ "info" ∧ kvToken it wfID runID key ≠ "error") ∧
      m.data.ReadBack worker := by
  obtain ⟨rfl, -⟩ := recordToNats_eq_ok h
  have htype := Record.dumpType_of_mem hm
  rw [← dumpType_render it htokens, ← decodeAs_eq_iff hany hdata, htype, decodeBySubject]
  constructor
  · intro hdecode
    have hdump := type_of_decodeAs hdecode
    exact ⟨hdump.symm, hdump ▸ hdecode⟩
  · rintro ⟨hdump, hdecode⟩
    rwa [hdump]

/-- A key-value pair of a run. -/
def pair (key : String) : Msg where
  subject := .kv "wf1" "r1" key
  data := .value (.raw "total")

theorem dump_agrees_pair :
    decodeBySubject Codec.any ((pair "sum").subject.render .written) (.payload (.raw "total")) =
      .ok (.any (.raw "total")) := by
  have hrecord : recordToNats (.kv "wf1" "r1" [("sum", .raw "total")]) = .ok [pair "sum"] := rfl
  have htokens : ∀ wfID runID key, (pair "sum").subject = .kv wfID runID key →
      IsToken wfID ∧ IsToken runID ∧ IsToken key := by
    rintro _ _ _ ⟨⟩
    decide
  refine (dump_agrees_iff Codec.any Codec.valid_any "" .written hrecord List.mem_cons_self htokens
    rfl).2 ⟨?_, trivial⟩
  rintro _ _ _ ⟨⟩
  rw [kvToken_eq .written (by decide)]
  decide

/-- An event without an identifier. -/
def unnamedEvent : Directive :=
  { Directive.zero with kind := .event, runInfo := { RunInfo.zero with wfID := "wf1" } }

/-- A pair with the key `info` is read as the description of a run, which it is not, and one with
the key `error` as error details; a directive without an identifier is read as an empty one. -/
theorem pair_info_not_generic :
    (recordToNats (.kv "wf1" "r1" [("info", .raw "total"), ("error", .raw "total")]) =
        .ok [pair "info", pair "error"] ∧
      encodeData Codec.any "" (pair "info").data = .ok (.payload (.raw "total")) ∧
      (pair "info").subject.render .written = "grctl_wf_kv.wf1.r1.info" ∧
      dumpType "grctl_wf_kv.wf1.r1.info" = .runInfo ∧
      (pair "error").subject.render .written = "grctl_wf_kv.wf1.r1.error" ∧
      dumpType "grctl_wf_kv.wf1.r1.error" = .error ∧
      decodeBySubject Codec.any ((pair "info").subject.render .written) (.payload (.raw "total")) =
        fail "msgpack: cannot decode") ∧
    ∃ m data, recordToNats (.inbox unnamedEvent) = .ok [m] ∧
      encodeData Codec.any "" m.data = .ok data ∧
      decodeBySubject Codec.any (m.subject.render .written) data = .ok (.directive .zero) ∧
      m.data.decoded = .directive unnamedEvent ∧ unnamedEvent ≠ .zero := by
  obtain ⟨hinfo, htype, herror, htype', hinbox⟩ :
      (pair "info").subject.render .written = "grctl_wf_kv.wf1.r1.info" ∧
      dumpType "grctl_wf_kv.wf1.r1.info" = .runInfo ∧
      (pair "error").subject.render .written = "grctl_wf_kv.wf1.r1.error" ∧
      dumpType "grctl_wf_kv.wf1.r1.error" = .error ∧
      dumpType ((Subject.inbox "wf1").render .written) = .directive := by
    decide +kernel
  have hid : unnamedEvent.id = "" := rfl
  obtain ⟨data, hencode, hdecode⟩ := bind_eq_ok.1 (decodeDirective_encodeDirective_zero hid)
  refine ⟨⟨rfl, rfl, hinfo, htype, herror, htype', ?_⟩, _, data, rfl, hencode, ?_, rfl,
    by decide⟩
  · rw [hinfo, decodeBySubject, htype]
    rfl
  · have hread : decodeAs Codec.any data .directive = .ok (.directive .zero) :=
      bind_eq_ok.2 ⟨.zero, hdecode, rfl⟩
    rw [← hinbox] at hread
    exact hread

end Grctl
