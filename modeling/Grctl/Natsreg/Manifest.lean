import Grctl.Store.Subject
import Grctl.Text.Order
import Grctl.Text.Wildcard

/-!
# The manifest of subjects

`natsreg/manifest.go` builds the subjects of the state stream from the patterns of
`nats_manifest.yaml`: `substituteParams` replaces the placeholders of a pattern by the arguments of
the builder. The arguments stand in a map, and the order in which a map is traversed is not
determined: `Iteration` is any such order, and every builder takes the one it meets.

The rest of the development works with `Subject`, where subjects are terms. `Subject.render` is the
text of a subject, and `SubjectCall.tokens` its dot-separated tokens. For arguments without braces
the text has these tokens in every order of the map (`SubjectCall.tokens_render`); for arguments
that are single tokens they determine the builder and its arguments, and matching against the text
of a purge pattern is `PurgePattern.covers` (`subjects_separate`).

## Main definitions

* `Iteration`, `substituteParams`, `Manifest.subjects`, `Manifest.subjectPattern` and the builders.
* `Subject.render`, `PurgePattern.render`, `SubjectCall`, `SubjectCall.WellFormed`.

## Main results

* `SubjectCall.tokens_render`, `SubjectCall.tokens_injective`, `PurgePattern.matchTokens_tokens`.
* `subjects_separate`: subjects separate runs and record families.
-/

namespace Grctl

open Text

/-- An order in which maps of parameters are traversed. -/
structure Iteration where
  order : List (String × String) → List (String × String)
  perm : ∀ params, (order params).Perm params

/-- The order in which the parameters are written. -/
def Iteration.written : Iteration where
  order params := params
  perm _ := .rfl

/-- The opposite order. -/
def Iteration.reversed : Iteration where
  order := List.reverse
  perm _ := List.reverse_perm _

/-- The parameters of a call as lists of characters. -/
def charParams (params : List (String × String)) : List (List Char × List Char) :=
  params.map fun param => (param.1.toList, param.2.toList)

@[simp]
theorem charParams_nil : charParams [] = [] :=
  rfl

@[simp]
theorem charParams_cons (key value : String) (params : List (String × String)) :
    charParams ((key, value) :: params) = (key.toList, value.toList) :: charParams params :=
  rfl

/-- `substituteParams`. -/
def substituteParams (it : Iteration) (pattern : String) (params : List (String × String)) :
    String :=
  String.ofList (substitute '{' '}' (charParams (it.order params)) pattern.toList)

namespace Manifest

/-- The subject patterns of `nats_manifest.yaml`. -/
def subjects : List (String × List (String × String)) :=
  [("directive",
    [("publish", "grctl_directive.\x7bwf_type\x7d.\x7bwf_id\x7d.\x7brun_id\x7d"),
     ("listen", "grctl_directive.>"),
     ("purge", "grctl_directive.*.\x7bwf_id\x7d.>")]),
   ("history",
    [("publish", "grctl_history.\x7bwf_id\x7d.\x7brun_id\x7d"),
     ("listen", "grctl_history.>")]),
   ("timer",
    [("publish", "grctl_timers.\x7bwf_id\x7d.\x7bkind\x7d.\x7btimer_id\x7d"),
     ("listen", "grctl_timers.>"),
     ("purge", "grctl_timers.\x7bwf_id\x7d.>")]),
   ("timer_fired",
    [("publish", "grctl_timers_fired"),
     ("listen", "grctl_timers_fired")]),
   ("run_store",
    [("info", "grctl_run.\x7bwf_type\x7d.\x7bwf_id\x7d.\x7brun_id\x7d.info"),
     ("input", "grctl_run.\x7bwf_id\x7d.\x7brun_id\x7d.input"),
     ("output", "grctl_run.\x7bwf_id\x7d.\x7brun_id\x7d.output"),
     ("error", "grctl_run.\x7bwf_id\x7d.\x7brun_id\x7d.error")]),
   ("kv_store",
    [("kv", "grctl_wf_kv.\x7bwf_id\x7d.\x7brun_id\x7d.\x7bkey\x7d")]),
   ("cancel",
    [("publish", "grctl_cancel.\x7bwf_id\x7d"),
     ("listen", "grctl_cancel.>"),
     ("purge", "grctl_cancel.\x7bwf_id\x7d")]),
   ("events",
    [("publish", "grctl_events.\x7bwf_id\x7d"),
     ("listen", "grctl_events.>"),
     ("purge", "grctl_events.\x7bwf_id\x7d")]),
   ("run_state",
    [("publish", "grctl_state.run_state.\x7bwf_id\x7d.\x7brun_id\x7d"),
     ("listen", "grctl_state.run_state.>")]),
   ("worker_task",
    [("publish", "grctl_worker_task.\x7bwf_type\x7d.\x7bwf_id\x7d.\x7brun_id\x7d"),
     ("listen", "grctl_worker_task.>"),
     ("queue_group", "grctl_worker_\x7bwf_type\x7d"),
     ("purge", "grctl_worker_task.*.\x7bwf_id\x7d.>")]),
   ("bg_task",
    [("publish", "grctl_bg_task"),
     ("listen", "grctl_bg_task")]),
   ("workflow_type_registry",
    [("publish", "grctl_registry.\x7bwf_type\x7d"),
     ("listen", "grctl_registry.>")]),
   ("api",
    [("publish", "grctl_api.workflow.\x7bwf_id\x7d"),
     ("listen", "grctl_api.>"),
     ("worker", "grctl_api.worker")]),
   ("worker_cmd",
    [("publish", "grctl_worker_cmd.\x7bworker_id\x7d"),
     ("listen", "grctl_worker_cmd.\x7bworker_id\x7d")])]

/-- `subjectPattern`: a key that the manifest does not have gives the empty text. -/
def subjectPattern (subjectKey patternKey : String) : String :=
  match subjects.lookup subjectKey with
  | none => ""
  | some patterns => (patterns.lookup patternKey).getD ""

section Builders

variable (it : Iteration)

/-- `DirectiveSubject`. -/
def directiveSubject (wfType : WFType) (wfID : WFID) (runID : RunID) : String :=
  substituteParams it (subjectPattern "directive" "publish")
    [("wf_type", wfType), ("wf_id", wfID), ("run_id", runID)]

/-- `HistorySubject`. -/
def historySubject (wfID : WFID) (runID : RunID) : String :=
  substituteParams it (subjectPattern "history" "publish") [("wf_id", wfID), ("run_id", runID)]

/-- `TimerSubject`. -/
def timerSubject (wfID : WFID) (kind : TimerKind) (timerID : TimerID) : String :=
  substituteParams it (subjectPattern "timer" "publish")
    [("wf_id", wfID), ("kind", kind.text), ("timer_id", timerID)]

/-- `RunInfoKey`. -/
def runInfoKey (wfType : WFType) (wfID : WFID) (runID : RunID) : String :=
  substituteParams it (subjectPattern "run_store" "info")
    [("wf_type", wfType), ("wf_id", wfID), ("run_id", runID)]

/-- `RunInputKey`. -/
def runInputKey (wfID : WFID) (runID : RunID) : String :=
  substituteParams it (subjectPattern "run_store" "input") [("wf_id", wfID), ("run_id", runID)]

/-- `RunOutputKey`. -/
def runOutputKey (wfID : WFID) (runID : RunID) : String :=
  substituteParams it (subjectPattern "run_store" "output") [("wf_id", wfID), ("run_id", runID)]

/-- `RunErrorKey`. -/
def runErrorKey (wfID : WFID) (runID : RunID) : String :=
  substituteParams it (subjectPattern "run_store" "error") [("wf_id", wfID), ("run_id", runID)]

/-- `WfKVKey`. -/
def wfKVKey (wfID : WFID) (runID : RunID) (key : String) : String :=
  substituteParams it (subjectPattern "kv_store" "kv")
    [("wf_id", wfID), ("run_id", runID), ("key", key)]

/-- `EventInboxSubject`. -/
def eventInboxSubject (wfID : WFID) : String :=
  substituteParams it (subjectPattern "events" "publish") [("wf_id", wfID)]

/-- `RunStateSubject`. -/
def runStateSubject (wfID : WFID) (runID : RunID) : String :=
  substituteParams it (subjectPattern "run_state" "publish") [("wf_id", wfID), ("run_id", runID)]

/-- `WorkerTaskSubject`. -/
def workerTaskSubject (wfType : WFType) (wfID : WFID) (runID : RunID) : String :=
  substituteParams it (subjectPattern "worker_task" "publish")
    [("wf_type", wfType), ("wf_id", wfID), ("run_id", runID)]

/-- `BgTaskSubject`. -/
def bgTaskSubject : String :=
  subjectPattern "bg_task" "publish"

/-- `WorkflowTypeRegistrySubject`. -/
def workflowTypeRegistrySubject (wfType : WFType) : String :=
  substituteParams it (subjectPattern "workflow_type_registry" "publish") [("wf_type", wfType)]

/-- `ListRunInfoByWFIDPattern`. -/
def listRunInfoByWFIDPattern (wfType : WFType) (wfID : WFID) : String :=
  substituteParams it (subjectPattern "run_store" "info")
    [("wf_type", wfType), ("wf_id", wfID), ("run_id", "*")]

/-- `ListRunInfoByRunIDPattern`. -/
def listRunInfoByRunIDPattern (runID : RunID) : String :=
  substituteParams it (subjectPattern "run_store" "info")
    [("wf_type", "*"), ("wf_id", "*"), ("run_id", runID)]

/-- `DirectivePurgePattern`. -/
def directivePurgePattern (wfID : WFID) : String :=
  substituteParams it (subjectPattern "directive" "purge") [("wf_id", wfID)]

/-- `TimerPurgePattern`. -/
def timerPurgePattern (wfID : WFID) : String :=
  substituteParams it (subjectPattern "timer" "purge") [("wf_id", wfID)]

/-- `EventInboxPurgePattern`. -/
def eventInboxPurgePattern (wfID : WFID) : String :=
  substituteParams it (subjectPattern "events" "purge") [("wf_id", wfID)]

/-- `WorkerTaskPurgePattern`. -/
def workerTaskPurgePattern (wfID : WFID) : String :=
  substituteParams it (subjectPattern "worker_task" "purge") [("wf_id", wfID)]

end Builders

end Manifest

/-! ### The texts of subjects and purge patterns -/

open Manifest

/-- The text of a subject. -/
def Subject.render (it : Iteration) : Subject → String
  | .directive wfType wfID runID => directiveSubject it wfType wfID runID
  | .history wfID runID => historySubject it wfID runID
  | .timer wfID kind timerID => timerSubject it wfID kind timerID
  | .runInfo wfType wfID runID => runInfoKey it wfType wfID runID
  | .runInput wfID runID => runInputKey it wfID runID
  | .runOutput wfID runID => runOutputKey it wfID runID
  | .runError wfID runID => runErrorKey it wfID runID
  | .kv wfID runID key => wfKVKey it wfID runID key
  | .inbox wfID => eventInboxSubject it wfID
  | .runState wfID runID => runStateSubject it wfID runID
  | .workerTask wfType wfID runID => workerTaskSubject it wfType wfID runID
  | .bgTask => bgTaskSubject

/-- The text of a purge pattern. -/
def PurgePattern.render (it : Iteration) : PurgePattern → String
  | .directives wfID => directivePurgePattern it wfID
  | .timers wfID => timerPurgePattern it wfID
  | .inbox wfID => eventInboxPurgePattern it wfID
  | .workerTasks wfID => workerTaskPurgePattern it wfID

/-- The workflow of a purge pattern. -/
def PurgePattern.wfID : PurgePattern → WFID
  | .directives wfID | .timers wfID | .inbox wfID | .workerTasks wfID => wfID

/-- A call of one of the subject builders: the subjects that the server stores its records under,
and the subjects of the registry of workflow types. -/
inductive SubjectCall
  | stored (subject : Subject)
  | registry (wfType : WFType)
  deriving DecidableEq, Repr

/-- The subject that a call gives. -/
def SubjectCall.render (it : Iteration) : SubjectCall → String
  | .stored subject => subject.render it
  | .registry wfType => workflowTypeRegistrySubject it wfType

/-- Whether a purge pattern is meant to match the subject of a call. -/
def PurgePattern.coversCall (pattern : PurgePattern) : SubjectCall → Bool
  | .stored subject => pattern.covers subject
  | .registry _ => false

/-- Matching of subjects: `*` stands for one dot-separated token, `>` for one or more. -/
def matchesSubject (pattern subject : String) : Bool :=
  matchesPattern '*' '>' '.' pattern.toList subject.toList

/-! ### Well-formed arguments -/

/-- A text without braces. -/
def BraceFree (s : String) : Prop :=
  '{' ∉ s.toList ∧ '}' ∉ s.toList
  deriving Decidable

/-- A single token: not empty, and without dots, wildcards and whitespace. -/
structure IsToken (s : String) : Prop where
  ne_empty : s ≠ ""
  dot : '.' ∉ s.toList
  star : '*' ∉ s.toList
  gt : '>' ∉ s.toList
  whitespace : ∀ c ∈ s.toList, c.isWhitespace = false

instance (s : String) : Decidable (IsToken s) :=
  decidable_of_iff (s ≠ "" ∧ '.' ∉ s.toList ∧ '*' ∉ s.toList ∧ '>' ∉ s.toList ∧
      s.toList.all (fun c => !c.isWhitespace) = true)
    ⟨fun h => ⟨h.1, h.2.1, h.2.2.1, h.2.2.2.1, by simpa using h.2.2.2.2⟩,
      fun h => ⟨h.ne_empty, h.dot, h.star, h.gt, by simpa using h.whitespace⟩⟩

/-- A single token without braces. -/
structure IsName (s : String) : Prop extends IsToken s where
  braceFree : BraceFree s

instance (s : String) : Decidable (IsName s) :=
  decidable_of_iff (s ≠ "" ∧ '.' ∉ s.toList ∧ '*' ∉ s.toList ∧ '>' ∉ s.toList ∧
      s.toList.all (fun c => !c.isWhitespace) = true ∧ BraceFree s)
    ⟨fun h => ⟨⟨h.1, h.2.1, h.2.2.1, h.2.2.2.1, by simpa using h.2.2.2.2.1⟩, h.2.2.2.2.2⟩,
      fun h => ⟨h.ne_empty, h.dot, h.star, h.gt, by simpa using h.whitespace, h.braceFree⟩⟩

/-- `other` stands for the texts that are not one of the two declared kinds. -/
def TimerKind.Proper (kind : TimerKind) : Prop :=
  kind ≠ .other TimerKind.waitTimeout.text ∧ kind ≠ .other TimerKind.stepTimeout.text
  deriving Decidable

/-- The arguments of a call: types, identifiers and keys are single tokens without braces, and the
identifier of a timer is derived from the identifier of a directive. -/
def SubjectCall.WellFormed : SubjectCall → Prop
  | .stored (.directive wfType wfID runID) => IsName wfType ∧ IsName wfID ∧ IsName runID
  | .stored (.history wfID runID) => IsName wfID ∧ IsName runID
  | .stored (.timer wfID kind timerID) =>
    IsName wfID ∧ IsName kind.text ∧ kind.Proper ∧
      ∃ directiveID kind', BraceFree directiveID ∧ IsName kind'.text ∧
        timerID = deriveTimerID directiveID kind'
  | .stored (.runInfo wfType wfID runID) => IsName wfType ∧ IsName wfID ∧ IsName runID
  | .stored (.runInput wfID runID) => IsName wfID ∧ IsName runID
  | .stored (.runOutput wfID runID) => IsName wfID ∧ IsName runID
  | .stored (.runError wfID runID) => IsName wfID ∧ IsName runID
  | .stored (.kv wfID runID key) => IsName wfID ∧ IsName runID ∧ IsName key
  | .stored (.inbox wfID) => IsName wfID
  | .stored (.runState wfID runID) => IsName wfID ∧ IsName runID
  | .stored (.workerTask wfType wfID runID) => IsName wfType ∧ IsName wfID ∧ IsName runID
  | .stored .bgTask => True
  | .registry wfType => IsName wfType

/-! ### The tokens of a subject -/

/-- The dot-separated tokens of the subject that a call gives. -/
def SubjectCall.tokens : SubjectCall → List (List Char)
  | .stored (.directive wfType wfID runID) =>
    ["grctl_directive".toList, wfType.toList, wfID.toList, runID.toList]
  | .stored (.history wfID runID) => ["grctl_history".toList, wfID.toList, runID.toList]
  | .stored (.timer wfID kind timerID) =>
    "grctl_timers".toList :: wfID.toList :: kind.text.toList :: timerID.toList.splitOn '.'
  | .stored (.runInfo wfType wfID runID) =>
    ["grctl_run".toList, wfType.toList, wfID.toList, runID.toList, "info".toList]
  | .stored (.runInput wfID runID) =>
    ["grctl_run".toList, wfID.toList, runID.toList, "input".toList]
  | .stored (.runOutput wfID runID) =>
    ["grctl_run".toList, wfID.toList, runID.toList, "output".toList]
  | .stored (.runError wfID runID) =>
    ["grctl_run".toList, wfID.toList, runID.toList, "error".toList]
  | .stored (.kv wfID runID key) =>
    ["grctl_wf_kv".toList, wfID.toList, runID.toList, key.toList]
  | .stored (.inbox wfID) => ["grctl_events".toList, wfID.toList]
  | .stored (.runState wfID runID) =>
    ["grctl_state".toList, "run_state".toList, wfID.toList, runID.toList]
  | .stored (.workerTask wfType wfID runID) =>
    ["grctl_worker_task".toList, wfType.toList, wfID.toList, runID.toList]
  | .stored .bgTask => ["grctl_bg_task".toList]
  | .registry wfType => ["grctl_registry".toList, wfType.toList]

/-- The dot-separated tokens of a purge pattern. -/
def PurgePattern.tokens : PurgePattern → List (List Char)
  | .directives wfID => ["grctl_directive".toList, ['*'], wfID.toList, ['>']]
  | .timers wfID => ["grctl_timers".toList, wfID.toList, ['>']]
  | .inbox wfID => ["grctl_events".toList, wfID.toList]
  | .workerTasks wfID => ["grctl_worker_task".toList, ['*'], wfID.toList, ['>']]

/-- A pattern of the manifest read as a template for the parameters of a builder. -/
structure Fits (pattern : String) (keys : List String) (pieces : List (Piece Char)) : Prop where
  text : pattern.toList = template '{' '}' '.' pieces
  ne_nil : pieces ≠ []
  names : Names '{' '}' '.' (keys.map String.toList)
  uses : ∀ piece ∈ pieces, piece.Uses '{' '.' (keys.map String.toList)

instance (pattern : String) (keys : List String) (pieces : List (Piece Char)) :
    Decidable (Fits pattern keys pieces) :=
  decidable_of_iff (pattern.toList = template '{' '}' '.' pieces ∧ pieces ≠ [] ∧
      Names '{' '}' '.' (keys.map String.toList) ∧
      ∀ piece ∈ pieces, piece.Uses '{' '.' (keys.map String.toList))
    ⟨fun h => ⟨h.1, h.2.1, h.2.2.1, h.2.2.2⟩, fun h => ⟨h.text, h.ne_nil, h.names, h.uses⟩⟩

section Tokens

variable (it : Iteration) {pattern : String} {params : List (String × String)}
  {pieces : List (Piece Char)} {filled : List (List Char)}

theorem charParams_fst :
    (charParams params).map Prod.fst = (params.map Prod.fst).map String.toList := by
  simp [charParams]

theorem charParams_order_perm : (charParams (it.order params)).Perm (charParams params) :=
  (it.perm params).map _

theorem forall_mem_charParams {P : List Char → Prop} :
    (∀ param ∈ charParams params, P param.2) ↔ ∀ param ∈ params, P param.2.toList := by
  simp only [charParams, List.forall_mem_map]

theorem Fits.names_charParams (h : Fits pattern (params.map Prod.fst) pieces) :
    Names '{' '}' '.' ((charParams params).map Prod.fst) :=
  charParams_fst ▸ h.names

theorem Fits.uses_charParams (h : Fits pattern (params.map Prod.fst) pieces) :
    ∀ piece ∈ pieces, piece.Uses '{' '.' ((charParams params).map Prod.fst) :=
  charParams_fst ▸ h.uses

/-- A substituted pattern, in terms of its pieces. -/
theorem Fits.toList_eq (h : Fits pattern (params.map Prod.fst) pieces) :
    (substituteParams it pattern params).toList =
      ['.'].intercalate (pieces.map fun piece =>
        substitute '{' '}' (charParams (it.order params)) (piece.text '{' '}')) := by
  rw [substituteParams, String.toList_ofList, h.text, template,
    substitute_intercalate (h.names_charParams.perm (charParams_order_perm it)).separates,
    List.map_map]
  rfl

/-- A substituted pattern, for values without braces. -/
theorem Fits.toList_substituteParams (h : Fits pattern (params.map Prod.fst) pieces)
    (hvalues : ∀ param ∈ params, BraceFree param.2)
    (hfilled : pieces.map (Piece.fill '{' '}' (charParams params)) = filled) :
    (substituteParams it pattern params).toList = ['.'].intercalate filled := by
  have hopen : ∀ param ∈ charParams params, '{' ∉ param.2 :=
    (forall_mem_charParams (P := fun value => '{' ∉ value)).2
      fun param hparam => (hvalues param hparam).1
  rw [substituteParams, String.toList_ofList, h.text,
    substitute_template h.names_charParams (charParams_order_perm it) hopen h.uses_charParams,
    hfilled]

/-- The tokens of a substituted pattern, for values without dots and braces. -/
theorem Fits.tokens_of_dotFree (h : Fits pattern (params.map Prod.fst) pieces)
    (hdots : ∀ param ∈ params, DotFree param.2) (hbraces : ∀ param ∈ params, BraceFree param.2)
    (hfilled : pieces.map (Piece.fill '{' '}' (charParams params)) = filled) :
    (substituteParams it pattern params).toList.splitOn '.' = filled := by
  have hdot : ∀ param ∈ charParams params, '.' ∉ param.2 :=
    (forall_mem_charParams (P := fun value => '.' ∉ value)).2 hdots
  rw [h.toList_substituteParams it hbraces hfilled, List.splitOn_intercalate]
  · rw [← hfilled]
    intro token htoken
    obtain ⟨piece, hpiece, rfl⟩ := List.mem_map.1 htoken
    exact Piece.not_mem_fill hdot (h.uses_charParams piece hpiece)
  · rw [← hfilled]
    simpa using h.ne_nil

/-- The tokens of a substituted pattern, for values that are single tokens without braces. -/
theorem Fits.tokens (h : Fits pattern (params.map Prod.fst) pieces)
    (hvalues : ∀ param ∈ params, IsName param.2)
    (hfilled : pieces.map (Piece.fill '{' '}' (charParams params)) = filled) :
    (substituteParams it pattern params).toList.splitOn '.' = filled :=
  h.tokens_of_dotFree it (fun param hparam => (hvalues param hparam).dot)
    (fun param hparam => (hvalues param hparam).braceFree) hfilled

/-- The patterns that are substituted, with the parameters of their builders and the pieces that
they are made of. -/
def templates : List (String × String × List String × List (Piece Char)) :=
  [("directive", "publish", ["wf_type", "wf_id", "run_id"],
      [.lit "grctl_directive".toList, .hole "wf_type".toList, .hole "wf_id".toList,
       .hole "run_id".toList]),
    ("history", "publish", ["wf_id", "run_id"],
      [.lit "grctl_history".toList, .hole "wf_id".toList, .hole "run_id".toList]),
    ("timer", "publish", ["wf_id", "kind", "timer_id"],
      [.lit "grctl_timers".toList, .hole "wf_id".toList, .hole "kind".toList,
       .hole "timer_id".toList]),
    ("run_store", "info", ["wf_type", "wf_id", "run_id"],
      [.lit "grctl_run".toList, .hole "wf_type".toList, .hole "wf_id".toList,
       .hole "run_id".toList, .lit "info".toList]),
    ("run_store", "input", ["wf_id", "run_id"],
      [.lit "grctl_run".toList, .hole "wf_id".toList, .hole "run_id".toList, .lit "input".toList]),
    ("run_store", "output", ["wf_id", "run_id"],
      [.lit "grctl_run".toList, .hole "wf_id".toList, .hole "run_id".toList,
       .lit "output".toList]),
    ("run_store", "error", ["wf_id", "run_id"],
      [.lit "grctl_run".toList, .hole "wf_id".toList, .hole "run_id".toList, .lit "error".toList]),
    ("kv_store", "kv", ["wf_id", "run_id", "key"],
      [.lit "grctl_wf_kv".toList, .hole "wf_id".toList, .hole "run_id".toList,
       .hole "key".toList]),
    ("events", "publish", ["wf_id"],
      [.lit "grctl_events".toList, .hole "wf_id".toList]),
    ("run_state", "publish", ["wf_id", "run_id"],
      [.lit "grctl_state".toList, .lit "run_state".toList, .hole "wf_id".toList,
       .hole "run_id".toList]),
    ("worker_task", "publish", ["wf_type", "wf_id", "run_id"],
      [.lit "grctl_worker_task".toList, .hole "wf_type".toList, .hole "wf_id".toList,
       .hole "run_id".toList]),
    ("workflow_type_registry", "publish", ["wf_type"],
      [.lit "grctl_registry".toList, .hole "wf_type".toList]),
    ("directive", "purge", ["wf_id"],
      [.lit "grctl_directive".toList, .lit ['*'], .hole "wf_id".toList, .lit ['>']]),
    ("timer", "purge", ["wf_id"],
      [.lit "grctl_timers".toList, .hole "wf_id".toList, .lit ['>']]),
    ("events", "purge", ["wf_id"],
      [.lit "grctl_events".toList, .hole "wf_id".toList]),
    ("worker_task", "purge", ["wf_id"],
      [.lit "grctl_worker_task".toList, .lit ['*'], .hole "wf_id".toList, .lit ['>']])]

theorem forall_templates_fits :
    ∀ t ∈ templates, Fits (subjectPattern t.1 t.2.1) t.2.2.1 t.2.2.2 := by
  decide +kernel

theorem fits_of_getElem {i : ℕ} {subjectKey patternKey : String} {keys : List String}
    {pieces : List (Piece Char)}
    (h : templates[i]? = some (subjectKey, patternKey, keys, pieces)) :
    Fits (subjectPattern subjectKey patternKey) keys pieces :=
  forall_templates_fits _ (List.mem_of_getElem? h)

theorem fits_directive :
    Fits (subjectPattern "directive" "publish") ["wf_type", "wf_id", "run_id"]
      [.lit "grctl_directive".toList, .hole "wf_type".toList, .hole "wf_id".toList,
        .hole "run_id".toList] :=
  fits_of_getElem (i := 0) rfl

theorem fits_history :
    Fits (subjectPattern "history" "publish") ["wf_id", "run_id"]
      [.lit "grctl_history".toList, .hole "wf_id".toList, .hole "run_id".toList] :=
  fits_of_getElem (i := 1) rfl

theorem fits_timer :
    Fits (subjectPattern "timer" "publish") ["wf_id", "kind", "timer_id"]
      [.lit "grctl_timers".toList, .hole "wf_id".toList, .hole "kind".toList,
        .hole "timer_id".toList] :=
  fits_of_getElem (i := 2) rfl

theorem fits_runInfo :
    Fits (subjectPattern "run_store" "info") ["wf_type", "wf_id", "run_id"]
      [.lit "grctl_run".toList, .hole "wf_type".toList, .hole "wf_id".toList,
        .hole "run_id".toList, .lit "info".toList] :=
  fits_of_getElem (i := 3) rfl

/-- The patterns for the input, the output and the error of a run. -/
theorem fits_runStore {patternKey : String} (h : patternKey ∈ ["input", "output", "error"]) :
    Fits (subjectPattern "run_store" patternKey) ["wf_id", "run_id"]
      [.lit "grctl_run".toList, .hole "wf_id".toList, .hole "run_id".toList,
        .lit patternKey.toList] := by
  simp only [List.mem_cons, List.not_mem_nil, or_false] at h
  rcases h with rfl | rfl | rfl
  · exact fits_of_getElem (i := 4) rfl
  · exact fits_of_getElem (i := 5) rfl
  · exact fits_of_getElem (i := 6) rfl

theorem fits_kv :
    Fits (subjectPattern "kv_store" "kv") ["wf_id", "run_id", "key"]
      [.lit "grctl_wf_kv".toList, .hole "wf_id".toList, .hole "run_id".toList,
        .hole "key".toList] :=
  fits_of_getElem (i := 7) rfl

theorem fits_inbox :
    Fits (subjectPattern "events" "publish") ["wf_id"]
      [.lit "grctl_events".toList, .hole "wf_id".toList] :=
  fits_of_getElem (i := 8) rfl

theorem fits_runState :
    Fits (subjectPattern "run_state" "publish") ["wf_id", "run_id"]
      [.lit "grctl_state".toList, .lit "run_state".toList, .hole "wf_id".toList,
        .hole "run_id".toList] :=
  fits_of_getElem (i := 9) rfl

theorem fits_workerTask :
    Fits (subjectPattern "worker_task" "publish") ["wf_type", "wf_id", "run_id"]
      [.lit "grctl_worker_task".toList, .hole "wf_type".toList, .hole "wf_id".toList,
        .hole "run_id".toList] :=
  fits_of_getElem (i := 10) rfl

theorem fits_registry :
    Fits (subjectPattern "workflow_type_registry" "publish") ["wf_type"]
      [.lit "grctl_registry".toList, .hole "wf_type".toList] :=
  fits_of_getElem (i := 11) rfl

theorem fits_directivePurge :
    Fits (subjectPattern "directive" "purge") ["wf_id"]
      [.lit "grctl_directive".toList, .lit ['*'], .hole "wf_id".toList, .lit ['>']] :=
  fits_of_getElem (i := 12) rfl

theorem fits_timerPurge :
    Fits (subjectPattern "timer" "purge") ["wf_id"]
      [.lit "grctl_timers".toList, .hole "wf_id".toList, .lit ['>']] :=
  fits_of_getElem (i := 13) rfl

theorem fits_inboxPurge :
    Fits (subjectPattern "events" "purge") ["wf_id"]
      [.lit "grctl_events".toList, .hole "wf_id".toList] :=
  fits_of_getElem (i := 14) rfl

theorem fits_workerTaskPurge :
    Fits (subjectPattern "worker_task" "purge") ["wf_id"]
      [.lit "grctl_worker_task".toList, .lit ['*'], .hole "wf_id".toList, .lit ['>']] :=
  fits_of_getElem (i := 15) rfl

/-- A derived timer identifier has no braces. -/
theorem braceFree_deriveTimerID {directiveID : DirectiveID} {kind : TimerKind}
    (hid : BraceFree directiveID) (hkind : BraceFree kind.text) :
    BraceFree (deriveTimerID directiveID kind) := by
  simp only [BraceFree, deriveTimerID, String.toList_append, List.mem_append, not_or]
  exact ⟨⟨⟨hkind.1, by decide⟩, hid.1⟩, ⟨hkind.2, by decide⟩, hid.2⟩

/-- The tokens of a timer subject: the identifier of a timer is more than one token. -/
theorem tokens_timerSubject {wfID : WFID} {kind : TimerKind} {timerID : TimerID}
    (hwf : IsName wfID) (hkind : IsName kind.text) (hid : BraceFree timerID) :
    (timerSubject it wfID kind timerID).toList.splitOn '.' =
      "grctl_timers".toList :: wfID.toList :: kind.text.toList :: timerID.toList.splitOn '.' := by
  have hbraces : ∀ param ∈ [("wf_id", wfID), ("kind", kind.text), ("timer_id", timerID)],
      BraceFree param.2 := by
    simpa using ⟨hwf.braceFree, hkind.braceFree, hid⟩
  rw [timerSubject, fits_timer.toList_substituteParams it hbraces rfl,
    splitOn_intercalate_eq_flatMap '.' (by simp)]
  simp [List.splitOn_eq_singleton, hwf.dot, hkind.dot]

/-- The subject of a well-formed call has the tokens of the call. -/
theorem SubjectCall.tokens_render {call : SubjectCall} (h : call.WellFormed) :
    (call.render it).toList.splitOn '.' = call.tokens := by
  rcases call with (_ | _ | ⟨wfID, kind, timerID⟩ | _ | _ | _ | _ | _ | _ | _ | _ | _) | _
  case stored.timer =>
    obtain ⟨hwf, hkind, -, directiveID, kind', hid, hkind', rfl⟩ := h
    exact tokens_timerSubject it hwf hkind (braceFree_deriveTimerID hid hkind'.braceFree)
  case stored.bgTask =>
    have htokens : bgTaskSubject.toList.splitOn '.' = ["grctl_bg_task".toList] := by decide +kernel
    exact htokens
  all_goals simp only [WellFormed] at h
  case stored.directive => exact fits_directive.tokens it (by simpa using h) (by simp [tokens])
  case stored.history => exact fits_history.tokens it (by simpa using h) (by simp [tokens])
  case stored.runInfo => exact fits_runInfo.tokens it (by simpa using h) (by simp [tokens])
  case stored.runInput | stored.runOutput | stored.runError =>
    exact (fits_runStore (by decide)).tokens it (by simpa using h) (by simp [tokens])
  case stored.kv => exact fits_kv.tokens it (by simpa using h) (by simp [tokens])
  case stored.inbox => exact fits_inbox.tokens it (by simpa using h) (by simp [tokens])
  case stored.runState => exact fits_runState.tokens it (by simpa using h) (by simp [tokens])
  case stored.workerTask => exact fits_workerTask.tokens it (by simpa using h) (by simp [tokens])
  case registry => exact fits_registry.tokens it (by simpa using h) (by simp [tokens])

/-- The text of a purge pattern has the tokens of the pattern. -/
theorem PurgePattern.tokens_render {pattern : PurgePattern} (h : IsName pattern.wfID) :
    (pattern.render it).toList.splitOn '.' = pattern.tokens := by
  cases pattern with
  | directives wfID =>
    exact fits_directivePurge.tokens it (by simpa [PurgePattern.wfID] using h) (by simp [tokens])
  | timers wfID =>
    exact fits_timerPurge.tokens it (by simpa [PurgePattern.wfID] using h) (by simp [tokens])
  | inbox wfID =>
    exact fits_inboxPurge.tokens it (by simpa [PurgePattern.wfID] using h) (by simp [tokens])
  | workerTasks wfID =>
    exact fits_workerTaskPurge.tokens it (by simpa [PurgePattern.wfID] using h) (by simp [tokens])

end Tokens

/-! ### Separation -/

theorem TimerKind.text_injective {kind kind' : TimerKind} (h : kind.Proper) (h' : kind'.Proper)
    (heq : kind.text = kind'.text) : kind = kind' := by
  cases kind <;> cases kind' <;> simp_all [Proper, text]

/-- The tokens of well-formed calls determine the builder and its arguments. -/
theorem SubjectCall.tokens_injective {call call' : SubjectCall} (h : call.WellFormed)
    (h' : call'.WellFormed) (heq : call.tokens = call'.tokens) : call = call' := by
  rcases call with s | wfType <;> rcases call' with s' | wfType'
  · -- different builders differ in a fixed token or in the number of tokens
    cases s <;> cases s' <;>
      simp only [tokens, List.cons.injEq, String.toList_inj, String.reduceEq, false_and, and_false,
        true_and, and_true, reduceCtorEq] at heq
    case timer.timer wfID kind timerID wfID' kind' timerID' =>
      obtain ⟨hwf, hkind, hid⟩ := heq
      have hid' : timerID = timerID' := by
        have hjoin := congrArg (List.intercalate ['.']) hid
        rw [List.intercalate_splitOn, List.intercalate_splitOn] at hjoin
        exact String.toList_inj.1 hjoin
      rw [hwf, TimerKind.text_injective h.2.2.1 h'.2.2.1 hkind, hid']
    all_goals simp [heq]
  · cases s <;>
      simp only [tokens, List.cons.injEq, String.toList_inj, String.reduceEq, false_and,
        reduceCtorEq] at heq
  · cases s' <;>
      simp only [tokens, List.cons.injEq, String.toList_inj, String.reduceEq, false_and,
        reduceCtorEq] at heq
  · simpa [tokens, String.toList_inj] using heq

theorem IsToken.toList_ne {s : String} (h : IsToken s) {c : Char} (hc : c = '*' ∨ c = '>') :
    s.toList ≠ [c] := by
  intro heq
  rcases hc with rfl | rfl
  · exact h.star (by simp [heq])
  · exact h.gt (by simp [heq])

/-- Matching the tokens of a purge pattern is what `PurgePattern.covers` says. -/
theorem PurgePattern.matchTokens_tokens {pattern : PurgePattern} {call : SubjectCall}
    (hpattern : IsName pattern.wfID) :
    matchTokens '*' '>' pattern.tokens call.tokens = pattern.coversCall call := by
  have hstar := hpattern.toList_ne (.inl rfl)
  have hgt := hpattern.toList_ne (.inr rfl)
  rcases call with s | wfType
  · cases pattern <;> cases s <;> simp only [wfID] at hstar hgt <;>
      simp [tokens, SubjectCall.tokens, coversCall, covers, hstar, hgt, String.toList_inj]
    all_goals exact (beq_eq_decide _ _).symm
  · cases pattern <;> simp [tokens, SubjectCall.tokens, coversCall]

/-- Subjects separate runs and record families. Two calls of the builders with well-formed arguments
give the same subject only if they are the same call, whatever the orders in which their parameters
are traversed; and the purge pattern of a family for a workflow matches exactly the subjects of that
family for that workflow. -/
theorem subjects_separate :
    (∀ (it it' : Iteration) (call call' : SubjectCall), call.WellFormed → call'.WellFormed →
      call.render it = call'.render it' → call = call') ∧
    ∀ (it it' : Iteration) (pattern : PurgePattern) (call : SubjectCall), IsName pattern.wfID →
      call.WellFormed →
      matchesSubject (pattern.render it) (call.render it') = pattern.coversCall call := by
  constructor
  · intro it it' call call' h h' heq
    refine SubjectCall.tokens_injective h h' ?_
    rw [← SubjectCall.tokens_render it h, heq, SubjectCall.tokens_render it' h']
  · intro it it' pattern call hpattern h
    rw [matchesSubject, matchesPattern, PurgePattern.tokens_render it hpattern,
      SubjectCall.tokens_render it' h, PurgePattern.matchTokens_tokens hpattern]

/-- A timer whose identifier has several tokens: in no order of the map does it share its subject
with the timer of another step, the purge pattern of its workflow matches it, and that of the inbox
does not. -/
theorem subjects_separate_timer :
    let call (id : DirectiveID) := SubjectCall.stored
      (.timer "wf" .stepTimeout (deriveTimerID id .stepTimeout))
    (call "run.step-1").WellFormed ∧ (call "run.step-2").WellFormed ∧
      (call "run.step-1").render .written ≠ (call "run.step-2").render .reversed ∧
      matchesSubject ((PurgePattern.timers "wf").render .written)
        ((call "run.step-1").render .reversed) = true ∧
      matchesSubject ((PurgePattern.inbox "wf").render .written)
        ((call "run.step-1").render .reversed) = false := by
  intro call
  have hname : IsName "wf" := by decide +kernel
  have hkind : IsName TimerKind.stepTimeout.text := by decide +kernel
  have hcall : (call "run.step-1").WellFormed :=
    ⟨hname, hkind, by decide, "run.step-1", .stepTimeout, by decide +kernel, hkind, rfl⟩
  have hother : (call "run.step-2").WellFormed :=
    ⟨hname, hkind, by decide, "run.step-2", .stepTimeout, by decide +kernel, hkind, rfl⟩
  refine ⟨hcall, hother, fun heq => ?_, subjects_separate.2 _ _ (.timers "wf") _ hname hcall,
    subjects_separate.2 _ _ (.inbox "wf") _ hname hcall⟩
  have hsame := subjects_separate.1 _ _ _ _ hcall hother heq
  exact absurd hsame (by decide)

end Grctl
