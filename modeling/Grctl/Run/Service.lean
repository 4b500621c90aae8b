import Grctl.Lts.Program
import Grctl.Run.Records
import Grctl.Store.JSStateStore
import Grctl.Types.GoError

/-!
# The run service

What the API commands do (`run/service.go`). A start writes twice, the description of the new run
and then the directive that starts it. A command for an existing run looks up the latest
description of the workflow and publishes a directive that carries a copy of it; nothing is said
about how far the run has come by the time the directive is handled. In particular the copy has
no start time when the command comes before the start has been handled.

Each function is a program that calls the store and the type registry, and each of its calls can
fail on its own. A publication that is reported as failed may have been stored all the same.
`answer` performs one call, given the way it goes. Between two calls of a function other servers
and other requests make theirs.

The type registry is a parameter.

## Main definitions

* `Service.Op`, `Service.Op.Answer`, `Service.Call`: the calls of the service.
* `Service.startRun`, `Service.send`, `Service.cancel`, `Service.terminate`, `Service.describeRun`.
* `Service.Faults`, `Service.answer`: how the calls go.
* `Service.startRunWith`: `StartRun` when nothing comes between its calls.
* `Service.StartOutcome`, `Service.CommandOutcome`: what a start and a command leave behind.

## Main results

* `Service.startOutcome`, `Service.commandOutcome`: the outcomes of a start and of a command.
* `Service.safe_startRun`, `Service.safe_send`, `Service.safe_cancel`, `Service.safe_terminate`,
  `Service.safe_describeRun`: a description is saved only right after the workflow was found without
  an active run, and the published directives decode.
-/

namespace Grctl.Service

open SubjectLog Lts

/-! ### The calls -/

/-- `TypeRegistry`, as far as the service reads it. -/
structure Registry where
  getStartStepTimeout : WFType → Result UInt32
  getEventDef : WFType → String → Result EventDef

/-- The calls that the service makes. `CreateRunInfo` makes two: a lookup and a publication. -/
inductive Op
  | getStartStepTimeout (wfType : WFType)
  | getEventDef (wfType : WFType) (eventName : String)
  | getRunByWFID (wfID : WFID)
  | saveRunInfo (info : RunInfo)
  | publishDirective (d : Directive)
  deriving DecidableEq, Repr

/-- What a call returns. -/
@[reducible] def Op.Answer : Op → Type
  | .getStartStepTimeout _ => Result UInt32
  | .getEventDef .. => Result EventDef
  | .getRunByWFID _ => Result RunInfo
  | .saveRunInfo _ | .publishDirective _ => Result Unit

/-- A function of the service. -/
abbrev Call (α : Type) := Program Op Op.Answer α

/-- The error of a call is given a context. -/
def inContext {α : Type} (context : String) (r : Result α) : Result α :=
  r.mapError (GoError.wrap context)

/-! ### The functions -/

/-- `CreateRunInfo`. -/
def createRunInfo (info : RunInfo) : Call (Result Unit) :=
  .call (.getRunByWFID info.wfID) fun (found : Result RunInfo) =>
    match found with
    | .error e =>
      if e.is .workflowRunNotFound then .call (.saveRunInfo info) .done
      else .done (.error (e.wrap "failed to check running status"))
    | .ok ri =>
      if ri.isTerminal then .call (.saveRunInfo info) .done
      else .done (.error (Sentinel.workflowAlreadyRunning.withDetail ri.id))

/-- The directive that `StartRun` publishes. -/
def startDirective (registered defaultStepTimeoutMS : UInt32) (env : Readings) (runInfo : RunInfo)
    (input : Value) : Directive where
  id := env.newID
  timestamp := env.now
  kind := .start
  runInfo := runInfo
  msg := .start input (if registered = 0 then defaultStepTimeoutMS else registered)

/-- `StartRun`. -/
def startRun (defaultStepTimeoutMS : UInt32) (env : Readings) (runInfo : RunInfo) (input : Value) :
    Call (Result Unit) :=
  .call (.getStartStepTimeout runInfo.wfType) fun (registered : Result UInt32) =>
    match registered with
    | .error e => .done (.error e)
    | .ok registered => (createRunInfo runInfo).bind fun created =>
      match created with
      | .error e =>
        .done (.error (if e.is .workflowAlreadyRunning then e
          else e.wrap "failed to create run in store"))
      | .ok () =>
        .call (.publishDirective (startDirective registered defaultStepTimeoutMS env runInfo input))
          fun published => .done (inContext "failed to enqueue start directive" published)

/-- The directives of `Send`, `Cancel` and `Terminate`. -/
def commandDirective (env : Readings) (kind : DirectiveKind) (runInfo : RunInfo)
    (msg : DirectiveMessage) : Directive where
  id := env.newID
  timestamp := env.now
  kind := kind
  runInfo := runInfo
  msg := msg

/-- What `Send`, `Cancel` and `Terminate` have in common: the command concerns the latest run of the
workflow, unless it has ended. -/
def command (env : Readings) (wfID : WFID) (kind : DirectiveKind) (name : String)
    (msg : RunInfo → Call DirectiveMessage) : Call (Result Unit) :=
  .call (.getRunByWFID wfID) fun (found : Result RunInfo) =>
    match found with
    | .error e => .done (.error (e.wrap "failed to get run info from store"))
    | .ok runInfo =>
      if runInfo.status.isTerminal then .done (.error Sentinel.runTerminal.error)
      else (msg runInfo).bind fun msg =>
        .call (.publishDirective (commandDirective env kind runInfo msg)) fun published =>
          .done (inContext ("failed to enqueue " ++ name ++ " directive") published)

/-- The error of a command that has another message than the function is for. -/
def unexpectedMessage (expected : String) (m : CommandMessage) : GoError where
  message := "expected " ++ expected ++ " message but got " ++ m.goType

/-- The timeout of an event: the registered one, when there is one. -/
def eventTimeout : Result EventDef → UInt32
  | .ok eventDef => if eventDef.timeoutMS > 0 then eventDef.timeoutMS else 0
  | .error _ => 0

/-- `Send`. -/
def send (env : Readings) (cmd : Command) : Call (Result Unit) :=
  match cmd.msg with
  | .event wfID eventName payload =>
    command env wfID .event "event" fun runInfo =>
      .call (.getEventDef runInfo.wfType eventName) fun eventDef =>
        .done (.event { eventName, payload, timeout := eventTimeout eventDef })
  | m => .done (.error (unexpectedMessage "EventCmd" m))

/-- `Terminate`. -/
def terminate (env : Readings) (cmd : Command) : Call (Result Unit) :=
  match cmd.msg with
  | .terminate wfID reason =>
    command env wfID .terminate "terminate" fun _ => .done (.terminate reason)
  | m => .done (.error (unexpectedMessage "TerminateCmd" m))

/-- `Cancel`. -/
def cancel (env : Readings) (cmd : Command) : Call (Result Unit) :=
  match cmd.msg with
  | .cancel wfID reason => command env wfID .cancel "cancel" fun _ => .done (.cancel reason)
  | m => .done (.error (unexpectedMessage "CancelCmd" m))

/-- `DescribeRun`. -/
def describeRun (wfID : WFID) : Call (Result RunInfo) :=
  .call (.getRunByWFID wfID) fun found => .done (inContext "failed to get run info" found)

/-! ### How the calls go -/

/-- How the operations of the store go. -/
structure Faults where
  lookup : Option String := none
  saveRunInfo : Publication := .stored
  publishDirective : Publication := .stored
  deriving DecidableEq, Repr

/-- What the caller of a publication is told. -/
def told (context : String) (p : Publication) : Result Unit :=
  match p.error? with
  | none => .ok ()
  | some message => .error { message := context ++ ": " ++ message }

/-- `GetRunByWFID`. -/
def lookup (faults : Faults) (l : Stream) (wfID : WFID) : Result RunInfo :=
  match faults.lookup with
  | some message => .error { message := "failed to get batch iterator: " ++ message }
  | none =>
    match getRunByWFID l wfID with
    | .ok (some info) => .ok info
    | .ok none => .error Sentinel.workflowRunNotFound.error
    | .error fault => .error { message := fault.text }

/-- One call: its answer, and the stream after it. -/
def answer (registry : Registry) (dup : Stream → DirectiveID → Bool) (faults : Faults)
    (l : Stream) : (op : Op) → op.Answer × Stream
  | .getStartStepTimeout wfType => (registry.getStartStepTimeout wfType, l)
  | .getEventDef wfType eventName => (registry.getEventDef wfType eventName, l)
  | .getRunByWFID wfID => (lookup faults l wfID, l)
  | .saveRunInfo info =>
    let p := faults.saveRunInfo.within info.Taken
    (told "failed to save workflow run" p, p.after l (saveRunInfo l info))
  | .publishDirective d =>
    let p := faults.publishDirective.within d.subject.Taken
    (told "failed to publish directive" p, p.after l (publishDirective dup l d))

/-- `StartRun`: what the caller is told and the stream afterwards, when nothing comes between its
calls. -/
def startRunWith (registry : Registry) (defaultStepTimeoutMS : UInt32)
    (dup : Stream → DirectiveID → Bool) (env : Readings) (faults : Faults) (l : Stream)
    (runInfo : RunInfo) (input : Value) : Result Unit × Stream :=
  (startRun defaultStepTimeoutMS env runInfo input).run (answer registry dup faults) l

/-! ### The outcomes -/

section Outcomes

variable {registry : Registry} {timeout : UInt32} {dup : Stream → DirectiveID → Bool}
  {env : Readings} {faults : Faults} {l : Stream} {info runInfo : RunInfo} {input : Value}
  {wf : WFID} {context : String} {p : Publication}

theorem told_eq_ok : told context p = .ok () ↔ p = .stored := by
  cases p <;> simp [told, Publication.error?]

theorem inContext_eq_ok {α : Type} {r : Result α} {a : α} :
    inContext context r = .ok a ↔ r = .ok a := by
  cases r <;> simp [inContext, Except.mapError]

/-- The store answers a lookup. -/
def Answers (faults : Faults) (l : Stream) (wf : WFID) (latest : Option RunInfo) : Prop :=
  faults.lookup = none ∧ getRunByWFID l wf = .ok latest

/-- What a lookup returns. -/
theorem lookup_cases (faults : Faults) (l : Stream) (wf : WFID) :
    (∃ run, lookup faults l wf = .ok run ∧ Answers faults l wf (some run)) ∨
    (lookup faults l wf = .error Sentinel.workflowRunNotFound.error ∧
      Answers faults l wf none) ∨
    ∃ text, lookup faults l wf = .error { message := text } ∧
      ∀ latest, ¬ Answers faults l wf latest := by
  simp only [lookup, Answers]
  cases faults.lookup with
  | some message => exact .inr (.inr ⟨_, rfl, by simp⟩)
  | none =>
    cases h : getRunByWFID l wf with
    | error fault => exact .inr (.inr ⟨_, rfl, by simp⟩)
    | ok latest =>
      cases latest with
      | none => exact .inr (.inl ⟨rfl, rfl, rfl⟩)
      | some run => exact .inl ⟨run, rfl, rfl, rfl⟩

/-- The lookup of `CreateRunInfo` is answered, and finds no active run. -/
def Vacant (faults : Faults) (l : Stream) (wf : WFID) : Prop :=
  faults.lookup = none ∧ NoActiveRun l wf

/-- The outcomes of `CreateRunInfo`; the description is saved exactly when the lookup finds no
active run. -/
theorem run_createRunInfo_cases (registry : Registry) (dup : Stream → DirectiveID → Bool)
    (faults : Faults) (l : Stream) (info : RunInfo) :
    (Vacant faults l info.wfID ∧ (createRunInfo info).run (answer registry dup faults) l =
      answer registry dup faults l (.saveRunInfo info)) ∨
    (∃ run, Answers faults l info.wfID (some run) ∧ run.isTerminal = false ∧
      (createRunInfo info).run (answer registry dup faults) l =
        (.error (Sentinel.workflowAlreadyRunning.withDetail run.id), l)) ∨
    ((∀ latest, ¬ Answers faults l info.wfID latest) ∧
      ∃ text, (createRunInfo info).run (answer registry dup faults) l =
        (.error { message := text }, l)) := by
  rw [createRunInfo, Program.run_call, answer, Vacant, NoActiveRun]
  rcases lookup_cases faults l info.wfID with ⟨run, h, ha⟩ | ⟨h, ha⟩ | ⟨text, h, hnot⟩
  · cases hterm : run.isTerminal with
    | true => exact .inl ⟨⟨ha.1, _, ha.2, by simp [hterm]⟩, by simp [h, hterm]⟩
    | false => exact .inr (.inl ⟨run, ha, hterm, by simp [h, hterm]⟩)
  · exact .inl ⟨⟨ha.1, _, ha.2, by simp⟩, by simp [h, GoError.is, Sentinel.error]⟩
  · exact .inr (.inr ⟨hnot, _, by simp only [h]; rfl⟩)

/-- The description of the new run reaches the stream. -/
structure Saves (registry : Registry) (faults : Faults) (l : Stream) (runInfo : RunInfo) :
    Prop where
  registered : (registry.getStartStepTimeout runInfo.wfType).isOk = true
  lookup : faults.lookup = none
  free : NoActiveRun l runInfo.wfID
  taken : runInfo.Taken
  saved : ∀ message, faults.saveRunInfo ≠ .refused message

/-- The outcomes of a start. The directive is published if the publication of the description was
confirmed. -/
inductive StartOutcome (registry : Registry) (timeout : UInt32)
    (dup : Stream → DirectiveID → Bool) (env : Readings) (faults : Faults) (l : Stream)
    (runInfo : RunInfo) (input : Value) : Result Unit × Stream → Prop
  | notRegistered {e : GoError} (h : registry.getStartStepTimeout runInfo.wfType = .error e) :
      StartOutcome registry timeout dup env faults l runInfo input (.error e, l)
  | notChecked {text : String} (h : ∀ latest, ¬ Answers faults l runInfo.wfID latest) :
      StartOutcome registry timeout dup env faults l runInfo input (.error { message := text }, l)
  | running {registered : UInt32} {run : RunInfo}
      (hregistered : registry.getStartStepTimeout runInfo.wfType = .ok registered)
      (hrun : Answers faults l runInfo.wfID (some run)) (hlive : run.isTerminal = false) :
      StartOutcome registry timeout dup env faults l runInfo input
        (.error (Sentinel.workflowAlreadyRunning.withDetail run.id), l)
  | notSaved {registered : UInt32} {text message : String}
      (hregistered : registry.getStartStepTimeout runInfo.wfType = .ok registered)
      (hvacant : Vacant faults l runInfo.wfID)
      (hsave : faults.saveRunInfo.within runInfo.Taken = .refused message) :
      StartOutcome registry timeout dup env faults l runInfo input (.error { message := text }, l)
  | unconfirmed {text message : String} (h : Saves registry faults l runInfo)
      (hsave : faults.saveRunInfo = .unconfirmed message) :
      StartOutcome registry timeout dup env faults l runInfo input
        (.error { message := text }, l.append (runInfoMessage runInfo))
  | saved {registered : UInt32} {d : Directive} (h : Saves registry faults l runInfo)
      (hsave : faults.saveRunInfo = .stored)
      (hregistered : registry.getStartStepTimeout runInfo.wfType = .ok registered)
      (hd : d = startDirective registered timeout env runInfo input) :
      StartOutcome registry timeout dup env faults l runInfo input
        (inContext "failed to enqueue start directive"
          (told "failed to publish directive" faults.publishDirective),
          faults.publishDirective.after (l.append (runInfoMessage runInfo))
            (publishDirective dup (l.append (runInfoMessage runInfo)) d))

theorem startOutcome (registry : Registry) (timeout : UInt32)
    (dup : Stream → DirectiveID → Bool) (env : Readings) (faults : Faults) (l : Stream)
    (runInfo : RunInfo) (input : Value) :
    StartOutcome registry timeout dup env faults l runInfo input
      (startRunWith registry timeout dup env faults l runInfo input) := by
  rw [startRunWith, startRun, Program.run_call, answer]
  cases hreg : registry.getStartStepTimeout runInfo.wfType with
  | error e => exact .notRegistered hreg
  | ok registered =>
    simp only [Program.run_bind]
    rcases run_createRunInfo_cases registry dup faults l runInfo with
      ⟨hvacant, hrun⟩ | ⟨run, hanswer, hlive, hrun⟩ | ⟨hnot, text, hrun⟩
    · rw [hrun, answer]
      by_cases htaken : runInfo.Taken
      · have hwithin : faults.saveRunInfo.within runInfo.Taken = faults.saveRunInfo :=
          if_pos htaken
        have hsaves (h : ∀ message, faults.saveRunInfo ≠ .refused message) :
            Saves registry faults l runInfo :=
          ⟨by rw [hreg]; rfl, hvacant.1, hvacant.2, htaken, h⟩
        rw [hwithin, saveRunInfo, if_pos htaken]
        cases hsave : faults.saveRunInfo with
        | stored =>
          have hout : StartOutcome registry timeout dup env faults l runInfo input _ :=
            .saved (hsaves (by simp [hsave])) hsave hreg rfl
          have hpublish : faults.publishDirective.within
              (startDirective registered timeout env runInfo input).subject.Taken =
                faults.publishDirective := if_pos htaken.texts
          simpa [told, Publication.error?, Publication.after, answer, hpublish] using hout
        | refused message => exact .notSaved hreg hvacant (hwithin.trans hsave)
        | unconfirmed message => exact .unconfirmed (hsaves (by simp [hsave])) hsave
      · have hwithin : faults.saveRunInfo.within runInfo.Taken = .refused _ := if_neg htaken
        rw [hwithin]
        exact .notSaved hreg hvacant hwithin
    · rw [hrun]
      exact .running hreg hanswer hlive
    · rw [hrun]
      exact .notChecked hnot

/-- The outcomes of a command for the latest run of a workflow. -/
inductive CommandOutcome (dup : Stream → DirectiveID → Bool) (env : Readings) (faults : Faults)
    (l : Stream) (wf : WFID) : Result Unit × Stream → Prop
  | notFound {context : String} (h : Answers faults l wf none) :
      CommandOutcome dup env faults l wf
        (.error (Sentinel.workflowRunNotFound.error.wrap context), l)
  | notChecked {text : String} (h : ∀ latest, ¬ Answers faults l wf latest) :
      CommandOutcome dup env faults l wf (.error { message := text }, l)
  | terminal {run : RunInfo} (h : Answers faults l wf (some run))
      (hterm : run.status.isTerminal = true) :
      CommandOutcome dup env faults l wf (.error Sentinel.runTerminal.error, l)
  | published {run : RunInfo} {kind : DirectiveKind} {msg : DirectiveMessage} {name : String}
      {d : Directive} {p : Publication} (h : Answers faults l wf (some run))
      (hlive : run.status.isTerminal = false) (hd : d = commandDirective env kind run msg)
      (hmsg : msg.agrees kind = true)
      (hp : p = faults.publishDirective.within d.subject.Taken) :
      CommandOutcome dup env faults l wf
        (inContext ("failed to enqueue " ++ name ++ " directive")
          (told "failed to publish directive" p), p.after l (publishDirective dup l d))

theorem commandOutcome {kind : DirectiveKind} {name : String}
    {msg : RunInfo → Call DirectiveMessage}
    (hmsg : ∀ ri, ∃ m, (msg ri).run (answer registry dup faults) l = (m, l) ∧
      m.agrees kind = true) :
    CommandOutcome dup env faults l wf
      ((command env wf kind name msg).run (answer registry dup faults) l) := by
  rw [command, Program.run_call, answer]
  rcases lookup_cases faults l wf with ⟨run, h, ha⟩ | ⟨h, ha⟩ | ⟨text, h, hnot⟩
  · simp only [h]
    cases hterm : run.status.isTerminal with
    | true => exact .terminal ha hterm
    | false =>
      obtain ⟨m, hm, hagrees⟩ := hmsg run
      rw [if_neg (by simp), Program.run_bind, hm]
      exact .published ha hterm rfl hagrees rfl
  · simp only [h]
    exact .notFound ha
  · simp only [h]
    exact .notChecked hnot

theorem publishDirective_notMem_trace_createRunInfo (d : Directive) :
    .publishDirective d ∉ (createRunInfo info).trace (answer registry dup faults) l := by
  rw [createRunInfo, Program.trace_call]
  simp only [List.mem_cons, reduceCtorEq, false_or]
  split <;> split_ifs <;> simp

/-- The directive that a start publishes, if it comes to that. -/
theorem eq_startDirective_of_mem_trace {d : Directive}
    (h : .publishDirective d ∈
      (startRun timeout env runInfo input).trace (answer registry dup faults) l) :
    ∃ registered, registry.getStartStepTimeout runInfo.wfType = .ok registered ∧
      d = startDirective registered timeout env runInfo input := by
  rw [startRun, Program.trace_call, answer] at h
  simp only [List.mem_cons, reduceCtorEq, false_or] at h
  cases hreg : registry.getStartStepTimeout runInfo.wfType with
  | error e => simp [hreg] at h
  | ok registered =>
    simp only [hreg, Program.trace_bind, List.mem_append,
      publishDirective_notMem_trace_createRunInfo, false_or] at h
    split at h
    · simp at h
    · simp only [Program.trace_call, Program.trace_done, List.mem_singleton,
        Op.publishDirective.injEq] at h
      exact ⟨registered, rfl, h⟩

end Outcomes

/-! ### What the functions keep to -/

/-- The workflow that a lookup has found without an active run. -/
def vacant? : (op : Op) → op.Answer → Option WFID
  | .getRunByWFID wfID, (.error e : Result RunInfo) =>
    if e.is .workflowRunNotFound then some wfID else none
  | .getRunByWFID wfID, (.ok ri : Result RunInfo) => if ri.isTerminal then some wfID else none
  | _, _ => none

/-- A description is saved right after its workflow was found without an active run, and a directive
that is published decodes. -/
def Op.Allowed (vacant : Option WFID) : Op → Prop
  | .saveRunInfo info => vacant = some info.wfID
  | .publishDirective d => d.Decoded
  | _ => True

/-- What the functions of the service keep to; the monitor knows the workflow that the last call has
found vacant. -/
def monitor : Monitor Op Op.Answer (Option WFID) where
  next _ op a := vacant? op a
  ok := Op.Allowed

section Safe

variable {env : Readings} {q : Option WFID}

theorem safe_createRunInfo (info : RunInfo) :
    (createRunInfo info).Safe monitor (fun _ _ => True) q := by
  refine ⟨trivial, fun found => ?_⟩
  rcases found with e | ri
  · by_cases he : e.is .workflowRunNotFound = true
    · simp only [he, if_true]
      exact ⟨if_pos he, fun _ => trivial⟩
    · simp only [he]
      exact trivial
  · by_cases hterm : ri.isTerminal = true
    · simp only [hterm, if_true]
      exact ⟨if_pos hterm, fun _ => trivial⟩
    · simp only [hterm]
      exact trivial

theorem safe_startRun {timeout : UInt32} {runInfo : RunInfo} {input : Value}
    (hid : env.newID ≠ "") :
    (startRun timeout env runInfo input).Safe monitor (fun _ _ => True) q := by
  refine ⟨trivial, fun registered => ?_⟩
  rcases registered with e | registered
  · exact trivial
  · refine Program.Safe.bind ((safe_createRunInfo runInfo).mono fun q created _ => ?_)
    rcases created with e | _
    · exact trivial
    · exact ⟨⟨hid, rfl⟩, fun _ => trivial⟩

theorem safe_command {wfID : WFID} {kind : DirectiveKind} {name : String}
    {msg : RunInfo → Call DirectiveMessage} (hid : env.newID ≠ "")
    (hmsg : ∀ ri q, (msg ri).Safe monitor (fun _ m => m.agrees kind = true) q) :
    (command env wfID kind name msg).Safe monitor (fun _ _ => True) q := by
  refine ⟨trivial, fun found => ?_⟩
  rcases found with e | ri
  · exact trivial
  · by_cases hterm : ri.status.isTerminal = true
    · simp only [hterm, if_true]
      exact trivial
    · simp only [hterm]
      refine Program.Safe.bind ((hmsg ri _).mono fun q m hagrees => ?_)
      exact ⟨⟨hid, hagrees⟩, fun _ => trivial⟩

theorem safe_send {cmd : Command} (hid : env.newID ≠ "") :
    (send env cmd).Safe monitor (fun _ _ => True) q := by
  unfold send
  split
  · exact safe_command hid fun _ _ => ⟨trivial, fun _ => rfl⟩
  · exact trivial

theorem safe_terminate {cmd : Command} (hid : env.newID ≠ "") :
    (terminate env cmd).Safe monitor (fun _ _ => True) q := by
  unfold terminate
  split
  · exact safe_command hid fun _ _ => rfl
  · exact trivial

theorem safe_cancel {cmd : Command} (hid : env.newID ≠ "") :
    (cancel env cmd).Safe monitor (fun _ _ => True) q := by
  unfold cancel
  split
  · exact safe_command hid fun _ _ => rfl
  · exact trivial

theorem safe_describeRun {wfID : WFID} :
    (describeRun wfID).Safe monitor (fun _ _ => True) q :=
  ⟨trivial, fun _ => trivial⟩

end Safe

end Grctl.Service
