import Mathlib.Algebra.Group.Int.Defs
import Mathlib.Data.Int.Order.Basic

/-!
# Identifiers, times and run descriptions

The plain data of `types/external/v1`: identifiers are strings, a `Time` counts nanoseconds from
Go's zero time, and a Go pointer or nullable field is an `Option`. An open string type with named
constants (`RunStatus`, `TimerKind`) is an inductive type with one further constructor for any
other string.

## Main definitions

* `Fault`, `Outcome`: how a Go call can fail here, with an error or by a panic.
* `RunInfo` and its status transitions `RunInfo.start`, `RunInfo.startStep`, `RunInfo.wait`,
  `RunInfo.complete`, `RunInfo.fail`, `RunInfo.cancel`, `RunInfo.terminate`.
-/

namespace Grctl

abbrev WFID := String
abbrev RunID := String
abbrev WFType := String
abbrev DirectiveID := String
abbrev TimerID := String
abbrev WorkerID := String
abbrev CmdID := String

/-- Nanoseconds since Go's zero time. -/
abbrev Time := ℤ

/-- `Time.IsZero`. -/
def Time.isZero (t : Time) : Bool := t == 0

/-- `t.Sub(u).Milliseconds()`: the difference saturates at the bounds of a signed 64-bit
duration and is truncated towards zero. -/
def Time.subMilliseconds (t u : Time) : ℤ :=
  (max (-(2 ^ 63)) (min (2 ^ 63 - 1) (t - u))).tdiv 1000000

/-- `t.Add(time.Duration(ms) * time.Millisecond)`. -/
def Time.addMilliseconds (t : Time) (ms : UInt32) : Time := t + ms.toNat * 1000000

/-- How a call fails: with an error value, whose text is kept, or by a panic, which is a nil
dereference or a type assertion without a check. -/
inductive Fault
  | error (message : String)
  | nilDereference
  | typeAssertion
  deriving DecidableEq, Repr

/-- The result of a fallible Go call. -/
abbrev Outcome (α : Type) := Except Fault α

/-- `fmt.Errorf("…")`. -/
def fail {α : Type} (message : String) : Outcome α := .error (.error message)

/-- One character under the verb `%q`. -/
def quotedChar (c : Char) : String :=
  match c.toNat with
  | 7 => "\\a"
  | 8 => "\\b"
  | 9 => "\\t"
  | 10 => "\\n"
  | 11 => "\\v"
  | 12 => "\\f"
  | 13 => "\\r"
  | 34 => "\\\""
  | 92 => "\\\\"
  | n =>
    if n < 32 ∨ n = 127 then "\\x" ++ String.ofList [(n / 16).digitChar, (n % 16).digitChar]
    else String.ofList [c]

/-- A text under the verb `%q`. All characters beyond ASCII are taken to be printable. -/
def quoted (s : String) : String := "\"" ++ String.join (s.toList.map quotedChar) ++ "\""

/-- `fmt.Errorf("context: %w", err)`: an error is given a context, a panic passes through. -/
def wrap {α : Type} (context : String) : Outcome α → Outcome α
  | .error (.error message) => .error (.error (context ++ ": " ++ message))
  | r => r

@[simp] theorem wrap_ok {α : Type} (context : String) (a : α) :
    wrap context (.ok a : Outcome α) = .ok a := rfl

/-- A context changes the text of an error only, so it does not change when a call succeeds. -/
@[simp] theorem wrap_eq_ok {α : Type} {context : String} {r : Outcome α} {a : α} :
    wrap context r = .ok a ↔ r = .ok a := by
  rcases r with (_ | _ | _) | _ <;> simp [wrap]

@[simp] theorem wrap_eq_panic {α : Type} {context : String} {r : Outcome α} :
    wrap context r = .error .nilDereference ↔ r = .error .nilDereference := by
  rcases r with (_ | _ | _) | _ <;> simp [wrap]

@[simp] theorem bind_eq_ok {α β : Type} {x : Outcome α} {f : α → Outcome β} {b : β} :
    (x >>= f) = .ok b ↔ ∃ a, x = .ok a ∧ f a = .ok b := by
  rcases x with _ | _ <;> simp [Bind.bind, Except.bind]

@[simp] theorem pure_eq_ok {α : Type} {a b : α} : (pure a : Outcome α) = .ok b ↔ a = b := by
  simp [Pure.pure, Except.pure]

@[simp] theorem fail_ne_ok {α : Type} {message : String} {a : α} :
    ¬ (fail message : Outcome α) = .ok a := by
  simp [fail]

/-- The status of a run as clients see it. -/
inductive RunStatus
  | pending
  | scheduled
  | running
  | completed
  | failed
  | cancelled
  | timedOut
  | terminated
  | other (text : String)
  deriving DecidableEq, Repr

/-- `RunStatus.IsTerminal`. -/
def RunStatus.isTerminal (s : RunStatus) : Bool :=
  s == .completed || s == .failed || s == .cancelled || s == .timedOut || s == .terminated

/-- `ErrorDetails`. -/
structure ErrorDetails where
  message : String
  stackTrace : String := ""
  type : String
  deriving DecidableEq, Repr

/-- A value of Go's `any` as it travels through msgpack: nil, some encoded value, or the map a
finished child hands to its parent (`handleNotifyParentComplete`). -/
inductive Value
  | nil
  | raw (encoded : String)
  | childOutcome (status : RunStatus) (result : Value) (error : Option ErrorDetails)
  deriving DecidableEq, Repr

/-- `RunInfo`: the description of a run that every directive carries. -/
structure RunInfo where
  id : RunID
  wfID : WFID
  wfType : WFType
  status : RunStatus := .other ""
  workerName : String := ""
  parentWFID : Option WFID := none
  parentWFType : Option WFType := none
  parentRunID : Option RunID := none
  parentCallbackStep : Option String := none
  timeout : Option ℤ := none
  createdAt : Time := 0
  scheduledAt : Option Time := none
  startedAt : Option Time := none
  completedAt : Option Time := none
  historySeqID : ℕ := 0
  deriving DecidableEq, Repr

namespace RunInfo

/-- The zero value `RunInfo{}`. -/
def zero : RunInfo where
  id := ""
  wfID := ""
  wfType := ""

/-- `RunInfo.IsTerminal`. -/
def isTerminal (ri : RunInfo) : Bool := ri.status.isTerminal

/-- The creation time is filled in by the first transition that finds it unset. -/
def withCreatedAt (ri : RunInfo) (timestamp : Time) : RunInfo :=
  if ri.createdAt.isZero then { ri with createdAt := timestamp } else ri

/-- `RunInfo.Start`. -/
def start (ri : RunInfo) (timestamp : Time) : Outcome RunInfo :=
  .ok { ri.withCreatedAt timestamp with status := .running, startedAt := some timestamp }

/-- `RunInfo.StartStep`; the step name is not recorded. -/
def startStep (ri : RunInfo) (_stepName : String) (timestamp : Time) : Outcome RunInfo :=
  .ok { ri.withCreatedAt timestamp with status := .running }

/-- `RunInfo.Wait`. -/
def wait (ri : RunInfo) (_timestamp : Time) : Outcome RunInfo :=
  .ok { ri with status := .running }

/-- `RunInfo.Complete` and `RunInfo.Fail` refuse a run that has no start time, with one text. -/
def finishStarted (ri : RunInfo) (status : RunStatus) (timestamp : Time) :
    Outcome RunInfo :=
  match ri.startedAt with
  | none => Grctl.fail "cannot complete run without start time"
  | some _ => .ok { ri with status := status, completedAt := some timestamp }

/-- `RunInfo.Complete`. -/
def complete (ri : RunInfo) (timestamp : Time) : Outcome RunInfo :=
  ri.finishStarted .completed timestamp

/-- `RunInfo.Fail`. -/
def fail (ri : RunInfo) (timestamp : Time) : Outcome RunInfo :=
  ri.finishStarted .failed timestamp

/-- `RunInfo.Cancel` has no check of the start time. -/
def cancel (ri : RunInfo) (timestamp : Time) : Outcome RunInfo :=
  .ok { ri with status := .cancelled, completedAt := some timestamp }

/-- `RunInfo.Terminate`. -/
def terminate (ri : RunInfo) (timestamp : Time) : Outcome RunInfo :=
  .ok { ri with status := .terminated, completedAt := some timestamp }

/-- Two descriptions of one run. -/
structure SameRun (ri ri' : RunInfo) : Prop where
  id : ri.id = ri'.id
  wfID : ri.wfID = ri'.wfID
  wfType : ri.wfType = ri'.wfType

theorem SameRun.refl (ri : RunInfo) : SameRun ri ri := ⟨rfl, rfl, rfl⟩

theorem SameRun.trans {a b c : RunInfo} (h : SameRun a b) (h' : SameRun b c) : SameRun a c :=
  ⟨h.id.trans h'.id, h.wfID.trans h'.wfID, h.wfType.trans h'.wfType⟩

@[simp] theorem withCreatedAt_id (ri : RunInfo) (t : Time) : (ri.withCreatedAt t).id = ri.id := by
  unfold withCreatedAt; split_ifs <;> rfl

@[simp] theorem withCreatedAt_wfID (ri : RunInfo) (t : Time) :
    (ri.withCreatedAt t).wfID = ri.wfID := by
  unfold withCreatedAt; split_ifs <;> rfl

@[simp] theorem withCreatedAt_wfType (ri : RunInfo) (t : Time) :
    (ri.withCreatedAt t).wfType = ri.wfType := by
  unfold withCreatedAt; split_ifs <;> rfl

theorem sameRun_of_start {ri ri' : RunInfo} {t : Time} (h : ri.start t = .ok ri') :
    SameRun ri' ri ∧ ri'.startedAt = some t ∧ ri'.status = .running := by
  cases h
  exact ⟨by constructor <;> simp, rfl, rfl⟩

theorem sameRun_of_startStep {ri ri' : RunInfo} {name : String} {t : Time}
    (h : ri.startStep name t = .ok ri') : SameRun ri' ri ∧ ri'.status = .running := by
  cases h
  exact ⟨by constructor <;> simp, rfl⟩

theorem sameRun_of_finishStarted {ri ri' : RunInfo} {status : RunStatus} {t : Time}
    (h : ri.finishStarted status t = .ok ri') : SameRun ri' ri ∧ ri'.status = status := by
  rw [finishStarted] at h
  split at h
  · simp at h
  · cases h
    exact ⟨⟨rfl, rfl, rfl⟩, rfl⟩

end RunInfo

end Grctl
