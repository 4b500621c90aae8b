import Grctl.Types.RunInfo

/-!
# Error values

The packages of the server export a few error values, and callers ask with `errors.Is` whether one
of them is in the chain of an error. An error is therefore a text together with the exported errors
that it wraps. The answer to a client depends on them.

## Main definitions

* `Sentinel`, `GoError`, `GoError.is`, `GoError.wrap`, `Result`.
-/

namespace Grctl

/-- The exported errors that the API has a code for. -/
inductive Sentinel
  | unknownAPICommand
  | workflowAlreadyRunning
  | workflowRunNotFound
  | runTerminal
  | workflowTypeNotRegistered
  | invalidMessageType
  deriving DecidableEq, Repr

/-- The texts of the exported errors. -/
def Sentinel.message : Sentinel → String
  | .unknownAPICommand => "unknown API command"
  | .workflowAlreadyRunning => "workflow already has an active run"
  | .workflowRunNotFound => "workflow run not found"
  | .runTerminal => "workflow run is in a terminal state"
  | .workflowTypeNotRegistered => "workflow type not registered"
  | .invalidMessageType => "message type does not match command kind"

/-- An error value: its text, and the exported errors in its chain. -/
structure GoError where
  message : String
  chain : List Sentinel := []
  deriving DecidableEq, Repr

/-- `errors.Is`. -/
def GoError.is (e : GoError) (s : Sentinel) : Bool := decide (s ∈ e.chain)

/-- `fmt.Errorf("context: %w", err)`. -/
def GoError.wrap (context : String) (e : GoError) : GoError :=
  { e with message := context ++ ": " ++ e.message }

/-- An exported error itself. -/
def Sentinel.error (s : Sentinel) : GoError where
  message := s.message
  chain := [s]

/-- `fmt.Errorf("%w: …", sentinel)`. -/
def Sentinel.withDetail (s : Sentinel) (detail : String) : GoError where
  message := s.message ++ ": " ++ detail
  chain := [s]

/-- The text of an error, or the one that a panic is reported with; that of a type assertion goes on
to name the types. -/
def Fault.text : Fault → String
  | .error message => message
  | .nilDereference => "runtime error: invalid memory address or nil pointer dereference"
  | .typeAssertion => "interface conversion"

/-- The result of a call whose errors are looked at by `errors.Is`. -/
abbrev Result (α : Type) := Except GoError α

end Grctl
