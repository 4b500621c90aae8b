import Grctl.Codec.Accepted
import Grctl.Store.Queries
import Grctl.Store.Registry
import Grctl.System.World

/-!
# The API

A client sends a command and gets an answer (`api/subs.go`, `api/handler.go`, `api/errors.go`). The
subscriber decodes the command, the handler checks that its message has the type of its kind and
calls the run service, and an error of the service is turned into a code: the error values that the
packages export are looked up in a map, and any other error is answered with a general code. Which
entry of the map is tried first is not determined.

A request is a program: it makes the calls of the run service, and for a registration one of the
type registry. A call can fail without an effect, or have its effect and fail all the same.
`handler` is a request that nothing interrupts. `Grctl.Api.Server` has the requests of a server take
turns, call by call.

## Main definitions

* `Api.newGrctlError`.
* `Api.Op`, `Api.Call`, `Api.handleMessage`, `Api.handling`: requests as programs.
* `Api.Server`, `Api.Faults`, `Api.perform`: one call.
* `Api.Request`, `Api.handler`.

## Main results

* `Api.run_lift`: a function of the service works on the stream of the server.
* `Api.safe_handling`: what requests keep to.
-/

namespace Grctl.Api

open SubjectLog Lts

/-! ### Errors -/

/-- `grctlError`. -/
structure GrctlError where
  code : ℕ
  message : String
  detail : String := ""
  deriving DecidableEq, Repr

/-- `ApiErrorMap`. -/
def apiErrorMap : Sentinel → GrctlError
  | .unknownAPICommand => { code := 4000, message := "Unknown API command" }
  | .workflowAlreadyRunning => { code := 4001, message := "Workflow already has an active run" }
  | .workflowRunNotFound => { code := 4002, message := "Workflow run not found" }
  | .runTerminal =>
    { code := 4003
      message := "Workflow run has already finished and cannot accept new commands" }
  | .workflowTypeNotRegistered => { code := 4004, message := "Workflow type not registered" }
  | .invalidMessageType => { code := 4005, message := "Invalid message type" }

/-- `NewgrctlError`, for the order in which the entries of the map come up. -/
def newGrctlError (order : List Sentinel) (e : GoError) : GrctlError :=
  match order.find? e.is with
  | some s => { apiErrorMap s with detail := e.message }
  | none => { code := 5000, message := e.message }

/-! ### Requests -/

/-- The calls of a request. -/
inductive Op
  | service (op : Service.Op)
  | putTypes (r : Registration)
  deriving DecidableEq, Repr

/-- What a call returns. -/
@[reducible] def Op.Answer : Op → Type
  | .service op => op.Answer
  | .putTypes _ => Result Unit

/-- A part of a request. -/
abbrev Call (α : Type) := Program Op Op.Answer α

/-- A function of the run service. -/
def lift {α : Type} (p : Service.Call α) : Call α := p.embed .service fun _ answer => answer

/-- `Register`. An empty catalogue does not reach the stream. -/
def register (env : Readings) (workerID : String) (types : List WorkflowTypeDef) :
    Call (Result Unit) :=
  if types.length = 0 then .done (.ok ())
  else .call (.putTypes { workerID := workerID, registeredAt := env.now, types := types }) .done

/-- The error of a message that does not fit the kind of its command. -/
def invalidMessageType (expected : String) (cmd : Command) : GoError :=
  Sentinel.invalidMessageType.withDetail
    ("expected " ++ expected ++ " for kind " ++ cmd.kind.text ++ ", got " ++ cmd.msg.goType)

/-- The result of a call without a payload. -/
def noPayload (p : Call (Result Unit)) : Call (Result (Option RunInfo)) :=
  p.map fun r => r.map fun _ => none

/-- `handleMessage`. -/
def handleMessage (cfg : Manager.Config) (env : Readings) (cmd : Command) :
    Call (Result (Option RunInfo)) :=
  match cmd.kind with
  | .runStart =>
    match cmd.msg with
    | .start runInfo input =>
      noPayload (lift (Service.startRun cfg.defaults.stepTimeoutMS env runInfo input))
    | _ => .done (.error (invalidMessageType "StartCmd" cmd))
  | .runCancel =>
    match cmd.msg with
    | .cancel .. => noPayload (lift (Service.cancel env cmd))
    | _ => .done (.error (invalidMessageType "CancelCmd" cmd))
  | .runDescribe =>
    match cmd.msg with
    | .describe wfID => (lift (Service.describeRun wfID)).map fun r => r.map some
    | _ => .done (.error (invalidMessageType "DescribeCmd" cmd))
  | .runTerminate =>
    match cmd.msg with
    | .terminate .. => noPayload (lift (Service.terminate env cmd))
    | _ => .done (.error (invalidMessageType "TerminateCmd" cmd))
  | .runEvent =>
    match cmd.msg with
    | .event .. => noPayload (lift (Service.send env cmd))
    | _ => .done (.error (invalidMessageType "EventCmd" cmd))
  | .workerRegister =>
    match cmd.msg with
    | .register workerID types => noPayload (register env workerID types)
    | _ => .done (.error (invalidMessageType "RegisterCmd" cmd))
  | .unset | .workerTerminateRun => .done (.error Sentinel.unknownAPICommand.error)

/-- `GrctlAPIResponse`. -/
inductive Response
  | success (payload : Option RunInfo)
  | failure (error : GrctlError)
  deriving DecidableEq, Repr

/-- The answer to a command that was handled. -/
def respond (order : List Sentinel) : Result (Option RunInfo) → Response
  | .ok payload => .success payload
  | .error e => .failure (newGrctlError order e)

/-- `handler`: a command that cannot be decoded is answered with its error, and a panic with one
that has no code. -/
def handling (cfg : Manager.Config) (env : Readings) (order : List Sentinel) (doc : Document) :
    Call Response :=
  match decodeCommand doc with
  | .error (.error message) => .done (.failure (newGrctlError order { message := message }))
  | .error fault => .done (.failure { code := 0, message := "internal error: " ++ fault.text })
  | .ok cmd => (handleMessage cfg env cmd).map (respond order)

/-! ### The server and its calls -/

/-- What the API works on, and the requests under way. -/
structure Server where
  world : World
  registry : RegistryLog
  requests : List (Call Response) := []

/-- A server with nothing stored. -/
def Server.init : Server where
  world := .init
  registry := .empty

/-- The server with another stream. -/
def Server.withStream (s : Server) (l : Stream) : Server :=
  { s with world := { s.world with stream := l } }

/-- How the calls of a request go: those of the run service, the reads of the registry and its
publications. -/
structure Faults extends Service.Faults where
  registry : Option String := none
  putTypes : Publication := .stored
  deriving DecidableEq, Repr

/-- The registry as the service reads it. -/
def Faults.reader (faults : Faults) (l : RegistryLog) : Service.Registry :=
  match faults.registry with
  | none => Registry.reader l
  | some text =>
    let error (wfType : WFType) : GoError :=
      { message := "failed to get registry entry for type " ++ wfType ++ ": " ++ text }
    { getStartStepTimeout := fun wfType => .error (error wfType)
      getEventDef := fun wfType _ => .error (error wfType) }

/-- One call: its answer, and the server after it. -/
def perform (cfg : Manager.Config) (faults : Faults) (s : Server) : (op : Op) → op.Answer × Server
  | .service op =>
    let r := Service.answer (faults.reader s.registry) cfg.dup faults.toFaults s.world.stream op
    (r.1, s.withStream r.2)
  | .putTypes r =>
    let p := faults.putTypes.within r.Accepted
    (Service.told "failed to commit registry batch" p,
      { s with registry := p.after s.registry (Registry.putTypes s.registry r) })

/-- What a request depends on besides the server: the clock and the identifier generator, the order
in which the map of the errors is searched, and how its calls go. -/
structure Request where
  env : Readings
  order : List Sentinel
  faults : Faults := {}
  deriving DecidableEq, Repr

/-- A request that nothing interrupts: its answer, and the server after it. -/
def handler (cfg : Manager.Config) (req : Request) (s : Server) (doc : Document) :
    Response × Server :=
  (handling cfg req.env req.order doc).run (perform cfg req.faults) s

/-- A function of the service works on the stream of the server. -/
theorem run_lift {α : Type} (cfg : Manager.Config) (faults : Faults) (s : Server)
    (p : Service.Call α) :
    (lift p).run (perform cfg faults) s =
      ((p.run (Service.answer (faults.reader s.registry) cfg.dup faults.toFaults)
          s.world.stream).1,
        s.withStream (p.run (Service.answer (faults.reader s.registry) cfg.dup faults.toFaults)
          s.world.stream).2) := by
  induction p generalizing s with
  | done a => rfl
  | call op next ih => exact ih _ _

/-! ### What requests keep to -/

/-- Requests keep to what the run service keeps to. -/
def monitor : Monitor Op Op.Answer (Option WFID) where
  next
    | q, .service op, answer => Service.monitor.next q op answer
    | _, .putTypes _, _ => none
  ok
    | q, .service op => Service.monitor.ok q op
    | _, .putTypes _ => True

/-- What is left of a request keeps to it. -/
def Proper (q : Option WFID) (p : Call Response) : Prop := p.Safe monitor (fun _ _ => True) q

section Safe

variable {α : Type} {q : Option WFID} {env : Readings}

theorem safe_lift {p : Service.Call α} (h : p.Safe Service.monitor (fun _ _ => True) q) :
    (lift p).Safe monitor (fun _ _ => True) q :=
  h.embed (fun _ _ h => h) fun _ _ _ => rfl

theorem safe_handleMessage (cfg : Manager.Config) (hid : env.newID ≠ "") (cmd : Command) :
    (handleMessage cfg env cmd).Safe monitor (fun _ _ => True) q := by
  rw [handleMessage]
  cases cmd.kind with
  | unset => exact trivial
  | workerTerminateRun => exact trivial
  | runStart =>
    cases cmd.msg with
    | start info input => exact .map (safe_lift (Service.safe_startRun hid))
    | _ => exact trivial
  | runCancel =>
    cases cmd.msg with
    | cancel wf reason => exact .map (safe_lift (Service.safe_cancel hid))
    | _ => exact trivial
  | runTerminate =>
    cases cmd.msg with
    | terminate wf reason => exact .map (safe_lift (Service.safe_terminate hid))
    | _ => exact trivial
  | runEvent =>
    cases cmd.msg with
    | event wf eventName payload => exact .map (safe_lift (Service.safe_send hid))
    | _ => exact trivial
  | runDescribe =>
    cases cmd.msg with
    | describe wf => exact .map (safe_lift Service.safe_describeRun)
    | _ => exact trivial
  | workerRegister =>
    cases cmd.msg with
    | register workerID types =>
      refine .map ?_
      rw [register]
      split_ifs
      · exact trivial
      · exact ⟨trivial, fun _ => trivial⟩
    | _ => exact trivial

theorem safe_handling (cfg : Manager.Config) (hid : env.newID ≠ "") (order : List Sentinel)
    (doc : Document) : Proper q (handling cfg env order doc) := by
  rw [handling]
  split
  · exact trivial
  · exact trivial
  · exact Program.Safe.map (safe_handleMessage cfg hid _)

end Safe

end Grctl.Api
