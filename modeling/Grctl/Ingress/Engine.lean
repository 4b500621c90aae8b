import Grctl.Api.Server
import Grctl.Log.Consumer
import Grctl.Run.Fragments
import Grctl.Run.Timer
import Grctl.System.Callback
import Grctl.System.Results

/-!
# The whole server

`server/server.go` puts the server together: the requests of clients, the run manager behind the
queue of directives, the handler of fired timers and the handler of background tasks. The last two
are fed by durable consumers (`ingress/timer.go`, `ingress/bgtask.go`): a message is delivered until
a handler has processed it, with the number of its deliveries, and the handler's result is turned
into an acknowledgement or a refusal.

This file adds these two consumers to the server that answers requests. A handler of a background
task takes its steps one by one: it purges one pattern after the other, and it looks a parent up
before it publishes the callback. Between any two steps everything else can happen. Each operation
can fail, without an effect or after it has had one, an acknowledgement can get lost, and a panic of
the run manager ends all handlers.

## Main definitions

* `publishWorkerCommand`: a command to a worker.
* `settles`: what the consumers make of the result of a handler.
* `Engine`, `Action`, `engineStep`: the server and its steps.

## Main results

* `engine_refines_server`: with all its handlers, the server only takes steps of the server that
  answers requests and of the system.
-/

namespace Grctl.Ingress

open SubjectLog Lts Redelivery

/-! ### Commands to workers -/

/-- What comes back for a request to a worker. -/
inductive Reply
  | replied
  | noResponders
  | timeout
  | failed (text : String)
  deriving DecidableEq, Repr

/-- The errors of `PublishWorkerCommand`; `unreachable` is `ErrWorkerUnreachable`. -/
inductive WorkerError
  | unreachable
  | other (message : String)
  deriving DecidableEq, Repr

/-- The command that `handleWorkerTerminateRun` sends. -/
def workerTerminateCommand (env : Readings) (runID : RunID) : Command where
  id := env.newID
  kind := .workerTerminateRun
  timestamp := env.now
  msg := .workerTerminateRun runID

/-- `PublishWorkerCommand`: the command that leaves the server, if one does, and the error. -/
def publishWorkerCommand (senderID : String) (reply : Reply) (cmd : Command) :
    Option Command × Option WorkerError :=
  let cmd := { cmd with senderID := senderID }
  match encodeCommand cmd with
  | .error (.error text) => (none, some (.other ("failed to marshal worker command: " ++ text)))
  | .error _ => (none, some (.other "failed to marshal worker command"))
  | .ok _ =>
    (some cmd, match reply with
      | .replied => none
      | .noResponders => some .unreachable
      | .timeout => some .unreachable
      | .failed text => some (.other ("worker command request failed: " ++ text)))

/-! ### The consumers -/

/-- What a consumer tells the stream about a delivery. -/
inductive Settlement
  | ack
  | nak
  | nakWithDelay
  deriving DecidableEq, Repr

/-- `processMessage`, once the handler has returned. -/
def settles : HandleResult → Settlement
  | .processed => .ack
  | .retryable => .nakWithDelay
  | .failed => .nak

/-- What one step of a handler depends on: the clock and the identifier generator, how the operation
it makes goes, what a worker replies, and whether the acknowledgement arrives. -/
structure Attempt where
  env : Readings
  outcome : Publication := .stored
  reply : Reply := .replied
  ack : Bool := true
  deriving DecidableEq, Repr

/-- The handling of a fired timer. -/
structure TimerCall where
  timer : Timer
  numDelivered : ℕ
  deriving DecidableEq, Repr

/-- How far the handling of a background task has come: delivered, with the number of deliveries it
was told; with a purge under way, by its place among the purges; or with a parent found. -/
inductive TaskStage
  | delivered (numDelivered : ℕ)
  | purging (k : ℕ)
  | notifying (payload : NotifyParentCompletePayload) (parent : RunInfo)
  deriving DecidableEq, Repr

/-- The handling of a background task. -/
structure TaskCall where
  task : BackgroundTask
  stage : TaskStage
  deriving DecidableEq, Repr

/-- The server: what the API works on, the consumers of fired timers and of background tasks, and
the commands that workers were sent. -/
structure Engine where
  server : Api.Server
  timers : Consumer ℕ TimerCall := {}
  tasks : Consumer ℕ TaskCall := {}
  requests : List (WorkerID × Command) := []

namespace Engine

/-- A server with nothing stored. -/
def init : Engine where
  server := .init

/-- The world of the server. -/
def world (e : Engine) : World := e.server.world

/-- The server with another world. -/
def withWorld (e : Engine) (w : World) : Engine :=
  { e with server := { e.server with world := w } }

/-- The server with another stream. -/
def withStream (e : Engine) (l : Stream) : Engine := e.withWorld { e.world with stream := l }

/-- A panic ends all handlers. -/
def restart (e : Engine) : Engine := { e with timers := e.timers.stop, tasks := e.tasks.stop }

@[simp] theorem world_withWorld (e : Engine) (w : World) : (e.withWorld w).world = w := rfl
@[simp] theorem world_withStream (e : Engine) (l : Stream) :
    (e.withStream l).world = { e.world with stream := l } := rfl

end Engine

/-- The delivery count that `processMessage` passes on; it is taken to be one when the metadata of
the message cannot be read. -/
def numDelivered (metadata : Bool) (count : ℕ) : ℕ := if metadata then count else 1

/-- The result of a handler whose last operation went so. -/
def resultOf : Publication → HandleResult
  | .stored => .processed
  | .refused _ | .unconfirmed _ => .retryable

/-- One step of `BgTaskHandler.Handle`: the handler goes on, or returns a result. -/
def taskStep (cfg : Manager.Config) (senderID : String) (e : Engine) (call : TaskCall)
    (a : Attempt) : Option (Engine × (TaskStage ⊕ HandleResult)) :=
  match call.stage with
  | .delivered n =>
    match BgTask.handle cfg.maxTaskDeliveries call.task n with
    | .discard => some (e, .inr .processed)
    | .cancelTimer wfID kind timerID =>
      some (e.withStream (a.outcome.after e.world.stream
        (e.world.stream.purge (· == .timer wfID kind timerID))), .inr (resultOf a.outcome))
    | .deleteInboxEvent seqID =>
      if e.world.entryAt seqID = none then some (e, .inr .retryable)
      else some (e.withStream (a.outcome.after e.world.stream (e.world.stream.remove seqID)),
        .inr (resultOf a.outcome))
    | .purgeRunResidue wfID =>
      some (e.withWorld { e.world with purges := e.world.purges ++
        [{ task := call.task, pending := purgePatterns wfID }] },
        .inl (.purging e.world.purges.length))
    | .notifyParent payload =>
      if a.outcome ≠ .stored then some (e, .inr .retryable)
      else match BgTask.parentRun e.world.stream payload with
        | .error _ => some (e, .inr .retryable)
        | .ok none => some (e, .inr .processed)
        | .ok (some parent) => some (e, .inl (.notifying payload parent))
    | .terminateWorkerRun workerID runID =>
      let (sent, err) :=
        publishWorkerCommand senderID a.reply (workerTerminateCommand a.env runID)
      some ({ e with requests := e.requests ++ (sent.map (workerID, ·)).toList },
        .inr (match err with
          | none => .processed
          | some .unreachable => .processed
          | some (.other _) => .retryable))
  | .purging k =>
    match e.world.purges[k]? with
    | none => none
    | some { pending := [], .. } => some (e, .inr .processed)
    | some { task, pending := p :: ps } =>
      some (e.withWorld (a.outcome.after e.world { e.world with
        stream := e.world.stream.purge p.covers
        purges := e.world.purges.set k { task := task, pending := ps } }),
        if a.outcome = .stored then .inl (.purging k) else .inr .retryable)
  | .notifying payload parent =>
    let d := BgTask.parentDirective a.env.now call.task payload parent
    let p := a.outcome.within d.subject.Taken
    some (e.withStream (p.after e.world.stream (publishDirective cfg.dup e.world.stream d)),
      .inr (resultOf p))

/-- `TimerMsgHandler.Handle` with its publication. -/
def timerStep (cfg : Manager.Config) (e : Engine) (call : TimerCall) (a : Attempt) :
    Engine × HandleResult :=
  match TimerMsgHandler.handle cfg.maxTimerDeliveries a.env call.timer call.numDelivered with
  | none => (e, .processed)
  | some d =>
    let p := a.outcome.within d.subject.Taken
    (e.withStream (p.after e.world.stream (publishDirective cfg.dup e.world.stream d)), resultOf p)

/-! ### The steps -/

/-- What happens to a server: a step of the server that answers requests, and what the consumers and
their handlers do. A delivery is dropped when its handler does not return in time. -/
inductive Action
  | server (a : Api.Action)
  | deliverTimer (i : ℕ) (metadata : Bool)
  | handleTimer (k : ℕ) (a : Attempt)
  | dropTimer (k : ℕ)
  | deliverTask (seq : ℕ) (metadata : Bool)
  | handleTask (k : ℕ) (a : Attempt)
  | dropTask (k : ℕ)

/-- Whether a call of the run manager panics in a step. -/
def Action.panics (cfg : Manager.Config) (w : World) : Action → Bool
  | .server (.internal a) => Grctl.panics cfg w a
  | _ => false

/-- The step of the server that answers requests. -/
def Action.server? : Action → Option Api.Action
  | .server a => some a
  | _ => none

/-- The identifier that the handler of a fired timer draws. -/
def Action.drawn? : Action → Option DirectiveID
  | .handleTimer _ a => some a.env.newID
  | _ => none

/-- Generated identifiers are not empty. -/
def Action.Fresh (a : Action) : Prop :=
  (∀ b ∈ a.server?, b.Fresh) ∧ ∀ id ∈ a.drawn?, id ≠ ""

instance (a : Action) : Decidable a.Fresh :=
  inferInstanceAs (Decidable (_ ∧ ∀ id ∈ a.drawn?, _))

/-- One step of the server. -/
def engineStep (cfg : Manager.Config) (senderID : String) (e : Engine) : Action → Option Engine
  | .server a =>
    (Api.serverStep cfg e.server a).map fun s =>
      let e' := { e with server := s }
      if Action.panics cfg e.world (.server a) then e'.restart else e'
  | .deliverTimer i metadata =>
    match e.world.fired[i]? with
    | none => none
    | some t =>
      if i ∈ e.timers.acked then none
      else
        let call := { timer := t, numDelivered := numDelivered metadata (e.timers.count i + 1) }
        some { e with timers := e.timers.deliver i call }
  | .handleTimer k a =>
    match e.timers.jobs[k]? with
    | none => none
    | some j =>
      let (e', result) := timerStep cfg e j.stage a
      some { e' with timers := e'.timers.settle k j (settles result == .ack && a.ack) }
  | .dropTimer k => some { e with timers := e.timers.drop k }
  | .deliverTask seq metadata =>
    match e.world.entryAt seq with
    | some { subject := .bgTask, data := .bgTask task, .. } =>
      if seq ∈ e.tasks.acked then none
      else
        let stage := .delivered (numDelivered metadata (e.tasks.count seq + 1))
        some { e with tasks := e.tasks.deliver seq { task := task, stage := stage } }
    | _ => none
  | .handleTask k a =>
    match e.tasks.jobs[k]? with
    | none => none
    | some j =>
      (taskStep cfg senderID e j.stage a).map fun (e', r) =>
        match r with
        | .inl stage => { e' with tasks := e'.tasks.move k j { j.stage with stage := stage } }
        | .inr result =>
          { e' with tasks := e'.tasks.settle k j (settles result == .ack && a.ack) }
  | .dropTask k => some { e with tasks := e.tasks.drop k }

/-- The servers of the runs whose steps satisfy `ok`. -/
def EngineReachableBy (cfg : Manager.Config) (senderID : String) (ok : Engine → Action → Prop) :
    Engine → Prop :=
  Reach (engineStep cfg senderID) ok .init

/-- The servers reached by requests, by steps of the system and by the handlers, in any order. -/
def EngineReachable (cfg : Manager.Config) (senderID : String) : Engine → Prop :=
  EngineReachableBy cfg senderID fun _ a => a.Fresh

/-! ### What a handler of a background task does -/

/-- The stream holds a background task under the number `seq`. -/
def TaskAt (l : Stream) (seq : ℕ) (task : BackgroundTask) : Prop :=
  ∃ e ∈ l.entries, e.seq = seq ∧ e.subject = .bgTask ∧ e.data = .bgTask task

section TaskAt

variable {cfg : Manager.Config} {w : World} {l l' : Stream} {seq n : ℕ} {task : BackgroundTask}

theorem TaskAt.mono (h : TaskAt l seq task) (hl : l.Extends l') : TaskAt l' seq task := by
  obtain ⟨e, he, hseq, hsubject, hdata⟩ := h
  obtain ⟨e', he', hm, hseq'⟩ := hl.kept e he
  exact ⟨e', he', hseq'.trans hseq, by rw [hm, hsubject], by rw [hm, hdata]⟩

/-- Tasks are never removed from the stream. -/
theorem TaskAt.entryAt (h : TaskAt w.stream seq task) (hw : Reachable cfg w) :
    ∃ e, w.entryAt seq = some e ∧ e.subject = .bgTask ∧ e.data = .bgTask task := by
  obtain ⟨e, he, rfl, hsubject, hdata⟩ := h
  have hlive := live_of_not_isResidue hw e he (by rw [hsubject]; rfl)
  cases hat : w.entryAt e.seq with
  | none =>
    have hnot := List.find?_eq_none.mp hat e he
    simp [hlive] at hnot
  | some e' =>
    obtain ⟨he', -, hseq⟩ := mem_of_entryAt hat
    cases Log.eq_of_seq_eq he' he hseq
    exact ⟨e, rfl, hsubject, hdata⟩

/-- The tasks in the stream are ones that the server has asked for. -/
theorem TaskAt.asked (h : TaskAt w.stream seq task) (hw : Reachable cfg w) : task.Asked := by
  obtain ⟨e, he, -, -, hdata⟩ := h
  obtain ⟨c, hc, hr⟩ := exists_commit_of_bgTask hw he hdata
  have hasks := forall_mem_journal (Q := fun c => AsksFor c.records) hw
    (fun w c sn records l _ hb => by
      obtain ⟨env, failEnv, hplanned⟩ := hb.planned
      exact asked_of_handleRecords hplanned) c hc
  exact hasks task hr

end TaskAt

/-- What one step of the handler of a background task can do. -/
inductive TaskChange (cfg : Manager.Config) (e : Engine) (call : TaskCall) :
    Engine → TaskStage ⊕ HandleResult → Prop
  | retry {sent : List (WorkerID × Command)} :
      TaskChange cfg e call { e with requests := e.requests ++ sent } (.inr .retryable)
  | exhausted {n : ℕ} (hstage : call.stage = .delivered n) (hn : cfg.maxTaskDeliveries < n) :
      TaskChange cfg e call e (.inr .processed)
  | timer {n : ℕ} {wf : WFID} {kind : TimerKind} {id : TimerID} {result : HandleResult}
      (htask : BgTask.handle cfg.maxTaskDeliveries call.task n = .cancelTimer wf kind id) :
      TaskChange cfg e call (e.withStream (e.world.stream.purge (· == .timer wf kind id)))
        (.inr result)
  | begun {n : ℕ} {wf : WFID}
      (htask : BgTask.handle cfg.maxTaskDeliveries call.task n = .purgeRunResidue wf) :
      TaskChange cfg e call (e.withWorld { e.world with purges := e.world.purges ++
        [{ task := call.task, pending := purgePatterns wf }] })
        (.inl (.purging e.world.purges.length))
  | purge {k : ℕ} {task : BackgroundTask} {p : PurgePattern} {ps : List PurgePattern}
      {r : TaskStage ⊕ HandleResult} (hstage : call.stage = .purging k)
      (hk : e.world.purges[k]? = some { task := task, pending := p :: ps })
      (hr : r = .inl (.purging k) ∨ r = .inr .retryable) :
      TaskChange cfg e call (e.withWorld { e.world with
        stream := e.world.stream.purge p.covers
        purges := e.world.purges.set k { task := task, pending := ps } }) r
  | purged {k : ℕ} {task : BackgroundTask} (hstage : call.stage = .purging k)
      (hk : e.world.purges[k]? = some { task := task, pending := [] }) :
      TaskChange cfg e call e (.inr .processed)
  | parentEnded {n : ℕ} {payload : NotifyParentCompletePayload}
      (htask : BgTask.handle cfg.maxTaskDeliveries call.task n = .notifyParent payload)
      (hparent : BgTask.parentRun e.world.stream payload = .ok none) :
      TaskChange cfg e call e (.inr .processed)
  | parentFound {n : ℕ} {payload : NotifyParentCompletePayload} {parent : RunInfo}
      (htask : BgTask.handle cfg.maxTaskDeliveries call.task n = .notifyParent payload) :
      TaskChange cfg e call e (.inl (.notifying payload parent))
  | notified {payload : NotifyParentCompletePayload} {parent : RunInfo} {d : Directive} {now : Time}
      {result : HandleResult} (hstage : call.stage = .notifying payload parent)
      (hd : d = BgTask.parentDirective now call.task payload parent) (htaken : d.subject.Taken) :
      TaskChange cfg e call (e.withStream (publishDirective cfg.dup e.world.stream d)) (.inr result)
  | told {n : ℕ} {workerID : WorkerID} {runID : RunID} {cmd : Command}
      (htask : BgTask.handle cfg.maxTaskDeliveries call.task n =
        .terminateWorkerRun workerID runID)
      (hcmd : cmd.msg = .workerTerminateRun runID) :
      TaskChange cfg e call { e with requests := e.requests ++ [(workerID, cmd)] }
        (.inr .processed)

section TaskChange

variable {cfg : Manager.Config} {senderID : String} {e e' : Engine} {call : TaskCall} {a : Attempt}
  {r : TaskStage ⊕ HandleResult}

/-- A task that the server has asked for is only discarded when it was delivered too often. -/
theorem exhausted_of_discard {m n : ℕ} {task : BackgroundTask} (hasked : task.Asked)
    (h : BgTask.handle m task n = .discard) : m < n := by
  by_contra hn
  rw [BgTask.handle, if_neg hn] at h
  cases hasked <;> cases h

theorem handle_ne_deleteInboxEvent {m n seqID : ℕ} {task : BackgroundTask} (hasked : task.Asked) :
    BgTask.handle m task n ≠ .deleteInboxEvent seqID := by
  intro h
  rw [BgTask.handle] at h
  split_ifs at h
  cases hasked <;> cases h

/-- A command that is processed has left the server. -/
theorem publishWorkerCommand_cases (senderID : String) (answer : Reply) (cmd : Command) :
    (∃ sent text, publishWorkerCommand senderID answer cmd = (sent, some (.other text))) ∨
    ∃ sent err, publishWorkerCommand senderID answer cmd = (some sent, err) ∧
      sent.msg = cmd.msg ∧ (err = none ∨ err = some .unreachable) := by
  unfold publishWorkerCommand
  dsimp only
  cases encodeCommand { cmd with senderID := senderID } with
  | error fault => cases fault <;> exact .inl ⟨none, _, rfl⟩
  | ok doc =>
    cases answer with
    | failed text => exact .inl ⟨_, _, rfl⟩
    | replied => exact .inr ⟨_, _, rfl, rfl, .inl rfl⟩
    | noResponders => exact .inr ⟨_, _, rfl, rfl, .inr rfl⟩
    | timeout => exact .inr ⟨_, _, rfl, rfl, .inr rfl⟩

theorem taskChange_of_step (hasked : call.task.Asked)
    (h : taskStep cfg senderID e call a = some (e', r)) : TaskChange cfg e call e' r := by
  have hretry : TaskChange cfg e call e (.inr .retryable) := by
    have hnone : TaskChange cfg e call { e with requests := e.requests ++ [] } _ := .retry
    rwa [List.append_nil] at hnone
  rw [taskStep] at h
  cases hstage : call.stage with
  | delivered n =>
    simp only [hstage] at h
    cases htask : BgTask.handle cfg.maxTaskDeliveries call.task n with
    | discard =>
      rw [htask] at h
      cases h
      exact .exhausted hstage (exhausted_of_discard hasked htask)
    | cancelTimer wf kind id =>
      simp only [htask] at h
      cases houtcome : a.outcome <;> rw [houtcome] at h <;> cases h
      · exact .timer htask
      · exact hretry
      · exact .timer htask
    | deleteInboxEvent seqID => exact absurd htask (handle_ne_deleteInboxEvent hasked)
    | purgeRunResidue wf =>
      rw [htask] at h
      cases h
      exact .begun htask
    | notifyParent payload =>
      simp only [htask] at h
      split_ifs at h
      · cases h
        exact hretry
      · split at h <;> cases h
        · exact hretry
        · exact .parentEnded htask ‹_›
        · exact .parentFound htask
    | terminateWorkerRun workerID runID =>
      simp only [htask] at h
      rcases publishWorkerCommand_cases senderID a.reply (workerTerminateCommand a.env runID) with
        ⟨sent, text, hsent⟩ | ⟨sent, err, hsent, hmsg, herr⟩
      · rw [hsent] at h
        cases h
        exact .retry
      · rw [hsent] at h
        rcases herr with rfl | rfl <;> cases h <;> exact .told htask hmsg
  | purging k =>
    simp only [hstage] at h
    split at h
    · cases h
    · cases h
      exact .purged hstage ‹_›
    · cases houtcome : a.outcome <;> rw [houtcome] at h <;> cases h
      · exact .purge hstage ‹_› (.inl rfl)
      · exact hretry
      · exact .purge hstage ‹_› (.inr rfl)
  | notifying payload parent =>
    simp only [hstage] at h
    generalize hd : BgTask.parentDirective a.env.now call.task payload parent = d at h
    generalize hp : a.outcome.within d.subject.Taken = p at h
    rcases Publication.eq_or_refused_of_within hp with ⟨htaken, -⟩ | ⟨text, rfl⟩
    · cases p <;> cases h
      · exact .notified hstage hd.symm htaken
      · exact hretry
      · exact .notified hstage hd.symm htaken
    · cases h
      exact hretry

end TaskChange

/-! ### What a step of the server does -/

/-- What a step of the server can do. -/
inductive EngineChange (cfg : Manager.Config) (e : Engine) : Action → Engine → Prop
  | server {a : Api.Action} {s : Api.Server} (h : Api.serverStep cfg e.server a = some s)
      (hp : Action.panics cfg e.world (.server a) = false) :
      EngineChange cfg e (.server a) { e with server := s }
  | panicked {a : Label} {s : Api.Server}
      (h : Api.serverStep cfg e.server (.internal a) = some s) :
      EngineChange cfg e (.server (.internal a)) { e with server := s }.restart
  | timerDelivered {i n : ℕ} {t : Timer} {metadata : Bool} (ht : e.world.fired[i]? = some t)
      (hn : n ≤ e.timers.count i + 1) :
      EngineChange cfg e (.deliverTimer i metadata)
        { e with timers := e.timers.deliver i { timer := t, numDelivered := n } }
  | timerIgnored {k : ℕ} {j : Job ℕ TimerCall} {a : Attempt} {ack : Bool}
      (hj : e.timers.jobs[k]? = some j)
      (hd : TimerMsgHandler.handle cfg.maxTimerDeliveries a.env j.stage.timer j.stage.numDelivered =
        none) : EngineChange cfg e (.handleTimer k a) { e with timers := e.timers.settle k j ack }
  | timerRetried {k : ℕ} {j : Job ℕ TimerCall} {a : Attempt} (hj : e.timers.jobs[k]? = some j) :
      EngineChange cfg e (.handleTimer k a) { e with timers := e.timers.settle k j false }
  | timerPublished {k : ℕ} {j : Job ℕ TimerCall} {a : Attempt} {d : Directive} {ack : Bool}
      (hj : e.timers.jobs[k]? = some j)
      (hd : TimerMsgHandler.handle cfg.maxTimerDeliveries a.env j.stage.timer j.stage.numDelivered =
        some d) (htaken : d.subject.Taken) :
      EngineChange cfg e (.handleTimer k a)
        { e.withStream (publishDirective cfg.dup e.world.stream d) with
          timers := e.timers.settle k j ack }
  | timerDropped {k : ℕ} :
      EngineChange cfg e (.dropTimer k) { e with timers := e.timers.drop k }
  | taskDelivered {seq n : ℕ} {task : BackgroundTask} {metadata : Bool}
      (hat : TaskAt e.world.stream seq task) (hn : n ≤ e.tasks.count seq + 1) :
      EngineChange cfg e (.deliverTask seq metadata)
        { e with tasks := e.tasks.deliver seq { task := task, stage := .delivered n } }
  | taskMoved {k : ℕ} {j : Job ℕ TaskCall} {a : Attempt} {e₁ : Engine} {stage : TaskStage}
      (hj : e.tasks.jobs[k]? = some j) (h : TaskChange cfg e j.stage e₁ (.inl stage)) :
      EngineChange cfg e (.handleTask k a)
        { e₁ with tasks := e₁.tasks.move k j { j.stage with stage := stage } }
  | taskSettled {k : ℕ} {j : Job ℕ TaskCall} {a : Attempt} {e₁ : Engine} {result : HandleResult}
      {ack : Bool} (hj : e.tasks.jobs[k]? = some j)
      (h : TaskChange cfg e j.stage e₁ (.inr result)) (hack : ack = true → result = .processed) :
      EngineChange cfg e (.handleTask k a) { e₁ with tasks := e₁.tasks.settle k j ack }
  | taskDropped {k : ℕ} :
      EngineChange cfg e (.dropTask k) { e with tasks := e.tasks.drop k }

/-- What holds of every server: its world is one of the system, and its handlers are at work on
tasks of the stream. -/
structure Known (cfg : Manager.Config) (e : Engine) : Prop where
  server : Api.ServerReachable cfg e.server
  tasks : ∀ j ∈ e.tasks.jobs, TaskAt e.world.stream j.item j.stage.task

section EngineChange

variable {cfg : Manager.Config} {senderID : String} {e e' : Engine}

theorem numDelivered_le (metadata : Bool) (n : ℕ) : numDelivered metadata (n + 1) ≤ n + 1 := by
  rw [numDelivered]
  split_ifs
  · exact le_rfl
  · exact Nat.succ_pos n

theorem processed_of_settles {result : HandleResult} {ack : Bool}
    (h : (settles result == .ack && ack) = true) : result = .processed := by
  cases result <;> simp_all [settles]

theorem Known.world (hk : Known cfg e) : Reachable cfg e.world :=
  (Api.server_refines_world hk.server).1

theorem change_of_engineStep (hk : Known cfg e) {a : Action}
    (h : engineStep cfg senderID e a = some e') : EngineChange cfg e a e' := by
  cases a with
  | server a =>
    obtain ⟨s, hs, rfl⟩ := Option.map_eq_some_iff.mp h
    dsimp only
    split_ifs with hp
    · cases a with
      | internal a => exact .panicked hs
      | _ => cases hp
    · exact .server hs (Bool.eq_false_iff.mpr hp)
  | deliverTimer i metadata =>
    simp only [engineStep] at h
    split at h
    · cases h
    · split_ifs at h
      cases h
      exact .timerDelivered ‹_› (numDelivered_le ..)
  | handleTimer k a =>
    simp only [engineStep] at h
    split at h
    · cases h
    · rename_i j hj
      cases h
      rw [timerStep]
      cases hd : TimerMsgHandler.handle cfg.maxTimerDeliveries a.env j.stage.timer
        j.stage.numDelivered with
      | none => exact .timerIgnored hj hd
      | some d =>
        dsimp only
        generalize hp : a.outcome.within d.subject.Taken = p
        rcases Publication.eq_or_refused_of_within hp with ⟨htaken, -⟩ | ⟨text, rfl⟩
        · cases p with
          | stored => exact .timerPublished hj hd htaken
          | refused text => exact .timerRetried hj
          | unconfirmed text => exact .timerPublished hj hd htaken
        · exact .timerRetried hj
  | dropTimer k =>
    cases h
    exact .timerDropped
  | deliverTask seq metadata =>
    simp only [engineStep] at h
    split at h
    · rename_i hat
      obtain ⟨hmem, -, hseq⟩ := mem_of_entryAt hat
      split_ifs at h
      cases h
      exact .taskDelivered ⟨_, hmem, hseq, rfl, rfl⟩ (numDelivered_le ..)
    · cases h
  | handleTask k a =>
    simp only [engineStep] at h
    split at h
    · cases h
    · rename_i j hj
      have hasked := (hk.tasks j (List.mem_of_getElem? hj)).asked hk.world
      obtain ⟨⟨e₁, r⟩, hr, rfl⟩ := Option.map_eq_some_iff.mp h
      cases r with
      | inl stage => exact .taskMoved hj (taskChange_of_step hasked hr)
      | inr result =>
        exact .taskSettled hj (taskChange_of_step hasked hr) processed_of_settles
  | dropTask k =>
    cases h
    exact .taskDropped

theorem extends_publishDirective (dup : Stream → DirectiveID → Bool) (l : Stream)
    (d : Directive) : l.Extends (publishDirective dup l d) := by
  rcases publishDirective_eq dup l d with h | h <;> rw [h]
  · exact .refl _
  · exact Log.extends_appendAll ..

/-- What a step of the server that answers requests does to the world: it is a step of the system,
or adds to the stream. -/
theorem world_of_serverStep {s s' : Api.Server} {a : Api.Action}
    (h : Api.serverStep cfg s a = some s') :
    (∃ b, a = .internal b ∧ step cfg s.world b = some s'.world) ∨
      ∃ l, s'.world = { s.world with stream := l } ∧ s.world.stream.Extends l := by
  have hsame : ∃ l, s.world = { s.world with stream := l } ∧ s.world.stream.Extends l :=
    ⟨_, rfl, .refl _⟩
  cases a with
  | receive env order doc =>
    cases h
    exact .inr hsame
  | leave k =>
    cases h
    exact .inr hsame
  | internal b =>
    simp only [Api.serverStep] at h
    split_ifs at h
    all_goals
      obtain ⟨w, hw, rfl⟩ := Option.map_eq_some_iff.mp h
      exact .inl ⟨b, rfl, hw⟩
  | proceed k faults =>
    simp only [Api.serverStep] at h
    split at h <;> cases h
    rename_i op next _
    have hp := Api.performed cfg faults s op
    generalize (Api.perform cfg faults s op).2 = s' at hp
    right
    cases hp with
    | nothing => exact hsame
    | @saved info =>
      refine ⟨_, rfl, ?_⟩
      rw [saveRunInfo]
      split_ifs
      · exact Log.extends_appendAll ..
      · exact .refl _
    | published => exact ⟨_, rfl, extends_publishDirective ..⟩
    | registered => exact hsame

theorem extends_of_serverStep {s s' : Api.Server} {a : Api.Action}
    (h : Api.serverStep cfg s a = some s') : s.world.stream.Extends s'.world.stream := by
  rcases world_of_serverStep h with ⟨b, -, hstep⟩ | ⟨l, hw, hl⟩
  · exact (effect_of_step hstep).change.extends
  · rwa [hw]

/-- A step of the server that answers requests. -/
theorem Known.server_step (hk : Known cfg e) {a : Api.Action} {s : Api.Server} (hfresh : a.Fresh)
    (h : Api.serverStep cfg e.server a = some s) (hjobs : e'.tasks.jobs ⊆ e.tasks.jobs)
    (hserver : e'.server = s) : Known cfg e' where
  server := hserver ▸ hk.server.step hfresh h
  tasks j hj := by
    rw [Engine.world, hserver]
    exact (hk.tasks j (hjobs hj)).mono (extends_of_serverStep h)

/-- A step of the system is one of the server. -/
theorem Known.internal (hk : Known cfg e) {a : Label} {w : World} (ha : a.isAdmission = false)
    (hp : panics cfg e.world a = false) (h : step cfg e.world a = some w)
    (hjobs : e'.tasks.jobs ⊆ e.tasks.jobs)
    (hserver : e'.server = { e.server with world := w }) : Known cfg e' := by
  have hworld : e.server.world = e.world := rfl
  refine hk.server_step (a := .internal a) (.of_none rfl) ?_ hjobs hserver
  simp [Api.serverStep, ha, hworld, hp, h]

/-- The server stays the same. -/
theorem Known.same (hk : Known cfg e) (hserver : e'.server = e.server)
    (hjobs : ∀ j ∈ e'.tasks.jobs, TaskAt e.world.stream j.item j.stage.task) : Known cfg e' where
  server := hserver ▸ hk.server
  tasks j hj := by
    rw [Engine.world, hserver]
    exact hjobs j hj

/-- The world after a step of a handler. -/
theorem Known.task (hk : Known cfg e) {seq : ℕ} {call : TaskCall} {r : TaskStage ⊕ HandleResult}
    (hat : TaskAt e.world.stream seq call.task) (h : TaskChange cfg e call e' r) :
    Known cfg e' := by
  obtain ⟨entry, hentry, hsubject, hdata⟩ := hat.entryAt hk.world
  obtain ⟨m, entrySeq, live⟩ := entry
  obtain ⟨subject, data, msgId, expectedLast⟩ := m
  cases hsubject
  cases hdata
  cases h with
  | @timer n wf kind id _ htask =>
    refine hk.internal (a := .deliverTask seq n) rfl rfl ?_ (List.Subset.refl _) rfl
    simp only [step, hentry, htask]
  | @begun n wf htask =>
    refine hk.internal (a := .deliverTask seq n) rfl rfl ?_ (List.Subset.refl _) rfl
    simp only [step, hentry, htask]
  | @purge k _ _ _ _ _ hpurge =>
    refine hk.internal (a := .purgeNext k) rfl rfl ?_ (List.Subset.refl _) rfl
    simp only [step, hpurge]
  | @notified _ _ d _ _ _ hd =>
    have hdecoded : d.Decoded := by
      rw [hd]
      exact ⟨by simp [BgTask.parentDirective], rfl⟩
    exact hk.internal (a := .publish _) rfl rfl (if_pos hdecoded) (List.Subset.refl _) rfl
  | _ => exact hk.same rfl hk.tasks

/-- The consumers are not touched by the steps of a task. -/
theorem TaskChange.consumers {call : TaskCall} {r : TaskStage ⊕ HandleResult}
    (h : TaskChange cfg e call e' r) : e'.tasks = e.tasks ∧ e'.timers = e.timers := by
  cases h <;> exact ⟨rfl, rfl⟩

theorem Known.step (hk : Known cfg e) {a : Action} (hfresh : a.Fresh)
    (h : EngineChange cfg e a e') : Known cfg e' := by
  cases h with
  | server h => exact hk.server_step (hfresh.1 _ rfl) h (List.Subset.refl _) rfl
  | panicked h => exact hk.server_step (hfresh.1 _ rfl) h (List.nil_subset _) rfl
  | timerDelivered => exact hk.same rfl hk.tasks
  | timerIgnored => exact hk.same rfl hk.tasks
  | timerRetried => exact hk.same rfl hk.tasks
  | @timerPublished k j a d _ _ hd =>
    have hfired := TimerMsgHandler.firedAs_of_handle hd
    have hid : a.env.newID ≠ "" := hfresh.2 _ rfl
    exact hk.internal (a := .publish d) rfl rfl (if_pos ⟨hfired.id ▸ hid, hfired.agrees⟩)
      (List.Subset.refl _) rfl
  | timerDropped => exact hk.same rfl hk.tasks
  | taskDelivered hat =>
    refine hk.same rfl fun j hj => ?_
    rcases List.mem_append.mp hj with hj | hj
    · exact hk.tasks j hj
    · cases List.mem_singleton.mp hj
      exact hat
  | @taskMoved k j a e₁ stage hj h =>
    have hat := hk.tasks j (List.mem_of_getElem? hj)
    have hk₁ := hk.task hat h
    refine hk₁.same rfl fun j' hj' => ?_
    rcases List.mem_or_eq_of_mem_set hj' with hj' | rfl
    · exact hk₁.tasks j' hj'
    · exact hk₁.tasks j (h.consumers.1 ▸ List.mem_of_getElem? hj)
  | @taskSettled k j a e₁ _ _ hj h =>
    have hk₁ := hk.task (hk.tasks j (List.mem_of_getElem? hj)) h
    exact hk₁.same rfl fun j' hj' => hk₁.tasks j' (List.mem_of_mem_eraseIdx hj')
  | taskDropped => exact hk.same rfl fun j hj => hk.tasks j (List.mem_of_mem_eraseIdx hj)

theorem known_of_reachable (h : EngineReachable cfg senderID e) : Known cfg e := by
  refine Reach.invariant (P := Known cfg) h ⟨.init, by simp [Engine.init]⟩
    fun e a e' _ hk hfresh hstep => ?_
  exact hk.step hfresh (change_of_engineStep hk hstep)

/-- With all its handlers, whatever fails and in whatever order they take their steps, the server
only takes steps of the server that answers requests, and of the system behind it. -/
theorem engine_refines_server (h : EngineReachable cfg senderID e) :
    Api.ServerReachable cfg e.server ∧ Reachable cfg e.world :=
  ⟨(known_of_reachable h).server, (known_of_reachable h).world⟩

end EngineChange

namespace Sample

/-- The server that a list of steps leads to. -/
def engine (actions : List Action) : Engine :=
  execD (engineStep Grctl.Sample.config "s:host:4225") (fun _ a => a.Fresh) .init actions

theorem reachable_engine (actions : List Action) :
    EngineReachable Grctl.Sample.config "s:host:4225" (engine actions) :=
  reach_execD ..

/-- Steps of the system. -/
def internal (labels : List Label) : List Action := labels.map fun a => .server (.internal a)

/-- An operation that works, and one whose effect is not confirmed. -/
def works : Attempt := { env := Grctl.Sample.env }

def unconfirmed : Attempt :=
  { env := Grctl.Sample.env, outcome := .unconfirmed "nats: timeout" }

/-- A run has been terminated. A purge of its residue is not confirmed, and the purges are made
again when the task is delivered for the second time. -/
def cleaned : List Action :=
  internal Grctl.Sample.terminated ++
    [.deliverTask 13 true, .handleTask 0 works, .handleTask 0 works, .handleTask 0 unconfirmed] ++
    .deliverTask 13 true :: List.replicate 6 (.handleTask 0 works)

end Sample

/-- The purge of a run that was interrupted. -/
theorem engine_refines_server_cleaned :
    Api.ServerReachable Grctl.Sample.config (Sample.engine Sample.cleaned).server ∧
      Reachable Grctl.Sample.config (Sample.engine Sample.cleaned).world :=
  engine_refines_server (Sample.reachable_engine Sample.cleaned)

end Grctl.Ingress
