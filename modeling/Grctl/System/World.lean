import Grctl.Lts.Reach
import Grctl.Run.BgTask
import Grctl.Run.Manager

/-!
# The server and its surroundings as a transition system

A `World` is the state stream together with everything that is under way: handler calls, requests
to create a run, and purges. Each `Label` is one atomic operation on the stream, so that the
calls of any number of servers interleave freely. In particular the three reads of
`GetStateSnapshot` are steps of their own, and so is the commit.

Directives come from outside, from clients, workers, timers and background tasks alike; `publish`
allows any directive that decodes. A delivered message that is not acknowledged may be delivered
again, at any time and also while an earlier delivery is being handled. A call may also be given
up at any point, by a failure of the stream or of the server. A timer is a message with a schedule;
when it is due the stream hands it to the consumer of fired timers, which `fired` lists, and removes
the schedule.

The `journal` records the committed batches. No step looks at it.

## Main definitions

* `World`, `Call`, `Commit`, `Label`, `step`.
* `Label.published?`, `Label.saved?`, `Label.delivered?`, `Label.finished?`, `Label.readings?`,
  `Label.purging?`, `Label.isTask`: what a step is about; the conditions on the steps of a run are
  stated with them.
* `Reachable`: the worlds of all runs from the empty stream.
-/

namespace Grctl

open SubjectLog Lts

/-- How far a call of `Manager.Handle` has come. -/
inductive Phase
  | delivered
  | gotState (runState : RunState)
  | gotHistory (runState : RunState) (lastHistorySeqID : ℕ)
  | ready (snapshot : StateSnapshot)
  deriving DecidableEq, Repr

/-- The snapshot of a call that is about to plan. -/
def Phase.snapshot? : Phase → Option StateSnapshot
  | .ready sn => some sn
  | _ => none

theorem Phase.snapshot?_eq_some {p : Phase} {sn : StateSnapshot} :
    p.snapshot? = some sn ↔ p = .ready sn := by
  cases p <;> simp [snapshot?]

/-- A call of `Manager.Handle` on the directive message stored at `seq`. -/
structure Call where
  seq : ℕ
  directive : Directive
  phase : Phase := .delivered
  deriving DecidableEq, Repr

/-- A committed batch: the directive that was handled, the snapshot it was planned from, its
records, and the length of the stream before it. -/
structure Commit where
  directive : Directive
  snapshot : StateSnapshot
  records : List Record
  base : ℕ
  deriving DecidableEq, Repr

/-- A purge of what a finished run leaves behind, with the patterns that are still to be purged. -/
structure Purge where
  task : BackgroundTask
  pending : List PurgePattern
  deriving DecidableEq, Repr

/-- The stream and everything that is under way. -/
structure World where
  stream : Stream
  calls : List Call := []
  admitted : List RunInfo := []
  purges : List Purge := []
  fired : List Timer := []
  acked : List ℕ := []
  journal : List Commit := []

/-- The steps of the system. -/
inductive Label
  | publish (d : Directive)
  | admitRun (info : RunInfo)
  | saveRun (k : ℕ)
  | dropRun (k : ℕ)
  | recordHistory (h : HistoryEvent)
  | deliver (seq : ℕ)
  | readState (k : ℕ)
  | readHistory (k : ℕ)
  | readEvent (k : ℕ)
  | finish (k : ℕ) (env failEnv : Readings) (ack : Bool)
  | abandon (k : ℕ)
  | deliverTask (seq numDelivered : ℕ)
  | purgeNext (k : ℕ)
  | fire (seq : ℕ)
  deriving DecidableEq, Repr

/-- The directive that a step publishes. -/
def Label.published? : Label → Option Directive
  | .publish d => some d
  | _ => none

/-- The request to create a run whose description a step stores. -/
def Label.saved? : Label → Option ℕ
  | .saveRun k => some k
  | _ => none

/-- The message that a step delivers to the run manager. -/
def Label.delivered? : Label → Option ℕ
  | .deliver seq => some seq
  | _ => none

/-- The purge that a step takes further. -/
def Label.purging? : Label → Option ℕ
  | .purgeNext k => some k
  | _ => none

/-- The call that a step brings to its end. -/
def Label.finished? : Label → Option ℕ
  | .finish k _ _ _ => some k
  | _ => none

/-- The readings with which a step plans. -/
def Label.readings? : Label → Option Readings
  | .finish _ env _ _ => some env
  | _ => none

/-- The step is one of a background task. -/
def Label.isTask : Label → Bool
  | .deliverTask .. | .purgeNext _ => true
  | _ => false

namespace World

/-- The empty stream, with nothing under way. -/
def init : World where
  stream := .empty

/-- The stored message with a given sequence number, if it has not been removed. -/
def entryAt (w : World) (seq : ℕ) : Option StreamEntry :=
  w.stream.entries.find? fun e => e.live && e.seq == seq

/-- The directive and the snapshot of a call that is about to plan. -/
def ready? (w : World) (k : ℕ) : Option (Directive × StateSnapshot) :=
  w.calls[k]?.bind fun c => c.phase.snapshot?.map fun sn => (c.directive, sn)

theorem ready?_eq_some {w : World} {k : ℕ} {c : Call} {sn : StateSnapshot}
    (hc : w.calls[k]? = some c) (hphase : c.phase = .ready sn) :
    w.ready? k = some (c.directive, sn) := by
  simp [ready?, hc, Phase.snapshot?_eq_some.mpr hphase]

/-- A call ends without an effect. -/
def drop (w : World) (k : ℕ) : World := { w with calls := w.calls.eraseIdx k }

/-- A panic in one call ends the process, and with it everything under way. -/
def crash (w : World) : World := { w with calls := [], admitted := [], purges := [] }

/-- A call moves on. -/
def advance (w : World) (k : ℕ) (c : Call) (phase : Phase) : World :=
  { w with calls := w.calls.set k { c with phase := phase } }

/-- The journal entry of a batch that a call commits. -/
def commitOf (w : World) (c : Call) (sn : StateSnapshot) (records : List Record) : Commit where
  directive := c.directive
  snapshot := sn
  records := records
  base := w.stream.length

/-- `Manager.Handle` after its snapshot, and the acknowledgement of the queue, which may get
lost. -/
def finish (cfg : Manager.Config) (w : World) (k : ℕ) (c : Call) (sn : StateSnapshot)
    (env failEnv : Readings) (ack : Bool) : World :=
  match Manager.handleSnapshot cfg env failEnv c.directive sn w.stream with
  | .error _ => w.crash
  | .ok handled =>
    { w.drop k with
      stream := handled.stream
      acked := if handled.result = .processed ∧ ack then c.seq :: w.acked else w.acked
      journal := w.journal ++
        if handled.committed = [] then [] else [w.commitOf c sn handled.committed] }

section Fields

variable (w : World) (k : ℕ) (c : Call) (phase : Phase)

@[simp] theorem stream_drop : (w.drop k).stream = w.stream := rfl
@[simp] theorem calls_drop : (w.drop k).calls = w.calls.eraseIdx k := rfl
@[simp] theorem journal_drop : (w.drop k).journal = w.journal := rfl

@[simp] theorem stream_advance : (w.advance k c phase).stream = w.stream := rfl
@[simp] theorem calls_advance :
    (w.advance k c phase).calls = w.calls.set k { c with phase := phase } := rfl
@[simp] theorem journal_advance : (w.advance k c phase).journal = w.journal := rfl

@[simp] theorem stream_crash : w.crash.stream = w.stream := rfl
@[simp] theorem calls_crash : w.crash.calls = [] := rfl
@[simp] theorem journal_crash : w.crash.journal = w.journal := rfl

end Fields

end World

/-- One step of the system. -/
def step (cfg : Manager.Config) (w : World) : Label → Option World
  | .publish d =>
    if d.Decoded then some { w with stream := publishDirective cfg.dup w.stream d } else none
  | .admitRun info =>
    if NoActiveRun w.stream info.wfID then some { w with admitted := w.admitted ++ [info] }
    else none
  | .saveRun k =>
    match w.admitted[k]? with
    | some info =>
      some { w with
        stream := saveRunInfo w.stream info
        admitted := w.admitted.eraseIdx k }
    | none => none
  | .dropRun k => some { w with admitted := w.admitted.eraseIdx k }
  | .recordHistory h =>
    -- workers write to the history of a run themselves
    if h.kind = .recorded ∧ (Record.history h).Taken then
      some { w with stream := w.stream.appendAll (Record.history h).messages }
    else none
  | .deliver seq =>
    match w.entryAt seq with
    | some { subject := .directive _ _ _, data := .directive d, .. } =>
      if seq ∈ w.acked then none
      else some { w with calls := w.calls ++ [{ seq := seq, directive := d }] }
    | _ => none
  | .readState k =>
    match w.calls[k]? with
    | some c@{ directive := d, phase := .delivered, .. } =>
      match getRunState w.stream d.runInfo.wfID d.runInfo.id with
      | .ok s => some (w.advance k c (.gotState (s.getD .zero)))
      | .error _ => some (w.drop k)
    | _ => none
  | .readHistory k =>
    match w.calls[k]? with
    | some c@{ directive := d, phase := .gotState s, .. } =>
      some (w.advance k c
        (.gotHistory s (getLastHistorySeqID w.stream d.runInfo.wfID d.runInfo.id)))
    | _ => none
  | .readEvent k =>
    match w.calls[k]? with
    | some c@{ directive := d, phase := .gotHistory s n, .. } =>
      match getNextEvent w.stream d.runInfo.wfID s.lastEventSeqID with
      | .ok e =>
        some (w.advance k c
          (.ready { runState := s, event := e.getD .zero, lastHistorySeqID := n }))
      | .error (.error _) => some (w.drop k)
      | .error _ => some w.crash
    | _ => none
  | .finish k env failEnv ack =>
    match w.calls[k]? with
    | some c@{ phase := .ready sn, .. } => some (w.finish cfg k c sn env failEnv ack)
    | _ => none
  | .abandon k => some (w.drop k)
  | .deliverTask seq numDelivered =>
    match w.entryAt seq with
    | some { subject := .bgTask, data := .bgTask task, .. } =>
      -- the other actions publish a directive or leave the stream alone
      match BgTask.handle cfg.maxTaskDeliveries task numDelivered with
      | .purgeRunResidue wfID =>
        some { w with purges := w.purges ++ [{ task := task, pending := purgePatterns wfID }] }
      | .cancelTimer wfID kind timerID =>
        some { w with stream := w.stream.purge (· == .timer wfID kind timerID) }
      | _ => none
    | _ => none
  | .purgeNext k =>
    match w.purges[k]? with
    | some { task, pending := p :: ps } =>
      some { w with
        stream := w.stream.purge p.covers
        purges := w.purges.set k { task := task, pending := ps } }
    | _ => none
  | .fire seq =>
    match w.entryAt seq with
    | some { subject := .timer wfID kind timerID, data := .timer t, .. } =>
      some { w with
        stream := w.stream.purge (· == .timer wfID kind timerID)
        fired := w.fired ++ [t] }
    | _ => none

/-- The worlds of the runs whose steps satisfy `ok`. -/
def ReachableBy (cfg : Manager.Config) (ok : World → Label → Prop) : World → Prop :=
  Reach (step cfg) ok .init

/-- The worlds of all runs. -/
def Reachable (cfg : Manager.Config) : World → Prop := ReachableBy cfg fun _ _ => True

/-! ### A sample run

The runs that show a result at work, or a behaviour of the server that a result excludes, share
one workflow. -/

namespace Sample

/-- A server whose stream never forgets a message identifier. -/
def config : Manager.Config where
  defaults := { stepTimeoutMS := 300000, waitTimeoutMS := 86400000 }
  maxTimerDeliveries := 10
  maxTaskDeliveries := 5
  dup := Log.seen

/-- One reading of the clock and of the identifier generator. -/
def env : Readings where
  now := 1000000
  newID := "fresh"

/-- The run `r1` of the workflow `wf`, before it has been started. -/
def run : RunInfo where
  id := "r1"
  wfID := "wf"
  wfType := "order"
  status := .scheduled

/-- The same run once it has been started. -/
def started : RunInfo :=
  { run with status := .running, createdAt := 1000000, startedAt := some 1000000 }

/-- The directive that starts the run. -/
def start : Directive where
  id := "start"
  kind := .start
  runInfo := run
  msg := .start .nil 0

/-- A directive of the started run. -/
def directive (id : DirectiveID) (kind : DirectiveKind) (msg : DirectiveMessage) : Directive where
  id := id
  timestamp := 2000000
  kind := kind
  runInfo := started
  msg := msg

/-- The result of the first step, which names what is to happen next. -/
def stepResult (id : DirectiveID) (nextMsgKind : DirectiveKind) (nextMsg : DirectiveMessage) :
    Directive :=
  directive id .stepResult
    (.stepResult .start (.start .nil 0) (some "worker") 5 none nextMsgKind nextMsg)

/-- An event for the started run. -/
def event (id : DirectiveID) : Directive := directive id .event (.event { eventName := "paid" })

/-- One call that handles the message at `seq` from its delivery to its acknowledgement. -/
def handled (seq : ℕ) : List Label :=
  [.deliver seq, .readState 0, .readHistory 0, .readEvent 0, .finish 0 env env true]

/-- One call that handles the message at `seq`, and whose acknowledgement gets lost. -/
def unacked (seq : ℕ) : List Label :=
  [.deliver seq, .readState 0, .readHistory 0, .readEvent 0, .finish 0 env env false]

/-- The world that a list of steps leads to, as far as they all satisfy a guard. -/
def worldBy (ok : World → Label → Prop) [∀ w a, Decidable (ok w a)] (labels : List Label) : World :=
  execD (step config) ok .init labels

theorem reachableBy_worldBy (ok : World → Label → Prop) [∀ w a, Decidable (ok w a)]
    (labels : List Label) : ReachableBy config ok (worldBy ok labels) :=
  reach_execD ..

/-- The world that a list of steps leads to. -/
def world (labels : List Label) : World := worldBy (fun _ _ => True) labels

theorem reachable_world (labels : List Label) : Reachable config (world labels) :=
  reachableBy_worldBy ..

/-- The run is started, and its first step ends in a wait. -/
def waiting : List Label :=
  .publish start :: handled 1 ++ .publish (stepResult "done" .wait (.wait 0 "")) :: handled 9

/-- An event is sent to the waiting run and dispatched. -/
def woken : List Label := waiting ++ .publish (event "pay") :: handled 16 ++ handled 19

end Sample

end Grctl
