import Grctl.System.Effect

/-!
# The count of ended runs

`Manager.Handle` tells the metrics about every run that ends (`RecordRunTerminal`). It takes the
outcome from the records that it planned, whatever became of their commit, and the path that fails
a run because planning failed returns before it gets there. `Manager.report` is `Handle` after its
snapshot with the store behind the interface `Recorder`: what `Commit` answers is a parameter. For
the store of the model it does what `Manager.handleSnapshot` does.

A `Delivery` is one such call. The outcomes that are recorded for a run are those of its committed
batches, at every point of a sequence of calls, exactly if no call plans the end of the run without
committing it and none commits the failure of the run on the path where nothing is recorded.

## Main definitions

* `Manager.findTerminalOutcome`, `Manager.report`.
* `Delivery`, `recordedFor`, `committedFor`, `Delivery.overcounts`, `Delivery.undercounts`.
* `deliveries`: the calls along a run of the system.

## Main results

* `terminal_runs_counted_iff`.
* `Manager.handleSnapshot_eq_report`, `terminals_exec`: the calls of the system are deliveries, and
  its journal holds the batches that they commit.
-/

namespace Grctl

open SubjectLog Lts

namespace Manager

/-- `findTerminalOutcome`. -/
def findTerminalOutcome : List Record → Option RunStateKind
  | [] => none
  | .runState state _ :: records =>
    if state.isTerminal then some state.kind else findTerminalOutcome records
  | _ :: records => findTerminalOutcome records

/-- What `Recorder.Commit` did: it stored the batch, or it returned an error of one of the kinds
that `commit` tells apart. An error of no special kind may also mean that the batch was stored and
the answer of the stream got lost. -/
inductive CommitOutcome
  | committed
  | casRejection
  | duplicateMessage
  | atomicPublishBackpressure
  | failed (stored : Bool)
  deriving DecidableEq, Repr

/-- Whether the batch is in the stream because of the call. -/
def CommitOutcome.stored : CommitOutcome → Bool
  | .committed => true
  | .failed stored => stored
  | _ => false

/-- What a call of `Handle` returns, the batch it committed, and what it recorded with
`RecordRunTerminal`: the type of the workflow and the outcome. -/
structure Report where
  result : HandleResult
  committed : List Record := []
  recorded : Option (WFType × RunStateKind) := none
  deriving DecidableEq, Repr

/-- `commit`, for a given answer of the store. -/
def commitAs (outcome : CommitOutcome) (updates : List Record) : Report where
  result :=
    match outcome with
    | .casRejection => .retryable
    | .duplicateMessage => .processed
    | .atomicPublishBackpressure => .retryable
    | .failed _ => .retryable
    | .committed => .processed
  committed := if outcome.stored then updates else []

/-- `Handle` after its snapshot, with a store that answers `outcome`. -/
def report (cfg : Defaults) (env failEnv : Readings) (d : Directive) (sn : StateSnapshot)
    (outcome : List Record → CommitOutcome) : Outcome Report :=
  match plan cfg env d sn with
  | .ok records =>
    .ok { commitAs (outcome records) records with
      recorded := (findTerminalOutcome records).map fun kind => (d.runInfo.wfType, kind) }
  | .error (.error cause) =>
    -- `failAndCommit`
    match Records.buildUnexpectedFailure failEnv d cause sn.runState with
    | .ok failureUpdates => .ok (commitAs (outcome failureUpdates) failureUpdates)
    | .error (.error _) => .ok { result := .processed }
    | .error fault => .error fault
  | .error fault => .error fault

/-! ### The store of the model -/

/-- The answer of the store to a batch. -/
def storeOutcome (dup : Stream → DirectiveID → Bool) (l : Stream) (records : List Record) :
    CommitOutcome :=
  match Grctl.commit dup l records with
  | .ok _ => .committed
  | .error (.rejected .wrongLastSequence) => .casRejection
  | .error (.rejected .duplicate) => .duplicateMessage
  | .error _ => .failed false

section Store

variable (cfg : Config) (env failEnv : Readings) (d : Directive) (sn : StateSnapshot) (l : Stream)

/-- What a call returns to the queue and what it has committed. -/
def Handled.effect (h : Handled) : HandleResult × List Record := (h.result, h.committed)

@[inherit_doc Handled.effect]
def Report.effect (rep : Report) : HandleResult × List Record := (rep.result, rep.committed)

theorem effect_commit (records : List Record) :
    (commit cfg l records).effect =
      (commitAs (storeOutcome cfg.dup l records) records).effect := by
  unfold commit storeOutcome
  cases h : Grctl.commit cfg.dup l records with
  | ok l' => rfl
  | error e =>
    cases e with
    | rejected reason => cases reason <;> rfl
    | _ => rfl

/-- With the store of the model, a call returns and commits what it does in the model. -/
theorem handleSnapshot_eq_report :
    (handleSnapshot cfg env failEnv d sn l).map Handled.effect =
      (report cfg.defaults env failEnv d sn (storeOutcome cfg.dup l)).map Report.effect := by
  unfold handleSnapshot handleRecords report
  cases plan cfg.defaults env d sn with
  | ok records => exact congrArg Except.ok (effect_commit cfg l records)
  | error fault =>
    cases fault with
    | error cause =>
      simp only
      cases Records.buildUnexpectedFailure failEnv d cause sn.runState with
      | ok updates => exact congrArg Except.ok (effect_commit cfg l updates)
      | error fault => cases fault <;> rfl
    | _ => rfl

end Store

end Manager

/-! ### Sequences of calls -/

/-- A call of `Handle` after its snapshot, with what the store answers to it. -/
structure Delivery where
  directive : Directive
  snapshot : StateSnapshot
  env : Readings
  failEnv : Readings
  outcome : List Record → Manager.CommitOutcome

namespace Delivery

variable (cfg : Defaults) (x : Delivery)

/-- The run that the call is for. -/
def run : WFID × RunID := (x.directive.runInfo.wfID, x.directive.runInfo.id)

/-- What the call does. -/
def report : Outcome Manager.Report :=
  Manager.report cfg x.env x.failEnv x.directive x.snapshot x.outcome

/-- The outcome that the call records; a panic records nothing. -/
def recorded : Option RunStateKind :=
  match x.report cfg with
  | .ok rep => rep.recorded.map Prod.snd
  | .error _ => none

/-- The kind of the terminal batch that the call commits. -/
def committed : Option RunStateKind :=
  match x.report cfg with
  | .ok rep => Manager.findTerminalOutcome rep.committed
  | .error _ => none

/-- The call plans the end of its run and does not commit it. -/
def overcounts : Bool :=
  match plan cfg x.env x.directive x.snapshot with
  | .ok records =>
    (Manager.findTerminalOutcome records).isSome && !(x.outcome records).stored
  | .error _ => false

/-- The call commits a failure of its run because planning has failed. -/
def undercounts : Bool :=
  match plan cfg x.env x.directive x.snapshot with
  | .error (.error cause) =>
    match Records.buildUnexpectedFailure x.failEnv x.directive cause x.snapshot.runState with
    | .ok failureUpdates => (x.outcome failureUpdates).stored
    | .error _ => false
  | _ => false

end Delivery

section Counts

variable (cfg : Defaults) (run : WFID × RunID)

/-- The calls for a run. -/
def callsFor (xs : List Delivery) : List Delivery := xs.filter fun x => x.run = run

/-- The outcomes that are recorded for a run. -/
def recordedFor (xs : List Delivery) : List RunStateKind :=
  (callsFor run xs).filterMap (Delivery.recorded cfg)

/-- The kinds of the terminal batches that are committed for a run. -/
def committedFor (xs : List Delivery) : List RunStateKind :=
  (callsFor run xs).filterMap (Delivery.committed cfg)

end Counts

namespace Manager

theorem findTerminalOutcome_eq (records : List Record) :
    findTerminalOutcome records = ((records.filterMap Record.runState?).find? fun state =>
      state.1.isTerminal).map fun state => state.1.kind := by
  induction records with
  | nil => rfl
  | cons r records ih =>
    cases r with
    | runState state n =>
      cases hterm : state.isTerminal <;>
        simp [findTerminalOutcome, Record.runState?, hterm, ih]
    | _ => exact ih

/-- The batch that fails a run ends it. -/
theorem findTerminalOutcome_buildUnexpectedFailure {env : Readings} {d : Directive}
    {cause : String} {cur : RunState} {records : List Record}
    (h : Records.buildUnexpectedFailure env d cause cur = .ok records) :
    findTerminalOutcome records = some .fail := by
  obtain ⟨s, hs, -⟩ := Records.finish_of_failRun h
  rw [findTerminalOutcome_eq, hs.runStates]
  cases hs
  rfl

theorem findTerminalOutcome_commitAs (outcome : CommitOutcome) (updates : List Record) :
    findTerminalOutcome (commitAs outcome updates).committed =
      if outcome.stored then findTerminalOutcome updates else none := by
  simp only [commitAs]
  split_ifs <;> rfl

end Manager

namespace Delivery

/-- What a call records and commits, and whether it counts too much or too little. -/
inductive Account : Option RunStateKind → Option RunStateKind → Bool → Bool → Prop
  | same (kind : Option RunStateKind) : Account kind kind false false
  | lost (kind : RunStateKind) : Account (some kind) none true false
  | unrecorded (kind : RunStateKind) : Account none (some kind) false true

section Account

variable {recorded committed : Option RunStateKind} {excess missing : Bool}

theorem Account.eq_iff (h : Account recorded committed excess missing) :
    recorded = committed ↔ excess = false ∧ missing = false := by
  cases h <;> simp

theorem Account.length_add (h : Account recorded committed excess missing) :
    recorded.toList.length + (if missing then 1 else 0) =
      committed.toList.length + (if excess then 1 else 0) := by
  cases h <;> simp

end Account

variable (cfg : Defaults) (x : Delivery)

theorem account :
    Account (x.recorded cfg) (x.committed cfg) (x.overcounts cfg) (x.undercounts cfg) := by
  unfold recorded committed overcounts undercounts report Manager.report
  cases hplan : plan cfg x.env x.directive x.snapshot with
  | ok records =>
    simp only [Option.map_map, Manager.findTerminalOutcome_commitAs]
    cases Manager.findTerminalOutcome records with
    | none => simpa using Account.same none
    | some kind =>
      cases hout : (x.outcome records).stored
      · simpa [hout] using Account.lost kind
      · simpa [hout] using Account.same (some kind)
  | error fault =>
    cases fault with
    | error cause =>
      cases hbuild : Records.buildUnexpectedFailure x.failEnv x.directive cause
          x.snapshot.runState with
      | ok updates =>
        have hrecorded : (Manager.commitAs (x.outcome updates) updates).recorded = none := rfl
        simp only [hbuild, hrecorded, Manager.findTerminalOutcome_commitAs,
          Manager.findTerminalOutcome_buildUnexpectedFailure hbuild]
        cases hout : (x.outcome updates).stored
        · simpa [hout] using Account.same none
        · simpa [hout] using Account.unrecorded .fail
      | error fault => cases fault <;> simp only [hbuild] <;> exact .same none
    | _ => exact .same none

/-- One call records what it commits, unless it counts too much or too little. -/
theorem recorded_eq_committed_iff :
    x.recorded cfg = x.committed cfg ↔ x.overcounts cfg = false ∧ x.undercounts cfg = false :=
  (x.account cfg).eq_iff

end Delivery

section Counts

variable (cfg : Defaults) (run : WFID × RunID) (xs : List Delivery)

/-- Over a sequence of calls, each miscount moves the two numbers apart by one. -/
theorem length_filterMap_recorded :
    (xs.filterMap (Delivery.recorded cfg)).length + xs.countP (Delivery.undercounts cfg) =
      (xs.filterMap (Delivery.committed cfg)).length + xs.countP (Delivery.overcounts cfg) := by
  simp only [List.filterMap_eq_flatMap_toList]
  induction xs with
  | nil => rfl
  | cons x xs ih =>
    have hx := (x.account cfg).length_add
    simp only [List.flatMap_cons, List.length_append, List.countP_cons]
    omega

theorem callsFor_concat (x : Delivery) (hx : x.run = run) :
    callsFor run (xs ++ [x]) = callsFor run xs ++ [x] := by
  simp [callsFor, hx]

/-- If the outcomes agree before a call of the run and after it, the call records what it
commits. -/
theorem recorded_eq_committed_of_concat {x : Delivery} (hx : x.run = run)
    (hbefore : recordedFor cfg run xs = committedFor cfg run xs)
    (hafter : recordedFor cfg run (xs ++ [x]) = committedFor cfg run (xs ++ [x])) :
    x.recorded cfg = x.committed cfg := by
  unfold recordedFor committedFor at hbefore hafter
  rw [callsFor_concat run xs x hx, List.filterMap_append, List.filterMap_append, hbefore,
    List.append_cancel_left_eq] at hafter
  simp only [List.filterMap_eq_flatMap_toList, List.flatMap_singleton] at hafter
  refine Option.ext fun kind => ?_
  rw [← Option.mem_toList, hafter, Option.mem_toList]

/-- The ends of a run are counted as they are committed. As many outcomes are recorded for a run
as terminal batches are committed for it exactly if as many calls plan the end of the run in vain
as commit its failure after planning has failed. The outcomes recorded are the kinds of the
committed batches, at every point of the sequence, exactly if there are no such calls. -/
theorem terminal_runs_counted_iff :
    ((recordedFor cfg run xs).length = (committedFor cfg run xs).length ↔
      (callsFor run xs).countP (Delivery.overcounts cfg) =
        (callsFor run xs).countP (Delivery.undercounts cfg)) ∧
    ((∀ before, before <+: xs → recordedFor cfg run before = committedFor cfg run before) ↔
      ∀ x ∈ xs, x.run = run → x.overcounts cfg = false ∧ x.undercounts cfg = false) := by
  refine ⟨?_, ?_, ?_⟩
  · have h := length_filterMap_recorded cfg (callsFor run xs)
    unfold recordedFor committedFor
    omega
  · intro h x hx hrun
    obtain ⟨before, after, rfl⟩ := List.append_of_mem hx
    refine (x.recorded_eq_committed_iff cfg).mp (recorded_eq_committed_of_concat cfg run before hrun
      (h _ (List.prefix_append ..)) (h _ ⟨after, ?_⟩))
    rw [List.append_assoc, List.singleton_append]
  · intro h before hbefore
    refine List.filterMap_congr fun x hx => ?_
    obtain ⟨hx, hrun⟩ := List.mem_filter.mp hx
    exact (x.recorded_eq_committed_iff cfg).mpr
      (h x (hbefore.subset hx) (of_decide_eq_true hrun))

end Counts

/-! ### The calls of the system -/

namespace World

/-- The call that a step brings to its end, with what the stream answers to its batch. -/
def delivery? (cfg : Manager.Config) (w : World) : Label → Option Delivery
  | .finish k env failEnv _ => (w.ready? k).map fun (d, sn) =>
      { directive := d, snapshot := sn, env := env, failEnv := failEnv
        outcome := Manager.storeOutcome cfg.dup w.stream }
  | _ => none

end World

/-- The run that a batch is committed for. -/
def Commit.run (c : Commit) : WFID × RunID := (c.directive.runInfo.wfID, c.directive.runInfo.id)

/-- The kind of a committed batch, if it ends the run. -/
def Commit.terminalFor (run : WFID × RunID) (c : Commit) : Option RunStateKind :=
  if c.run = run then Manager.findTerminalOutcome c.records else none

/-- The calls that the steps of a run bring to their end. -/
def deliveries (cfg : Manager.Config) (w : World) : List Label → List Delivery
  | [] => []
  | a :: labels =>
    (w.delivery? cfg a).toList ++
      match step cfg w a with
      | some w' => deliveries cfg w' labels
      | none => []

section System

variable {cfg : Manager.Config} {w w' : World} {a : Label} {run : WFID × RunID}

theorem committedFor_append (cfg : Defaults) (xs ys : List Delivery) :
    committedFor cfg run (xs ++ ys) = committedFor cfg run xs ++ committedFor cfg run ys := by
  simp [committedFor, callsFor]

theorem committedFor_singleton (cfg : Defaults) (x : Delivery) :
    committedFor cfg run [x] = (if x.run = run then x.committed cfg else none).toList := by
  by_cases hrun : x.run = run <;>
    simp [committedFor, callsFor, hrun, List.filterMap_eq_flatMap_toList]

/-- With the answers of the stream, a call commits what it commits in the model. -/
theorem Delivery.committed_eq {x : Delivery} {l : Stream}
    (hx : x.outcome = Manager.storeOutcome cfg.dup l) :
    x.committed cfg.defaults =
      match Manager.handleSnapshot cfg x.env x.failEnv x.directive x.snapshot l with
      | .ok handled => Manager.findTerminalOutcome handled.committed
      | .error _ => none := by
  have heffect := Manager.handleSnapshot_eq_report cfg x.env x.failEnv x.directive x.snapshot l
  unfold Delivery.committed Delivery.report
  rw [hx]
  revert heffect
  cases Manager.handleSnapshot cfg x.env x.failEnv x.directive x.snapshot l <;>
    cases Manager.report cfg.defaults x.env x.failEnv x.directive x.snapshot
      (Manager.storeOutcome cfg.dup l) <;>
    simp +contextual [Except.map, Manager.Handled.effect, Manager.Report.effect]

/-- The end of a call adds to the journal what the call commits. -/
theorem terminals_finish (cfg : Manager.Config) (w : World) (run : WFID × RunID) (k : ℕ) (c : Call)
    (ack : Bool) (x : Delivery)
    (hx : x.outcome = Manager.storeOutcome cfg.dup w.stream) (hc : c.directive = x.directive) :
    (w.finish cfg k c x.snapshot x.env x.failEnv ack).journal.filterMap (Commit.terminalFor run) =
      w.journal.filterMap (Commit.terminalFor run) ++ committedFor cfg.defaults run [x] := by
  unfold World.finish
  rw [committedFor_singleton, x.committed_eq hx, hc]
  cases Manager.handleSnapshot cfg x.env x.failEnv x.directive x.snapshot w.stream with
  | error fault => simp
  | ok handled =>
    by_cases hnil : handled.committed = []
    · simp [hnil, Manager.findTerminalOutcome]
    · have hterm : Commit.terminalFor run (w.commitOf c x.snapshot handled.committed) =
          if x.run = run then Manager.findTerminalOutcome handled.committed else none := by
        rw [Commit.terminalFor, Commit.run, World.commitOf, hc]
        rfl
      simp [hnil, List.filterMap_eq_flatMap_toList, hterm]

theorem journal_of_step (h : step cfg w a = some w') (ha : a.finished? = none) :
    w'.journal = w.journal := by
  cases effect_of_step h <;> first | rfl | cases ha

theorem terminals_step (h : step cfg w a = some w') :
    w'.journal.filterMap (Commit.terminalFor run) =
      w.journal.filterMap (Commit.terminalFor run) ++
        committedFor cfg.defaults run (w.delivery? cfg a).toList := by
  cases a with
  | finish k env failEnv ack =>
    simp only [step] at h
    split at h <;> cases h
    next seq d sn hc =>
      have hfinish := terminals_finish cfg w run k ⟨seq, d, .ready sn⟩ ack
        ⟨d, sn, env, failEnv, Manager.storeOutcome cfg.dup w.stream⟩ rfl rfl
      simpa [World.delivery?, World.ready?_eq_some hc rfl] using hfinish
  | _ =>
    rw [journal_of_step h rfl]
    exact (List.append_nil _).symm

/-- Along a run of the system, the journal holds the terminal batches that its calls commit. -/
theorem terminals_exec {labels : List Label}
    (h : exec (step cfg) (fun _ _ => True) w labels = some w') :
    w'.journal.filterMap (Commit.terminalFor run) =
      w.journal.filterMap (Commit.terminalFor run) ++
        committedFor cfg.defaults run (deliveries cfg w labels) := by
  induction labels generalizing w with
  | nil =>
    cases h
    exact (List.append_nil _).symm
  | cons a labels ih =>
    rw [exec, if_pos trivial] at h
    obtain ⟨w₁, hstep, h⟩ := Option.bind_eq_some_iff.mp h
    rw [ih h, terminals_step hstep, deliveries, hstep, committedFor_append, List.append_assoc]

end System

/-! ### Two runs that are miscounted -/

namespace Sample

/-- The result of the first step, which ends the run. -/
def lastResult : Directive := stepResult "done" .complete (.complete .nil)

/-- The run is started, and two calls handle the result that ends it at the same time. -/
def endedTwice : List Label :=
  .publish start :: handled 1 ++
    [.publish lastResult, .deliver 9, .readState 0, .readHistory 0, .readEvent 0, .deliver 9,
      .readState 1, .readHistory 1, .readEvent 1, .finish 0 env env true, .finish 0 env env true]

/-- The timer of a wait fires after the wait is over. -/
def staleTimer : List Label :=
  woken ++ .publish (directive "late" .waitTimeout (.waitTimeout "" "next.done")) :: handled 24

end Sample

/-- A run that completes once is recorded twice: the second commit is refused, and its outcome is
recorded all the same. A run that fails because a stale timer cannot be planned is not recorded. -/
theorem ended_runs_miscounted :
    (recordedFor Sample.config.defaults ("wf", "r1")
        (deliveries Sample.config .init Sample.endedTwice) = [.complete, .complete] ∧
      committedFor Sample.config.defaults ("wf", "r1")
        (deliveries Sample.config .init Sample.endedTwice) = [.complete] ∧
      (Sample.world Sample.endedTwice).journal.filterMap (Commit.terminalFor ("wf", "r1")) =
        [.complete]) ∧
    recordedFor Sample.config.defaults ("wf", "r1")
        (deliveries Sample.config .init Sample.staleTimer) = [] ∧
      committedFor Sample.config.defaults ("wf", "r1")
        (deliveries Sample.config .init Sample.staleTimer) = [.fail] ∧
      (Sample.world Sample.staleTimer).journal.filterMap (Commit.terminalFor ("wf", "r1")) =
        [.fail] := by
  decide +kernel

end Grctl
