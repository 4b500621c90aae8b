import Grctl.Log.View
import Grctl.Run.Scope
import Grctl.System.Linear

/-!
# Workflows do not interfere

All workflows share one stream, one queue of directives and one queue of background tasks. Most
steps are made for one workflow: a directive that is published or handled, a worker's note in a
history, the cancellation of a timer, a purge. The other messages of the stream are not touched by
them, so that whatever the server does for other workflows, in any order, a workflow keeps all of
its messages and would be handled in the same way before and after.

## Main definitions

* `Subject.workflow?`: the workflow of a subject.
* `Label.workflow?`: the workflow that a step is made for.
* `workflowView`: the messages of a workflow.

## Main results

* `Batch.wfID_of_scope?`: a batch is about the workflow of its directive.
* `other_workflows_untouched`: the messages of a workflow, and what the server reads of it, do not
  change while the server works for other workflows.
-/

namespace Grctl

open SubjectLog Lts

/-! ### The workflow of a subject, of a purge and of a step -/

/-- The workflow of a subject; the background tasks share one. -/
def Subject.workflow? : Subject → Option WFID
  | .directive _ wfID _ | .history wfID _ | .timer wfID _ _ | .runInfo _ wfID _ | .runInput wfID _
  | .runOutput wfID _ | .runError wfID _ | .kv wfID _ _ | .inbox wfID | .runState wfID _
  | .workerTask _ wfID _ => some wfID
  | .bgTask => none

/-- The workflow that a purge removes messages of. -/
def PurgePattern.workflow : PurgePattern → WFID
  | .directives wfID | .timers wfID | .inbox wfID | .workerTasks wfID => wfID

/-- The workflow of a background task that removes a timer. -/
def BackgroundTask.timerOf? (maxDeliveries : ℕ) (task : BackgroundTask) (numDelivered : ℕ) :
    Option WFID :=
  match BgTask.handle maxDeliveries task numDelivered with
  | .cancelTimer wfID _ _ => some wfID
  | _ => none

/-- The workflow that a step is made for. The start of a purge and the reads of a call change no
message. -/
def Label.workflow? (cfg : Manager.Config) (w : World) : Label → Option WFID
  | .publish d => some d.runInfo.wfID
  | .saveRun k => w.admitted[k]?.map RunInfo.wfID
  | .recordHistory h => some h.wfID
  | .finish k _ _ _ => w.calls[k]?.map (·.directive.runInfo.wfID)
  | .deliverTask seq numDelivered =>
    match w.entryAt seq with
    | some { data := .bgTask task, .. } => task.timerOf? cfg.maxTaskDeliveries numDelivered
    | _ => none
  | .purgeNext k => w.purges[k]?.bind (·.pending.head?.map PurgePattern.workflow)
  | .fire seq => (w.entryAt seq).bind (·.subject.workflow?)
  | .admitRun _ | .dropRun _ | .deliver _ | .readState _ | .readHistory _ | .readEvent _
  | .abandon _ => none

/-- Whether a subject belongs to a workflow. -/
def Subject.ofWorkflow (wf : WFID) (s : Subject) : Bool := s.workflow? == some wf

/-- The messages of a workflow. -/
def workflowView (wf : WFID) (l : Stream) : List StreamEntry := l.view (Subject.ofWorkflow wf)

theorem Subject.ofWorkflow_eq_false {wf : WFID} {s : Subject} :
    s.ofWorkflow wf = false ↔ s.workflow? ≠ some wf := by
  rw [ofWorkflow, beq_eq_false_iff_ne]

theorem PurgePattern.workflow_of_covers {p : PurgePattern} {s : Subject} (h : p.covers s = true) :
    s.workflow? = some p.workflow := by
  cases p <;> cases s <;> simp_all [covers, Subject.workflow?, workflow]

/-- A record is stored under subjects of the workflow it names. -/
theorem Record.workflow?_of_mem_messages {r : Record} {m : Msg} (hm : m ∈ r.messages) :
    m.subject.workflow? = r.scope?.map Prod.fst := by
  cases r with
  | kv wfID runID kvMap =>
    obtain ⟨u, -, rfl⟩ := List.mem_map.mp hm
    rfl
  | _ =>
    obtain rfl := List.mem_singleton.mp hm
    rfl

/-! ### What is read of a workflow -/

section Reads

variable {wf : WFID} {l l' : Stream}

theorem lastOn_of_workflowView (h : workflowView wf l' = workflowView wf l) {s : Subject}
    (hs : s.workflow? = some wf) : l'.lastOn s = l.lastOn s :=
  Log.lastOn_of_view h (by simpa [Subject.ofWorkflow] using hs)

theorem getStateSnapshot_of_workflowView (h : workflowView wf l' = workflowView wf l)
    (run : RunID) : getStateSnapshot l' wf run = getStateSnapshot l wf run := by
  have hon (s : Subject) (hs : s.workflow? = some wf) : s.ofWorkflow wf = true := by
    simpa [Subject.ofWorkflow] using hs
  have hstate : getRunState l' wf run = getRunState l wf run := by
    rw [getRunState, getRunState, lastOn_of_workflowView h rfl]
  have hevent (n : ℕ) : getNextEvent l' wf n = getNextEvent l wf n := by
    rw [getNextEvent, getNextEvent, Log.firstFrom_of_view h (hon _ rfl)]
  have hhistory : getLastHistorySeqID l' wf run = getLastHistorySeqID l wf run :=
    Log.lastSeq_of_view h (hon _ rfl)
  simp only [getStateSnapshot, hstate, hevent, hhistory]

theorem getRunByWFID_of_workflowView (h : workflowView wf l' = workflowView wf l) :
    getRunByWFID l' wf = getRunByWFID l wf := by
  rw [getRunByWFID, getRunByWFID, Log.lastWhere_of_view h]
  intro s hs
  cases s <;> simp_all [Subject.ofWorkflow, Subject.workflow?]

end Reads

/-! ### What a step writes -/

section Step

variable {cfg : Manager.Config} {w w' : World} {c : Call} {sn : StateSnapshot}
  {records : List Record} {l : Stream} {wf : WFID} {a : Label}

/-- A batch is about the workflow of its directive. A parked cancellation is one of the same run,
and an event that is dispatched one of the same workflow. -/
theorem Batch.wfID_of_scope? (hw : Sound w) (hb : Batch cfg w c sn records l) {r : Record}
    (hr : r ∈ records) {key : RunKey} (hkey : key ∈ r.scope?) :
    key.1 = c.directive.runInfo.wfID := by
  obtain ⟨env, failEnv, hrec⟩ := hb.planned
  by_cases hkind : c.directive.kind = .start ∨ c.directive.kind = .event
  · have hown := within_of_handleRecords_own (hw.calls c hb.call).decoded
      (hw.eventSound hb.call hb.phase) hkind hrec r hr key hkey
    rw [List.mem_singleton.mp hown]
    rfl
  · obtain ⟨s, notes, body, hrecords, hturn⟩ := hb.turn hw (not_or.mp hkind)
    obtain ⟨hof, -⟩ := hw.stateOf (hb.stored hw hrecords hturn.transition)
    have hmem := within_of_handleRecords hrec r hr key hkey
    simp only [scopeOf, List.mem_append, List.mem_cons, List.not_mem_nil, or_false] at hmem
    rcases hmem with ((rfl | rfl) | hcancel) | hevent
    · rfl
    · exact hof.wfID
    · split_ifs at hcancel
      · obtain ⟨cancel, hparked, rfl⟩ := Option.map_eq_some_iff.mp (Option.mem_toList.mp hcancel)
        exact (hof.cancel cancel hparked).2.2.1
      · simp at hcancel
    · split_ifs at hevent with hwake
      · obtain rfl := List.mem_singleton.mp hevent
        rcases hturn.transition.cursor_cases with ⟨-, hevent, -⟩ | ⟨hne, -⟩
        · exact hb.event_wfID hw hevent
        · exact absurd hwake hne
      · simp at hevent

theorem Batch.workflowView_eq (hw : Sound w) (hb : Batch cfg w c sn records l)
    (hne : c.directive.runInfo.wfID ≠ wf) : workflowView wf l = workflowView wf w.stream := by
  rw [eq_appendAll_of_commit hb.commit]
  refine Log.view_appendAll_of_not _ fun m hm => ?_
  obtain ⟨r, hr, hm⟩ := List.mem_flatMap.mp hm
  rw [Subject.ofWorkflow_eq_false, Record.workflow?_of_mem_messages hm]
  intro hsome
  obtain ⟨key, hkey, hwf⟩ := Option.map_eq_some_iff.mp hsome
  exact hne ((hb.wfID_of_scope? hw hr hkey).symm.trans hwf)

theorem workflowView_append {m : Msg} (hm : m.subject.workflow? ≠ some wf) :
    workflowView wf (l.append m) = workflowView wf l := by
  change (l.appendAll [m]).view _ = _
  refine Log.view_appendAll_of_not _ fun m' hm' => ?_
  rw [List.mem_singleton.mp hm', Subject.ofWorkflow_eq_false]
  exact hm

theorem workflowView_purge {q : Subject → Bool} {wf' : WFID}
    (hq : ∀ s, q s = true → s.workflow? = some wf') (hne : wf' ≠ wf) :
    workflowView wf (l.purge q) = workflowView wf l := by
  refine Log.view_purge_of_not _ fun s hs => ?_
  rw [Subject.ofWorkflow_eq_false, hq s hs]
  simpa using hne

/-- A step that is made for another workflow, or for none, leaves the messages of a workflow
alone. -/
theorem workflowView_of_step (hw : Sound w) (hstep : step cfg w a = some w')
    (hother : a.workflow? cfg w ≠ some wf) :
    workflowView wf w'.stream = workflowView wf w.stream := by
  cases a with
  | publish d =>
    cases effect_of_step hstep with
    | publish => exact workflowView_append hother
    | duplicate | drop | crash => rfl
  | saveRun k =>
    cases effect_of_step hstep with
    | saveRun hinfo =>
      simp only [Label.workflow?, hinfo] at hother
      exact workflowView_append hother
    | saveRefused | drop | crash => rfl
  | recordHistory h =>
    cases effect_of_step hstep with
    | recordHistory => exact workflowView_append hother
    | drop | crash => rfl
  | finish k env failEnv ack =>
    cases effect_of_step hstep with
    | commit hc hb =>
      simp only [Label.workflow?, hc, Option.map_some, ne_eq, Option.some.injEq] at hother
      exact hb.workflowView_eq hw hother
    | reject | drop | crash => rfl
  | deliverTask seq n =>
    simp only [step] at hstep
    split at hstep
    · rename_i hentry
      split at hstep <;> cases hstep
      · rfl
      · rename_i htask
        simp only [Label.workflow?, hentry, BackgroundTask.timerOf?, htask, ne_eq,
          Option.some.injEq] at hother
        refine workflowView_purge (fun s hs => ?_) hother
        rw [beq_iff_eq.mp hs]
        rfl
    · cases hstep
  | purgeNext k =>
    cases effect_of_step hstep with
    | purgeNext hk =>
      simp only [Label.workflow?, hk, Option.bind_some, List.head?_cons, Option.map_some, ne_eq,
        Option.some.injEq] at hother
      exact workflowView_purge (fun s hs => PurgePattern.workflow_of_covers hs) hother
    | drop | crash => rfl
  | fire seq =>
    cases effect_of_step hstep with
    | fire _ _ hsubject _ hat =>
      simp only [Label.workflow?, hat, Option.bind_some, hsubject, Subject.workflow?, ne_eq,
        Option.some.injEq] at hother
      refine workflowView_purge (fun s hs => ?_) hother
      rw [beq_iff_eq.mp hs]
      rfl
    | drop | crash => rfl
  | admitRun | dropRun | deliver | readState | readHistory | readEvent | abandon =>
    cases effect_of_step hstep <;> rfl

end Step

/-! ### Whole runs -/

section Runs

variable {cfg : Manager.Config} {w w' : World}

/-- While the server works for other workflows, the messages of a workflow stay as they are, and
every read of it gives the same answer. -/
theorem other_workflows_untouched {wf : WFID} (h : Reachable cfg w)
    (hrun : Reach (step cfg) (fun w a => a.workflow? cfg w ≠ some wf) w w') :
    workflowView wf w'.stream = workflowView wf w.stream ∧
      (∀ run, getStateSnapshot w'.stream wf run = getStateSnapshot w.stream wf run) ∧
      getRunByWFID w'.stream wf = getRunByWFID w.stream wf := by
  have hview : Reachable cfg w' ∧ workflowView wf w'.stream = workflowView wf w.stream := by
    induction hrun with
    | init => exact ⟨h, rfl⟩
    | step _ hother hstep ih =>
      obtain ⟨hreach, hview⟩ := ih
      exact ⟨hreach.step trivial hstep,
        (workflowView_of_step (sound_of_reachableBy hreach) hstep hother).trans hview⟩
  exact ⟨hview.2, getStateSnapshot_of_workflowView hview.2,
    getRunByWFID_of_workflowView hview.2⟩

/-- The start of a run of another workflow. -/
def Sample.startElsewhere : Directive where
  id := "start-elsewhere"
  kind := .start
  runInfo := { run with id := "r2", wfID := "wf2" }
  msg := .start .nil 0

/-- A run waits, and the server starts one of another workflow. -/
theorem other_workflows_untouched_start :
    ∃ w w', Reachable Sample.config w ∧ w'.journal.length = w.journal.length + 1 ∧
      w'.stream.length = w.stream.length + 8 ∧
      Reach (step Sample.config) (fun w a => a.workflow? Sample.config w ≠ some "wf") w w' ∧
      workflowView "wf" w'.stream = workflowView "wf" w.stream := by
  have hreach : Reachable Sample.config (Sample.world Sample.waiting) := Sample.reachable_world _
  let ok : World → Label → Prop := fun w a => a.workflow? Sample.config w ≠ some "wf"
  have hrun : Reach (step Sample.config) ok (Sample.world Sample.waiting)
      (execD (step Sample.config) ok (Sample.world Sample.waiting)
        (.publish Sample.startElsewhere :: Sample.handled 16)) :=
    reach_execD ..
  have hlengths : (execD (step Sample.config) ok (Sample.world Sample.waiting)
        (.publish Sample.startElsewhere :: Sample.handled 16)).journal.length =
          (Sample.world Sample.waiting).journal.length + 1 ∧
      (execD (step Sample.config) ok (Sample.world Sample.waiting)
        (.publish Sample.startElsewhere :: Sample.handled 16)).stream.length =
          (Sample.world Sample.waiting).stream.length + 8 := by decide +kernel
  exact ⟨_, _, hreach, hlengths.1, hlengths.2, hrun, (other_workflows_untouched hreach hrun).1⟩

end Runs

end Grctl
