import Grctl.Run.Closing
import Grctl.System.Progress

/-!
# The worker of the active step

A worker that takes up a step reports so, and the run state remembers the worker: a run that fails
or is terminated tells it to stop. The report is neither compared with the active directive nor
taken back: whatever a run does next, a further step, a wait or the dispatch of an event, copies the
name of the worker along, and a run that is then stopped sends word to a worker that is not at work.

The name can be trusted as long as a report comes while its step is active, and nothing new begins
once a worker is named. Which step a report is for is known to the worker only; it is the parameter
`taskOf`.

## Main definitions

* `PickedUp`: a report that has been committed.
* `WorkerGuard`: when reports are taken up and activities begin.

## Main results

* `worker_of_active_step`: the worker that is named or stopped has picked up the active step.
* `worker_named_in_wait`: a run that stops a worker while it waits.
-/

namespace Grctl

open SubjectLog Lts

section Guard

variable (taskOf : Directive → DirectiveID) (wf : WFID) (run : RunID)

/-- A committed report that the worker has picked up the step `task` of the run. -/
def PickedUp (journal : List Commit) (worker : WorkerID) (task : DirectiveID) : Prop :=
  ∃ c ∈ journal, c.directive.kind = .stepPickedUp ∧ c.directive.OfRun wf run ∧
    taskOf c.directive = task ∧ ∃ name t, c.directive.msg = .stepPickedUp name worker t

/-- Handling `d` begins a step or a wait. A wait that ends begins a step as well, but it has no
worker. -/
def Begins (d : Directive) (s : RunState) : Prop :=
  d.kind = .step ∨ d.kind = .wait ∨
    d.kind = .stepResult ∧ s.pendingCancel = none ∧
      ∃ k ∈ d.nextKind?, k = .step ∨ k = .event ∨ k = .wait

/-- A report comes while its step is active, and an activity begins while no worker is named. -/
def Attended (d : Directive) (s : RunState) : Prop :=
  (d.AsksFor .stepPickedUp →
    d.kind = .stepPickedUp ∧ s.kind = .step ∧ s.activeDirectiveID = taskOf d) ∧
  (Begins d s → s.workerID = none)

/-- Whatever is planned from the current state of the run, while it has not ended, is attended. -/
def WorkerGuard (w : World) (a : Label) : Prop :=
  ∀ k ∈ a.finished?, ∀ p ∈ w.ready? k, p.1.OfRun wf run →
    getRunState w.stream wf run = .ok (some p.2.runState) → p.2.runState.isTerminal = false →
      Attended taskOf p.1 p.2.runState

end Guard

instance (d : Directive) (s : RunState) : Decidable (Begins d s) :=
  inferInstanceAs (Decidable (_ ∨ _))

instance (taskOf : Directive → DirectiveID) (d : Directive) (s : RunState) :
    Decidable (Attended taskOf d s) := inferInstanceAs (Decidable (_ ∧ _))

instance (taskOf : Directive → DirectiveID) (wf : WFID) (run : RunID) (w : World) (a : Label) :
    Decidable (WorkerGuard taskOf wf run w a) :=
  inferInstanceAs (Decidable (∀ k ∈ a.finished?, ∀ p ∈ w.ready? k, _ → _ → _ → _))

theorem PickedUp.mono {taskOf : Directive → DirectiveID} {wf : WFID} {run : RunID}
    {journal journal' : List Commit} {worker : WorkerID} {task : DirectiveID}
    (h : PickedUp taskOf wf run journal worker task) (hj : journal ⊆ journal') :
    PickedUp taskOf wf run journal' worker task := by
  obtain ⟨c, hc, hrest⟩ := h
  exact ⟨c, hj hc, hrest⟩

/-! ### What transitions do to the worker -/

section Transitions

variable {cfg : Defaults} {env failEnv : Readings} {d : Directive} {sn : StateSnapshot}
  {s : RunState} {records body : List Record}

theorem Planned.workerID_of_start {n : ℕ} (h : Planned d sn records) (hd : d.kind = .start)
    (hs : Record.runState s n ∈ records) : s.workerID = none := by
  cases h with
  | nothing => cases hs
  | start _ _ _ _ hinput hbody =>
    cases hbody
    simp only [List.mem_append, List.mem_cons, List.not_mem_nil, reduceCtorEq, false_or,
      or_false] at hs
    rcases hs with hs | hs | hs
    · obtain ⟨v, hv⟩ := hinput _ hs
      cases hv
    · cases hs
      rfl
    · cases hs
      rfl
  | event _ hkind => exact absurd (hd.symm.trans hkind) (by decide)
  | transition _ _ ht => exact absurd hd ht.kind_ne.1

/-- A transition ends the run, takes up a report or copies the worker along. -/
theorem Transition.workerID (h : Transition d sn s body) :
    s.isTerminal = true ∨ d.AsksFor .stepPickedUp ∨ s.workerID = sn.runState.workerID := by
  cases h with
  | finish h hkind => exact .inl (h.isTerminal.trans hkind)
  | dispatch h =>
    cases h
    exact .inr (.inr rfl)
  | suspend h =>
    cases h
    exact .inr (.inr rfl)
  | pickUp hd => exact .inr (.inl hd)
  | park => exact .inr (.inr rfl)

/-- A report is taken up as it stands. -/
theorem handleRecords_of_stepPickedUp (hd : d.Decoded) (hkind : d.kind = .stepPickedUp)
    (hlive : sn.runState.isTerminal = false)
    (h : handleRecords cfg env failEnv d sn = .ok records) :
    ∃ name worker t e, d.msg = .stepPickedUp name worker t ∧
      records = [.history e, .runState { sn.runState with workerID := some worker }
        sn.runState.seqID] := by
  have hagrees := hd.2
  rw [hkind] at hagrees
  cases hmsg : d.msg <;> simp [hmsg, DirectiveMessage.agrees] at hagrees
  rename_i name worker t
  obtain ⟨e, hplan⟩ : ∃ e, plan cfg env d sn = .ok [.history e,
      .runState { sn.runState with workerID := some worker } sn.runState.seqID] := by
    simp only [plan, hlive, hkind, planTransition, Records.stepPickedUp, History.stepPickedUp, hmsg]
    exact ⟨_, rfl⟩
  rw [handleRecords, hplan] at h
  cases h
  exact ⟨name, worker, t, e, rfl, rfl⟩

end Transitions

/-! ### The current state -/

/-- The worker that the current state names, if the run has not ended, has picked up the active
step. -/
def Attendance (taskOf : Directive → DirectiveID) (wf : WFID) (run : RunID)
    (state : Outcome (Option RunState)) (journal : List Commit) : Prop :=
  ∀ s worker, state = .ok (some s) → s.workerID = some worker →
    s.isTerminal = true ∨
      s.kind = .step ∧ PickedUp taskOf wf run journal worker s.activeDirectiveID

section Batch

variable {taskOf : Directive → DirectiveID} {cfg : Manager.Config} {w : World} {c : Call}
  {sn : StateSnapshot} {records : List Record} {l : Stream} {wf : WFID} {run : RunID}

theorem Attendance.mono {state : Outcome (Option RunState)} {journal journal' : List Commit}
    (h : Attendance taskOf wf run state journal) (hj : journal ⊆ journal') :
    Attendance taskOf wf run state journal' := by
  intro s worker hs hworker
  refine (h s worker hs hworker).imp_right ?_
  rintro ⟨hkind, hpicked⟩
  exact ⟨hkind, hpicked.mono hj⟩

/-- A state that names no worker. -/
theorem Attendance.of_none {s : RunState} {journal : List Commit} (hnone : s.workerID = none) :
    Attendance taskOf wf run (.ok (some s)) journal := by
  intro s' worker hs' hworker
  cases hs'
  simp [hnone] at hworker

/-- A transition that is not a report leaves the activity alone, or it finds no worker. -/
theorem Turn.workerID {s : RunState} {d : Directive} {notes body : List Record}
    (h : Turn d sn s notes body) (hs : s.isTerminal = false) (hpick : ¬ d.AsksFor .stepPickedUp)
    (hwait : sn.runState.kind = .wait → sn.runState.workerID = none)
    (hbegins : Begins d sn.runState → sn.runState.workerID = none) :
    sn.runState.workerID = none ∨
      s.kind = sn.runState.kind ∧ s.activeDirectiveID = sn.runState.activeDirectiveID := by
  have hfree (hd : d.kind = .stepResult) : sn.runState.pendingCancel = none := by
    by_contra hcancel
    have hterm := h.intercepted hd (Option.isSome_iff_ne_none.mpr hcancel)
    simp [hs] at hterm
  have ht := h.transition
  cases ht with
  | finish hfinish hkind => simp [hfinish.isTerminal.trans hkind] at hs
  | dispatch _ hsrc =>
    left
    cases hsrc with
    | step hd => exact hbegins (.inl hd)
    | next hd hnext hkind =>
      exact hbegins (.inr (.inr ⟨hd, hfree hd, _, hnext, hkind.imp_right .inl⟩))
    | timeout _ hw => exact hwait hw
    | inbox _ hw => exact hwait hw
  | suspend _ hd =>
    left
    rcases hd with hd | ⟨hd, hnext⟩
    · exact hbegins (.inr (.inl hd))
    · exact hbegins (.inr (.inr ⟨hd, hfree hd, _, hnext, .inr (.inr rfl)⟩))
  | pickUp hd => exact absurd hd hpick
  | park => exact .inr ⟨rfl, rfl⟩

/-- The step lemma. -/
theorem Attendance.batch (hw : Sound w) (hb : Batch cfg w c sn records l)
    (hinv : Attendance taskOf wf run (getRunState w.stream wf run) w.journal)
    (hok : c.directive.OfRun wf run → getRunState w.stream wf run = .ok (some sn.runState) →
      sn.runState.isTerminal = false → Attended taskOf c.directive sn.runState) :
    Attendance taskOf wf run (getRunState l wf run) (w.journal ++ [w.commitOf c sn records]) := by
  have hj : w.journal ⊆ w.journal ++ [w.commitOf c sn records] := List.subset_append_left ..
  cases hb.advance hw wf run with
  | other _ hsame => exact hsame ▸ hinv.mono hj
  | event _ _ _ _ _ hsame => exact hsame ▸ hinv.mono hj
  | start _ hkind _ hbegun hnew =>
    obtain ⟨states, n, hstates⟩ := hbegun.states
    obtain ⟨r, hr, hs⟩ := List.mem_filterMap.mp
      (hstates ▸ List.mem_append_right states (List.mem_singleton_self _))
    obtain rfl := Record.runState?_eq_some.mp hs
    have hnone := (hw.planned hb).workerID_of_start hkind hr
    exact hnew ▸ .of_none hnone
  | @turn s k notes body hrun hkind hlive hturn hrecords hold hnew =>
    obtain ⟨hreport, hbegins⟩ := hok hrun hold hlive
    intro s' worker hs' hworker
    cases hnew.symm.trans hs'
    by_cases hpick : c.directive.AsksFor .stepPickedUp
    · obtain ⟨hpicked, hstep, htask⟩ := hreport hpick
      obtain ⟨env, failEnv, hrec⟩ := hb.planned
      obtain ⟨name, x, t, e, hmsg, hpair⟩ :=
        handleRecords_of_stepPickedUp (hw.calls c hb.call).decoded hpicked hlive hrec
      have hstates := hturn.runStates
      rw [← hrecords, hpair] at hstates
      cases hstates
      cases hworker
      exact .inr ⟨hstep, _, List.mem_append_right _ (List.mem_singleton_self _), hpicked, hrun,
        htask.symm, name, t, hmsg⟩
    · by_cases hterm : s.isTerminal = true
      · exact .inl hterm
      · have hcopied : s.workerID = sn.runState.workerID :=
          (hturn.transition.workerID.resolve_left hterm).resolve_left hpick
        have hcurrent := hinv sn.runState worker hold (hcopied ▸ hworker)
        have hwait : sn.runState.kind = .wait → sn.runState.workerID = none := by
          intro hwait
          rcases hcurrent with hended | ⟨hstep, -⟩
          · simp [hlive] at hended
          · exact absurd (hwait.symm.trans hstep) (by decide)
        rcases hturn.workerID (by simpa using hterm) hpick hwait hbegins with hnone | ⟨hkind', hid⟩
        · rw [show s.workerID = none from hcopied.trans hnone] at hworker
          cases hworker
        · rcases hcurrent with hended | ⟨hstep, hpicked⟩
          · simp [hlive] at hended
          · exact .inr ⟨hkind'.trans hstep, (hid ▸ hpicked).mono hj⟩

end Batch

/-! ### Runs -/

section Run

variable {taskOf : Directive → DirectiveID} {cfg : Manager.Config} {w : World} {wf : WFID}
  {run : RunID}

theorem attendance_of_reachableBy (h : ReachableBy cfg (WorkerGuard taskOf wf run) w) :
    Attendance taskOf wf run (getRunState w.stream wf run) w.journal :=
  runState_invariant h (fun s worker hs => by cases hs) fun _ _ _ _ _ _ _ _ _ hr ih hok hc hb =>
    ih.batch (sound_of_reachableBy hr) hb (hok _ rfl _ (World.ready?_eq_some hc hb.phase))

/-- In a run in which reports come while their step is active and nothing begins once a worker is
named, the current state names a worker only in a step that this worker has picked up, or after the
end of the run. And a batch that stops a worker was planned in a step which that worker has picked
up: no worker is stopped by a run that waits or whose step nobody has picked up. -/
theorem worker_of_active_step (h : ReachableBy cfg (WorkerGuard taskOf wf run) w) :
    (∀ s worker, getRunState w.stream wf run = .ok (some s) → s.workerID = some worker →
      s.isTerminal = true ∨
        s.kind = .step ∧ PickedUp taskOf wf run w.journal worker s.activeDirectiveID) ∧
    ∀ pre c post, w.journal = pre ++ c :: post → c.directive.OfRun wf run →
      ∀ p ∈ tasksBy BackgroundTask.stops? c.records, c.snapshot.runState.kind = .step ∧
        PickedUp taskOf wf run pre p.1 c.snapshot.runState.activeDirectiveID := by
  refine ⟨attendance_of_reachableBy h, ?_⟩
  refine along_journal h fun w k c sn records l _ _ _ hr _ _ _ hb hrun p hp => ?_
  have hw := sound_of_reachableBy hr
  obtain ⟨env, failEnv, hrec⟩ := hb.planned
  rcases closes_of_handleRecords hrec with ⟨src, now, kind, hkind, -, hclosing⟩ | hgoesOn
  · obtain ⟨hworker, -⟩ := hclosing.stops p hp
    obtain ⟨n, hstates⟩ := hclosing.states
    obtain ⟨r, hr', hs⟩ := List.mem_filterMap.mp (hstates ▸ List.mem_singleton_self _)
    obtain rfl := Record.runState?_eq_some.mp hs
    rcases (hw.planned hb).runState_cases hr' with
      ⟨-, -, hstart⟩ | ⟨-, _, _, hrecords, hnotes, ht⟩
    · exact absurd (hstart.isTerminal.symm.trans hkind) (by decide)
    · have hcurrent := hb.current hw hrecords hnotes ht
      rw [show c.directive.runInfo.wfID = wf from hrun.1,
        show c.directive.runInfo.id = run from hrun.2] at hcurrent
      rcases attendance_of_reachableBy hr _ _ hcurrent hworker with hended | hstep
      · exact absurd ((hb.live hw).symm.trans hended) (by decide)
      · exact hstep
  · change p ∈ tasksBy _ records at hp
    rw [hgoesOn.tasksBy_eq_nil fun task ht => ?_] at hp
    · cases hp
    · rcases task with ⟨_, _, payload⟩
      cases payload <;> first | rfl | cases ht

end Run

namespace Sample

/-- The worker reports that it has picked up the first step. -/
def pickedUp : Directive :=
  directive "picked" .stepPickedUp (.stepPickedUp "start" "worker" 1500000)

/-- The run is terminated during its first step, which a worker has picked up. -/
def stopping : List Label :=
  .publish start :: handled 1 ++ .publish pickedUp :: handled 9 ++
    .publish (directive "stop" .terminate (.terminate "")) :: handled 12

/-- The first step is picked up and ends in a wait, and the waiting run is terminated. -/
def stoppingInWait : List Label :=
  .publish start :: handled 1 ++ .publish pickedUp :: handled 9 ++
    .publish (stepResult "done" .wait (.wait 0 "")) :: handled 12 ++
      .publish (directive "stop" .terminate (.terminate "")) :: handled 19

end Sample

/-- The worker of the first step is stopped during that step. -/
theorem worker_of_active_step_stopping :
    ∃ c ∈ (Sample.worldBy (WorkerGuard (fun _ => "start") "wf" "r1") Sample.stopping).journal,
      tasksBy BackgroundTask.stops? c.records = [("worker", "r1")] ∧
        c.snapshot.runState.kind = .step := by
  have hreach :=
    Sample.reachableBy_worldBy (WorkerGuard (fun _ => "start") "wf" "r1") Sample.stopping
  have hstop : ∃ c ∈
      (Sample.worldBy (WorkerGuard (fun _ => "start") "wf" "r1") Sample.stopping).journal,
      tasksBy BackgroundTask.stops? c.records = [("worker", "r1")] ∧
        c.directive.OfRun "wf" "r1" := by decide +kernel
  obtain ⟨c, hc, hstops, hrun⟩ := hstop
  obtain ⟨pre, post, hsplit⟩ := List.append_of_mem hc
  refine ⟨c, hc, hstops, ?_⟩
  exact ((worker_of_active_step hreach).2 pre c post hsplit hrun ("worker", "r1")
    (hstops ▸ List.mem_singleton_self _)).1

/-- A run that waits still names the worker of the step before, and stops it when it is
terminated. -/
theorem worker_named_in_wait :
    Reachable Sample.config (Sample.world Sample.stoppingInWait) ∧
      ∃ c ∈ (Sample.world Sample.stoppingInWait).journal,
        c.snapshot.runState.kind = .wait ∧ c.snapshot.runState.workerID = some "worker" ∧
          tasksBy BackgroundTask.stops? c.records = [("worker", "r1")] :=
  ⟨Sample.reachable_world _, by decide +kernel⟩

end Grctl
