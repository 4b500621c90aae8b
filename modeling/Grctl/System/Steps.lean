import Grctl.System.Progress

/-!
# One step at a time

A run hands a step to a worker, and the worker reports a result. A worker task is delivered at
least once, so that several workers may report a result for it, each in a directive of its own.
The run state remembers the directive whose step is active, but the result of a step is never
compared with it: a late result is applied in any state of the run, ends a step it does not belong
to, and leaves the run with two steps under way.

A run has one step at a time if the result of a step is taken up only while that step is the
active one. Between the snapshot and the commit the stream then does the rest: of two results that
have both seen their step active, only the first one commits.

Which step a result is for is known to the worker only; it is the parameter `taskOf`.

## Main definitions

* `Commit.tasks`, `Commit.isResult`: the steps a batch hands out, and the batch of a result.
* `openTasks`: the steps that have been handed out and have no result.
* `StepGuard`: when the results of steps are taken up.

## Main results

* `step_finished_at_most_once`: a result ends the one step that is under way.
-/

namespace Grctl

open SubjectLog Lts

/-- The batch of the result of a step. -/
def Commit.isResult (wf : WFID) (run : RunID) (c : Commit) : Bool :=
  decide (c.directive.kind = .stepResult ∧ c.directive.OfRun wf run)

/-- The directives whose steps a batch of the run hands to workers. -/
def Commit.tasks (wf : WFID) (run : RunID) (c : Commit) : List DirectiveID :=
  if c.directive.OfRun wf run then (c.records.filterMap Record.workerTask?).map Directive.id else []

section Tasks

variable (taskOf : Directive → DirectiveID) (wf : WFID) (run : RunID)

/-- The steps under way after a batch: a result ends the step it is for. -/
def afterCommit (tasks : List DirectiveID) (c : Commit) : List DirectiveID :=
  (if c.isResult wf run then tasks.erase (taskOf c.directive) else tasks) ++ c.tasks wf run

/-- The steps that a history of batches has handed out and that have no result. -/
def openTasks (journal : List Commit) : List DirectiveID :=
  journal.foldl (afterCommit taskOf wf run) []

/-- The step of a result is the active one, if the run has a state and has not ended. -/
def OnActive (d : Directive) (s : RunState) : Prop :=
  d.kind = .stepResult → d.OfRun wf run → s = .zero ∨ s.isTerminal = true ∨
    s.kind = .step ∧ s.activeDirectiveID = taskOf d

/-- Steps and waits of the run are asked for by results only, and no result names a picked up step
next. -/
def Label.ByResult (a : Label) : Prop :=
  ∀ d ∈ a.published?, d.OfRun wf run → d.kind ≠ .step ∧ d.kind ≠ .wait ∧
    d.nextKind? ≠ some .stepPickedUp
  deriving Decidable

/-- The call that reads the run state in a step. -/
def Label.reading? : Label → Option ℕ
  | .readState k => some k
  | _ => none

/-- The result of a step is taken up only while that step is the active one. -/
def StepGuard (w : World) (a : Label) : Prop :=
  a.ByResult wf run ∧ ∀ k ∈ a.reading?, ∀ c ∈ w.calls[k]?,
    OnActive taskOf wf run c.directive
      (currentState w.stream c.directive.runInfo.wfID c.directive.runInfo.id)

end Tasks

instance (taskOf : Directive → DirectiveID) (wf : WFID) (run : RunID) (d : Directive)
    (s : RunState) : Decidable (OnActive taskOf wf run d s) :=
  inferInstanceAs (Decidable (_ → _ → _))

instance (taskOf : Directive → DirectiveID) (wf : WFID) (run : RunID) (w : World) (a : Label) :
    Decidable (StepGuard taskOf wf run w a) :=
  inferInstanceAs (Decidable (_ ∧ _))

/-! ### Transitions -/

/-- What a transition does about steps: it ends the run, hands out a step, suspends the run, or
leaves the step or the wait as it is. -/
inductive StepChange (d : Directive) (sn : StateSnapshot) (s : RunState)
    (tasks : List DirectiveID) : Prop
  | ended (hs : s.isTerminal = true) (htasks : tasks = [])
  | handed (hs : s.kind = .step) (htasks : tasks = [s.activeDirectiveID])
      (hd : d.kind = .step ∨ d.kind = .stepResult ∨
        d.kind ≠ .stepResult ∧ sn.runState.kind = .wait)
  | suspended (hs : s.kind = .wait) (htasks : tasks = [])
      (hd : d.kind = .wait ∨ d.kind = .stepResult)
  | kept (hs : s.kind = sn.runState.kind ∧ s.activeDirectiveID = sn.runState.activeDirectiveID)
      (htasks : tasks = []) (hd : d.kind ≠ .stepResult ∨ d.nextKind? = some .stepPickedUp)

theorem Transition.stepChange {d : Directive} {sn : StateSnapshot} {s : RunState}
    {notes body : List Record} (hnotes : AllNotes notes) (h : Transition d sn s body) :
    StepChange d sn s (((notes ++ body).filterMap Record.workerTask?).map Directive.id) := by
  rw [List.filterMap_append, hnotes.workerTasks, List.nil_append]
  cases h with
  | finish h hkind =>
    obtain ⟨-, -, hrest⟩ := h
    refine .ended ?_ (by simp [List.filterMap_cons, Record.workerTask?, hrest.workerTasks])
    simpa [Records.finished, RunState.isTerminal, RunStateKind.isTerminal] using hkind
  | dispatch h hsrc =>
    refine .handed (by cases h; rfl) (by cases h; rfl) ?_
    cases hsrc with
    | step hd => exact .inl hd
    | next hd => exact .inr (.inl hd)
    | timeout hd hwait =>
      rcases hd with hd | hd
      · exact .inr (.inr ⟨by simp [hd], hwait⟩)
      · exact .inr (.inl hd.1)
    | inbox hd hwait => exact .inr (.inr ⟨by simp [hd], hwait⟩)
  | suspend h hd =>
    refine .suspended (by cases h; rfl) ?_ (hd.imp_right And.left)
    cases h
    split_ifs <;> rfl
  | pickUp hd =>
    refine .kept ⟨rfl, rfl⟩ rfl ?_
    rcases hd with hd | hd
    · exact .inl (by simp [hd])
    · exact .inr hd.2
  | park hd => exact .kept ⟨rfl, rfl⟩ rfl (.inl (by simp [hd]))

/-! ### The steps under way -/

/-- The steps `tasks` are under way in the run: at most one, the active one during a step, and
none while the run waits or has no state. -/
structure OneStep (wf : WFID) (run : RunID) (l : Stream) (tasks : List DirectiveID) : Prop where
  length : tasks.length ≤ 1
  step : ∀ s, getRunState l wf run = .ok (some s) → s.kind = .step → tasks = [s.activeDirectiveID]
  wait : ∀ s, getRunState l wf run = .ok (some s) → s.kind = .wait → tasks = []
  none : getRunState l wf run = .ok none → tasks = []

theorem OneStep.congr {wf : WFID} {run : RunID} {l l' : Stream} {tasks : List DirectiveID}
    (h : OneStep wf run l tasks) (hsame : getRunState l' wf run = getRunState l wf run) :
    OneStep wf run l' tasks :=
  ⟨h.length, hsame ▸ h.step, hsame ▸ h.wait, hsame ▸ h.none⟩

/-- The steps under way when the run has moved to a state. -/
theorem OneStep.of_state {wf : WFID} {run : RunID} {l : Stream} {tasks : List DirectiveID}
    {s : RunState} (hs : getRunState l wf run = .ok (some s)) (hlength : tasks.length ≤ 1)
    (hstep : s.kind = .step → tasks = [s.activeDirectiveID]) (hwait : s.kind = .wait → tasks = []) :
    OneStep wf run l tasks where
  length := hlength
  step s' hs' := by
    cases hs.symm.trans hs'
    exact hstep
  wait s' hs' := by
    cases hs.symm.trans hs'
    exact hwait
  none hnone := by cases hs.symm.trans hnone

section Batch

variable {taskOf : Directive → DirectiveID} {cfg : Manager.Config} {w : World} {c : Call}
  {sn : StateSnapshot} {records notes body : List Record} {l : Stream} {wf : WFID} {run : RunID}
  {s : RunState} {tasks : List DirectiveID}

/-- A result that commits has found its step active, in what is still the current state. -/
theorem Batch.onActive (h : ReachableBy cfg (StepGuard taskOf wf run) w)
    (hb : Batch cfg w c sn records l) (hkind : c.directive.kind = .stepResult)
    (hrun : c.directive.OfRun wf run) :
    sn.runState.kind = .step ∧ sn.runState.activeDirectiveID = taskOf c.directive ∧
      getRunState w.stream wf run = .ok (some sn.runState) := by
  have hw := sound_of_reachableBy h
  have hactive : OnActive taskOf wf run c.directive sn.runState := by
    refine runState_of_read h (fun w k c s hok hk hs => ?_) c hb.call sn.runState
      (by rw [hb.phase]; rfl)
    rw [← currentState_eq_getD hs]
    exact hok.2 k rfl c hk
  cases hb.advance hw wf run with
  | other hother => exact absurd hrun hother
  | start _ hstart => exact absurd (hkind.symm.trans hstart) (by decide)
  | event _ hevent => exact absurd (hkind.symm.trans hevent) (by decide)
  | turn _ _ hlive hturn hrecords hold =>
    rcases hactive hkind hrun with hzero | hterm | ⟨hstep, htask⟩
    · obtain ⟨hof, hwf, -⟩ := hw.stateOf (hb.stored hw hrecords hturn.transition)
      rw [hzero] at hof
      exact absurd hof.wfID.symm hwf
    · rw [hlive] at hterm
      cases hterm
    · exact ⟨hstep, htask, hold⟩

theorem afterCommit_of_result (hkind : c.directive.kind = .stepResult)
    (hrun : c.directive.OfRun wf run) (htasks : tasks = [taskOf c.directive]) :
    afterCommit taskOf wf run tasks (w.commitOf c sn records) =
      (records.filterMap Record.workerTask?).map Directive.id := by
  simp [afterCommit, Commit.isResult, Commit.tasks, World.commitOf, hkind, hrun, htasks]

theorem afterCommit_of_ne (hkind : c.directive.kind ≠ .stepResult)
    (hrun : c.directive.OfRun wf run) :
    afterCommit taskOf wf run tasks (w.commitOf c sn records) =
      tasks ++ (records.filterMap Record.workerTask?).map Directive.id := by
  simp [afterCommit, Commit.isResult, Commit.tasks, World.commitOf, hkind, hrun]

/-- A batch that is not one of the run changes nothing about its steps. -/
theorem afterCommit_of_not_ofRun (hrun : ¬ c.directive.OfRun wf run) :
    afterCommit taskOf wf run tasks (w.commitOf c sn records) = tasks := by
  simp [afterCommit, Commit.isResult, Commit.tasks, World.commitOf, hrun]

/-- A transition of the run, after a step has ended with its result or a wait has ended. -/
theorem OneStep.transition (hinv : OneStep wf run w.stream tasks)
    (hold : getRunState w.stream wf run = .ok (some sn.runState)) {k : ℕ}
    (hnew : getRunState l wf run = .ok (some { s with seqID := k }))
    (hchange : StepChange c.directive sn s
      ((records.filterMap Record.workerTask?).map Directive.id))
    (hpublished : c.directive.kind ≠ .step ∧ c.directive.kind ≠ .wait ∧
      c.directive.nextKind? ≠ some .stepPickedUp)
    (hrun : c.directive.OfRun wf run)
    (hactive : c.directive.kind = .stepResult → tasks = [taskOf c.directive]) :
    OneStep wf run l (afterCommit taskOf wf run tasks (w.commitOf c sn records)) := by
  have after : afterCommit taskOf wf run tasks (w.commitOf c sn records) =
      (if c.directive.kind = .stepResult then [] else tasks) ++
        (records.filterMap Record.workerTask?).map Directive.id := by
    split_ifs with hkind
    · exact afterCommit_of_result hkind hrun (hactive hkind)
    · exact afterCommit_of_ne hkind hrun
  have hlength : (if c.directive.kind = .stepResult then [] else tasks).length ≤ 1 := by
    split_ifs
    · exact Nat.zero_le 1
    · exact hinv.length
  rw [after]
  cases hchange with
  | ended hs htasks =>
    rw [htasks, List.append_nil]
    refine .of_state hnew hlength (fun hkind => ?_) fun hkind => ?_
    · exact absurd hs (by simp [RunState.isTerminal, show s.kind = .step from hkind])
    · exact absurd hs (by simp [RunState.isTerminal, show s.kind = .wait from hkind])
  | handed hs htasks hd =>
    have hnone : (if c.directive.kind = .stepResult then [] else tasks) = [] := by
      rcases hd with hd | hd | ⟨hd, hwait⟩
      · exact absurd hd hpublished.1
      · rw [if_pos hd]
      · rw [if_neg hd]
        exact hinv.wait _ hold hwait
    rw [hnone, htasks]
    exact .of_state hnew le_rfl (fun _ => rfl) fun hkind =>
      absurd (hs.symm.trans hkind) (by decide)
  | suspended hs htasks hd =>
    rw [if_pos (hd.resolve_left hpublished.2.1), htasks]
    exact .of_state hnew (Nat.zero_le 1) (fun hkind => absurd (hs.symm.trans hkind) (by decide))
      fun _ => rfl
  | kept hs htasks hd =>
    rw [if_neg (hd.resolve_right hpublished.2.2), htasks, List.append_nil]
    refine .of_state hnew hinv.length (fun hkind => ?_) fun hkind => ?_
    · exact (hinv.step _ hold (hs.1.symm.trans hkind)).trans (by rw [← hs.2])
    · exact hinv.wait _ hold (hs.1.symm.trans hkind)

/-- What a batch does to the steps of the run. -/
theorem Batch.oneStep (h : ReachableBy cfg (StepGuard taskOf wf run) w)
    (hb : Batch cfg w c sn records l) (hinv : OneStep wf run w.stream tasks)
    (hstart : (w.journal ++ [w.commitOf c sn records]).countP (Commit.starts wf run) ≤ 1) :
    OneStep wf run l (afterCommit taskOf wf run tasks (w.commitOf c sn records)) := by
  have hw := sound_of_reachableBy h
  cases hb.advance hw wf run with
  | other hrun hsame =>
    rw [afterCommit_of_not_ofRun hrun]
    exact hinv.congr hsame
  | event hrun hkind _ _ hrecords hsame =>
    have htasks : records.filterMap Record.workerTask? = [] := by
      rw [hrecords]
      split_ifs <;> rfl
    rw [afterCommit_of_ne (by simp [hkind]) hrun, htasks, List.map_nil, List.append_nil]
    exact hinv.congr hsame
  | start hrun hkind hs hbegun hnew =>
    have hnone := getRunState_of_starts h (decide_eq_true ⟨hkind, hrun⟩) hstart
    rw [afterCommit_of_ne (by simp [hkind]) hrun, hbegun.tasks, hinv.none hnone, List.nil_append,
      ← hbegun.id]
    exact .of_state hnew le_rfl (fun _ => rfl) fun hwait =>
      absurd (hbegun.kind.symm.trans hwait) (by decide)
  | turn hrun _ _ hturn hrecords hold hnew =>
    refine hinv.transition hold hnew
      (hrecords ▸ hturn.transition.stepChange hturn.noted.allNotes) ?_ hrun fun hkind => ?_
    · exact directive_of_published (P := fun d => d.OfRun wf run → d.kind ≠ .step ∧ d.kind ≠ .wait ∧
        d.nextKind? ≠ some .stepPickedUp) h (fun _ d hok => hok.1 d rfl)
        (fun d hd hmsg _ => by simp [hd, Directive.nextKind?, hmsg]) c hb.call hrun
    · obtain ⟨hstep, htask, hcurrent⟩ := hb.onActive h hkind hrun
      rw [hinv.step _ hcurrent hstep, htask]

end Batch

section Run

variable {taskOf : Directive → DirectiveID} {cfg : Manager.Config} {w : World} {wf : WFID}
  {run : RunID}

theorem oneStep_of_reachableBy (h : ReachableBy cfg (StepGuard taskOf wf run) w)
    (hstart : w.journal.countP (Commit.starts wf run) ≤ 1) :
    OneStep wf run w.stream (openTasks taskOf wf run w.journal) := by
  refine Reach.invariant (P := fun w => w.journal.countP (Commit.starts wf run) ≤ 1 →
    OneStep wf run w.stream (openTasks taskOf wf run w.journal)) h (fun _ => ?_)
    (fun w a w' hr ih _ hstep hstart => ?_) hstart
  · exact ⟨Nat.zero_le 1, fun s hs => (by cases hs), fun s hs => (by cases hs), fun _ => rfl⟩
  · have hchange := (effect_of_step hstep).change
    generalize w'.stream = l', w'.journal = j' at hchange hstart
    rcases hchange.runState_cases wf run with ⟨hsame, rfl⟩ | ⟨c, sn, records, hb, rfl⟩
    · exact (ih hstart).congr hsame
    · rw [openTasks, List.foldl_concat]
      exact hb.oneStep hr (ih (countP_starts_of_concat hstart)) hstart

/-- A step is finished at most once. Let the result of a step be taken up only while that step is
the active one, let steps and waits be asked for by results only, and let the run be started once.
Then, in any interleaving, at most one step of the run is under way; and a result that commits was
planned in that step, from the state that is still the current one, and is the result of the only
step that is under way. -/
theorem step_finished_at_most_once (h : ReachableBy cfg (StepGuard taskOf wf run) w)
    (hstart : w.journal.countP (Commit.starts wf run) ≤ 1) :
    (openTasks taskOf wf run w.journal).length ≤ 1 ∧
    ∀ pre c post, w.journal = pre ++ c :: post → c.isResult wf run = true →
      c.snapshot.runState.kind = .step ∧
      c.snapshot.runState.activeDirectiveID = taskOf c.directive ∧
      (statesIn wf run pre).getLast? = some c.snapshot.runState.stored ∧
      openTasks taskOf wf run pre = [taskOf c.directive] := by
  refine ⟨(oneStep_of_reachableBy h hstart).length, fun pre c post hsplit => ?_⟩
  have halong : Along (fun pre c => pre.countP (Commit.starts wf run) ≤ 1 →
      c.isResult wf run = true → c.snapshot.runState.kind = .step ∧
      c.snapshot.runState.activeDirectiveID = taskOf c.directive ∧
      (statesIn wf run pre).getLast? = some c.snapshot.runState.stored ∧
      openTasks taskOf wf run pre = [taskOf c.directive]) w.journal := by
    refine along_journal h fun w k c sn records l _ _ _ hr _ _ _ hb hcount hresult => ?_
    obtain ⟨hkind, hrun⟩ := of_decide_eq_true hresult
    obtain ⟨hstep, htask, hcurrent⟩ := hb.onActive hr hkind hrun
    obtain ⟨s, hs, hlast⟩ := journaled_of_reachableBy hr wf run
    cases hcurrent.symm.trans hs
    refine ⟨hstep, htask, hlast.symm, ?_⟩
    rw [(oneStep_of_reachableBy hr hcount).step _ hcurrent hstep, htask]
    rfl
  refine halong pre c post hsplit ?_
  rw [hsplit, List.countP_append] at hstart
  omega

end Run

namespace Sample

/-- The tasks of the results in the sample runs: `done` is for the first step. -/
def taskOf (d : Directive) : DirectiveID := if d.id = "packed" then "next.done" else "start"

/-- A run with two steps. -/
def packing : List Label :=
  .publish start :: handled 1 ++ .publish (stepResult "done" .step (.step "pack" 0)) :: handled 9 ++
    .publish (stepResult "packed" .wait (.wait 0 "")) :: handled 16

/-- Two workers report a result for the first step. -/
def late : List Label :=
  .publish start :: handled 1 ++ .publish (stepResult "done" .step (.step "pack" 0)) :: handled 9 ++
    .publish (stepResult "late" .step (.step "pack" 0)) :: handled 16

end Sample

theorem step_finished_at_most_once_packing :
    (Sample.worldBy (StepGuard Sample.taskOf "wf" "r1") Sample.packing).journal.countP
      (Commit.isResult "wf" "r1") = 2 ∧
    (openTasks Sample.taskOf "wf" "r1"
      (Sample.worldBy (StepGuard Sample.taskOf "wf" "r1") Sample.packing).journal).length ≤ 1 := by
  obtain ⟨hresults, hstarts⟩ :
      (Sample.worldBy (StepGuard Sample.taskOf "wf" "r1") Sample.packing).journal.countP
        (Commit.isResult "wf" "r1") = 2 ∧
      (Sample.worldBy (StepGuard Sample.taskOf "wf" "r1") Sample.packing).journal.countP
        (Commit.starts "wf" "r1") ≤ 1 := by decide +kernel
  exact ⟨hresults, (step_finished_at_most_once
    (Sample.reachableBy_worldBy (StepGuard Sample.taskOf "wf" "r1") Sample.packing) hstarts).1⟩

/-- Both results are applied, the second one in another step, and two steps are under way. -/
theorem step_finished_twice :
    ((Sample.world Sample.late).journal.filter fun c =>
      c.isResult "wf" "r1" && Sample.taskOf c.directive == "start").map
        (fun c => c.snapshot.runState.activeDirectiveID) = ["start", "next.done"] ∧
    openTasks Sample.taskOf "wf" "r1" (Sample.world Sample.late).journal =
      ["next.done", "next.late"] := by
  decide +kernel

end Grctl
