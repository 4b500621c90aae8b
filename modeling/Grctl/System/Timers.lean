import Grctl.System.Activity

/-!
# The timers of a run

Every step and every wait is guarded by a timer, which the batch that begins it stores. Its name is
derived from the identifier of the activity, and so is the name in the task by which the result of
a step has the timer deleted. The task is executed at any later time.

This file shows that the timer of the activity in progress is never the one that a task deletes,
since the identifiers of activities are not used twice.

## Main definitions

* `RunState.timerKey`, `Timer.key`: the name of the timer of an activity, and of a timer.
* `Commit.deletions`: the timers that a batch has deleted.
* `Enters`: the batch that began the activity in progress.
* `Guarded`: the invariant of a run that goes on.

## Main results

* `Batch.deletions_cases`: what a batch deletes.
* `activity_guarded`: the activity in progress is guarded by its own timer.
-/

namespace Grctl

open SubjectLog Lts

/-! ### Names of timers -/

/-- The name of the timer that guards the activity of a state. -/
def RunState.timerKey (s : RunState) : WFID × TimerKind × TimerID :=
  (s.wfID, s.timerKind, deriveTimerID s.activeDirectiveID s.timerKind)

/-- The name of a timer. -/
def Timer.key (t : Timer) : WFID × TimerKind × TimerID := (t.wfID, t.kind, t.id)

/-- The timer that a record deletes. -/
def Record.deletes? : Record → Option (WFID × TimerKind × TimerID)
  | .backgroundTask task => task.deletes?
  | _ => none

/-- The timers that a batch has deleted. -/
def Commit.deletions (c : Commit) : List (WFID × TimerKind × TimerID) :=
  c.records.filterMap Record.deletes?

/-- What a run is doing: the kind of its state and the identifier of its activity. -/
def RunState.activity (s : RunState) : RunStateKind × DirectiveID := (s.kind, s.activeDirectiveID)

theorem RunState.timerKind_congr {s s' : RunState} (h : s'.kind = s.kind) :
    s'.timerKind = s.timerKind := by
  rw [timerKind, timerKind, h]

theorem Timer.Guards.congr {t : Timer} {s s' : RunState} (h : t.Guards s)
    (hkind : s'.kind = s.kind) (hid : s'.activeDirectiveID = s.activeDirectiveID) :
    t.Guards s' := by
  obtain ⟨h₁, h₂, h₃⟩ := h
  rw [← RunState.timerKind_congr hkind, ← hid] at *
  exact ⟨h₁, h₂, h₃⟩

theorem mem_deletions {c : Commit} {x : WFID × TimerKind × TimerID} :
    x ∈ c.deletions ↔ ∃ task, Record.backgroundTask task ∈ c.records ∧ task.deletes? = some x := by
  rw [Commit.deletions, List.mem_filterMap]
  constructor
  · rintro ⟨r, hr, hx⟩
    cases r with
    | backgroundTask task => exact ⟨task, hr, hx⟩
    | _ => cases hx
  · rintro ⟨task, hr, hx⟩
    exact ⟨_, hr, hx⟩

section Batch

variable {cfg : Manager.Config} {w : World} {c : Call} {sn : StateSnapshot}
  {records notes body : List Record} {l : Stream} {wf : WFID} {run : RunID} {s : RunState}

/-- Only step results delete timers, and only that of a step in progress. -/
theorem Batch.deletions_cases (hw : Sound w) (hb : Batch cfg w c sn records l)
    {x : WFID × TimerKind × TimerID} (hx : x ∈ (w.commitOf c sn records).deletions) :
    c.directive.kind = .stepResult ∧ x = (c.directive.runInfo.wfID, .stepTimeout,
      deriveTimerID sn.runState.activeDirectiveID .stepTimeout) := by
  obtain ⟨task, htask, hx⟩ := mem_deletions.mp hx
  change Record.backgroundTask task ∈ records at htask
  cases hb.advance hw c.directive.runInfo.wfID c.directive.runInfo.id with
  | other hrun => exact absurd ⟨rfl, rfl⟩ hrun
  | start _ _ _ hbegun =>
    cases hx.symm.trans (hbegun.told.fits _ htask)
  | event _ _ _ _ hrecords =>
    rw [hrecords] at htask
    split_ifs at htask <;> simp at htask
  | turn _ _ _ hturn hrecords =>
    rw [hrecords] at htask
    rcases List.mem_append.mp htask with htask | htask
    · obtain ⟨hkind, rfl⟩ := hturn.noted.tasks task htask
      cases hx
      exact ⟨hkind, rfl⟩
    · obtain ⟨ri, hbody, -⟩ := hturn.told
      cases hx.symm.trans (hbody.fits _ htask)

/-- A step result that does not end the run deletes the timer of the step. -/
theorem Turn.mem_deletions (h : Turn c.directive sn s notes body)
    (hrecords : records = notes ++ body) (hkind : c.directive.kind = .stepResult)
    (hs : s.isTerminal = false) :
    (c.directive.runInfo.wfID, TimerKind.stepTimeout,
      deriveTimerID sn.runState.activeDirectiveID .stepTimeout) ∈
        (w.commitOf c sn records).deletions := by
  refine Grctl.mem_deletions.mpr ⟨stepTimerTask c.directive sn.runState, ?_, rfl⟩
  exact hrecords ▸ List.mem_append_left _ (h.retires hkind hs)

/-- A transition ends the run, leaves its activity alone, or begins one and stores its timer. -/
theorem Batch.turn_cases (h : ReachableBy cfg (ActivityGuard wf run) w)
    (hb : Batch cfg w c sn records l) (hrun : c.directive.OfRun wf run)
    (ht : Turn c.directive sn s notes body) (hrecords : records = notes ++ body) :
    s.isTerminal = true ∨
    (c.directive.kind ≠ .stepResult ∧ s.activity = sn.runState.activity) ∨
    (Creates c.directive sn s.activeDirectiveID ∧
      ∃ t, Record.timer t ∈ records ∧ t.wfID = wf ∧ t.Guards s) := by
  have hw := sound_of_reachableBy h
  have hnext : c.directive.kind = .stepResult → c.directive.NamesNext :=
    fun hkind => namesNext_of_call h (fun _ _ hok => hok.2.1) hb.call hkind hrun.1
  rcases ht.activity_cases hnext with hs | ⟨hkind, hsame, hid⟩ | ⟨hcreates, hpick, hcancel⟩
  · exact .inl hs
  · exact .inr (.inl ⟨hkind, Prod.ext hsame hid⟩)
  · rcases ht.transition.timer_cases with hs | hd | hd | ⟨t, hmem, hwf⟩
    · exact .inl hs
    · exact absurd hd hpick
    · exact absurd hd hcancel
    · obtain ⟨ri, hbody, -⟩ := ht.told
      refine .inr (.inr ⟨hcreates, t, hrecords ▸ List.mem_append_right _ hmem, ?_,
        hbody.fits _ hmem⟩)
      rcases hwf with hwf | ⟨-, hevent, hwf⟩
      · exact hwf.trans hrun.1
      · exact hwf.trans ((hb.event_wfID hw hevent).trans hrun.1)

/-- A start stores the timer of its step. -/
theorem Batch.timer_of_start (hw : Sound w) (hb : Batch cfg w c sn records l)
    (hkind : c.directive.kind = .start) :
    ∃ t, Record.timer t ∈ records ∧ t.wfID = c.directive.runInfo.wfID := by
  have hplanned := hw.planned hb
  cases hplanned with
  | nothing => exact absurd rfl (commit_eq_ok hb.commit).2.1
  | start _ _ _ hri _ hbody =>
    obtain ⟨-, hwf, -⟩ := hbody
    exact ⟨_, by simp only [List.mem_append, List.mem_cons, true_or, or_true], hwf.trans hri.wfID⟩
  | event _ hd => exact absurd (hkind.symm.trans hd) (by decide)
  | transition _ _ ht => exact absurd hkind ht.kind_ne.1

end Batch

/-! ### The activity in progress -/

/-- The batch `c`, which came after the batches `pre` and before the batches `post`, began the
activity `x` that has been in progress since. -/
structure Enters (wf : WFID) (run : RunID) (pre : List Commit) (c : Commit) (post : List Commit)
    (x : RunStateKind × DirectiveID) : Prop where
  before : ∀ s ∈ (statesIn wf run pre).getLast?, s.activity ≠ x
  entered : (c.states wf run).getLast?.map RunState.activity = some x
  kept : ∀ s ∈ statesIn wf run post, s.activity = x

/-- A batch of the run has begun an activity with this identifier. -/
def CreatedIn (wf : WFID) (run : RunID) (journal : List Commit) (id : DirectiveID) : Prop :=
  ∃ c ∈ journal, c.directive.OfRun wf run ∧ Creates c.directive c.snapshot id

section Created

variable {cfg : Manager.Config} {w : World} {c : Call} {sn : StateSnapshot}
  {records : List Record} {l : Stream} {wf : WFID} {run : RunID} {s : RunState}
  {journal : List Commit}

theorem CreatedIn.mono {id : DirectiveID} (h : CreatedIn wf run journal id) {journal' : List Commit}
    (hsub : journal ⊆ journal') : CreatedIn wf run journal' id := by
  obtain ⟨c, hc, hcreates⟩ := h
  exact ⟨c, hsub hc, hcreates⟩

theorem createdIn_concat {c : Commit} {id : DirectiveID} (hrun : c.directive.OfRun wf run)
    (h : Creates c.directive c.snapshot id) : CreatedIn wf run (journal ++ [c]) id :=
  ⟨c, List.mem_append_right _ (List.mem_singleton_self c), hrun, h⟩

/-- The step lemma, for a batch: the activity in progress has begun. -/
theorem Batch.created (h : ReachableBy cfg (ActivityGuard wf run) w)
    (hb : Batch cfg w c sn records l)
    (ih : ∀ s, getRunState w.stream wf run = .ok (some s) → s.isTerminal = false →
      CreatedIn wf run w.journal s.activeDirectiveID)
    (hs : getRunState l wf run = .ok (some s)) (hlive : s.isTerminal = false) :
    CreatedIn wf run (w.journal ++ [w.commitOf c sn records]) s.activeDirectiveID := by
  have hsub : w.journal ⊆ w.journal ++ [w.commitOf c sn records] := List.subset_append_left ..
  cases hb.advance (sound_of_reachableBy h) wf run with
  | other _ hsame => exact (ih s (hsame ▸ hs) hlive).mono hsub
  | event _ _ _ _ _ hsame => exact (ih s (hsame ▸ hs) hlive).mono hsub
  | start hrun hkind _ hbegun hnew =>
    cases hnew.symm.trans hs
    exact createdIn_concat hrun (hbegun.id ▸ .own (.inl hkind))
  | @turn s' _ _ _ hrun _ hlive' hturn hrecords hold hnew =>
    cases hnew.symm.trans hs
    rcases hb.turn_cases h hrun hturn hrecords with hterm | ⟨-, hactivity⟩ | ⟨hcreates, -⟩
    · exact absurd (hlive.symm.trans hterm) (by decide)
    · have hid : s'.activeDirectiveID = sn.runState.activeDirectiveID :=
        congrArg Prod.snd hactivity
      exact hid ▸ (ih _ hold hlive').mono hsub
    · exact createdIn_concat hrun hcreates

/-- The activity in progress has begun. -/
theorem createdIn_of_reachableBy (h : ReachableBy cfg (ActivityGuard wf run) w) :
    ∀ s, getRunState w.stream wf run = .ok (some s) → s.isTerminal = false →
      CreatedIn wf run w.journal s.activeDirectiveID := by
  refine Reach.invariant (P := fun w => ∀ s, getRunState w.stream wf run = .ok (some s) →
    s.isTerminal = false → CreatedIn wf run w.journal s.activeDirectiveID) h
    (fun s hs => by cases hs) fun w a w' hr ih _ hstep => ?_
  have hchange := (effect_of_step hstep).change
  generalize w'.stream = l', w'.journal = j' at hchange
  rcases hchange.runState_cases wf run with ⟨hsame, rfl⟩ | ⟨c, sn, records, hb, rfl⟩
  · exact hsame ▸ ih
  · exact fun s hs hlive => hb.created hr ih hs hlive

/-- The result of a step is committed while its step is in progress. -/
theorem Batch.createdIn_of_stepResult (h : ReachableBy cfg (ActivityGuard wf run) w)
    (hb : Batch cfg w c sn records l) (hrun : c.directive.OfRun wf run)
    (hkind : c.directive.kind = .stepResult) :
    CreatedIn wf run w.journal sn.runState.activeDirectiveID := by
  cases hb.advance (sound_of_reachableBy h) wf run with
  | other hrun' => exact absurd hrun hrun'
  | start _ hkind' => exact absurd (hkind.symm.trans hkind') (by decide)
  | event _ hkind' => exact absurd (hkind.symm.trans hkind') (by decide)
  | turn _ _ hlive _ _ hold => exact createdIn_of_reachableBy h _ hold hlive

/-- The steps whose results have been committed, that of the last batch included, had begun
before. -/
theorem Batch.leftCreated (h : ReachableBy cfg (ActivityGuard wf run) w)
    (hb : Batch cfg w c sn records l) :
    ∀ c' ∈ w.journal ++ [w.commitOf c sn records], c'.directive.OfRun wf run →
      c'.directive.kind = .stepResult →
        CreatedIn wf run w.journal c'.snapshot.runState.activeDirectiveID := by
  have halong : Along (fun pre c => c.directive.OfRun wf run → c.directive.kind = .stepResult →
      CreatedIn wf run pre c.snapshot.runState.activeDirectiveID) w.journal :=
    along_journal h fun _ _ _ _ _ _ _ _ _ hr _ _ _ hb => hb.createdIn_of_stepResult hr
  intro c' hc' hrun hkind
  rcases List.mem_append.mp hc' with hc' | hc'
  · obtain ⟨pre, post, hsplit, hcreated⟩ := halong.of_mem hc'
    exact (hcreated hrun hkind).mono (hsplit ▸ List.subset_append_left ..)
  · cases List.mem_singleton.mp hc'
    exact hb.createdIn_of_stepResult h hrun hkind

end Created

/-- What is known of the state `s` of a run that goes on: it is not in a step whose result has been
committed, and the batch that began its activity has stored the timer. -/
structure Guarded (wf : WFID) (run : RunID) (journal : List Commit) (s : RunState) : Prop where
  left : ∀ c ∈ journal, c.directive.OfRun wf run → c.directive.kind = .stepResult →
    c.snapshot.runState.activeDirectiveID ≠ s.activeDirectiveID
  entered : ∃ pre c post, journal = pre ++ c :: post ∧ Enters wf run pre c post s.activity ∧
    ∃ t, Record.timer t ∈ c.records ∧ t.wfID = wf ∧ t.Guards s

section Guarded

variable {cfg : Manager.Config} {w : World} {c : Call} {sn : StateSnapshot}
  {records notes body : List Record} {l : Stream} {wf : WFID} {run : RunID} {s s' : RunState}
  {journal : List Commit} {c' : Commit}

/-- A batch that leaves the activity alone, and is not that of a step result. -/
theorem Guarded.concat (h : Guarded wf run journal s) (hactivity : s'.activity = s.activity)
    (hresult : c'.directive.OfRun wf run → c'.directive.kind ≠ .stepResult)
    (hstates : ∀ s₁ ∈ c'.states wf run, s₁.activity = s.activity) :
    Guarded wf run (journal ++ [c']) s' := by
  have hkind : s'.kind = s.kind := congrArg Prod.fst hactivity
  have hid : s'.activeDirectiveID = s.activeDirectiveID := congrArg Prod.snd hactivity
  obtain ⟨pre, c, post, rfl, henters, t, ht, hwf, hguards⟩ := h.entered
  refine ⟨fun c₁ hc₁ hrun hresult₁ => ?_, pre, c, post ++ [c'], by simp,
    ⟨hactivity ▸ henters.before, hactivity ▸ henters.entered, ?_⟩, t, ht, hwf,
    hguards.congr hkind hid⟩
  · rw [hid]
    rcases List.mem_append.mp hc₁ with hc₁ | hc₁
    · exact h.left c₁ hc₁ hrun hresult₁
    · cases List.mem_singleton.mp hc₁
      exact absurd hresult₁ (hresult hrun)
  · intro s₁ hs₁
    rw [hactivity]
    rw [statesIn_concat, List.mem_append] at hs₁
    exact hs₁.elim (henters.kept s₁) (hstates s₁)

/-- A batch that begins an activity: its identifier is new. -/
theorem Batch.guarded_of_creates (h : ReachableBy cfg (ActivityGuard wf run) w)
    (hb : Batch cfg w c sn records l) (hrun : c.directive.OfRun wf run)
    (hstart : (w.journal ++ [w.commitOf c sn records]).countP (Commit.starts wf run) ≤ 1)
    (honce : CommitsOnce wf (w.journal ++ [w.commitOf c sn records]))
    (hcreates : Creates c.directive sn s.activeDirectiveID)
    (hbefore : ∀ s₁ ∈ (statesIn wf run w.journal).getLast?,
      CreatedIn wf run w.journal s₁.activeDirectiveID)
    (hstates : ((w.commitOf c sn records).states wf run).getLast? = some s.stored)
    (htimer : ∃ t, Record.timer t ∈ records ∧ t.wfID = wf ∧ t.Guards s) :
    Guarded wf run (w.journal ++ [w.commitOf c sn records]) s := by
  have hfresh : ∀ id, CreatedIn wf run w.journal id → s.activeDirectiveID ≠ id :=
    fun id ⟨c', hc', hrun', hold⟩ =>
      hb.creates_fresh h hrun (countP_starts_of_concat hstart) honce hcreates hc' hrun' hold
  refine ⟨fun c' hc' hrun' hkind => (hfresh _ (hb.leftCreated h c' hc' hrun' hkind)).symm,
    w.journal, w.commitOf c sn records, [], rfl, ⟨fun s₁ hs₁ heq => ?_, ?_, ?_⟩, htimer⟩
  · exact hfresh _ (hbefore s₁ hs₁) (congrArg Prod.snd heq).symm
  · rw [hstates]
    rfl
  · exact fun s₁ hs₁ => by cases hs₁

/-- The step lemma, for a batch. -/
theorem Batch.guarded (h : ReachableBy cfg (ActivityGuard wf run) w)
    (hb : Batch cfg w c sn records l)
    (hstart : (w.journal ++ [w.commitOf c sn records]).countP (Commit.starts wf run) ≤ 1)
    (honce : CommitsOnce wf (w.journal ++ [w.commitOf c sn records]))
    (ih : ∀ s, getRunState w.stream wf run = .ok (some s) → s.isTerminal = false →
      Guarded wf run w.journal s)
    (hs : getRunState l wf run = .ok (some s)) (hlive : s.isTerminal = false) :
    Guarded wf run (w.journal ++ [w.commitOf c sn records]) s := by
  have hw := sound_of_reachableBy h
  have hj := journaled_of_reachableBy h
  cases hb.advance hw wf run with
  | other hrun hsame =>
    refine (ih s (hsame ▸ hs) hlive).concat rfl (fun hrun' => absurd hrun' hrun) ?_
    simp [hb.states_eq_nil hw hrun]
  | event _ hkind _ _ _ hsame =>
    refine (ih s (hsame ▸ hs) hlive).concat rfl (fun _ hresult => ?_) ?_
    · exact absurd (hkind.symm.trans hresult) (by decide)
    · simp [hb.states_of_event hw hkind]
  | start hrun hkind _ hbegun hnew =>
    cases hnew.symm.trans hs
    have hnil : statesIn wf run w.journal = [] := by
      have hnone := getRunState_of_starts h (decide_eq_true ⟨hkind, hrun⟩) hstart
      obtain ⟨s₁, hs₁, hlast⟩ := hj wf run
      cases hnone.symm.trans hs₁
      exact List.getLast?_eq_none_iff.mp hlast.symm
    refine hb.guarded_of_creates h hrun hstart honce (hbegun.id ▸ .own (.inl hkind))
      (by simp [hnil]) ?_ ?_
    · obtain ⟨s₁, hs₁, hlast⟩ := hb.journaled hw hj wf run
      cases hnew.symm.trans hs₁
      rw [statesIn_concat, hnil, List.nil_append] at hlast
      exact hlast.symm
    · obtain ⟨t, ht, hwf⟩ := hb.timer_of_start hw hkind
      have hguards : t.Guards _ := hbegun.told.fits _ ht
      exact ⟨t, ht, hwf.trans hrun.1, hguards.congr rfl rfl⟩
  | turn hrun _ hlive' hturn hrecords hold hnew =>
    cases hnew.symm.trans hs
    have hstates := hb.states_of_turn hw hrun hturn hrecords
    rcases hb.turn_cases h hrun hturn hrecords with
      hterm | ⟨hkind, hactivity⟩ | ⟨hcreates, t, ht, hwf, hguards⟩
    · exact absurd (hlive.symm.trans hterm) (by decide)
    · refine (ih _ hold hlive').concat hactivity (fun _ => hkind) fun s₁ hs₁ => ?_
      rw [hstates, List.mem_singleton] at hs₁
      exact hs₁ ▸ hactivity
    · refine hb.guarded_of_creates h hrun hstart honce hcreates (fun s₁ hs₁ => ?_)
        (by rw [hstates]; rfl) ⟨t, ht, hwf, hguards.congr rfl rfl⟩
      rw [hj.getLast?_statesIn hold] at hs₁
      cases hs₁
      exact createdIn_of_reachableBy h sn.runState hold hlive'

/-- The run lemma. -/
theorem guarded_of_reachableBy (h : ReachableBy cfg (ActivityGuard wf run) w)
    (hstart : w.journal.countP (Commit.starts wf run) ≤ 1) (honce : CommitsOnce wf w.journal) :
    ∀ s, getRunState w.stream wf run = .ok (some s) → s.isTerminal = false →
      Guarded wf run w.journal s := by
  refine Reach.invariant (P := fun w => w.journal.countP (Commit.starts wf run) ≤ 1 →
    CommitsOnce wf w.journal → ∀ s, getRunState w.stream wf run = .ok (some s) →
      s.isTerminal = false → Guarded wf run w.journal s) h (fun _ _ s hs => by cases hs)
    (fun w a w' hr ih _ hstep hstart honce => ?_) hstart honce
  have hchange := (effect_of_step hstep).change
  generalize w'.stream = l', w'.journal = j' at hchange hstart honce
  rcases hchange.runState_cases wf run with ⟨hsame, rfl⟩ | ⟨c, sn, records, hb, rfl⟩
  · exact hsame ▸ ih hstart honce
  · exact fun s hs hlive => hb.guarded hr hstart honce
      (ih (countP_starts_of_concat hstart) honce.of_concat) hs hlive

/-- The timers that have been deleted for a workflow with one run are those of its steps. -/
theorem stepResult_of_deletions (h : ReachableBy cfg (ActivityGuard wf run) w) {kind : TimerKind}
    {id : TimerID} : ∀ c ∈ w.journal, (wf, kind, id) ∈ c.deletions →
      c.directive.OfRun wf run ∧ c.directive.kind = .stepResult ∧ kind = .stepTimeout ∧
        id = deriveTimerID c.snapshot.runState.activeDirectiveID .stepTimeout := by
  refine forall_mem_journal h fun w c sn records l hr hb hx => ?_
  have hw := sound_of_reachableBy hr
  obtain ⟨hkind, hx⟩ := hb.deletions_cases hw hx
  simp only [Prod.mk.injEq] at hx
  exact ⟨(oneRun_of_reachableBy hr fun _ _ hok => hok.1).call hw hb.call hx.1.symm, hkind, hx.2⟩

theorem id_ne_empty_of_mem_journal {ok : World → Label → Prop} (h : ReachableBy cfg ok w) :
    ∀ c ∈ w.journal, c.directive.id ≠ "" :=
  forall_mem_journal h fun _ c _ _ _ hr hb => ((sound_of_reachableBy hr).calls c hb.call).decoded.1

/-- Every step and wait is guarded by its own timer. Let the calls for the one run of a workflow be
interleaved in any way and the run be started once; let published directives have new identifiers
and each commit at most once, and let step results name a step, a wait or the end of the run next.
While the run is in a step or a wait, the identifier of this activity is not empty; the batch that
began it has stored the timer named after it, with a directive of this identifier; and no batch has
had this timer deleted. -/
theorem activity_guarded (h : ReachableBy cfg (ActivityGuard wf run) w)
    (hstart : w.journal.countP (Commit.starts wf run) ≤ 1) (honce : CommitsOnce wf w.journal)
    (hs : getRunState w.stream wf run = .ok (some s)) (hkind : s.kind = .step ∨ s.kind = .wait) :
    s.activeDirectiveID ≠ "" ∧
    (∃ pre c post, w.journal = pre ++ c :: post ∧ Enters wf run pre c post s.activity ∧
      ∃ t, Record.timer t ∈ c.records ∧ t.key = (wf, s.timerKind,
        deriveTimerID s.activeDirectiveID s.timerKind) ∧ t.directive.id = s.activeDirectiveID) ∧
    ∀ c ∈ w.journal,
      (wf, s.timerKind, deriveTimerID s.activeDirectiveID s.timerKind) ∉ c.deletions := by
  have hlive : s.isTerminal = false := by
    rcases hkind with hkind | hkind <;> simp [RunState.isTerminal, hkind]
  have hg := guarded_of_reachableBy h hstart honce s hs hlive
  refine ⟨?_, ?_, fun c hc hx => ?_⟩
  · obtain ⟨c, hc, -, hcreates⟩ := createdIn_of_reachableBy h s hs hlive
    exact hcreates.ne_empty (id_ne_empty_of_mem_journal h c hc)
  · obtain ⟨pre, c, post, hsplit, henters, t, ht, rfl, hguards⟩ := hg.entered
    exact ⟨pre, c, post, hsplit, henters, t, ht, by rw [Timer.key, hguards.kind, hguards.id],
      hguards.directive⟩
  · obtain ⟨hrun, hresult, htimer, hid⟩ := stepResult_of_deletions h c hc hx
    rw [htimer] at hid
    exact hg.left c hc hrun hresult (deriveTimerID_injective .stepTimeout hid).symm

theorem activity_guarded_woken :
    (currentState (Sample.worldBy (ActivityGuard "wf" "r1") Sample.woken).stream
      "wf" "r1").activity = (.step, "pay") ∧
    (∃ c ∈ (Sample.worldBy (ActivityGuard "wf" "r1") Sample.woken).journal,
      ∃ t, Record.timer t ∈ c.records ∧
        t.key = ("wf", .stepTimeout, deriveTimerID "pay" .stepTimeout)) ∧
    ∀ c ∈ (Sample.worldBy (ActivityGuard "wf" "r1") Sample.woken).journal,
      ("wf", .stepTimeout, deriveTimerID "pay" .stepTimeout) ∉ c.deletions := by
  have hreach : ReachableBy Sample.config (ActivityGuard "wf" "r1")
      (Sample.worldBy (ActivityGuard "wf" "r1") Sample.woken) := Sample.reachableBy_worldBy ..
  obtain ⟨hactivity, hstarts, honce⟩ :
      (currentState (Sample.worldBy (ActivityGuard "wf" "r1") Sample.woken).stream
        "wf" "r1").activity = (.step, "pay") ∧
      (Sample.worldBy (ActivityGuard "wf" "r1") Sample.woken).journal.countP
        (Commit.starts "wf" "r1") ≤ 1 ∧
      CommitsOnce "wf" (Sample.worldBy (ActivityGuard "wf" "r1") Sample.woken).journal := by
    decide +kernel
  obtain ⟨s, hs, -⟩ := journaled_of_reachableBy hreach "wf" "r1"
  refine ⟨hactivity, ?_⟩
  rw [currentState_eq_getD hs] at hactivity
  cases s with
  | none => cases hactivity
  | some s =>
    obtain ⟨hkind, hid⟩ := Prod.ext_iff.mp hactivity
    change s.kind = .step at hkind
    change s.activeDirectiveID = "pay" at hid
    obtain ⟨-, ⟨pre, c, post, hsplit, -, t, ht, hkey, -⟩, hdeletions⟩ :=
      activity_guarded hreach hstarts honce hs (.inl hkind)
    rw [RunState.timerKind, hkind, hid] at hkey hdeletions
    exact ⟨⟨c, by simp [hsplit], t, ht, hkey⟩, hdeletions⟩

end Guarded

end Grctl
