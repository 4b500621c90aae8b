import Grctl.System.Progress

/-!
# Runs of one workflow

A workflow identifier can have one run after another. Most subjects of the stream name the run,
but the inbox does not, and neither do the patterns by which the residue of a finished run is
purged. Both let one run reach into another.

A wake-up dispatches the first event of the inbox, whichever run it was accepted for; what the
batch then carries is the run of the event. And a purge on behalf of a finished run removes what
a later run of the workflow has in the stream by then.

## Main definitions

* `Record.target?`: the run that a timer, a run description or a worker task is for.
* `belongsTo`: the run that a stored message of the purged kinds is for.
* `PurgeGuard`: purges for one run come before the messages of another.

## Main results

* `batch_stays_in_run_iff`: when a batch stays within its run.
* `purge_spares_run`: what a purge leaves alone.
-/

namespace Grctl

open SubjectLog Lts

/-! ### The run of a record -/

/-- The run that a timer, a run description or a worker task is for. -/
def Record.target? : Record → Option RunInfo
  | .timer t => some t.directive.runInfo
  | .runInfo info _ => some info
  | .workerTask d => some d.runInfo
  | _ => none

theorem AllNotes.targets {records : List Record} (h : AllNotes records) {r : Record}
    (hr : r ∈ records) : r.target? = none := by
  have := h r hr
  cases r <;> simp_all [Record.isNote, Record.target?]

/-- What the records of a dispatched directive are for. -/
theorem Dispatch.target {src : Directive} {cur s : RunState} {body : List Record}
    (h : Dispatch src cur s body) {r : Record} (hr : r ∈ body) {ri : RunInfo}
    (ht : r.target? = some ri) : ri.SameRun src.runInfo := by
  obtain ⟨htimer, -, hri⟩ := h
  simp only [List.mem_cons, List.not_mem_nil, or_false] at hr
  rcases hr with rfl | rfl | rfl | rfl
  · cases ht
    rw [htimer]
    exact ⟨rfl, rfl, rfl⟩
  · cases ht
    exact hri
  · cases ht
    exact hri
  · cases ht

/-- What the records of a batch that ends a run are for. -/
theorem Finish.target {src : Directive} {cur s : RunState} {kind : RunStateKind}
    {body : List Record} (h : Finish src cur kind s body) {r : Record} (hr : r ∈ body)
    {ri : RunInfo} (ht : r.target? = some ri) : ri.SameRun src.runInfo := by
  obtain ⟨hri, -, hrest⟩ := h
  simp only [List.mem_cons] at hr
  rcases hr with rfl | rfl | rfl | hr
  · cases ht
    exact hri
  · cases ht
  · cases ht
  · simp [hrest.targets hr] at ht

/-- What the records of a batch that suspends a run are for. -/
theorem Suspend.target {src : Directive} {sn : StateSnapshot} {s : RunState} {body : List Record}
    (h : Suspend src sn s body) {r : Record} (hr : r ∈ body) {ri : RunInfo}
    (ht : r.target? = some ri) : ri.SameRun src.runInfo := by
  obtain ⟨hri, -, htimer, -, -⟩ := h
  simp only [List.mem_append, List.mem_cons, List.not_mem_nil, or_false] at hr
  rcases hr with (rfl | rfl | rfl | rfl) | hr
  · cases ht
    exact hri
  · cases ht
  · cases ht
    rw [htimer]
    exact ⟨rfl, rfl, rfl⟩
  · cases ht
  · split_ifs at hr
    · rw [List.mem_singleton.mp hr] at ht
      cases ht
    · cases hr

/-- The runs that a batch may be for: the run of the directive, the run of the event that a
wake-up dispatches, or the run of a parked cancel. -/
inductive TargetOf (d : Directive) (sn : StateSnapshot) (ri : RunInfo) : Prop
  | own (hri : ri.SameRun d.runInfo)
  | event (hkind : d.kind = .wakeFromInbox) (hevent : sn.event.IsEvent)
      (hri : ri.SameRun sn.event.runInfo)
  | parked {c : Directive} (hc : sn.runState.pendingCancel = some c) (hri : ri.SameRun c.runInfo)

theorem Transition.target {d : Directive} {sn : StateSnapshot} {s : RunState} {body : List Record}
    (h : Transition d sn s body) {r : Record} (hr : r ∈ body) {ri : RunInfo}
    (ht : r.target? = some ri) : TargetOf d sn ri := by
  cases h with
  | finish hf _ hsrc =>
    rcases hsrc with hsrc | hsrc
    · exact .own ((hf.target hr ht).trans hsrc)
    · exact .parked hsrc (hf.target hr ht)
  | dispatch hd hsrc =>
    have hri := hd.target hr ht
    cases hsrc with
    | step => exact .own hri
    | next _ _ _ _ hrun => exact .own (hri.trans hrun)
    | timeout _ _ _ hrun => exact .own (hri.trans hrun)
    | inbox hkind _ hevent => exact .event hkind hevent hri
  | suspend hs _ hrun => exact .own ((hs.target hr ht).trans hrun)
  | pickUp =>
    simp only [List.mem_cons, List.not_mem_nil, or_false] at hr
    rcases hr with rfl | rfl <;> cases ht
  | park =>
    simp only [List.mem_cons, List.not_mem_nil, or_false] at hr
    rcases hr with rfl | rfl <;> cases ht

theorem Planned.target {d : Directive} {sn : StateSnapshot} {records : List Record}
    (h : Planned d sn records) {r : Record} (hr : r ∈ records) {ri : RunInfo}
    (ht : r.target? = some ri) : TargetOf d sn ri := by
  cases h with
  | nothing => cases hr
  | @start now h ri' s input body _ _ _ hri hinput hbody =>
    refine .own ?_
    simp only [List.mem_append, List.mem_cons, List.not_mem_nil, or_false] at hr
    rcases hr with ((rfl | rfl) | hr) | rfl | hr
    · cases ht
    · cases ht
      exact hri
    · obtain ⟨v, rfl⟩ := hinput r hr
      cases ht
    · cases ht
    · exact (hbody.target hr ht).trans hri
  | event =>
    split_ifs at hr <;> simp at hr
    · rcases hr with rfl | rfl | rfl <;> cases ht
    · rcases hr with rfl | rfl <;> cases ht
  | transition _ hnotes htr =>
    rcases List.mem_append.mp hr with hr | hr
    · simp [hnotes.targets hr] at ht
    · exact htr.target hr ht

section Batch

variable {cfg : Manager.Config} {w : World} {c : Call} {sn : StateSnapshot}
  {records : List Record} {l : Stream}

/-- What the records of a committed batch are for: a parked cancel is one of the run itself. -/
theorem Batch.target (hw : Sound w) (hb : Batch cfg w c sn records l) {r : Record}
    (hr : r ∈ records) {ri : RunInfo} (ht : r.target? = some ri) :
    ri.wfID = c.directive.runInfo.wfID ∧ ri.id = c.directive.runInfo.id ∨
      c.directive.kind = .wakeFromInbox ∧ sn.event.IsEvent ∧ ri.SameRun sn.event.runInfo := by
  cases (hw.planned hb).target hr ht with
  | own hri => exact .inl ⟨hri.wfID, hri.id⟩
  | event hkind hevent hri => exact .inr ⟨hkind, hevent, hri⟩
  | parked hd hri =>
    left
    rcases (hw.calls c hb.call).state sn.runState (by rw [hb.phase]; rfl) with hz | hs
    · rw [hz] at hd
      cases hd
    · obtain ⟨-, -, hwf, hid⟩ := (hw.stateOf hs).1.cancel _ hd
      exact ⟨hri.wfID.trans hwf, hri.id.trans hid⟩

end Batch

/-- Events cross runs. In any interleaving, for any committed batch: every worker task, run
description and timer in it is for the run of the directive that was handled, exactly if it is not
the batch of a wake-up whose snapshot shows an event of another run. -/
theorem batch_stays_in_run_iff {cfg : Manager.Config} {w : World} (h : Reachable cfg w)
    (c : Commit) (hc : c ∈ w.journal) :
    (∀ r ∈ c.records, ∀ ri, r.target? = some ri → ri.id = c.directive.runInfo.id) ↔
      (c.directive.kind = .wakeFromInbox →
        c.snapshot.event.runInfo.id = c.directive.runInfo.id) := by
  revert c
  refine forall_mem_journal h fun w c sn records l hr hb => ?_
  have hw := sound_of_reachableBy hr
  constructor
  · intro hall hkind
    obtain ⟨s, hs⟩ := hb.dispatch_of_wake hw hkind
    obtain ⟨-, -, hri⟩ := hs
    exact hri.id.symm.trans (hall (.runInfo _ 0) (.tail _ (.head _)) _ rfl)
  · intro hevent r hr ri ht
    rcases hb.target hw hr ht with hri | ⟨hkind, -, hri⟩
    · exact hri.2
    · exact hri.id.trans (hevent hkind)

theorem batch_stays_in_run_woken :
    (Sample.world Sample.woken).journal.length = 4 ∧
    ∀ c ∈ (Sample.world Sample.woken).journal, ∀ r ∈ c.records, ∀ ri, r.target? = some ri →
      ri.id = c.directive.runInfo.id := by
  obtain ⟨hlength, hevents⟩ : (Sample.world Sample.woken).journal.length = 4 ∧
      ∀ c ∈ (Sample.world Sample.woken).journal, c.directive.kind = .wakeFromInbox →
        c.snapshot.event.runInfo.id = c.directive.runInfo.id := by decide +kernel
  refine ⟨hlength, fun c hc => ?_⟩
  exact (batch_stays_in_run_iff (Sample.reachable_world Sample.woken) c hc).mpr (hevents c hc)

namespace Sample

/-- A directive of a later run `r2` of the workflow. -/
def later (d : Directive) : Directive :=
  { d with id := d.id ++ "2", runInfo := { d.runInfo with id := "r2" } }

/-- An event is accepted during the first step of a run, which is then terminated. A later run
waits, and finds the event in the inbox. -/
def inherited : List Label :=
  .publish start :: handled 1 ++ .publish (event "pay") :: handled 9 ++
    .publish (directive "stop" .terminate (.terminate "no longer needed")) :: handled 12 ++
    .publish (later start) :: handled 17 ++
    .publish (later (stepResult "done" .wait (.wait 0 ""))) :: handled 25 ++ handled 32

end Sample

/-- A batch for a directive of the later run carries a worker task of the earlier one. -/
theorem event_crosses_runs :
    ∃ c ∈ (Sample.world Sample.inherited).journal, c.directive.OfRun "wf" "r2" ∧
      ∃ r ∈ c.records, ∃ d ∈ r.workerTask?, d.OfRun "wf" "r1" := by
  decide +kernel

/-! ### Purges -/

/-- The subject of a directive for the run `run` of `wf`. -/
def Subject.isDirectiveOf (wf : WFID) (run : RunID) : Subject → Bool
  | .directive _ wf' run' => wf' == wf && run' == run
  | _ => false

/-- The message is a directive, a timer, an inbox event or a worker task of the run `run` of
`wf`. -/
def belongsTo (wf : WFID) (run : RunID) (m : Msg) : Bool :=
  match m.subject, m.data with
  | .timer .., .timer t => decide (t.directive.OfRun wf run)
  | .inbox _, .directive d => decide (d.OfRun wf run)
  | .workerTask _ wf' run', _ => wf' == wf && run' == run
  | s, _ => s.isDirectiveOf wf run

/-- Directives are published by anyone; the other messages come from a batch. -/
theorem Record.belongsTo_cases {wf : WFID} {run : RunID} {r : Record} {m : Msg}
    (hm : m ∈ r.messages) (h : belongsTo wf run m = true) :
    m.subject.isDirectiveOf wf run = true ∨
      (∃ ri, r.target? = some ri ∧ ri.wfID = wf ∧ ri.id = run) ∨
      ∃ d, r = .inbox d ∧ d.OfRun wf run := by
  cases r <;>
    grind [messages, target?, belongsTo, Directive.message, Directive.subject, Directive.OfRun]

/-- Every timer, inbox event and worker task of a run goes back to a batch of that run. -/
theorem exists_commit_of_belongsTo {cfg : Manager.Config} {ok : World → Label → Prop} {w : World}
    (h : ReachableBy cfg ok w) (wf : WFID) (run : RunID) :
    ∀ e ∈ w.stream.entries, belongsTo wf run e.toMessage = true →
      e.subject.isDirectiveOf wf run = true ∨ ∃ c ∈ w.journal, c.directive.OfRun wf run := by
  refine Reach.invariant (P := fun w => ∀ e ∈ w.stream.entries,
    belongsTo wf run e.toMessage = true → e.subject.isDirectiveOf wf run = true ∨
      ∃ c ∈ w.journal, c.directive.OfRun wf run) h (fun e he => by cases he)
    fun w a w' hr ih _ hstep e he hbelongs => ?_
  have hw := sound_of_reachableBy hr
  have heffect := effect_of_step hstep
  cases heffect.entryChange he with
  | @old e₀ he₀ hm =>
    rcases ih e₀ he₀ (hm ▸ hbelongs) with hd | ⟨c, hc, hrun⟩
    · exact .inl (hm ▸ hd)
    · exact .inr ⟨c, heffect.change.journal_sublist.subset hc, hrun⟩
  | new ho =>
    generalize e.toMessage = m at ho hbelongs
    cases ho with
    | publish => exact .inl hbelongs
    | runInfo => cases hbelongs
    | history => cases hbelongs
    | @batch _ c sn _ _ _ records _ r _ _ hb hr hm hj =>
      rw [hj]
      have own (hrun : c.directive.OfRun wf run) :
          ∃ c' ∈ w.journal ++ [w.commitOf c sn records], c'.directive.OfRun wf run :=
        ⟨_, List.mem_append_right _ (List.mem_singleton_self _), hrun⟩
      rcases Record.belongsTo_cases hm hbelongs with hd | ⟨ri, ht, hwf, hid⟩ | ⟨d, rfl, hrun⟩
      · exact .inl hd
      · rcases hb.target hw hr ht with hri | ⟨-, hevent, hri⟩
        · exact .inr (own ⟨hri.1.symm.trans hwf, hri.2.symm.trans hid⟩)
        · -- the event of a wake-up is in the inbox, where a batch of its own run has put it
          rcases (hw.calls c hb.call).event sn hb.phase with hz | ⟨e', he', hs, hread, -⟩
          · exact absurd (by rw [hz]; rfl) hevent.1
          · obtain ⟨d₀, ev, hdata, -, hd⟩ := readInboxEntry_eq_ok hread
            have hrun : d₀.OfRun wf run := by
              rw [hd] at hri
              exact ⟨hri.wfID.symm.trans hwf, hri.id.symm.trans hid⟩
            rcases ih e' he' (by simp [belongsTo, hs, hdata, hrun]) with hd' | ⟨c', hc', hrun'⟩
            · rw [hs] at hd'
              cases hd'
            · exact .inr ⟨c', List.mem_append_left _ hc', hrun'⟩
      · exact .inr (own (((hw.planned hb).inbox_cases hr).2 ▸ hrun))

/-- The task was asked for by a batch of the run. -/
def TaskOf (wf : WFID) (run : RunID) (w : World) (task : BackgroundTask) : Prop :=
  ∃ c ∈ w.journal, c.directive.OfRun wf run ∧ .backgroundTask task ∈ c.records

/-- What the pattern could remove has not been stored yet for the run: no directive of it is
published, or no batch of it has committed. -/
def PurgePattern.Precedes (wf : WFID) (run : RunID) (w : World) : PurgePattern → Prop
  | .directives _ => ∀ e ∈ w.stream.entries, e.subject.isDirectiveOf wf run = false
  | .timers _ | .inbox _ | .workerTasks _ => ∀ c ∈ w.journal, ¬ c.directive.OfRun wf run

instance (wf : WFID) (run : RunID) (w : World) (task : BackgroundTask) :
    Decidable (TaskOf wf run w task) :=
  inferInstanceAs (Decidable (∃ c ∈ w.journal, _))

instance (wf : WFID) (run : RunID) (w : World) :
    (q : PurgePattern) → Decidable (q.Precedes wf run w)
  | .directives _ => inferInstanceAs (Decidable (∀ e ∈ w.stream.entries, _))
  | .timers _ | .inbox _ | .workerTasks _ => inferInstanceAs (Decidable (∀ c ∈ w.journal, _))

/-- Each purge for the run `r₁` comes before the messages of the run `r₂` that it could remove. -/
def PurgeGuard (wf : WFID) (r₁ r₂ : RunID) (w : World) (a : Label) : Prop :=
  ∀ k ∈ a.purging?, ∀ p ∈ w.purges[k]?, TaskOf wf r₁ w p.task →
    ∀ q ∈ p.pending.head?, q.Precedes wf r₂ w
  deriving Decidable

theorem PurgePattern.Precedes.covers_eq_false {cfg : Manager.Config} {ok : World → Label → Prop}
    {w : World} {wf : WFID} {run : RunID} {q : PurgePattern} (hq : q.Precedes wf run w)
    (h : ReachableBy cfg ok w) {e : StreamEntry} (he : e ∈ w.stream.entries)
    (hbelongs : belongsTo wf run e.toMessage = true) : q.covers e.subject = false := by
  cases q with
  | directives =>
    have hnot := hq e he
    cases hs : e.subject <;> simp_all [Subject.isDirectiveOf, covers, belongsTo]
  | _ =>
    rcases exists_commit_of_belongsTo h wf run e he hbelongs with hd | ⟨c, hc, hrun⟩
    · cases hs : e.subject <;> simp_all [Subject.isDirectiveOf, covers]
    · exact absurd hrun (hq c hc)

/-- Cleanup spares other runs when it is early. In any run of the system in which each purge for
`r₁` comes before the messages of `r₂` that it could remove, a purge on behalf of `r₁` keeps every
directive, timer, inbox event and worker task of `r₂`. -/
theorem purge_spares_run {cfg : Manager.Config} {w w' : World} {wf : WFID} {r₁ r₂ : RunID}
    (h : ReachableBy cfg (PurgeGuard wf r₁ r₂) w) {k : ℕ}
    (hok : PurgeGuard wf r₁ r₂ w (.purgeNext k)) (hstep : step cfg w (.purgeNext k) = some w')
    {p : Purge} (hp : w.purges[k]? = some p) (htask : TaskOf wf r₁ w p.task) {e : StreamEntry}
    (he : e ∈ w.stream.entries) (hbelongs : belongsTo wf r₂ e.toMessage = true) :
    e ∈ w'.stream.entries := by
  cases effect_of_step hstep with
  | purgeNext hk =>
    cases hk.symm.trans hp
    have hq := hok k rfl _ hk htask _ rfl
    refine Log.mem_purge.mpr ⟨e, he, ?_⟩
    rw [if_neg (by simp [hq.covers_eq_false h he hbelongs])]
  | drop | crash => exact he

namespace Sample

/-- The run `r1` has been terminated, and its directives have been purged, when the run `r2` is
started: the timers of the workflow are to be purged next. -/
def purging : List Label :=
  terminated ++ [.deliverTask 13 1, .purgeNext 0, .publish (later start)]

/-- The run `r2` is started before the task that purges for `r1` is delivered. -/
def overtaken : List Label := terminated ++ [.publish (later start), .deliverTask 13 1]

end Sample

theorem purge_spares_run_purging :
    ∃ w', step Sample.config (Sample.worldBy (PurgeGuard "wf" "r1" "r2") Sample.purging)
        (.purgeNext 0) = some w' ∧
      ∃ e ∈ w'.stream.entries, belongsTo "wf" "r2" e.toMessage = true ∧ e.live = true := by
  have h := Sample.reachableBy_worldBy (PurgeGuard "wf" "r1" "r2") Sample.purging
  obtain ⟨hsome, hok, ⟨p, hp, htask⟩, e, he, hbelongs, hlive⟩ :
      (step Sample.config (Sample.worldBy (PurgeGuard "wf" "r1" "r2") Sample.purging)
        (.purgeNext 0)).isSome ∧
      PurgeGuard "wf" "r1" "r2" (Sample.worldBy (PurgeGuard "wf" "r1" "r2") Sample.purging)
        (.purgeNext 0) ∧
      (∃ p ∈ (Sample.worldBy (PurgeGuard "wf" "r1" "r2") Sample.purging).purges[0]?,
        TaskOf "wf" "r1" (Sample.worldBy (PurgeGuard "wf" "r1" "r2") Sample.purging) p.task) ∧
      ∃ e ∈ (Sample.worldBy (PurgeGuard "wf" "r1" "r2") Sample.purging).stream.entries,
        belongsTo "wf" "r2" e.toMessage = true ∧ e.live = true := by
    decide +kernel
  obtain ⟨w', hw'⟩ := Option.isSome_iff_exists.mp hsome
  exact ⟨w', hw', e, purge_spares_run h hok hw' hp htask he hbelongs, hbelongs, hlive⟩

/-- A purge for the run `r1` removes the directive that starts `r2`. -/
theorem purge_removes_start :
    (∃ p ∈ (Sample.world Sample.overtaken).purges[0]?,
      TaskOf "wf" "r1" (Sample.world Sample.overtaken) p.task) ∧
    ∃ e ∈ (Sample.world Sample.overtaken).stream.entries,
      belongsTo "wf" "r2" e.toMessage = true ∧ e.live = true ∧
      ∃ w' ∈ step Sample.config (Sample.world Sample.overtaken) (.purgeNext 0),
        ∃ e' ∈ w'.stream.entries, e'.seq = e.seq ∧ e'.live = false := by
  decide +kernel

end Grctl
