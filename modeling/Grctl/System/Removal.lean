import Grctl.Run.Closing
import Grctl.System.Callback
import Grctl.System.Isolation
import Grctl.System.Results
import Grctl.System.Timers

/-!
# What is removed from the stream

Background tasks remove messages: the result of a step has the timer of the step deleted, and the
end of a run has the residue of its workflow purged, which are directives, timers, events in the
inbox and tasks for workers. The tasks are executed later, in any order, and more than once. The
stream itself removes a timer when it fires.

Whatever the tasks remove, a batch has asked for it. So a message that is gone was a timer that has
fired, the timer of a step that had its result, or belonged to a workflow one of whose runs had
ended. While no run of a workflow has ended, nothing of it is lost but such timers.

## Main definitions

* `Commit.Removes`: a batch asks for the removal of the messages on a subject.
* `Commit.EndsRunOf`: a batch ends a run of a workflow.
* `ToRemove`: the messages on a subject were to be removed.

## Main results

* `removed_with_reason`: every message that has been removed was to be removed.
* `live_or_removes`: what has become of a message of a workflow.
-/

namespace Grctl

open SubjectLog Lts

/-- The batch ends a run of the workflow. -/
def Commit.EndsRunOf (wf : WFID) (c : Commit) : Prop :=
  c.directive.runInfo.wfID = wf ∧ ∃ s n, Record.runState s n ∈ c.records ∧ s.isTerminal = true

/-- The batch asks for the removal of the messages on the subject: it ends a run, and the subject is
one for residue of the workflow; or it is the result of a step, and the subject is the one of the
timer of the step that was in progress. -/
inductive Commit.Removes (c : Commit) (s : Subject) : Prop
  | ended {wf : WFID} (h : c.EndsRunOf wf) (hs : s.isResidue = true) (hwf : s.workflow? = some wf)
  | stepOver (hkind : c.directive.kind = .stepResult)
      (hs : s = .timer c.directive.runInfo.wfID .stepTimeout
        (deriveTimerID c.snapshot.runState.activeDirectiveID .stepTimeout))

section Batch

variable {cfg : Manager.Config} {w : World} {c : Call} {sn : StateSnapshot}
  {records : List Record} {l : Stream} {task : BackgroundTask} {s : Subject}

theorem mem_tasksBy {α : Type} {f : BackgroundTask → Option α} {x : α}
    (htask : Record.backgroundTask task ∈ records) (hx : f task = some x) :
    x ∈ tasksBy f records :=
  List.mem_filterMap.mpr ⟨task, List.mem_filterMap.mpr ⟨_, htask, rfl⟩, hx⟩

/-- A batch that asks for a purge ends a run of the workflow to be purged. -/
theorem Batch.endsRunOf_of_purges (hw : Sound w) (hb : Batch cfg w c sn records l) {wf : WFID}
    (htask : Record.backgroundTask task ∈ records) (hwf : task.purges? = some wf) :
    (w.commitOf c sn records).EndsRunOf wf := by
  obtain ⟨env, failEnv, hrec⟩ := hb.planned
  rcases closes_of_handleRecords hrec with ⟨src, now, kind, hkind, -, hclosing⟩ | hgoesOn
  · obtain ⟨n, hstates⟩ := hclosing.states
    obtain ⟨ri, hinfos, -, -, hri, -⟩ := hclosing.info
    have hpurge := mem_tasksBy htask hwf
    rw [hclosing.purge, List.mem_singleton] at hpurge
    -- the description of the ended run shows which workflow the batch is for
    obtain ⟨r, hr, hinfo⟩ := List.mem_filterMap.mp (hinfos ▸ List.mem_singleton_self ri)
    have hkey : ri.key ∈ r.scope? := by
      cases r <;> cases hinfo
      rfl
    have hscope := hb.wfID_of_scope? hw hr hkey
    refine ⟨hscope.symm.trans (hri.trans hpurge.symm), Records.finished now sn.runState kind, n,
      ?_, hkind⟩
    exact mem_of_mem_runStates (hstates ▸ List.mem_singleton_self _)
  · have hdeletes := hgoesOn.tasks task htask
    cases hpayload : task.payload <;>
      simp_all [BackgroundTask.deletes?, BackgroundTask.purges?]

theorem Batch.removes_of_deletes (hw : Sound w) (hb : Batch cfg w c sn records l)
    {x : WFID × TimerKind × TimerID} (htask : Record.backgroundTask task ∈ records)
    (hx : task.deletes? = some x) :
    (w.commitOf c sn records).Removes (.timer x.1 x.2.1 x.2.2) := by
  obtain ⟨hkind, rfl⟩ := hb.deletions_cases hw (mem_deletions.mpr ⟨task, htask, hx⟩)
  exact .stepOver hkind rfl

end Batch

/-! ### Tasks under way -/

/-- The payload of the task that leads to an action. -/
def payloadOf? : BgTask.Action → Option TaskPayload
  | .discard => none
  | .cancelTimer wfID kind timerID => some (.deleteTimer wfID kind timerID)
  | .deleteInboxEvent seqID => some (.deleteInboxEvent seqID)
  | .purgeRunResidue wfID => some (.purgeRunResidue wfID)
  | .notifyParent payload => some (.notifyParentComplete payload)
  | .terminateWorkerRun workerID runID => some (.workerTerminateRun workerID runID)

theorem payload_of_handle {task : BackgroundTask} {m n : ℕ} {action : BgTask.Action}
    {payload : TaskPayload} (h : BgTask.handle m task n = action)
    (hpayload : payloadOf? action = some payload) : task.payload = payload := by
  subst h
  rw [BgTask.handle] at hpayload
  split_ifs at hpayload
  · cases hpayload
  · split at hpayload <;> cases hpayload <;> assumption

/-- The messages on the subject were to be removed: some batch asks for it, or the subject is that of
a timer that has fired. -/
inductive ToRemove (journal : List Commit) (fired : List Timer) (s : Subject) : Prop
  | asked {c : Commit} (hc : c ∈ journal) (hs : c.Removes s)
  | fired {t : Timer} (ht : t ∈ fired) (hs : s = .timer t.wfID t.kind t.id)

/-- What has been removed, and what the purges under way go on to remove, was to be removed. -/
structure RemovalSound (w : World) : Prop where
  entries : ∀ e ∈ w.stream.entries, e.live = false → ToRemove w.journal w.fired e.subject
  purges : ∀ P ∈ w.purges, ∀ p ∈ P.pending, ∀ s, p.covers s = true →
    ToRemove w.journal w.fired s

section Sound

variable {cfg : Manager.Config} {w w' : World} {j : List Commit} {fired : List Timer}

theorem ToRemove.mono {s : Subject} (h : ToRemove w.journal w.fired s) (hj : w.journal ⊆ j)
    (hf : w.fired ⊆ fired) : ToRemove j fired s := by
  cases h with
  | asked hc hs => exact .asked (hj hc) hs
  | fired ht hs => exact .fired (hf ht) hs

/-- A stored timer was set by a batch, and its subject carries its name. -/
theorem exists_commit_of_timer (h : Reachable cfg w) {e : StreamEntry} {t : Timer}
    (he : e ∈ w.stream.entries) (hdata : e.data = .timer t) :
    e.subject = .timer t.wfID t.kind t.id ∧ ∃ c ∈ w.journal, Record.timer t ∈ c.records := by
  rcases mem_journal_of_mem_messages h _ (List.mem_map_of_mem he) with hout | ⟨c, hc, hm⟩
  · cases hmsg : e.toMessage
    rw [hmsg] at hout hdata
    cases hout <;> cases hdata
  · obtain ⟨r, hr, hm⟩ := List.mem_flatMap.mp hm
    have htimer : r = .timer t := by
      cases r <;> grind [Record.messages, Directive.message]
    subst htimer
    rw [Record.messages, List.mem_singleton] at hm
    exact ⟨congrArg Message.subject hm, c, hc, hr⟩

/-- A stored task that purges was asked for by the end of a run. -/
theorem exists_endsRunOf (h : Reachable cfg w) {e : StreamEntry} {task : BackgroundTask} {wf : WFID}
    (he : e ∈ w.stream.entries) (hdata : e.data = .bgTask task)
    (hwf : task.purges? = some wf) : ∃ c ∈ w.journal, c.EndsRunOf wf := by
  obtain ⟨c, hc, htask⟩ := exists_commit_of_bgTask h he hdata
  have hends : ∀ c ∈ w.journal, Record.backgroundTask task ∈ c.records → c.EndsRunOf wf :=
    forall_mem_journal (Q := fun c => Record.backgroundTask task ∈ c.records → c.EndsRunOf wf) h
      fun w c sn records l hr hb htask =>
        hb.endsRunOf_of_purges (sound_of_reachableBy hr) htask hwf
  exact ⟨c, hc, hends c hc htask⟩

theorem toRemove_of_deletes (h : Reachable cfg w) {e : StreamEntry} {task : BackgroundTask}
    {x : WFID × TimerKind × TimerID} (he : e ∈ w.stream.entries) (hdata : e.data = .bgTask task)
    (hx : task.deletes? = some x) : ToRemove w.journal fired (.timer x.1 x.2.1 x.2.2) := by
  obtain ⟨c, hc, htask⟩ := exists_commit_of_bgTask h he hdata
  have hremoves : ∀ c ∈ w.journal, Record.backgroundTask task ∈ c.records →
      c.Removes (.timer x.1 x.2.1 x.2.2) :=
    forall_mem_journal (Q := fun c => Record.backgroundTask task ∈ c.records →
      c.Removes (.timer x.1 x.2.1 x.2.2)) h fun w c sn records l hr hb htask =>
        hb.removes_of_deletes (sound_of_reachableBy hr) htask hx
  exact .asked hc (hremoves c hc htask)

theorem toRemove_of_purgePatterns {wf : WFID} {p : PurgePattern} {s : Subject}
    (h : ∃ c ∈ w.journal, c.EndsRunOf wf) (hp : p ∈ purgePatterns wf) (hs : p.covers s = true) :
    ToRemove w.journal fired s := by
  obtain ⟨c, hc, hends⟩ := h
  refine .asked hc (.ended hends (PurgePattern.isResidue_of_covers hs) ?_)
  rw [PurgePattern.workflow_of_covers hs]
  simp only [purgePatterns, List.mem_cons, List.not_mem_nil, or_false] at hp
  rcases hp with rfl | rfl | rfl | rfl <;> rfl

/-- A purge of what is to be removed. -/
theorem RemovalSound.purge (h : RemovalSound w) {q : Subject → Bool}
    (hf : w.fired ⊆ fired) (hq : ∀ s, q s = true → ToRemove w.journal fired s) :
    ∀ e ∈ (w.stream.purge q).entries, e.live = false →
      ToRemove w.journal fired e.subject := by
  intro e he hdead
  obtain ⟨e₀, he₀, rfl⟩ := Log.mem_purge.mp he
  by_cases hcovered : q e₀.subject = true
  · rw [if_pos hcovered] at hdead ⊢
    exact hq _ hcovered
  · rw [if_neg hcovered] at hdead ⊢
    exact (h.entries e₀ he₀ hdead).mono (List.Subset.refl _) hf

/-- Messages that are appended are there. -/
theorem RemovalSound.appendAll (h : RemovalSound w) (ms : List Msg)
    (hj : w.journal ⊆ j) :
    ∀ e ∈ (w.stream.appendAll ms).entries, e.live = false →
      ToRemove j w.fired e.subject := by
  intro e he hdead
  rw [Log.entries_appendAll] at he
  rcases List.mem_append.mp he with he | he
  · exact (h.entries e he hdead).mono hj (List.Subset.refl _)
  · cases hdead.symm.trans (mem_stamp he).2.1

/-- The delivery of a task removes a timer that was to be removed, or begins such a purge. -/
theorem RemovalSound.deliverTask (hw : Reachable cfg w) (h : RemovalSound w) {seq n : ℕ}
    (hstep : Grctl.step cfg w (.deliverTask seq n) = some w') : RemovalSound w' := by
  simp only [Grctl.step] at hstep
  split at hstep
  · rename_i hentry
    have he := (mem_of_entryAt hentry).1
    split at hstep <;> cases hstep
    · rename_i wf haction
      have hends : ∃ c ∈ w.journal, c.EndsRunOf wf := exists_endsRunOf hw he rfl (by
        rw [BackgroundTask.purges?, payload_of_handle haction rfl])
      refine ⟨h.entries, fun P hP p hp s hs => ?_⟩
      rcases List.mem_append.mp hP with hP | hP
      · exact h.purges P hP p hp s hs
      · cases List.mem_singleton.mp hP
        exact toRemove_of_purgePatterns hends hp hs
    · rename_i wf kind id haction
      have hdeletes := payload_of_handle haction rfl
      have htimer : ToRemove w.journal w.fired (.timer wf kind id) :=
        toRemove_of_deletes hw he rfl (x := (wf, kind, id))
          (by rw [BackgroundTask.deletes?, hdeletes])
      exact ⟨h.purge (List.Subset.refl _) fun s hs => beq_iff_eq.mp hs ▸ htimer, h.purges⟩
  · cases hstep

theorem RemovalSound.step (hw : Reachable cfg w) (h : RemovalSound w) {a : Label}
    (hstep : step cfg w a = some w') : RemovalSound w' := by
  have hj := (effect_of_step hstep).change.journal_sublist.subset
  cases effect_of_step hstep with
  | publish => exact ⟨h.appendAll _ (List.Subset.refl _), h.purges⟩
  | saveRun => exact ⟨h.appendAll _ (List.Subset.refl _), h.purges⟩
  | recordHistory => exact ⟨h.appendAll _ (List.Subset.refl _), h.purges⟩
  | commit hc hb =>
    refine ⟨?_, fun P hP p hp s hs => (h.purges P hP p hp s hs).mono hj (List.Subset.refl _)⟩
    rw [eq_appendAll_of_commit hb.commit]
    exact h.appendAll _ hj
  | purgeTask => exact h.deliverTask hw hstep
  | cancelTimer => exact h.deliverTask hw hstep
  | purgeNext hk =>
    have hP := List.mem_of_getElem? hk
    refine ⟨h.purge (List.Subset.refl _) fun s hs => h.purges _ hP _ List.mem_cons_self s hs,
      fun P' hP' p hp s hs => ?_⟩
    rcases List.mem_or_eq_of_mem_set hP' with hold | rfl
    · exact h.purges P' hold p hp s hs
    · exact h.purges _ hP p (List.mem_cons_of_mem _ hp) s hs
  | @fire e wf kind id t he _ hsubject hdata =>
    have hsub : w.fired ⊆ w.fired ++ [t] := List.subset_append_left ..
    refine ⟨h.purge hsub fun s hs => ?_, fun P hP p hp s hs =>
      (h.purges P hP p hp s hs).mono (List.Subset.refl _) hsub⟩
    refine .fired (List.mem_append_right _ List.mem_cons_self) ?_
    rw [beq_iff_eq.mp hs, ← hsubject]
    exact (exists_commit_of_timer hw he hdata).1
  | crash => exact ⟨h.entries, fun P hP => by cases hP⟩
  | _ => exact ⟨h.entries, h.purges⟩

theorem removalSound_of_reachable (h : Reachable cfg w) : RemovalSound w := by
  refine Reach.invariant (P := RemovalSound) h ⟨?_, ?_⟩ fun w a w' hr ih _ hstep => ih.step hr hstep
  · exact fun e he => by cases he
  · exact fun P hP => by cases hP

/-- A message of a workflow is there, or a run of the workflow has ended, or it is a timer: the one
of a step that has had its result, or one that has fired. -/
theorem live_or_removes (h : Reachable cfg w) {e : StreamEntry} (he : e ∈ w.stream.entries)
    {wf : WFID} (hwf : e.subject.workflow? = some wf) :
    e.live = true ∨ (∃ c ∈ w.journal, c.EndsRunOf wf) ∨
      (∃ c ∈ w.journal, c.directive.kind = .stepResult ∧ e.subject = .timer wf .stepTimeout
        (deriveTimerID c.snapshot.runState.activeDirectiveID .stepTimeout)) ∨
      ∃ t ∈ w.fired, e.subject = .timer t.wfID t.kind t.id := by
  cases hlive : e.live with
  | true => exact .inl rfl
  | false =>
    refine .inr ?_
    cases (removalSound_of_reachable h).entries e he hlive with
    | @asked c hc hremoves =>
      cases hremoves with
      | ended hends _ hwf' =>
        cases hwf.symm.trans hwf'
        exact .inl ⟨c, hc, hends⟩
      | stepOver hkind hs =>
        rw [hs] at hwf ⊢
        cases hwf
        exact .inr (.inl ⟨c, hc, hkind, rfl⟩)
    | fired ht hs => exact .inr (.inr ⟨_, ht, hs⟩)

/-- Nothing of a workflow is removed without a reason: a message that is gone was a timer that has
fired, the timer of a step that has had its result, or residue of a workflow one of whose runs has
ended. -/
theorem removed_with_reason (h : Reachable cfg w) {e : StreamEntry} (he : e ∈ w.stream.entries)
    (hdead : e.live = false) :
    (∃ c ∈ w.journal, c.Removes e.subject) ∨
      ∃ t ∈ w.fired, e.subject = .timer t.wfID t.kind t.id := by
  cases (removalSound_of_reachable h).entries e he hdead with
  | asked hc hs => exact .inl ⟨_, hc, hs⟩
  | fired ht hs => exact .inr ⟨_, ht, hs⟩

end Sound

/-- The timer of a step has fired, and the directives of the run have been purged after it was
terminated. -/
def Sample.purged : List Label := terminated ++ [.fire 5, .deliverTask 13 1, .purgeNext 0]

theorem removed_with_reason_purged :
    (∃ e ∈ (Sample.world Sample.purged).stream.entries, e.live = false ∧
      e.subject = .directive "order" "wf" "r1" ∧
      ∃ c ∈ (Sample.world Sample.purged).journal, c.Removes e.subject) ∧
    ∃ e ∈ (Sample.world Sample.purged).stream.entries, e.live = false ∧
      e.subject = .timer "wf" .stepTimeout "step_timeout.start" ∧
      ((∃ c ∈ (Sample.world Sample.purged).journal, c.Removes e.subject) ∨
        ∃ t ∈ (Sample.world Sample.purged).fired, e.subject = .timer t.wfID t.kind t.id) := by
  have hr := Sample.reachable_world Sample.purged
  obtain ⟨⟨e, he, hdead, hsubject⟩, e', he', hdead', hsubject'⟩ :
      (∃ e ∈ (Sample.world Sample.purged).stream.entries,
        e.live = false ∧ e.subject = .directive "order" "wf" "r1") ∧
      ∃ e ∈ (Sample.world Sample.purged).stream.entries,
        e.live = false ∧ e.subject = .timer "wf" .stepTimeout "step_timeout.start" := by
    decide +kernel
  constructor
  · refine ⟨e, he, hdead, hsubject, ?_⟩
    rcases removed_with_reason hr he hdead with hasked | ⟨t, -, htimer⟩
    · exact hasked
    · cases hsubject.symm.trans htimer
  · exact ⟨e', he', hdead', hsubject', removed_with_reason hr he' hdead'⟩

end Grctl
