import Grctl.Run.Lineage
import Grctl.System.Invariant

/-!
# The history bound of dispatched steps

A worker that replays a step loads the history of its run up to the `HistorySeqID` of the task it is
given: the entries of earlier transitions lie below it. The bound is part of the run description, so
that it is copied along with it. A step result computes it anew; an event and the step of a wait
that timed out go on with the copy they carry, unless it is zero, and this copy is as old as the
event or the timer.

## Main results

* `history_bound_iff`: when the bound of a dispatched step covers the history of its run.
* `history_bound_stale_event`: an event whose bound does not.
-/

namespace Grctl

open SubjectLog Lts

theorem mem_calls_of_ready? {w : World} {k : ℕ} {d : Directive} {sn : StateSnapshot}
    (h : w.ready? k = some (d, sn)) :
    ∃ c ∈ w.calls, c.phase = .ready sn ∧ c.directive = d := by
  obtain ⟨c, hc, hmap⟩ := Option.bind_eq_some_iff.mp h
  obtain ⟨sn', hphase, heq⟩ := Option.map_eq_some_iff.mp hmap
  cases heq
  exact ⟨c, List.mem_of_getElem? hc, Phase.snapshot?_eq_some.mp hphase, rfl⟩

/-- The bound that a dispatched step takes from a run description: a bound of zero stands for the
current run state. -/
def historyBound (ri : RunInfo) (cur : RunState) : ℕ :=
  if ri.historySeqID = 0 then cur.seqID else ri.historySeqID

/-- The bound that handling `d` dispatches with is not older than the history in the snapshot. A
step result computes it from the snapshot. -/
def BoundFresh (d : Directive) (sn : StateSnapshot) : Prop :=
  match d.kind with
  | .stepResult => True
  | .wakeFromInbox => sn.lastHistorySeqID ≤ historyBound sn.event.runInfo sn.runState
  | _ => sn.lastHistorySeqID ≤ historyBound d.runInfo sn.runState

theorem historySeqID_dispatched (ri : RunInfo) (cur : RunState) (t : Time) :
    (ri.dispatched cur t).historySeqID = historyBound ri cur := by
  simp [RunInfo.dispatched, RunInfo.repaired, historyBound]

/-- The task of a batch is dispatched with a description that the batch goes back to. -/
theorem Record.Stems.historySeqID {kind : DirectiveKind} {src : RunInfo} {cur : RunState}
    {task : Directive} (h : (Record.workerTask task).Stems kind src cur) :
    kind.isDispatched = true ∧ task.runInfo.historySeqID = historyBound src cur := by
  cases h with
  | task hkind htask => exact ⟨hkind, by rw [htask, historySeqID_dispatched]⟩
  | other hr => cases hr

theorem boundFresh_iff_of_source {d : Directive} {sn : StateSnapshot} {kind : DirectiveKind}
    {src : RunInfo} (h : Source d sn kind src) (hkind : kind.isDispatched = true) :
    sn.lastHistorySeqID ≤ historyBound src sn.runState ↔ BoundFresh d sn := by
  cases h with
  | direct hd =>
    rw [BoundFresh]
    split <;> simp_all
  | next hd => simp [BoundFresh, hd, historyBound, nextRunInfo]
  | nextFailure => cases hkind
  | parked => cases hkind
  | inbox hd => simp [BoundFresh, hd]
  | failure => cases hkind

/-- A step that is dispatched in a run which has a history covers the history that its snapshot
shows, exactly if its bound is computed by a step result or is not older than that history. -/
theorem history_bound_iff (cfg : Manager.Config) (w : World) (h : Reachable cfg w) (k : ℕ)
    (d : Directive) (sn : StateSnapshot) (hready : w.ready? k = some (d, sn))
    (hstart : d.kind ≠ .start) (env : Readings) (records : List Record)
    (hplan : plan cfg.defaults env d sn = .ok records) (task : Directive)
    (htask : Record.workerTask task ∈ records) :
    sn.lastHistorySeqID ≤ task.runInfo.historySeqID ↔ BoundFresh d sn := by
  obtain ⟨c, hc, hphase, rfl⟩ := mem_calls_of_ready? hready
  have hw := sound_of_reachableBy h
  rcases traced_of_plan (hw.calls c hc).decoded (hw.eventSound hc hphase) hstart hplan with
    hnone | ⟨kind, src, hsrc, hstems⟩
  · cases hnone _ htask
  · obtain ⟨hkind, hbound⟩ := (hstems _ htask).historySeqID
    rw [hbound]
    exact boundFresh_iff_of_source hsrc hkind

namespace Sample

/-- The first step names a second one. -/
def shipping : Directive := stepResult "done" .step (.step "ship" 0)

/-- The result of the first step is about to be planned. -/
def shippingReady : List Label :=
  .publish start :: handled 1 ++
    [.publish shipping, .deliver 9, .readState 0, .readHistory 0, .readEvent 0]

/-- What the call has read. -/
def shippingSnapshot : StateSnapshot where
  runState :=
    { wfID := "wf"
      runID := "r1"
      kind := .step
      enteredAt := 1000000
      startedAt := some 1000000
      activeDirectiveID := "start"
      seqID := 8 }
  lastHistorySeqID := 2

end Sample

theorem history_bound_iff_shipping : ∃ records task,
    plan Sample.config.defaults Sample.env Sample.shipping Sample.shippingSnapshot = .ok records ∧
      Record.workerTask task ∈ records ∧
      Sample.shippingSnapshot.lastHistorySeqID ≤ task.runInfo.historySeqID := by
  have hready : (Sample.world Sample.shippingReady).ready? 0 =
      some (Sample.shipping, Sample.shippingSnapshot) := by decide +kernel
  have hplan : plan Sample.config.defaults Sample.env Sample.shipping Sample.shippingSnapshot =
      .ok _ := rfl
  refine ⟨_, _, hplan, List.mem_append_right _ (.tail _ (.tail _ (.head _))), ?_⟩
  exact (history_bound_iff Sample.config _ (Sample.reachable_world _) 0 _ _ hready (by decide)
    Sample.env _ hplan _ (List.mem_append_right _ (.tail _ (.tail _ (.head _))))).mpr trivial

namespace Sample

/-- An event for the waiting run, with the description that the service finds. -/
def sentEvent : Directive :=
  { event "pay" with runInfo := { started with historySeqID := 3 } }

/-- The event is received while the run waits, and the wake-up is about to dispatch it. -/
def waking : List Label :=
  waiting ++ .publish sentEvent :: handled 16 ++
    [.deliver 19, .readState 0, .readHistory 0, .readEvent 0]

/-- The wake-up. -/
def wake : Directive where
  id := deriveNextDirectiveID "pay"
  timestamp := 1000000
  kind := .wakeFromInbox
  runInfo := sentEvent.runInfo
  msg := .wakeFromInbox

/-- What the wake-up has read: the event was received after the run state had been stored. -/
def wakeSnapshot : StateSnapshot where
  runState :=
    { wfID := "wf"
      runID := "r1"
      kind := .wait
      enteredAt := 1000000
      startedAt := some 1000000
      activeDirectiveID := deriveNextDirectiveID "done"
      seqID := 15 }
  event := { sentEvent with msg := .event { eventName := "paid", eventSeqID := some 17 } }
  lastHistorySeqID := 18

end Sample

/-- An event that is sent to a waiting run is dispatched with the bound of the wait, although the
run has a later history. -/
theorem history_bound_stale_event :
    Reachable Sample.config (Sample.world Sample.waking) ∧
      getRunByWFID (Sample.world Sample.waiting).stream "wf" =
        .ok (some Sample.sentEvent.runInfo) ∧
      (Sample.world Sample.waking).ready? 0 = some (Sample.wake, Sample.wakeSnapshot) ∧
      ∃ records task,
        plan Sample.config.defaults Sample.env Sample.wake Sample.wakeSnapshot = .ok records ∧
          Record.workerTask task ∈ records ∧
          task.runInfo.historySeqID < Sample.wakeSnapshot.lastHistorySeqID :=
  ⟨Sample.reachable_world _, by decide +kernel, by decide +kernel, _, _, rfl,
    .tail _ (.tail _ (.head _)), by decide⟩

end Grctl
