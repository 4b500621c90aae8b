import Grctl.Run.Panic
import Grctl.System.FailedStart
import Grctl.System.Progress

/-!
# When handling a directive crashes the server

Planning panics on a cancel whose description of the run has no start time. Such a cancel exists:
the description is the latest one in the store, and until the start has been handled that is the
one the client sent. The panic comes when the run waits, or, for a cancel that was parked, after
the step in progress has ended.

## Main definitions

* `CancelsStarted`: cancels are only published with a start time.

## Main results

* `planning_never_panics`: under this condition no call ever panics while it plans.
* `cancel_before_start_panics`: a cancel that was accepted before the start was handled.
-/

namespace Grctl

open SubjectLog Lts

/-- A cancel that is published knows when its run was started. -/
def CancelsStarted (_ : World) (a : Label) : Prop :=
  ∀ d ∈ a.published?, d.kind = .cancel → d.runInfo.startedAt ≠ none
  deriving Decidable

variable {cfg : Manager.Config} {w : World} {c : Call} {sn : StateSnapshot}

theorem startedAt_of_cancel (h : ReachableBy cfg CancelsStarted w) (hc : c ∈ w.calls)
    (hkind : c.directive.kind = .cancel) : c.directive.runInfo.startedAt ≠ none :=
  directive_of_published (P := fun d => d.kind = .cancel → d.runInfo.startedAt ≠ none) h
    (fun _ d hok => hok d rfl) (fun d hd _ hkind => absurd (hd.symm.trans hkind) (by decide)) c hc
    hkind

/-- Every cancel that is parked in a stored run state has a start time. -/
def ParkedStarted (l : Stream) : Prop :=
  ∀ e ∈ l.entries, ∀ s, e.data = .runState s → ∀ c, s.pendingCancel = some c →
    c.runInfo.startedAt ≠ none

theorem ParkedStarted.snapshot (h : ParkedStarted w.stream) (hw : Sound w) (hc : c ∈ w.calls)
    (hphase : c.phase = .ready sn) {d : Directive} (hd : sn.runState.pendingCancel = some d) :
    d.runInfo.startedAt ≠ none := by
  rcases (hw.calls c hc).state sn.runState (by rw [hphase]; rfl) with hz | ⟨e, he, -, s₀, hdata, hs⟩
  · rw [hz] at hd
    cases hd
  · rw [hs] at hd
    exact h e he s₀ hdata d hd

theorem parkedStarted_of_reachableBy (h : ReachableBy cfg CancelsStarted w) :
    ParkedStarted w.stream := by
  refine Reach.invariant (P := fun w => ParkedStarted w.stream) h (fun e he => by cases he)
    fun w a w' hr ih _ hstep e he s hdata d hd => ?_
  have hw := sound_of_reachableBy hr
  cases (effect_of_step hstep).entryChange he with
  | old he₀ hm₀ => exact ih _ he₀ s (hm₀ ▸ hdata) d hd
  | new ho =>
    generalize e.toMessage = m at ho hdata
    cases ho with
    | publish _ => cases hdata
    | runInfo => cases hdata
    | history => cases hdata
    | batch _ hb hs hmem =>
      obtain ⟨s', n, rfl, rfl⟩ := Record.eq_of_mem_messages_data_runState hmem hdata
      rcases (hw.planned hb).runState_cases hs with ⟨-, -, hstart⟩ | ⟨-, _, _, -, -, ht⟩
      · simp [hstart.pendingCancel] at hd
      · rcases ht.pendingCancel with hold | ⟨hkind, hnew⟩
        · exact ih.snapshot hw hb.call hb.phase (hold ▸ hd)
        · cases hnew.symm.trans hd
          exact startedAt_of_cancel hr hb.call hkind

/-- Planning never panics in a run of the system in which every published cancel has a start
time: not when a call handles its directive, whatever it is and whenever it was published, and not
when it makes up a failure after a planning error. -/
theorem planning_never_panics (h : ReachableBy cfg CancelsStarted w) (c : Call) (hc : c ∈ w.calls)
    (sn : StateSnapshot) (hphase : c.phase = .ready sn) (env failEnv : Readings) :
    NoPanic (plan cfg.defaults env c.directive sn) ∧
      ∀ cause, NoPanic (Records.buildUnexpectedFailure failEnv c.directive cause sn.runState) := by
  have hparked := parkedStarted_of_reachableBy h
  exact ⟨noPanic_plan (startedAt_of_cancel h hc) fun _ hd =>
    hparked.snapshot (sound_of_reachableBy h) hc hphase hd, fun _ => noPanic_buildUnexpectedFailure⟩

namespace Sample

/-- A call that has come as far as planning. -/
def planning (seq : ℕ) : List Label := [.deliver seq, .readState 0, .readHistory 0, .readEvent 0]

/-- A cancel of the started run, which is about to be planned. -/
def cancelling : List Label :=
  .publish start :: handled 1 ++
    .publish (directive "cancel" .cancel (.cancel "changed my mind")) :: planning 9

/-- What planning says about the first call. -/
def planned (w : World) : Option (DirectiveKind × Outcome (List Record)) :=
  (w.ready? 0).map fun p => (p.1.kind, plan config.defaults env p.1 p.2)

end Sample

theorem planning_never_panics_cancelling :
    ∃ c ∈ (Sample.worldBy CancelsStarted Sample.cancelling).calls, ∃ sn, c.phase = .ready sn ∧
      NoPanic (plan Sample.config.defaults Sample.env c.directive sn) := by
  obtain ⟨c, hmem, hready⟩ : ∃ c ∈ (Sample.worldBy CancelsStarted Sample.cancelling).calls,
      c.phase.snapshot?.isSome = true := by decide +kernel
  obtain ⟨sn, hsn⟩ := Option.isSome_iff_exists.mp hready
  have hphase := Phase.snapshot?_eq_some.mp hsn
  exact ⟨c, hmem, sn, hphase, (planning_never_panics
    (Sample.reachableBy_worldBy CancelsStarted Sample.cancelling) c hmem sn hphase Sample.env
    Sample.env).1⟩

namespace Sample

/-- A run has been admitted and its start published, but not handled. -/
def admitted : List Label := [.admitRun run, .saveRun 0, .publish start]

/-- The cancel that the service publishes at this moment. -/
def earlyCancel : Directive where
  id := "fresh"
  timestamp := 1000000
  kind := .cancel
  runInfo := run
  msg := .cancel "changed my mind"

/-- The early cancel is handled once the run waits. -/
def cancelledInWait : List Label :=
  admitted ++ .publish earlyCancel :: handled 2 ++
    .publish (stepResult "done" .wait (.wait 0 "")) :: handled 11 ++ planning 3

/-- The early cancel is handled during the first step, and then the step ends. -/
def cancelledInStep : List Label :=
  admitted ++ .publish earlyCancel :: handled 2 ++ handled 3 ++
    .publish (stepResult "done" .wait (.wait 0 "")) :: planning 13

end Sample

/-- A cancel that was accepted before the start was handled panics, whether it is handled while
the run waits or was parked and is executed with the result of a step. -/
theorem cancel_before_start_panics :
    (Service.cancel Sample.env
      { id := "c1", kind := .runCancel, msg := .cancel "wf" "changed my mind" }).trace
        (Service.answer Sample.registry Log.seen {}) (Sample.world Sample.admitted).stream =
      [.getRunByWFID "wf", .publishDirective Sample.earlyCancel] ∧
    Sample.planned (Sample.world Sample.cancelledInWait) =
      some (.cancel, .error .nilDereference) ∧
    Sample.planned (Sample.world Sample.cancelledInStep) =
      some (.stepResult, .error .nilDereference) := by
  decide +kernel

end Grctl
