import Grctl.Run.StepResult
import Grctl.System.Progress

/-!
# Step results that are delivered more than once

Nothing in a run state says which step results have been applied. A result that is delivered again
is planned from the state it finds, which may lead to an entirely different batch: the run may be
in another step, wait, or have a cancel parked. What makes the second batch fail is one message.
Every batch that is planned for a step result asks for the timer of the step to be deleted, and the
identifier of that task is derived from the result.

It is assumed here that the stream never forgets an identifier.

## Main definitions

* `Commit.PlanBuilt`: the batch is one that `plan` builds.

## Main results

* `step_result_applied_once`: one batch is committed for a step result.
-/

namespace Grctl

open SubjectLog Lts

/-- The batch is the one that `plan` builds for its directive, and not one that fails the run
because planning has returned an error. -/
def Commit.PlanBuilt (cfg : Defaults) (c : Commit) : Prop :=
  ∃ env, plan cfg env c.directive c.snapshot = .ok c.records

/-- The message by which the stream recognises the batch of a step result. -/
def stepTimerMessage (d : Directive) (cur : RunState) : Msg where
  subject := .bgTask
  data := .bgTask (stepTimerTask d cur)
  msgId := some (deriveBgTaskID d.id .deleteTimer)

/-- What holds of a batch of the step result `d` and the batches `pre` before it. -/
structure AppliedOnce (cfg : Defaults) (d : Directive) (pre : List Commit) (c : Commit) : Prop where
  marked : c.directive = d → c.PlanBuilt cfg →
    stepTimerMessage d c.snapshot.runState ∈ c.records.flatMap Record.messages
  processed : c.directive = d → c.PlanBuilt cfg → d.processedStep?.isSome = true
  first : ∀ c' ∈ pre, c'.directive = d → c'.PlanBuilt cfg → c.directive ≠ d

section Batch

variable {cfg : Manager.Config} {w : World} {c : Call} {sn : StateSnapshot}
  {records : List Record} {l : Stream} {d : Directive}

theorem stepTimerMessage_mem {defaults : Defaults} {env : Readings}
    (hlive : sn.runState.isTerminal = false) (hkind : d.kind = .stepResult)
    (h : plan defaults env d sn = .ok records) :
    stepTimerMessage d sn.runState ∈ records.flatMap Record.messages := by
  rw [plan_of_stepResult hlive hkind] at h
  obtain ⟨s, notes, body, rfl, -, htask⟩ := turn_of_planFromStepResult hlive hkind h
  exact List.mem_flatMap.mpr ⟨_, List.mem_append_left _ htask, List.mem_singleton_self _⟩

/-- Planning a step result succeeds only if it names a step that was processed. -/
theorem processedStep_of_plan {defaults : Defaults} {env : Readings}
    (hlive : sn.runState.isTerminal = false) (hkind : d.kind = .stepResult)
    (h : plan defaults env d sn = .ok records) : d.processedStep?.isSome = true := by
  rw [plan_of_stepResult hlive hkind, planFromStepResult] at h
  split at h
  · split_ifs at h
    · split at h
      · simp only [bind_eq_ok, wrap_eq_ok] at h
        obtain ⟨notes, hnotes, -⟩ := h
        exact processedStep_of_stepFail hnotes
      · simp at h
    · simp only [bind_eq_ok, wrap_eq_ok] at h
      obtain ⟨notes, hnotes, -⟩ := h
      exact processedStep_of_stepComplete hnotes
  · simp at h

/-- A second batch of a step result would store the identifier of the first one again. -/
theorem Batch.appliedOnce (hdup : cfg.dup = Log.seen) {ok : World → Label → Prop}
    (h : ReachableBy cfg ok w) (hb : Batch cfg w c sn records l) (hkind : d.kind = .stepResult)
    (hnext : d.NamesNext) (ha : Along (AppliedOnce cfg.defaults d) w.journal) :
    AppliedOnce cfg.defaults d w.journal (w.commitOf c sn records) := by
  have hw := sound_of_reachableBy h
  have hlive := hb.live hw
  refine ⟨?_, ?_, fun c₀ hc₀ hd₀ hplan₀ hd => ?_⟩
  · rintro rfl ⟨env, hplan⟩
    exact stepTimerMessage_mem hlive hkind hplan
  · rintro rfl ⟨env, hplan⟩
    exact processedStep_of_plan hlive hkind hplan
  · obtain ⟨_, _, -, hc₀'⟩ := ha.of_mem hc₀
    have hseen : w.stream.seen (deriveBgTaskID d.id .deleteTimer) = true :=
      Log.seen_of_mem_messages
        (mem_messages_of_mem_journal h c₀ hc₀ _ (hc₀'.marked hd₀ hplan₀)) rfl
    change c.directive = d at hd
    subst hd
    obtain ⟨env, failEnv, hrec⟩ := hb.planned
    have hplan := plan_of_handleRecords (hw.calls c hb.call).decoded hkind
      (hc₀'.processed hd₀ hplan₀) hnext (fun _ => hw.cancel_msg hb.call hb.phase) hrec
    have hlog := (commit_eq_ok hb.commit).1
    rw [hdup] at hlog
    have hnew := Log.seen_eq_false_of_commit hlog (stepTimerMessage_mem hlive hkind hplan) rfl
    simp [hseen] at hnew

end Batch

/-- A redelivered step result is applied once. Let calls be interleaved in any way, and take a
step result that names a step, a wait or the end of the run next. If `plan` has built a batch of
it, then no other batch of it that `plan` builds is committed, in whatever state and with whatever
cancel parked; and after it nothing at all is committed for the result. -/
theorem step_result_applied_once {cfg : Manager.Config} (hdup : cfg.dup = Log.seen) {w : World}
    (h : Reachable cfg w) {d : Directive} (hkind : d.kind = .stepResult) (hnext : d.NamesNext)
    {pre post : List Commit} {c : Commit} (hsplit : w.journal = pre ++ c :: post)
    (hc : c.directive = d) (hplan : c.PlanBuilt cfg.defaults) :
    (∀ c' ∈ pre ++ post, c'.directive = d → ¬ c'.PlanBuilt cfg.defaults) ∧
    ∀ c' ∈ post, c'.directive ≠ d := by
  have halong : Along (AppliedOnce cfg.defaults d) w.journal :=
    along_journal h fun w k c sn records l _ _ _ hr ha _ _ hb =>
      hb.appliedOnce hdup hr hkind hnext ha
  have hlater : ∀ c' ∈ post, c'.directive ≠ d := by
    intro c' hc'
    obtain ⟨a, b, rfl⟩ := List.append_of_mem hc'
    refine (halong (pre ++ c :: a) c' b (by simp [hsplit])).first c (by simp) hc hplan
  refine ⟨fun c' hc' hd' hplan' => ?_, hlater⟩
  rcases List.mem_append.mp hc' with hc' | hc'
  · exact (halong pre c post hsplit).first c' hc' hd' hplan' hc
  · exact hlater c' hc' hd'

/-- The acknowledgement of a step result gets lost, and the result is handled again in the step
that it has led to. -/
def Sample.resultRedelivered : List Label :=
  .publish start :: handled 1 ++ .publish (stepResult "done" .step (.step "ship" 0)) ::
    unacked 9 ++ handled 9

theorem step_result_applied_once_redelivered :
    ∃ c₁ c₂, (Sample.world Sample.resultRedelivered).journal = [c₁, c₂] ∧
      c₂.directive = Sample.stepResult "done" .step (.step "ship" 0) ∧
      ∀ c ∈ [c₁], c.directive = c₂.directive → ¬ c.PlanBuilt Sample.config.defaults := by
  obtain ⟨hlength, hplan⟩ : (Sample.world Sample.resultRedelivered).journal.length = 2 ∧
      ∀ c ∈ (Sample.world Sample.resultRedelivered).journal.drop 1,
        c.directive = Sample.stepResult "done" .step (.step "ship" 0) ∧
          plan Sample.config.defaults Sample.env c.directive c.snapshot = .ok c.records := by
    decide +kernel
  obtain ⟨c₁, c₂, hj⟩ := List.length_eq_two.mp hlength
  rw [hj] at hplan
  obtain ⟨hd, hbuilt⟩ := hplan c₂ (List.mem_singleton_self c₂)
  have hsplit : (Sample.world Sample.resultRedelivered).journal = [c₁] ++ c₂ :: [] := hj
  have honce := (step_result_applied_once rfl (Sample.reachable_world Sample.resultRedelivered)
    (by rw [hd]; rfl) (by rw [hd]; decide) hsplit rfl ⟨Sample.env, hbuilt⟩).1
  exact ⟨c₁, c₂, hj, hd, by simpa using honce⟩

end Grctl
