import Grctl.Run.Service
import Grctl.System.World

/-!
# Starts that fail

`StartRun` writes twice: the description of the new run, and then the directive that starts it.
Each of the two can fail on its own, and a publication that is reported as failed may have been
stored all the same.

Between the two writes the workflow is described by a run that has not been started. If the second
one does not succeed, the run never is, and the description stays: it is not terminal, so that
every later `StartRun` for the workflow finds it already running.

## Main definitions

* `Service.Strands`: when a failed start leaves its description behind.
* `SameAnswers`: the store answers for a workflow as before.

## Main results

* `failed_start_usable_iff`: when a failed start leaves the workflow as it was.
-/

namespace Grctl

open SubjectLog Lts

namespace Service

section Strands

variable (registry : Registry) (timeout : UInt32) (dup : Stream → DirectiveID → Bool)
  (env : Readings) (faults : Faults) (l : Stream) (runInfo : RunInfo) (input : Value)

/-- The description of the new run reaches the stream and is not the one that was there, and then
one of the two publications is reported as failed. -/
def Strands : Prop :=
  Saves registry faults l runInfo ∧ getRunByWFID l runInfo.wfID ≠ .ok (some runInfo) ∧
    (faults.saveRunInfo ≠ .stored ∨ faults.publishDirective ≠ .stored)

variable {registry faults l runInfo}

theorem startRunWith_of_saves (h : Saves registry faults l runInfo) :
    getRunByWFID (startRunWith registry timeout dup env faults l runInfo input).2 runInfo.wfID =
      .ok (some runInfo) ∧
    ((startRunWith registry timeout dup env faults l runInfo input).1 = .ok () ↔
      faults.saveRunInfo = .stored ∧ faults.publishDirective = .stored) := by
  obtain ⟨hregistered, hlookup, hfree, htaken, hsaved⟩ := h
  have hout := startOutcome registry timeout dup env faults l runInfo input
  generalize startRunWith registry timeout dup env faults l runInfo input = r at hout ⊢
  cases hout with
  | notRegistered hreg => simp [hreg, Except.isOk, Except.toBool] at hregistered
  | notChecked hnot => exact absurd ⟨hlookup, hfree.choose_spec.1⟩ (hnot _)
  | running _ hrun hlive =>
    obtain ⟨latest, hlatest, hall⟩ := hfree
    cases hlatest.symm.trans hrun.2
    simp [hall _ rfl] at hlive
  | notSaved _ _ hsave =>
    rw [Publication.within, if_pos htaken] at hsave
    exact absurd hsave (hsaved _)
  | unconfirmed _ hsave => simp [hsave]
  | saved _ hsave =>
    rw [inContext_eq_ok, told_eq_ok]
    exact ⟨by cases faults.publishDirective <;> simp [Publication.after], by simp [hsave]⟩

theorem startRunWith_of_not_saves (h : ¬ Saves registry faults l runInfo) :
    (startRunWith registry timeout dup env faults l runInfo input).2 = l := by
  have hout := startOutcome registry timeout dup env faults l runInfo input
  generalize startRunWith registry timeout dup env faults l runInfo input = r at hout ⊢
  cases hout with
  | unconfirmed hsaves => exact absurd hsaves h
  | saved hsaves => exact absurd hsaves h
  | _ => rfl

end Strands

end Service

/-- The store answers `GetRunByWFID` and `CreateRunInfo` for `wf` as before. -/
structure SameAnswers (l l' : Stream) (wf : WFID) : Prop where
  getRunByWFID : getRunByWFID l' wf = getRunByWFID l wf
  createRunInfo : ∀ registry dup faults, ∀ info : RunInfo, info.wfID = wf →
    ((Service.createRunInfo info).run (Service.answer registry dup faults) l').1 =
      ((Service.createRunInfo info).run (Service.answer registry dup faults) l).1

theorem sameAnswers_iff {l l' : Stream} {wf : WFID} :
    SameAnswers l l' wf ↔ getRunByWFID l' wf = getRunByWFID l wf := by
  refine ⟨fun h => h.getRunByWFID, fun h => ⟨h, ?_⟩⟩
  rintro registry dup faults info rfl
  have hlookup : Service.lookup faults l' info.wfID = Service.lookup faults l info.wfID := by
    rw [Service.lookup, h]
    rfl
  simp only [Service.createRunInfo, Program.run_call, Service.answer, hlookup]
  split
  · split_ifs <;> rfl
  · split_ifs <;> rfl

/-- Failed starts. For every stream, every command and every way the store operations can go: if
`StartRun` reports an error, the store answers for the workflow as before, exactly unless the
description of the new run has been stored. -/
theorem failed_start_usable_iff (registry : Service.Registry) (timeout : UInt32)
    (dup : Stream → DirectiveID → Bool) (env : Readings) (faults : Service.Faults) (l : Stream)
    (runInfo : RunInfo) (input : Value) :
    (∀ fault,
      (Service.startRunWith registry timeout dup env faults l runInfo input).1 = .error fault →
        SameAnswers l (Service.startRunWith registry timeout dup env faults l runInfo input).2
          runInfo.wfID) ↔
      ¬ Service.Strands registry faults l runInfo := by
  by_cases hsaves : Service.Saves registry faults l runInfo
  · obtain ⟨hrun, hok⟩ := Service.startRunWith_of_saves timeout dup env input hsaves
    generalize Service.startRunWith registry timeout dup env faults l runInfo input = r at hrun hok
    obtain ⟨result, l'⟩ := r
    simp only [sameAnswers_iff, hrun, Service.Strands, hsaves, true_and, not_and, not_or, not_not]
      at hok ⊢
    constructor
    · intro h hne
      cases result with
      | ok u => exact hok.mp rfl
      | error fault => exact absurd (h fault rfl).symm hne
    · intro h fault hfault
      by_contra hne
      rw [hok.mpr (h (Ne.symm hne))] at hfault
      cases hfault
  · rw [Service.startRunWith_of_not_saves timeout dup env input hsaves]
    exact ⟨fun _ h => hsaves h.1, fun _ _ _ => sameAnswers_iff.mpr rfl⟩

namespace Sample

/-- A registry in which every workflow type is registered. -/
def registry : Service.Registry where
  getStartStepTimeout _ := .ok 0
  getEventDef _ _ := .ok {}

/-- The stream after a first `StartRun` whose directive could not be published. -/
def stranded : Result Unit × Stream :=
  Service.startRunWith registry 300000 Log.seen env
    { publishDirective := .refused "nats: timeout" } .empty run .nil

end Sample

/-- The first `StartRun` fails, and so do all further ones: the workflow is already running. -/
theorem failed_start_blocks :
    Sample.stranded.1 = .error
      { message := "failed to enqueue start directive: failed to publish directive: " ++
          "nats: timeout" } ∧
    getRunByWFID .empty "wf" = .ok none ∧
    (Service.startRunWith Sample.registry 300000 Log.seen Sample.env {} Sample.stranded.2
      { Sample.run with id := "r2" } .nil).1 =
        .error (Sentinel.workflowAlreadyRunning.withDetail "r1") := by
  decide +kernel

end Grctl
