import Grctl.System.Described

/-!
# One active run of a workflow

`CreateRunInfo` looks up the latest description of a workflow and then publishes the description of
a new run, without an expected sequence. Between the two, another server can do the same: both
requests find the workflow free, and both create a run.

There are two more ways to get a second active run. A wake-up that dispatches an event of an
earlier run describes that run as running again, and so does a start that commits a second time,
from a snapshot taken before the run ended.

Apart from these, the latest description is that of the only run which can be active: every other
run is described as ended, its state agrees, and nothing is planned for a run that has ended.

## Main definitions

* `Active`: a run has been created and is not described as ended.
* `OneActiveGuard`: what a step must meet.

## Main results

* `at_most_one_active`: at most one run of a workflow is active.
-/

namespace Grctl

open SubjectLog Lts

/-- The run has been created, and its last description is not one of a run that has ended. -/
def Active (wf : WFID) (l : Stream) (run : RunID) : Prop :=
  ∃ info ∈ (runInfos wf run l).getLast?, info.isTerminal = false

instance (wf : WFID) (l : Stream) (run : RunID) : Decidable (Active wf l run) :=
  inferInstanceAs (Decidable (∃ info ∈ (runInfos wf run l).getLast?, _))

/-- A start that commits finds its run without a state, and a wake-up finds an event of its own
run. -/
def FindsOwn (wf : WFID) (l : Stream) (d : Directive) (sn : StateSnapshot) : Prop :=
  OwnEvent d sn ∧ (d.kind = .start → sn.runState.isTerminal = false →
    getRunState l wf d.runInfo.id = .ok none)
  deriving Decidable

/-- A run of `wf` is created under a new identifier and when the latest one has ended, directives
are for runs that have been created, and what is handled finds its own run. -/
def OneActiveGuard (wf : WFID) (w : World) (a : Label) : Prop :=
  (∀ d ∈ a.published?, d.runInfo.wfID = wf → runInfos wf d.runInfo.id w.stream ≠ []) ∧
  (∀ k ∈ a.saved?, ∀ info ∈ w.admitted[k]?, info.wfID = wf →
    info.isTerminal = false ∧ runInfos wf info.id w.stream = [] ∧
      ∀ latest ∈ (descriptions wf w.stream).getLast?, latest.isTerminal = true) ∧
  ∀ k ∈ a.finished?, ∀ p ∈ w.ready? k, p.1.runInfo.wfID = wf → FindsOwn wf w.stream p.1 p.2
  deriving Decidable

/-- Every run but the latest one is described as ended. -/
def LatestActive (wf : WFID) (l : Stream) : Prop :=
  ∀ latest ∈ (descriptions wf l).getLast?, ∀ run, run ≠ latest.id →
    ∀ info ∈ (runInfos wf run l).getLast?, info.isTerminal = true

section Lists

variable {wf : WFID} {run : RunID} {l l' : Stream}

theorem exists_getLast?_descriptions (h : runInfos wf run l ≠ []) :
    ∃ latest, (descriptions wf l).getLast? = some latest := by
  refine Option.ne_none_iff_exists'.mp fun hnone => h ?_
  rw [runInfos, List.getLast?_eq_none_iff.mp hnone]
  rfl

/-- The latest description is the last one of its run. -/
theorem getLast?_runInfos {latest : RunInfo} (h : (descriptions wf l).getLast? = some latest) :
    (runInfos wf latest.id l).getLast? = some latest := by
  obtain ⟨pre, hpre⟩ := List.getLast?_eq_some_iff.mp h
  rw [runInfos, hpre, List.filter_append]
  simp

theorem runInfos_append_of_ne {infos : List RunInfo}
    (h : descriptions wf l' = descriptions wf l ++ infos) (hid : ∀ info ∈ infos, info.id ≠ run) :
    runInfos wf run l' = runInfos wf run l := by
  rw [runInfos_append run h, List.append_right_eq_self, List.filter_eq_nil_iff]
  simpa using hid

end Lists

section Guarded

variable {cfg : Manager.Config} {w w' : World} {a : Label} {wf : WFID}

/-- The rule of `Described` for every run of the workflow. -/
theorem agrees_of_oneActive (h : ReachableBy cfg (OneActiveGuard wf) w) (run : RunID) :
    Agrees wf run w.stream := by
  refine agrees_of_reachableBy h (fun w k info hok hinfo hwf hid => ?_)
    fun w k c sn _ _ _ _ hok hc hphase hwf => ?_
  · obtain ⟨hlive, hnil, -⟩ := hok.2.1 k rfl info hinfo hwf
    exact ⟨hlive, hid ▸ hnil⟩
  · exact (hok.2.2 k rfl _ (World.ready?_eq_some hc hphase) hwf).1

theorem runInfos_ne_nil_of_step (hstep : step cfg w a = some w') {run : RunID}
    (h : runInfos wf run w.stream ≠ []) : runInfos wf run w'.stream ≠ [] := by
  have grown {infos : List RunInfo}
      (hinfos : descriptions wf w'.stream = descriptions wf w.stream ++ infos) :
      runInfos wf run w'.stream ≠ [] := by
    rw [runInfos_append run hinfos]
    exact List.append_ne_nil_of_left_ne_nil h _
  cases infoChange_of_step hstep wf with
  | same hinfos => exact grown (by rw [hinfos, List.append_nil])
  | created _ _ hinfos => exact grown hinfos
  | batch _ _ hinfos => exact grown hinfos

/-- Every directive in the stream is for a run that has been created. -/
theorem runInfos_ne_nil_of_call (h : ReachableBy cfg (OneActiveGuard wf) w) {c : Call}
    (hc : c ∈ w.calls) (hwf : c.directive.runInfo.wfID = wf) :
    runInfos wf c.directive.runInfo.id w.stream ≠ [] := by
  obtain ⟨e, he, hm, -⟩ := ((sound_of_reachableBy h).calls c hc).entry
  refine stored_of_published (P := fun w d => d.runInfo.wfID = wf →
    runInfos wf d.runInfo.id w.stream ≠ []) h ?_ (fun w d hok => hok.1 d rfl) ?_ e he _ hm hwf
  · exact fun w a w' d hstep hd hwf => runInfos_ne_nil_of_step hstep (hd hwf)
  · intro w c d _ hc _ _ hrun hwf
    rw [hrun.id]
    exact hc (hrun.wfID.symm.trans hwf)

/-- A run whose last description is terminal has a terminal state. -/
theorem Agrees.isTerminal {run : RunID} {l : Stream} (h : Agrees wf run l) {info : RunInfo}
    (hlast : (runInfos wf run l).getLast? = some info) (hterm : info.isTerminal = true) :
    ∃ s, getRunState l wf run = .ok (some s) ∧ s.isTerminal = true := by
  cases h with
  | created _ _ hlive =>
    exact absurd (hterm.symm.trans (hlive info (List.mem_of_getLast? hlast))) (by decide)
  | @started s _ hstate hlast' _ _ hstatus =>
    cases hlast.symm.trans hlast'
    rw [RunInfo.isTerminal, hstatus, RunStateKind.isTerminal_status] at hterm
    exact ⟨s, hstate, hterm⟩

/-- A batch that describes a run of the workflow is one of the latest run. -/
theorem LatestActive.run_eq (h : ReachableBy cfg (OneActiveGuard wf) w)
    (hlatest : LatestActive wf w.stream) {k : ℕ} {env failEnv : Readings} {ack : Bool}
    (hok : OneActiveGuard wf w (.finish k env failEnv ack)) {c : Call} {sn : StateSnapshot}
    {records : List Record} {l : Stream} (hc : w.calls[k]? = some c)
    (hb : Batch cfg w c sn records l) (hwf : c.directive.runInfo.wfID = wf)
    (hne : describedBy wf records ≠ []) :
    ∃ latest, (descriptions wf w.stream).getLast? = some latest ∧
      latest.id = c.directive.runInfo.id := by
  have hw := sound_of_reachableBy h
  have hknown := runInfos_ne_nil_of_call h hb.call hwf
  obtain ⟨latest, hlast⟩ := exists_getLast?_descriptions hknown
  refine ⟨latest, hlast, ?_⟩
  by_contra hid
  -- otherwise the run is described as ended, and so is its state
  obtain ⟨info, hinfo⟩ := Option.ne_none_iff_exists'.mp fun hnone =>
    hknown (List.getLast?_eq_none_iff.mp hnone)
  obtain ⟨s, hs, hterm⟩ := (agrees_of_oneActive h _).isTerminal hinfo
    (hlatest latest hlast _ (Ne.symm hid) info hinfo)
  have hadvance := hb.advance hw wf c.directive.runInfo.id
  cases hadvance with
  | other hrun => exact hrun ⟨hwf, rfl⟩
  | start _ hkind =>
    have hnone := (hok.2.2 k rfl _ (World.ready?_eq_some hc hb.phase) hwf).2 hkind (hb.live hw)
    cases hs.symm.trans hnone
  | event _ _ _ _ hrecords =>
    refine hne ?_
    rw [hrecords, describedBy]
    split_ifs <;> simp [Record.runInfo?]
  | turn _ _ hlive _ _ hold =>
    cases hs.symm.trans hold
    exact absurd (hterm.symm.trans hlive) (by decide)

/-- The step lemma. -/
theorem LatestActive.step (h : ReachableBy cfg (OneActiveGuard wf) w)
    (hlatest : LatestActive wf w.stream) (hok : OneActiveGuard wf w a)
    (hstep : step cfg w a = some w') : LatestActive wf w'.stream := by
  cases infoChange_of_step hstep wf with
  | same hinfos => simpa only [LatestActive, runInfos, hinfos] using hlatest
  | @created k info _ hinfo hwf hinfos =>
    obtain ⟨-, -, hended⟩ := hok.2.1 _ rfl info hinfo hwf
    intro latest hlast run hrun info' hinfo'
    rw [hinfos, List.getLast?_concat, Option.mem_some_iff] at hlast
    subst hlast
    rw [runInfos_append_of_ne hinfos (by simpa using Ne.symm hrun)] at hinfo'
    obtain ⟨old, hold⟩ := exists_getLast?_descriptions
      (List.ne_nil_of_mem (List.mem_of_getLast? hinfo'))
    by_cases hid : run = old.id
    · subst hid
      cases (getLast?_runInfos hold).symm.trans hinfo'
      exact hended _ hold
    · exact hlatest old hold run hid info' hinfo'
  | @batch k c sn records _ _ _ _ hc hb hinfos =>
    have hw := sound_of_reachableBy h
    have hmem {info : RunInfo} (hinfo : info ∈ describedBy wf records) :
        c.directive.runInfo.wfID = wf ∧ info.id = c.directive.runInfo.id := by
      obtain ⟨⟨n, hr⟩, hwf⟩ := mem_describedBy.mp hinfo
      obtain ⟨hwf', hid⟩ := hb.describes_run hw hr
      have hown := (hok.2.2 _ rfl _ (World.ready?_eq_some hc hb.phase) (hwf' ▸ hwf)).1
      exact ⟨hwf' ▸ hwf, hid hown⟩
    rcases List.eq_nil_or_concat (describedBy wf records) with hnil | ⟨pre, last, hconcat⟩
    · rw [hnil, List.append_nil] at hinfos
      simpa only [LatestActive, runInfos, hinfos] using hlatest
    · rw [List.concat_eq_append] at hconcat
      have hlast : last ∈ describedBy wf records := by simp [hconcat]
      obtain ⟨old, hold, hid⟩ := hlatest.run_eq h hok hc hb (hmem hlast).1
        (List.ne_nil_of_mem hlast)
      intro latest hl run hrun info hinfo
      rw [hinfos, hconcat, ← List.append_assoc, List.getLast?_concat, Option.mem_some_iff] at hl
      subst hl
      have hother : run ≠ c.directive.runInfo.id := (hmem hlast).2 ▸ hrun
      rw [runInfos_append_of_ne hinfos fun i hi => (hmem hi).2 ▸ Ne.symm hother] at hinfo
      exact hlatest old hold run (hid ▸ hother) info hinfo

end Guarded

/-- At most one active run per workflow. In any interleaving of any number of requests that create
a run and of the handling of directives, in which a run is created when the latest one has ended,
a start that commits finds its run without a state and a wake-up finds an event of its own run: in
every reachable world at most one run of the workflow has been created and has not ended. -/
theorem at_most_one_active {cfg : Manager.Config} {w : World} {wf : WFID}
    (h : ReachableBy cfg (OneActiveGuard wf) w) (run₁ run₂ : RunID)
    (h₁ : Active wf w.stream run₁) (h₂ : Active wf w.stream run₂) : run₁ = run₂ := by
  have hlatest : LatestActive wf w.stream := by
    refine Reach.invariant (P := fun w => LatestActive wf w.stream) h (fun _ h => by cases h)
      fun w a w' hr ih hok hstep => ih.step hr hok hstep
  have isLatest {run : RunID} (hrun : Active wf w.stream run) :
      ∃ latest, (descriptions wf w.stream).getLast? = some latest ∧ run = latest.id := by
    obtain ⟨info, hinfo, hlive⟩ := hrun
    obtain ⟨latest, hlast⟩ := exists_getLast?_descriptions
      (List.ne_nil_of_mem (List.mem_of_getLast? hinfo))
    refine ⟨latest, hlast, ?_⟩
    by_contra hne
    exact absurd (hlive.symm.trans (hlatest latest hlast run hne info hinfo)) (by decide)
  obtain ⟨latest, hlast, rfl⟩ := isLatest h₁
  obtain ⟨_, hlast', rfl⟩ := isLatest h₂
  cases hlast.symm.trans hlast'
  rfl

namespace Sample

/-- A second run of the workflow. -/
def run2 : RunInfo := { run with id := "r2" }

/-- A run is created, started and terminated, and then another one is created. -/
def successive : World :=
  worldBy (OneActiveGuard "wf") ([.admitRun run, .saveRun 0] ++ .publish start :: handled 2 ++
    .publish (directive "stop" .terminate (.terminate "no longer needed")) :: handled 10 ++
    [.admitRun run2, .saveRun 0])

/-- Two requests find the workflow free before either of them has created its run. -/
def racing : List Label := [.admitRun run, .admitRun run2, .saveRun 0, .saveRun 0]

end Sample

theorem at_most_one_active_successive :
    Active "wf" Sample.successive.stream "r2" ∧ ¬ Active "wf" Sample.successive.stream "r1" := by
  have hactive : Active "wf" Sample.successive.stream "r2" := by decide +kernel
  have hreach : ReachableBy Sample.config (OneActiveGuard "wf") Sample.successive :=
    Sample.reachableBy_worldBy ..
  exact ⟨hactive, fun h => absurd (at_most_one_active hreach "r1" "r2" h hactive) (by decide)⟩

/-- Both runs are active. -/
theorem two_runs_active :
    Active "wf" (Sample.world Sample.racing).stream "r1" ∧
    Active "wf" (Sample.world Sample.racing).stream "r2" := by
  decide +kernel

end Grctl
