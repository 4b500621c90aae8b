import Grctl.Run.Lineage
import Grctl.System.Described

/-!
# Descriptions of a run in circulation

A directive carries a description of its run. The service takes it from the store when it accepts a
command, workers and timers send back the one they were handed with their task, and the run manager
writes it down again, as it came or repaired. So a description that is written now may be a copy
that was made long ago, even before the run was started.

This file follows the copies of one run, under the assumption that nobody makes descriptions up.
The first result is about the start time: every copy that a worker or a timer holds has the start
time of the run state. Copies made before the start lack it, but they reach workers by way of the
inbox only, and there they are repaired.

## Main definitions

* `handedOn`: the descriptions of a run that workers and timers hold.
* `Genuine`: the description that a directive carries is a copy.
* `CarriesCopies`, `OwnEvents`, `EchoGuard`: directives carry copies, and no event of another run
  is dispatched.
* `Supplied`: where the description that a batch goes back to was found.
* `CopyChange`: what a step does to the copies of a run.
* `Timed`: the start times of the descriptions of a run.

## Main results

* `Batch.supplied`: every batch of the run goes back to a copy.
* `copyChange_of_step`, `copies_invariant`: the rule for the copies of a run.
* `timed_of_reachableBy`: the start times are those of the run state.
-/

namespace Grctl

open SubjectLog Lts

/-- The description that a record hands on to a worker or to a timer. -/
def Record.handsOn? : Record → Option RunInfo
  | .workerTask d => some d.runInfo
  | .timer t => some t.directive.runInfo
  | _ => none

theorem Record.target?_eq_none {r : Record} (h : r.carriesRunInfo = false) : r.target? = none := by
  cases r <;> first | rfl | cases h

theorem Record.target?_of_handsOn {r : Record} {ri : RunInfo} (h : r.handsOn? = some ri) :
    r.target? = some ri := by
  cases r <;> first | exact h | cases h

theorem Record.carriesRunInfo_of_handsOn {r : Record} {ri : RunInfo} (h : r.handsOn? = some ri) :
    r.carriesRunInfo = true := by
  cases r <;> first | rfl | cases h

/-- The descriptions of the run that workers and timers have been handed. -/
def handedOn (wf : WFID) (run : RunID) (journal : List Commit) : List RunInfo :=
  (journal.flatMap fun c => c.records.filterMap Record.handsOn?).filter fun ri =>
    ri.wfID = wf ∧ ri.id = run

/-- The kinds of directives that the service publishes. -/
def DirectiveKind.isCommand (k : DirectiveKind) : Bool :=
  k == .start || k == .event || k == .cancel || k == .terminate

section Guard

variable (wf : WFID) (run : RunID)

/-- The description that a directive of the run carries is a copy of a stored one, or of one that
workers and timers have been handed. That of a wake-up is never used. -/
def Genuine (w : World) (d : Directive) : Prop :=
  d.OfRun wf run →
    if d.kind.isCommand = true then d.runInfo ∈ runInfos wf run w.stream
    else d.kind = .wakeFromInbox ∨ d.runInfo ∈ handedOn wf run w.journal
  deriving Decidable

/-- Directives of the run carry copies, and the run is not created as one that has been started. -/
def CarriesCopies (w : World) (a : Label) : Prop :=
  (∀ d ∈ a.published?, Genuine wf run w d) ∧
  ∀ k ∈ a.saved?, ∀ info ∈ w.admitted[k]?, info.wfID = wf → info.id = run → info.startedAt = none
  deriving Decidable

/-- No run of the workflow dispatches an event of another one. -/
def OwnEvents (w : World) (a : Label) : Prop :=
  ∀ k ∈ a.finished?, ∀ p ∈ w.ready? k, p.1.runInfo.wfID = wf → OwnEvent p.1 p.2
  deriving Decidable

/-- The surroundings of the run do not make descriptions up, and its events stay in the run. -/
def EchoGuard (w : World) (a : Label) : Prop :=
  CarriesCopies wf run w a ∧ OwnEvents wf w a
  deriving Decidable

end Guard

/-! ### Copies are kept -/

section Copies

variable {cfg : Manager.Config} {ok : World → Label → Prop} {w w' : World} {a : Label}
  {wf : WFID} {run : RunID} {d : Directive}

theorem mem_handedOn {journal : List Commit} {ri : RunInfo} :
    ri ∈ handedOn wf run journal ↔
      (∃ c ∈ journal, ∃ r ∈ c.records, r.handsOn? = some ri) ∧ ri.wfID = wf ∧ ri.id = run := by
  simp [handedOn, List.mem_filter, List.mem_flatMap, List.mem_filterMap]

theorem handedOn_subset {journal journal' : List Commit} (h : journal ⊆ journal') :
    handedOn wf run journal ⊆ handedOn wf run journal' := by
  intro ri hri
  obtain ⟨⟨c, hc, hr⟩, hrun⟩ := mem_handedOn.mp hri
  exact mem_handedOn.mpr ⟨⟨c, h hc, hr⟩, hrun⟩

theorem handedOn_concat (wf : WFID) (run : RunID) (journal : List Commit) (c : Commit) :
    handedOn wf run (journal ++ [c]) = handedOn wf run journal ++ handedOn wf run [c] := by
  simp [handedOn]

theorem runInfos_subset_of_step (h : step cfg w a = some w') :
    runInfos wf run w.stream ⊆ runInfos wf run w'.stream := by
  have hsub : descriptions wf w.stream ⊆ descriptions wf w'.stream := by
    cases infoChange_of_step h wf with
    | same hinfos => exact hinfos ▸ List.Subset.refl _
    | created _ _ hinfos => exact hinfos ▸ List.subset_append_left ..
    | batch _ _ hinfos => exact hinfos ▸ List.subset_append_left ..
  intro ri hri
  obtain ⟨hmem, hid⟩ := List.mem_filter.mp hri
  exact List.mem_filter.mpr ⟨hsub hmem, hid⟩

theorem Genuine.mono (h : Genuine wf run w d) (hstep : step cfg w a = some w') :
    Genuine wf run w' d := by
  intro hrun
  have hd := h hrun
  split_ifs at hd ⊢
  · exact runInfos_subset_of_step hstep hd
  · have hsub := (effect_of_step hstep).change.journal_sublist.subset
    exact hd.imp_right fun hri => handedOn_subset hsub hri

theorem genuine_of_call (h : ReachableBy cfg (EchoGuard wf run) w) {c : Call} (hc : c ∈ w.calls) :
    Genuine wf run w c.directive := by
  obtain ⟨e, he, hm, -⟩ := ((sound_of_reachableBy h).calls c hc).entry
  refine stored_of_published (P := Genuine wf run) h (fun _ _ _ _ hstep hd => hd.mono hstep)
    (fun _ d hok => hok.1.1 d rfl) (fun w c d _ _ hkind _ _ hrun => ?_) e he _ hm
  rw [hkind, if_neg (by decide)]
  exact .inl rfl

theorem genuine_of_journal (h : ReachableBy cfg (EchoGuard wf run) w) :
    ∀ c ∈ w.journal, Genuine wf run w c.directive := by
  refine Reach.invariant (P := fun w => ∀ c ∈ w.journal, Genuine wf run w c.directive) h
    (fun c hc => by cases hc) fun w a w' hr ih _ hstep c hc => ?_
  have hchange := (effect_of_step hstep).change
  generalize hl : w'.stream = l', hj : w'.journal = j' at hchange
  cases hchange with
  | commit hb =>
    rcases List.mem_append.mp (hj ▸ hc) with hc | hc
    · exact (ih c hc).mono hstep
    · rw [List.mem_singleton.mp hc]
      exact (genuine_of_call hr hb.call).mono hstep
  | _ => exact (ih c (hj ▸ hc)).mono hstep

end Copies

/-! ### Events and parked cancels -/

section Journal

variable {cfg : Manager.Config} {ok : World → Label → Prop} {w : World} {c : Call}
  {sn : StateSnapshot} {records : List Record} {l : Stream} {wf : WFID} {run : RunID}

/-- The event of a snapshot describes its run as a committed event directive does. -/
theorem Batch.event_of_journal (h : ReachableBy cfg ok w) (hb : Batch cfg w c sn records l)
    (hevent : sn.event.IsEvent) :
    ∃ c' ∈ w.journal, c'.directive.kind = .event ∧ c'.directive.runInfo = sn.event.runInfo := by
  obtain ⟨e, he, hsubject, hread, -⟩ := hb.firstEvent (sound_of_reachableBy h) rfl hevent
  obtain ⟨d₀, ev, hdata, -, hsn⟩ := readInboxEntry_eq_ok hread
  have hinbox : ∀ c' ∈ w.journal, ∀ m ∈ c'.records.flatMap Record.messages, ∀ wf,
      m.subject = .inbox wf → c'.directive.kind = .event ∧ m.data = .directive c'.directive :=
    forall_mem_journal h fun w c sn records l hr hb m hm wf hs => by
      obtain ⟨hkind, -, hdata⟩ := hb.inbox_message (sound_of_reachableBy hr) hm hs
      exact ⟨hkind, hdata⟩
  rcases mem_journal_of_mem_messages h _ (List.mem_map_of_mem he) with hout | ⟨c', hc', hm⟩
  · generalize e.toMessage = m at hout hsubject
    cases hout <;> cases hsubject
  · obtain ⟨hkind, hdirective⟩ := hinbox c' hc' _ hm _ hsubject
    cases hdata.symm.trans hdirective
    exact ⟨c', hc', hkind, by rw [hsn]⟩

/-- A parked cancel is the directive of a committed batch. -/
theorem cancel_of_journal (h : ReachableBy cfg ok w) {s : RunState} {cancel : Directive}
    (hs : getRunState w.stream wf run = .ok (some s)) (hcancel : s.pendingCancel = some cancel) :
    ∃ c ∈ w.journal, c.directive = cancel := by
  have hinv : ∀ s cancel, getRunState w.stream wf run = .ok (some s) →
      s.pendingCancel = some cancel → ∃ c ∈ w.journal, c.directive = cancel := by
    refine runState_invariant (Q := fun state journal => ∀ s cancel, state = .ok (some s) →
      s.pendingCancel = some cancel → ∃ c ∈ journal, c.directive = cancel) h
      (fun s cancel hs => by cases hs) fun w k c sn records l _ _ _ hr ih _ _ hb => ?_
    intro s cancel hs hcancel
    have kept {s₀ : RunState} (hs₀ : getRunState w.stream wf run = .ok (some s₀))
        (hcancel₀ : s₀.pendingCancel = some cancel) :
        ∃ c' ∈ w.journal ++ [w.commitOf c sn records], c'.directive = cancel := by
      obtain ⟨c', hc', hd⟩ := ih s₀ cancel hs₀ hcancel₀
      exact ⟨c', List.mem_append_left _ hc', hd⟩
    cases hb.advance (sound_of_reachableBy hr) wf run with
    | other _ hsame => exact kept (hsame ▸ hs) hcancel
    | event _ _ _ _ _ hsame => exact kept (hsame ▸ hs) hcancel
    | start _ _ hstart _ hnew =>
      cases hnew.symm.trans hs
      exact absurd (hstart.pendingCancel.symm.trans hcancel) (by simp)
    | turn _ _ _ hturn _ hold hnew =>
      cases hnew.symm.trans hs
      rcases hturn.transition.pendingCancel with hkept | ⟨-, hnew'⟩
      · exact kept hold (hkept ▸ hcancel)
      · cases hnew'.symm.trans hcancel
        exact ⟨_, List.mem_append_right _ (List.mem_singleton_self _), rfl⟩
  exact hinv s cancel hs hcancel

end Journal

/-! ### The sources of a batch -/

/-- Where the description that the batch of a directive goes back to was found: with the event that
a wake-up dispatches or with a command, which have it from the store, or with a worker or a
timer. -/
inductive Supplied (wf : WFID) (run : RunID) (w : World) (d : Directive) (sn : StateSnapshot) :
    DirectiveKind → RunInfo → Prop
  | event (hd : d.kind = .wakeFromInbox) (hevent : sn.event.IsEvent)
      (hsrc : sn.event.runInfo ∈ runInfos wf run w.stream) :
      Supplied wf run w d sn .event sn.event.runInfo
  | terminate (hd : d.kind = .terminate) (hsrc : d.runInfo ∈ runInfos wf run w.stream) :
      Supplied wf run w d sn .terminate d.runInfo
  | command {kind : DirectiveKind} {src : RunInfo} (hkind : kind = .cancel ∨ kind = .fail)
      (hsrc : src ∈ runInfos wf run w.stream) : Supplied wf run w d sn kind src
  | echoed {kind : DirectiveKind} {ri : RunInfo} {n : ℕ} (hri : ri ∈ handedOn wf run w.journal) :
      Supplied wf run w d sn kind { ri with historySeqID := n }

section Batch

variable {cfg : Manager.Config} {w : World} {c : Call} {sn : StateSnapshot}
  {records : List Record} {l : Stream} {wf : WFID} {run : RunID}

theorem supplied_of_handedOn {d : Directive} {kind : DirectiveKind} {ri : RunInfo}
    (h : ri ∈ handedOn wf run w.journal) : Supplied wf run w d sn kind ri :=
  .echoed (n := ri.historySeqID) h

/-- Every batch of the run goes back to a copy. -/
theorem Batch.supplied (h : ReachableBy cfg (EchoGuard wf run) w) (hb : Batch cfg w c sn records l)
    (hrun : c.directive.OfRun wf run) (hown : OwnEvent c.directive sn)
    (hstart : c.directive.kind ≠ .start) :
    (∀ r ∈ records, r.carriesRunInfo = false) ∨
      ∃ kind src, Supplied wf run w c.directive sn kind src ∧
        AllStem kind src sn.runState records := by
  have hw := sound_of_reachableBy h
  have hd := genuine_of_call h hb.call hrun
  obtain ⟨env, failEnv, hrec⟩ := hb.planned
  refine (traced_of_handleRecords (hw.calls c hb.call).decoded (hw.eventSound hb.call hb.phase)
    hstart hrec).imp_right ?_
  rintro ⟨kind, src, hsrc, hstems⟩
  refine ⟨kind, src, ?_, hstems⟩
  have echo (hkind : c.directive.kind = .stepResult) :
      c.directive.runInfo ∈ handedOn wf run w.journal := by
    rw [hkind, if_neg (by decide)] at hd
    exact hd.resolve_left (by decide)
  cases hsrc with
  | direct hkind =>
    split_ifs at hd with hcommand
    · have hcommand' : c.directive.kind = .cancel ∨ c.directive.kind = .terminate := by
        simpa [DirectiveKind.isCommand, hkind] using hcommand
      rcases hcommand' with hcancel | hterminate
      · exact .command (.inl hcancel) hd
      · exact hterminate ▸ .terminate hterminate hd
    · exact supplied_of_handedOn (hd.resolve_left hkind.2.2.2)
  | next hkind => exact .echoed (echo hkind)
  | nextFailure hkind => exact .echoed (echo hkind)
  | @parked cancel hkind hcancel =>
    cases hb.advance hw wf run with
    | other hrun' => exact absurd hrun hrun'
    | start _ hkind' => exact absurd hkind' hstart
    | event _ hkind' => exact absurd (hkind.symm.trans hkind') (by decide)
    | turn _ _ _ _ _ hold =>
      obtain ⟨c', hc', rfl⟩ := cancel_of_journal h hold hcancel
      obtain ⟨hof, -⟩ := hw.stateOf (storedState_of_getRunState hold)
      obtain ⟨-, hkind', hrun'⟩ := hof.cancel _ hcancel
      have hgenuine := genuine_of_journal h c' hc' hrun'
      rw [hkind', if_pos (by decide)] at hgenuine
      exact .command (.inl rfl) hgenuine
  | inbox hkind _ hevent =>
    obtain ⟨c', hc', hkind', hri⟩ := hb.event_of_journal h hevent
    have hrun' : c'.directive.OfRun wf run := by
      rw [Directive.OfRun, hri]
      exact ⟨(hb.event_wfID hw hevent).trans hrun.1, (hown hkind hevent.1).trans hrun.2⟩
    have hgenuine := genuine_of_journal h c' hc' hrun'
    rw [hkind', if_pos (by decide), hri] at hgenuine
    exact .event hkind hevent hgenuine
  | failure hkind =>
    split_ifs at hd
    · exact .command (.inr rfl) hd
    · exact supplied_of_handedOn (hd.resolve_left hkind)

/-- What a batch adds to the copies that workers and timers of the run hold. -/
theorem mem_handedOn_commitOf {ri : RunInfo}
    (h : ri ∈ handedOn wf run [w.commitOf c sn records]) :
    ∃ r ∈ records, r.handsOn? = some ri ∧ r.target? = some ri ∧ ri.wfID = wf ∧ ri.id = run := by
  obtain ⟨⟨c', hc', r, hr, hri⟩, hrun⟩ := mem_handedOn.mp h
  cases List.mem_singleton.mp hc'
  exact ⟨r, hr, hri, Record.target?_of_handsOn hri, hrun⟩

/-- A batch is about a run that it handles a directive of, as long as no event of another run is
dispatched. -/
theorem Batch.ofRun_of_target (hw : Sound w) (hb : Batch cfg w c sn records l)
    (hown : c.directive.runInfo.wfID = wf → OwnEvent c.directive sn) {r : Record} (hr : r ∈ records)
    {ri : RunInfo} (ht : r.target? = some ri) (hwf : ri.wfID = wf) (hid : ri.id = run) :
    c.directive.OfRun wf run := by
  obtain ⟨hwf', hid'⟩ := hb.target_run hw hr ht
  have hwf₀ : c.directive.runInfo.wfID = wf := hwf'.symm.trans hwf
  exact ⟨hwf₀, (hid' (hown hwf₀)).symm.trans hid⟩

/-- The batch of another run, or of an event, adds no copy. -/
theorem Batch.copies_of_other (hw : Sound w) (hb : Batch cfg w c sn records l)
    (hown : c.directive.runInfo.wfID = wf → OwnEvent c.directive sn)
    (hother : c.directive.OfRun wf run → ∀ r ∈ records, r.target? = none) :
    (describedBy wf records).filter (fun info => info.id = run) = [] ∧
      handedOn wf run [w.commitOf c sn records] = [] := by
  have none {r : Record} (hr : r ∈ records) {ri : RunInfo} (ht : r.target? = some ri)
      (hwf : ri.wfID = wf) (hid : ri.id = run) : False := by
    have hnone := hother (hb.ofRun_of_target hw hown hr ht hwf hid) r hr
    simp [ht] at hnone
  constructor
  · refine List.filter_eq_nil_iff.mpr fun info hinfo hid => ?_
    obtain ⟨⟨n, hmem⟩, hwf⟩ := mem_describedBy.mp hinfo
    exact none hmem rfl hwf (of_decide_eq_true hid)
  · refine List.eq_nil_iff_forall_not_mem.mpr fun ri hri => ?_
    obtain ⟨r, hr, -, ht, hwf, hid⟩ := mem_handedOn_commitOf hri
    exact none hr ht hwf hid

end Batch

/-! ### The rule for copies -/

/-- The copies that a batch adds, in the store and with workers and timers, go back to `src`. -/
structure Copied (kind : DirectiveKind) (src : RunInfo) (cur : RunState)
    (infos handed : List RunInfo) : Prop where
  infos : ∀ ri ∈ infos, ∃ n, (Record.runInfo ri n).Stems kind src cur
  handed : ∀ ri ∈ handed, ∃ r, r.handsOn? = some ri ∧ Record.Stems kind src cur r

theorem copied_of_allStem {w : World} {c : Call} {sn : StateSnapshot} {records : List Record}
    {wf : WFID} {run : RunID} {kind : DirectiveKind} {src : RunInfo} {cur : RunState}
    (h : AllStem kind src cur records) :
    Copied kind src cur ((describedBy wf records).filter fun info => info.id = run)
      (handedOn wf run [w.commitOf c sn records]) where
  infos ri hri := by
    obtain ⟨⟨n, hmem⟩, -⟩ := mem_describedBy.mp (List.mem_of_mem_filter hri)
    exact ⟨n, h _ hmem⟩
  handed ri hri := by
    obtain ⟨r, hr, hhands, -⟩ := mem_handedOn_commitOf hri
    exact ⟨r, hhands, h r hr⟩

theorem Transition.startedAt {d : Directive} {sn : StateSnapshot} {s : RunState}
    {body : List Record} (h : Transition d sn s body) : s.startedAt = sn.runState.startedAt := by
  cases h with
  | finish h => cases h; rfl
  | dispatch h => cases h; rfl
  | suspend h => cases h; rfl
  | pickUp => rfl
  | park => rfl

section Rule

variable {cfg : Manager.Config} {ok : World → Label → Prop} {w : World} {c : Call}
  {sn : StateSnapshot} {records : List Record} {l : Stream} {wf : WFID} {run : RunID}

/-- What a batch of the run adds to the copies. -/
theorem Batch.copied (h : ReachableBy cfg (EchoGuard wf run) w) (hb : Batch cfg w c sn records l)
    (hrun : c.directive.OfRun wf run) (hown : OwnEvent c.directive sn)
    (hstart : c.directive.kind ≠ .start) :
    (describedBy wf records).filter (fun info => info.id = run) = [] ∧
        handedOn wf run [w.commitOf c sn records] = [] ∨
      ∃ kind src, Supplied wf run w c.directive sn kind src ∧
        Copied kind src sn.runState ((describedBy wf records).filter fun info => info.id = run)
          (handedOn wf run [w.commitOf c sn records]) := by
  rcases hb.supplied h hrun hown hstart with hnone | ⟨kind, src, hsupplied, hstems⟩
  · refine .inl (hb.copies_of_other (sound_of_reachableBy h) (fun _ => hown) fun _ r hr => ?_)
    exact Record.target?_eq_none (hnone r hr)
  · exact .inr ⟨kind, src, hsupplied, copied_of_allStem hstems⟩

/-- The batch of a start goes back to the description of a run that has just been started. -/
theorem Batch.stems_of_start (hw : Sound w) (hb : Batch cfg w c sn records l)
    {env failEnv : Readings}
    (hrec : handleRecords cfg.defaults env failEnv c.directive sn = .ok records)
    (hkind : c.directive.kind = .start) :
    ∃ ri, c.directive.runInfo.start env.now = .ok ri ∧
      AllStem .start ri (startState env.now c.directive) records ∧
      ∀ s n, Record.runState s n ∈ records → s.startedAt = some env.now := by
  have hdec := (hw.calls c hb.call).decoded
  obtain ⟨records', hplan⟩ : ∃ records, plan cfg.defaults env c.directive sn = .ok records :=
    exists_plan_of_kind hdec (hw.eventSound hb.call hb.phase) (.inl hkind)
  rw [handleRecords, hplan] at hrec
  cases hrec
  exact Grctl.stems_of_start hdec hkind (hb.live hw) hplan

/-- What a step does to the copies of the run: the descriptions that it adds in the store and with
workers and timers, and the run state after it. -/
inductive CopyChange (wf : WFID) (run : RunID) (w : World) :
    Label → List RunInfo → List RunInfo → Outcome (Option RunState) → Prop
  | same {a : Label} : CopyChange wf run w a [] [] (getRunState w.stream wf run)
  | created {k : ℕ} {info : RunInfo} (hinfo : w.admitted[k]? = some info) (hwf : info.wfID = wf)
      (hid : info.id = run) :
      CopyChange wf run w (.saveRun k) [info] [] (getRunState w.stream wf run)
  | begun {k : ℕ} {d : Directive} {sn : StateSnapshot} {env failEnv : Readings} {ack : Bool}
      {infos handed : List RunInfo} {s : RunState} {ri : RunInfo}
      (hready : w.ready? k = some (d, sn)) (hd : d.runInfo ∈ runInfos wf run w.stream)
      (hri : d.runInfo.start env.now = .ok ri)
      (hcopied : Copied .start ri (startState env.now d) infos handed)
      (hs : s.startedAt = some env.now) (hold : getRunState w.stream wf run = .ok none) :
      CopyChange wf run w (.finish k env failEnv ack) infos handed (.ok (some s))
  | turned {k : ℕ} {d : Directive} {sn : StateSnapshot} {env failEnv : Readings} {ack : Bool}
      {infos handed : List RunInfo} {s : RunState} (hready : w.ready? k = some (d, sn))
      (hrun : d.OfRun wf run) (hcopied : infos = [] ∧ handed = [] ∨ ∃ kind src,
        Supplied wf run w d sn kind src ∧ Copied kind src sn.runState infos handed)
      (hs : s.startedAt = sn.runState.startedAt)
      (hold : getRunState w.stream wf run = .ok (some sn.runState)) :
      CopyChange wf run w (.finish k env failEnv ack) infos handed (.ok (some s))

/-- What a batch does to the copies of a run that is started once. -/
theorem Batch.copyChange (h : ReachableBy cfg (EchoGuard wf run) w) {k : ℕ}
    {env failEnv : Readings} {ack : Bool} (hok : OwnEvents wf w (.finish k env failEnv ack))
    (hc : w.calls[k]? = some c) (hb : Batch cfg w c sn records l)
    (hrec : handleRecords cfg.defaults env failEnv c.directive sn = .ok records)
    (hcount : (w.journal ++ [w.commitOf c sn records]).countP (Commit.starts wf run) ≤ 1) :
    CopyChange wf run w (.finish k env failEnv ack)
      ((describedBy wf records).filter fun info => info.id = run)
      (handedOn wf run [w.commitOf c sn records]) (getRunState l wf run) := by
  have hw := sound_of_reachableBy h
  have hready := World.ready?_eq_some hc hb.phase
  have hown := hok k rfl _ hready
  cases hb.advance hw wf run with
  | other hrun hsame =>
    obtain ⟨hinfos, hhanded⟩ := hb.copies_of_other hw hown fun hrun' => absurd hrun' hrun
    rw [hinfos, hhanded, hsame]
    exact .same
  | event _ _ _ _ hrecords hsame =>
    have hnone : ∀ r ∈ records, r.target? = none := by
      rw [hrecords]
      split_ifs <;> simp [Record.target?]
    obtain ⟨hinfos, hhanded⟩ := hb.copies_of_other hw hown fun _ => hnone
    rw [hinfos, hhanded, hsame]
    exact .same
  | start hrun hkind _ hbegun hstate =>
    have hd := genuine_of_call h hb.call hrun
    rw [hkind, if_pos (by decide)] at hd
    obtain ⟨ri, hri, hstems, hstates⟩ := hb.stems_of_start hw hrec hkind
    obtain ⟨states, n, hlast⟩ := hbegun.states
    obtain ⟨r, hr, hs⟩ := List.mem_filterMap.mp
      (hlast ▸ List.mem_append_right states (List.mem_singleton_self _))
    obtain rfl := Record.runState?_eq_some.mp hs
    have hs' := hstates _ _ hr
    rw [hstate]
    exact .begun hready hd hri (copied_of_allStem hstems) hs'
      (getRunState_of_starts h (decide_eq_true ⟨hkind, hrun⟩) hcount)
  | turn hrun hkind _ hturn _ hold hstate =>
    rw [hstate]
    exact .turned hready hrun (hb.copied h hrun (hown hrun.1) hkind.1)
      hturn.transition.startedAt hold

/-- Every step changes the copies of a run that is started once in one of these ways. -/
theorem copyChange_of_step {w' : World} {a : Label} (h : ReachableBy cfg (EchoGuard wf run) w)
    (hok : EchoGuard wf run w a) (hstep : step cfg w a = some w')
    (hcount : w'.journal.countP (Commit.starts wf run) ≤ 1) :
    ∃ infos handed, CopyChange wf run w a infos handed (getRunState w'.stream wf run) ∧
      runInfos wf run w'.stream = runInfos wf run w.stream ++ infos ∧
      handedOn wf run w'.journal = handedOn wf run w.journal ++ handed := by
  have same {l : Stream} (hinfos : descriptions wf l = descriptions wf w.stream)
      (hstates : ∀ run, getRunState l wf run = getRunState w.stream wf run) :
      ∃ infos handed, CopyChange wf run w a infos handed (getRunState l wf run) ∧
        runInfos wf run l = runInfos wf run w.stream ++ infos ∧
        handedOn wf run w.journal = handedOn wf run w.journal ++ handed :=
    ⟨[], [], hstates run ▸ .same, by simp [runInfos, hinfos], by simp⟩
  have heffect := effect_of_step hstep
  cases heffect with
  | @commit k c sn env failEnv ack records l hc hb =>
    have hrec := handleRecords_of_finish hstep hc hb.phase rfl
    have hinfos : descriptions wf l = descriptions wf w.stream ++ describedBy wf records := by
      rw [eq_appendAll_of_commit hb.commit, descriptions_appendAll, filterMap_description?_messages]
    exact ⟨_, _, hb.copyChange h hok.2 hc hrec hcount, runInfos_append run hinfos,
      handedOn_concat ..⟩
  | saveRun hinfo htaken =>
    have hchange : InfoChange cfg w wf _ _ := infoChange_of_saveRun hinfo htaken wf
    cases hchange with
    | same hinfos hstates => exact same hinfos hstates
    | @created _ info _ hinfo hwf hinfos hstates =>
      refine ⟨_, [], ?_, runInfos_append run hinfos, (List.append_nil _).symm⟩
      rw [hstates]
      by_cases hid : info.id = run
      · simpa [hid] using .created hinfo hwf hid
      · simpa [hid] using .same
  | publish | recordHistory | cancelTimer | purgeNext | fire =>
    cases infoChange_of_step hstep wf with
    | same hinfos hstates => exact same hinfos hstates
  | _ => exact same rfl fun _ => rfl

variable {Q : List RunInfo → List RunInfo → Outcome (Option RunState) → Prop}

/-- The rule for the copies of a run that is started once. What holds before the run is created is
kept when it is created and when it is started, and by every batch that goes back to a copy, holds
of the stored descriptions, those that workers and timers hold, and the run state. -/
theorem copies_invariant (h : ReachableBy cfg ok w) (hecho : ∀ w a, ok w a → EchoGuard wf run w a)
    (hstart : w.journal.countP (Commit.starts wf run) ≤ 1) (hinit : Q [] [] (.ok none))
    (hcreate : ∀ w k info, ok w (.saveRun k) → w.admitted[k]? = some info → info.wfID = wf →
      info.id = run →
      Q (runInfos wf run w.stream) (handedOn wf run w.journal) (getRunState w.stream wf run) →
      Q (runInfos wf run w.stream ++ [info]) (handedOn wf run w.journal)
        (getRunState w.stream wf run))
    (hbegin : ∀ w k d sn env failEnv ack infos handed s ri, ok w (.finish k env failEnv ack) →
      w.ready? k = some (d, sn) → d.runInfo ∈ runInfos wf run w.stream →
      d.runInfo.start env.now = .ok ri → Copied .start ri (startState env.now d) infos handed →
      s.startedAt = some env.now →
      Q (runInfos wf run w.stream) (handedOn wf run w.journal) (.ok none) →
      Q (runInfos wf run w.stream ++ infos) (handedOn wf run w.journal ++ handed) (.ok (some s)))
    (hturn : ∀ w k d sn env failEnv ack infos handed s, ok w (.finish k env failEnv ack) →
      w.ready? k = some (d, sn) → d.OfRun wf run → (infos = [] ∧ handed = [] ∨ ∃ kind src,
        Supplied wf run w d sn kind src ∧ Copied kind src sn.runState infos handed) →
      s.startedAt = sn.runState.startedAt →
      Q (runInfos wf run w.stream) (handedOn wf run w.journal) (.ok (some sn.runState)) →
      Q (runInfos wf run w.stream ++ infos) (handedOn wf run w.journal ++ handed) (.ok (some s))) :
    Q (runInfos wf run w.stream) (handedOn wf run w.journal) (getRunState w.stream wf run) := by
  refine Reach.invariant (P := fun w : World => w.journal.countP (Commit.starts wf run) ≤ 1 →
    Q (runInfos wf run w.stream) (handedOn wf run w.journal) (getRunState w.stream wf run)) h
    (fun _ => hinit) (fun w a w' hr ih hok hstep hcount => ?_) hstart
  have ih := ih ((effect_of_step hstep).change.journal_sublist.countP_le.trans hcount)
  obtain ⟨infos, handed, hchange, hinfos, hhanded⟩ :=
    copyChange_of_step (hr.mono hecho) (hecho _ _ hok) hstep hcount
  rw [hinfos, hhanded]
  generalize getRunState w'.stream wf run = state at hchange ⊢
  cases hchange with
  | same => simpa using ih
  | created hinfo hwf hid => simpa using hcreate w _ _ hok hinfo hwf hid ih
  | begun hready hd hri hcopied hs hold =>
    exact hbegin w _ _ _ _ _ _ _ _ _ _ hok hready hd hri hcopied hs (hold ▸ ih)
  | turned hready hrun hcopied hs hold =>
    exact hturn w _ _ _ _ _ _ _ _ _ hok hready hrun hcopied hs (hold ▸ ih)

end Rule

/-! ### Start times -/

/-- The start times of the descriptions of a run, those in the store and those that workers and
timers hold: the start time of the run state, or none on a description in the store. -/
inductive Timed (infos handed : List RunInfo) : Outcome (Option RunState) → Prop
  | created (hinfos : ∀ ri ∈ infos, ri.startedAt = none) (hhanded : handed = []) :
      Timed infos handed (.ok none)
  | started {s : RunState} {t : Time} (hs : s.startedAt = some t)
      (hinfos : ∀ ri ∈ infos, ri.startedAt = none ∨ ri.startedAt = some t)
      (hhanded : ∀ ri ∈ handed, ri.startedAt = some t) : Timed infos handed (.ok (some s))

namespace RunInfo

theorem repaired_startedAt (ri : RunInfo) (cur : RunState) :
    (ri.repaired cur).startedAt = (ri.startedAt <|> cur.startedAt) := rfl

theorem dispatched_startedAt (ri : RunInfo) (cur : RunState) (t : Time) :
    (ri.dispatched cur t).startedAt = (ri.startedAt <|> cur.startedAt) := by
  simp [dispatched, repaired_startedAt]

end RunInfo

section Stems

variable {kind : DirectiveKind} {src ri : RunInfo} {cur : RunState} {r : Record} {t : Time}

theorem orElse_startedAt (hsrc : src.startedAt = none ∨ src.startedAt = some t)
    (hcur : cur.startedAt = some t) : (src.startedAt <|> cur.startedAt) = some t := by
  rcases hsrc with hsrc | hsrc <;> simp [hsrc, hcur]

/-- A copy that is handed on has the start time of the state; for a wait it must have had it
before. -/
theorem Record.Stems.startedAt_of_handsOn (h : r.Stems kind src cur) (hri : r.handsOn? = some ri)
    (hsrc : src.startedAt = none ∨ src.startedAt = some t) (hcur : cur.startedAt = some t)
    (hwait : kind = .wait → src.startedAt = some t) : ri.startedAt = some t := by
  cases h with
  | task _ htask =>
    cases hri
    rw [htask, RunInfo.dispatched_startedAt, orElse_startedAt hsrc hcur]
  | stepTimer _ htimer =>
    cases hri
    rw [htimer, RunInfo.repaired_startedAt, orElse_startedAt hsrc hcur]
  | waitTimer hkind htimer =>
    cases hri
    rw [htimer, hwait hkind]
  | other hr => exact absurd (hr.symm.trans (carriesRunInfo_of_handsOn hri)) (by decide)
  | _ => cases hri

/-- A description that is written down has the start time of the state, or none. -/
theorem Record.Stems.startedAt_of_runInfo {n : ℕ} (h : (Record.runInfo ri n).Stems kind src cur)
    (hsrc : src.startedAt = none ∨ src.startedAt = some t) (hcur : cur.startedAt = some t) :
    ri.startedAt = none ∨ ri.startedAt = some t := by
  cases h with
  | dispatched =>
    rw [RunInfo.dispatched_startedAt, orElse_startedAt hsrc hcur]
    exact .inr rfl
  | waiting => exact hsrc
  | ended => exact hsrc
  | other hr => cases hr

end Stems

section Timed

variable {cfg : Manager.Config} {w : World} {c : Call} {sn : StateSnapshot}
  {records : List Record} {l : Stream} {wf : WFID} {run : RunID}

theorem Timed.supplied {t : Time} {s : RunState}
    (h : Timed (runInfos wf run w.stream) (handedOn wf run w.journal) (.ok (some s)))
    (hs : s.startedAt = some t) {d : Directive} {kind : DirectiveKind} {src : RunInfo}
    (hsrc : Supplied wf run w d sn kind src) :
    (src.startedAt = none ∨ src.startedAt = some t) ∧
      (kind = .wait → src.startedAt = some t) := by
  cases h with
  | started hs' hinfos hhanded =>
    cases hs'.symm.trans hs
    cases hsrc with
    | event _ _ hmem => exact ⟨hinfos _ hmem, fun hkind => by cases hkind⟩
    | terminate _ hmem => exact ⟨hinfos _ hmem, fun hkind => by cases hkind⟩
    | command hkind hmem => exact ⟨hinfos _ hmem, by rcases hkind with h | h <;> simp [h]⟩
    | echoed hri =>
      have ht := hhanded _ hri
      exact ⟨.inr ht, fun _ => ht⟩

theorem Timed.append {t : Time} {s : RunState} {kind : DirectiveKind} {src : RunInfo}
    {infos handed infos' handed' : List RunInfo} {cur : RunState}
    (hinfos : ∀ ri ∈ infos, ri.startedAt = none ∨ ri.startedAt = some t)
    (hhanded : ∀ ri ∈ handed, ri.startedAt = some t) (hs : s.startedAt = some t)
    (hcur : cur.startedAt = some t) (hsrc : src.startedAt = none ∨ src.startedAt = some t)
    (hwait : kind = .wait → src.startedAt = some t) (h : Copied kind src cur infos' handed') :
    Timed (infos ++ infos') (handed ++ handed') (.ok (some s)) := by
  refine .started hs (List.forall_mem_append.mpr ⟨hinfos, fun ri hri => ?_⟩)
    (List.forall_mem_append.mpr ⟨hhanded, fun ri hri => ?_⟩)
  · obtain ⟨n, hstem⟩ := h.infos ri hri
    exact hstem.startedAt_of_runInfo hsrc hcur
  · obtain ⟨r, hr, hstem⟩ := h.handed ri hri
    exact hstem.startedAt_of_handsOn hr hsrc hcur hwait

/-- The start times of the copies of a run are those of its state. -/
theorem timed_of_reachableBy (h : ReachableBy cfg (EchoGuard wf run) w)
    (hstart : w.journal.countP (Commit.starts wf run) ≤ 1) :
    Timed (runInfos wf run w.stream) (handedOn wf run w.journal) (getRunState w.stream wf run) := by
  refine copies_invariant h (fun _ _ hok => hok) hstart (.created (by simp) rfl) ?_ ?_ ?_
  · intro w k info hok hinfo hwf hid ih
    have hnone : info.startedAt = none := hok.1.2 k rfl info hinfo hwf hid
    generalize getRunState w.stream wf run = state at ih ⊢
    cases ih with
    | created hinfos hhanded =>
      exact .created (List.forall_mem_append.mpr ⟨hinfos, by simpa using hnone⟩) hhanded
    | started hs hinfos hhanded =>
      exact .started hs (List.forall_mem_append.mpr ⟨hinfos, by simpa using .inl hnone⟩) hhanded
  · intro w k d sn env failEnv ack infos handed s ri _ _ _ hri hcopied hs ih
    obtain ⟨-, hstarted, -⟩ := RunInfo.sameRun_of_start hri
    cases ih with
    | created hinfos hhanded =>
      exact Timed.append (fun ri hri => .inl (hinfos ri hri)) (by simp [hhanded]) hs rfl
        (.inr hstarted) (fun _ => hstarted) hcopied
  · intro w k d sn env failEnv ack infos handed s _ _ _ hcopied hs ih
    have hsupplied := ih
    cases ih with
    | started ht hinfos hhanded =>
      rcases hcopied with ⟨rfl, rfl⟩ | ⟨kind, src, hsrc, hcopied⟩
      · simpa using .started (hs.trans ht) hinfos hhanded
      · obtain ⟨hsrc', hwait⟩ := hsupplied.supplied ht hsrc
        exact Timed.append hinfos hhanded (hs.trans ht) ht hsrc' hwait hcopied

end Timed

end Grctl
