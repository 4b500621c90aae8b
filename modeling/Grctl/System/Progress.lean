import Grctl.System.Serial

/-!
# What a batch does to a run

For the results about single runs, this file says once what a committed batch does to the current
state of a given run: nothing, a start, the arrival of an event, or a transition from that state.

It also collects what several of those results assume about the surroundings. A workflow has one
run when every directive that is published for it names that run; and only calls of the run
manager matter when no background task is delivered.

## Main definitions

* `Advance`: the effect of a batch on the current state of a run, with what its records say.
* `Label.ForOneRun`, `Label.Handling`, `OneRun`.

## Main results

* `Batch.advance`: every committed batch is one of the cases.
* `oneRun_of_reachableBy`, `inbox_live_of_reachableBy`.
-/

namespace Grctl

open SubjectLog Lts

/-- The effect of a batch on the current state of the run `run` of `wf`, with what its records
say. -/
inductive Advance (c : Call) (sn : StateSnapshot) (records : List Record) (l l' : Stream)
    (wf : WFID) (run : RunID) : Prop
  | other (hrun : ¬ c.directive.OfRun wf run) (hsame : getRunState l' wf run = getRunState l wf run)
  | start {s : RunState} {k : ℕ} (hrun : c.directive.OfRun wf run)
      (hkind : c.directive.kind = .start) (hs : StartStateOf c.directive s)
      (h : Begun c.directive records s)
      (hnew : getRunState l' wf run = .ok (some { s with seqID := k }))
  | event {h : HistoryEvent} {wake : Directive} (hrun : c.directive.OfRun wf run)
      (hkind : c.directive.kind = .event) (hh : History.About c.directive .eventReceived h)
      (hwake : wake.IsWakeFor c.directive)
      (hrecords : records = [.inbox c.directive, .history h] ++
        if sn.runState.kind = .wait ∧ sn.event.id = "" then [.directive wake] else [])
      (hsame : getRunState l' wf run = getRunState l wf run)
  | turn {s : RunState} {k : ℕ} {notes body : List Record} (hrun : c.directive.OfRun wf run)
      (hkind : c.directive.kind ≠ .start ∧ c.directive.kind ≠ .event)
      (hlive : sn.runState.isTerminal = false) (h : Turn c.directive sn s notes body)
      (hrecords : records = notes ++ body)
      (hold : getRunState l wf run = .ok (some sn.runState))
      (hnew : getRunState l' wf run = .ok (some { s with seqID := k }))

section Batch

variable {cfg : Manager.Config} {w : World} {c : Call} {sn : StateSnapshot}
  {records : List Record} {l : Stream} {wf : WFID} {run : RunID}

theorem Batch.begun (hw : Sound w) (hb : Batch cfg w c sn records l)
    (hkind : c.directive.kind = .start) : ∃ s, Begun c.directive records s := by
  obtain ⟨env, failEnv, hrec⟩ := hb.planned
  rcases begun_of_handleRecords (hw.calls c hb.call).decoded (hw.eventSound hb.call hb.phase) hkind
    hrec with hnil | ⟨-, hbegun⟩
  · exact absurd hnil (commit_eq_ok hb.commit).2.1
  · exact hbegun

theorem Batch.turn (hw : Sound w) (hb : Batch cfg w c sn records l)
    (hkind : c.directive.kind ≠ .start ∧ c.directive.kind ≠ .event) :
    ∃ s notes body, records = notes ++ body ∧ Turn c.directive sn s notes body := by
  obtain ⟨env, failEnv, hrec⟩ := hb.planned
  rcases turn_of_handleRecords (hw.calls c hb.call).decoded (hw.eventSound hb.call hb.phase) hkind
    hrec with hnil | ⟨-, hturn⟩
  · exact absurd hnil (commit_eq_ok hb.commit).2.1
  · exact hturn

theorem Batch.advance (hw : Sound w) (hb : Batch cfg w c sn records l) (wf : WFID) (run : RunID) :
    Advance c sn records w.stream l wf run := by
  by_cases hrun : c.directive.OfRun wf run
  · obtain ⟨rfl, rfl⟩ := hrun
    by_cases hstart : c.directive.kind = .start
    · obtain ⟨s, hs⟩ := hb.begun hw hstart
      obtain ⟨states, n, hstates⟩ := hs.states
      obtain ⟨k, hk⟩ := getRunState_of_commit hstates hb.commit
      have hmem : Record.runState s n ∈ records := by
        obtain ⟨r, hr, hs'⟩ := List.mem_filterMap.mp
          (hstates ▸ List.mem_append_right states (List.mem_singleton_self (s, n)))
        exact Record.runState?_eq_some.mp hs' ▸ hr
      rcases (hw.planned hb).runState_cases hmem with ⟨-, -, hof⟩ | ⟨-, _, _, -, -, ht⟩
      · exact .start ⟨rfl, rfl⟩ hstart hof hs (by rw [← hof.wfID, ← hof.runID]; exact hk)
      · exact absurd hstart ht.kind_ne.1
    by_cases hevent : c.directive.kind = .event
    · have hplanned := hw.planned hb
      cases hplanned with
      | nothing => exact absurd rfl (commit_eq_ok hb.commit).2.1
      | start _ hkind => exact absurd hkind hstart
      | event _ hkind hh hwake =>
        refine .event ⟨rfl, rfl⟩ hkind hh hwake rfl (getRunState_of_commit_of_ne hb.commit ?_)
        intro s n hmem
        split_ifs at hmem <;> simp at hmem
      | transition _ _ ht => exact absurd hevent ht.kind_ne.2
    · obtain ⟨s, notes, body, hrecords, hturn⟩ := hb.turn hw ⟨hstart, hevent⟩
      have hnotes := hturn.noted.allNotes
      have hstates : records.filterMap Record.runState? = [] ++ [(s, sn.runState.seqID)] :=
        hrecords ▸ hturn.runStates
      obtain ⟨k, hk⟩ := getRunState_of_commit hstates hb.commit
      obtain ⟨hof, -⟩ := hw.stateOf (hb.stored hw hrecords hturn.transition)
      have hwf : s.wfID = c.directive.runInfo.wfID := hturn.transition.sameRun.1.trans hof.wfID
      have hid : s.runID = c.directive.runInfo.id := hturn.transition.sameRun.2.trans hof.runID
      exact .turn ⟨rfl, rfl⟩ ⟨hstart, hevent⟩ (hb.live hw) hturn hrecords
        (hb.current hw hrecords hnotes hturn.transition) (by rw [← hwf, ← hid]; exact hk)
  · refine .other hrun (getRunState_of_commit_of_ne hb.commit fun s n hmem hwf hid => hrun ?_)
    have hof := hb.ofRun hw hmem
    exact ⟨hof.1.symm.trans hwf, hof.2.symm.trans hid⟩

end Batch

/-- A parked cancel is one that a cancel directive has left there. -/
theorem Sound.cancel_msg {w : World} {c : Call} {sn : StateSnapshot} (hw : Sound w)
    (hc : c ∈ w.calls) (hphase : c.phase = .ready sn) {cancel : Directive}
    (hcancel : sn.runState.pendingCancel = some cancel) :
    ∃ reason, cancel.msg = .cancel reason := by
  rcases (hw.calls c hc).state sn.runState (by rw [hphase]; rfl) with hz | hs
  · rw [hz] at hcancel
    cases hcancel
  · obtain ⟨hdecoded, hkind, -⟩ := (hw.stateOf hs).1.cancel cancel hcancel
    have hagrees := hdecoded.2
    rw [hkind] at hagrees
    cases hm : cancel.msg <;> simp_all [DirectiveMessage.agrees]

/-! ### The states of a batch -/

section States

variable {cfg : Manager.Config} {w : World} {c : Call} {sn : StateSnapshot}
  {records notes body : List Record} {l : Stream} {wf : WFID} {run : RunID} {s : RunState}

theorem Journaled.getLast?_statesIn (hj : Journaled w)
    (hs : getRunState w.stream wf run = .ok (some s)) :
    (statesIn wf run w.journal).getLast? = some s.stored := by
  obtain ⟨s', hs', hlast⟩ := hj wf run
  cases hs.symm.trans hs'
  exact hlast.symm

theorem statesIn_concat (wf : WFID) (run : RunID) (journal : List Commit) (c : Commit) :
    statesIn wf run (journal ++ [c]) = statesIn wf run journal ++ c.states wf run := by
  simp [statesIn]

/-- A batch writes states of the run of its directive only. -/
theorem Batch.states_eq_nil (hw : Sound w) (hb : Batch cfg w c sn records l)
    (hrun : ¬ c.directive.OfRun wf run) : (w.commitOf c sn records).states wf run = [] := by
  refine List.eq_nil_iff_forall_not_mem.mpr fun s hs => hrun ?_
  obtain ⟨s₀, n, hmem, rfl, rfl, -⟩ := Commit.mem_states.mp hs
  exact ⟨(hb.ofRun hw hmem).1.symm, (hb.ofRun hw hmem).2.symm⟩

/-- The batch of an event writes no state. -/
theorem Batch.states_of_event (hw : Sound w) (hb : Batch cfg w c sn records l)
    (hkind : c.directive.kind = .event) : (w.commitOf c sn records).states wf run = [] := by
  refine List.eq_nil_iff_forall_not_mem.mpr fun s hs => ?_
  obtain ⟨s₀, n, hmem, -, -, -⟩ := Commit.mem_states.mp hs
  rcases (hw.planned hb).runState_cases hmem with ⟨hstart, -⟩ | ⟨-, _, _, -, -, ht⟩
  · exact absurd (hkind.symm.trans hstart) (by decide)
  · exact ht.kind_ne.2 hkind

/-- The batch of a start writes states in which nothing of an earlier one is left. -/
theorem Batch.states_of_start (hw : Sound w) (hb : Batch cfg w c sn records l)
    (hkind : c.directive.kind = .start) :
    ∀ s ∈ (w.commitOf c sn records).states wf run,
      s.pendingCancel = none ∧ s.isTerminal = false := by
  intro s hs
  obtain ⟨s₀, n, hmem, -, -, rfl⟩ := Commit.mem_states.mp hs
  rcases (hw.planned hb).runState_cases hmem with ⟨-, -, hof⟩ | ⟨-, _, _, -, -, ht⟩
  · exact ⟨hof.pendingCancel, hof.isTerminal⟩
  · exact absurd hkind ht.kind_ne.1

/-- The batch of a transition writes the new state. -/
theorem Batch.states_of_turn (hw : Sound w) (hb : Batch cfg w c sn records l)
    (hrun : c.directive.OfRun wf run) (h : Turn c.directive sn s notes body)
    (hrecords : records = notes ++ body) :
    (w.commitOf c sn records).states wf run = [s.stored] := by
  obtain ⟨hof, -⟩ := hw.stateOf (hb.stored hw hrecords h.transition)
  obtain ⟨rfl, rfl⟩ := hrun
  rw [Commit.states, World.commitOf, hrecords, h.runStates]
  simp [h.transition.sameRun, hof.wfID, hof.runID]

/-- A batch writes into the history of the run of its directive only. -/
theorem Batch.history_ofRun (hw : Sound w) (hb : Batch cfg w c sn records l) {h : HistoryEvent}
    (hh : Record.history h ∈ records) :
    h.wfID = c.directive.runInfo.wfID ∧ h.runID = c.directive.runInfo.id := by
  cases hb.advance hw c.directive.runInfo.wfID c.directive.runInfo.id with
  | other hrun => exact absurd ⟨rfl, rfl⟩ hrun
  | start _ _ _ hbegun => exact (hbegun.told.history h hh).2
  | event _ _ habout _ hrecords =>
    rw [hrecords] at hh
    split_ifs at hh <;> simp at hh <;> exact hh ▸ ⟨habout.wfID, habout.runID⟩
  | turn _ _ _ hturn hrecords =>
    rw [hrecords] at hh
    rcases List.mem_append.mp hh with hh | hh
    · exact (hturn.noted.history h hh).2
    obtain ⟨ri, hbody, hri⟩ := hturn.told
    obtain ⟨-, hwf, hid⟩ := hbody.history h hh
    rcases hri with hri | ⟨cancel, hcancel, rfl⟩
    · exact ⟨hwf.trans hri.wfID, hid.trans hri.id⟩
    · obtain ⟨hof, -⟩ := hw.stateOf (hb.stored hw hrecords hturn.transition)
      obtain ⟨-, -, hrun⟩ := hof.cancel cancel hcancel
      exact ⟨hwf.trans hrun.1, hid.trans hrun.2⟩

end States

/-- Only the batch of an event stores something in an inbox. -/
theorem Batch.inbox_message {cfg : Manager.Config} {w : World} {c : Call} {sn : StateSnapshot}
    {records : List Record} {l : Stream} (hw : Sound w) (hb : Batch cfg w c sn records l) {m : Msg}
    {wf : WFID} (hm : m ∈ records.flatMap Record.messages) (hs : m.subject = .inbox wf) :
    c.directive.kind = .event ∧ c.directive.runInfo.wfID = wf ∧
      m.data = .directive c.directive := by
  obtain ⟨r, hr, hm⟩ := List.mem_flatMap.mp hm
  obtain ⟨d, rfl, hwf, hdata⟩ := Record.eq_of_mem_messages_inbox hm hs
  obtain ⟨hkind, rfl⟩ := (hw.planned hb).inbox_cases hr
  exact ⟨hkind, hwf, hdata⟩

/-- A wake-up that commits dispatches the event of its snapshot. -/
theorem Batch.dispatch_of_wake {cfg : Manager.Config} {w : World} {c : Call} {sn : StateSnapshot}
    {records : List Record} {l : Stream} (hw : Sound w) (hb : Batch cfg w c sn records l)
    (hkind : c.directive.kind = .wakeFromInbox) : ∃ s, Dispatch sn.event sn.runState s records := by
  obtain ⟨env, failEnv, hrec⟩ := hb.planned
  obtain ⟨records', hrec', hshape⟩ : ∃ records,
      handleRecords cfg.defaults env failEnv c.directive sn = .ok records ∧
        (records = [] ∨ ∃ s, Dispatch sn.event sn.runState s records) :=
    handleRecords_of_wake (hw.calls c hb.call).decoded (hw.eventSound hb.call hb.phase) hkind
  cases hrec.symm.trans hrec'
  exact hshape.resolve_left (commit_eq_ok hb.commit).2.1

/-! ### Assumptions about the surroundings -/

/-- Every directive that is published for `wf` names the run `run`. -/
def Label.ForOneRun (wf : WFID) (run : RunID) (a : Label) : Prop :=
  ∀ d ∈ a.published?, d.runInfo.wfID = wf → d.runInfo.id = run
  deriving Decidable

/-- The step is not one of a background task. -/
def Label.Handling (a : Label) : Prop :=
  a.isTask = false
  deriving Decidable

/-- Everything the stream holds for the workflow is of one run. -/
structure OneRun (wf : WFID) (run : RunID) (w : World) : Prop where
  directives : ∀ e ∈ w.stream.entries, ∀ ty run', e.subject = .directive ty wf run' → run' = run

variable {cfg : Manager.Config} {ok : World → Label → Prop} {w : World} {wf : WFID} {run : RunID}

theorem OneRun.call (h : OneRun wf run w) (hw : Sound w) {c : Call} (hc : c ∈ w.calls)
    (hwf : c.directive.runInfo.wfID = wf) : c.directive.OfRun wf run := by
  obtain ⟨e, he, hm, -⟩ := (hw.calls c hc).entry
  refine ⟨hwf, h.directives e he c.directive.runInfo.wfType _ ?_⟩
  rw [hm, ← hwf]
  rfl

/-- Everything is of one run when everything that is published is. -/
theorem oneRun_of_reachableBy (h : ReachableBy cfg ok w)
    (hok : ∀ w a, ok w a → a.ForOneRun wf run) : OneRun wf run w := by
  refine ⟨fun e he ty run' hs => ?_⟩
  obtain ⟨d, hm, -⟩ := ((sound_of_reachableBy h).messages e he).directive ty wf run' hs
  rw [hm] at hs
  obtain ⟨-, hwf, rfl⟩ := Subject.directive.inj hs
  refine stored_of_published (P := fun _ d => d.runInfo.wfID = wf → d.runInfo.id = run) h
    (fun _ _ _ _ _ hd => hd) (fun w d hd => hok w _ hd d rfl) ?_ e he d hm hwf
  exact fun _ c d _ hc _ _ hrun hwf => hrun.id.trans (hc (hrun.wfID.symm.trans hwf))

/-- The inbox of a workflow with one run holds events of that run. -/
theorem inbox_ofRun (h : ReachableBy cfg ok w) (hok : ∀ w a, ok w a → a.ForOneRun wf run) :
    ∀ e ∈ w.stream.entries, e.subject = .inbox wf → ∀ d, e.data = .directive d →
      d.OfRun wf run := by
  refine Reach.invariant (P := fun w => ∀ e ∈ w.stream.entries, e.subject = .inbox wf →
    ∀ d, e.data = .directive d → d.OfRun wf run) h (fun e he => by cases he)
    fun w a w' hr ih hoka hstep e he hs d hd => ?_
  have hw := sound_of_reachableBy hr
  cases (effect_of_step hstep).entryChange he with
  | old he₀ hm => exact ih _ he₀ (hm ▸ hs) d (hm ▸ hd)
  | new ho =>
    generalize e.toMessage = m at ho hs hd
    cases ho with
    | publish => cases hs
    | runInfo => cases hs
    | history => cases hs
    | batch _ hb hr' hm =>
      obtain ⟨-, hwf, hdata⟩ := hb.inbox_message hw (List.mem_flatMap.mpr ⟨_, hr', hm⟩) hs
      cases hd.symm.trans hdata
      exact (oneRun_of_reachableBy hr hok).call hw hb.call hwf

/-- Without background tasks no event is removed from an inbox: fired timers are the only messages
that are taken out of the stream. -/
theorem inbox_live_of_reachableBy (h : ReachableBy cfg ok w) (hok : ∀ w a, ok w a → a.Handling) :
    ∀ e ∈ w.stream.entries, e.subject = .inbox wf → e.live = true := by
  refine Reach.invariant (P := fun w => ∀ e ∈ w.stream.entries, e.subject = .inbox wf →
    e.live = true) h (fun e he => by cases he) fun w a w' _ ih hoka hstep e he hs => ?_
  have hhandling : a.isTask = false := hok w a hoka
  have heffect := effect_of_step hstep
  have appended {ms : List Msg} (he : e ∈ (w.stream.appendAll ms).entries) : e.live = true := by
    rcases List.mem_append.mp he with he | he
    · exact ih e he hs
    · exact (mem_stamp he).2.1
  cases heffect with
  | publish => exact appended he
  | saveRun => exact appended he
  | recordHistory => exact appended he
  | commit _ hb =>
    rw [show _ = _ from eq_appendAll_of_commit hb.commit] at he
    exact appended he
  | fire =>
    obtain ⟨e₀, he₀, rfl⟩ := Log.mem_purge.mp he
    have hs₀ : e₀.subject = .inbox wf := by split_ifs at hs <;> exact hs
    rw [if_neg (by simp [hs₀])]
    exact ih e₀ he₀ hs₀
  | cancelTimer => cases hhandling
  | purgeNext => cases hhandling
  | _ => exact ih e he hs

end Grctl
