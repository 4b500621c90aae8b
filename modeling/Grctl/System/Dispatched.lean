import Grctl.System.Removal

/-!
# What drives a run on

A run that is in a step goes on when a worker reports the result of the step, or when the timer of
the step fires; a run that waits goes on with an event, or when the timer of the wait fires. Neither
of the two is kept in memory: if the message is not in the stream, nobody will think of it again.

The state of a run and what drives it on are written by one batch, and later batches either carry
the activity along or replace it. So in every reachable world the task of a step in progress and the
timer of the activity in progress have been stored; they are still there unless a run of the
workflow has ended, or, for the timer, unless it has fired or the step has had a result.

## Main definitions

* `Driven`: the messages that drive on a run in a given state.

## Main results

* `activity_driven`: a step in progress has its task, and an activity in progress its timer.
-/

namespace Grctl

open SubjectLog Lts

/-- What drives on a run in the state `s` is among the messages: the task of a step, for the run or
with an event of its workflow, and the timer of a step or a wait. -/
structure Driven (ms : List Msg) (s : RunState) : Prop where
  task : s.kind = .step → ∃ d, (Record.workerTask d).messages ⊆ ms ∧ d.id = s.activeDirectiveID ∧
    d.runInfo.wfID = s.wfID ∧ (d.runInfo.id = s.runID ∨ d.kind = .event)
  timer : s.kind = .step ∨ s.kind = .wait → ∃ t, (Record.timer t).messages ⊆ ms ∧
    t.wfID = s.wfID ∧ t.Guards s

section Driven

variable {ms ms' : List Msg} {s s' : RunState}

theorem Driven.mono (h : Driven ms s) (hsub : ms ⊆ ms') : Driven ms' s where
  task hkind := by
    obtain ⟨d, hd, hrest⟩ := h.task hkind
    exact ⟨d, List.Subset.trans hd hsub, hrest⟩
  timer hkind := by
    obtain ⟨t, ht, hrest⟩ := h.timer hkind
    exact ⟨t, List.Subset.trans ht hsub, hrest⟩

/-- Another state with the same activity. -/
theorem Driven.congr (h : Driven ms s) (hkind : s'.kind = s.kind)
    (hid : s'.activeDirectiveID = s.activeDirectiveID) (hwf : s'.wfID = s.wfID)
    (hrun : s'.runID = s.runID) : Driven ms s' where
  task hstep := by
    rw [hid, hwf, hrun]
    exact h.task (hkind ▸ hstep)
  timer hactive := by
    obtain ⟨t, ht, htwf, hguards⟩ := h.timer (hkind ▸ hactive)
    exact ⟨t, ht, htwf.trans hwf.symm, hguards.congr hkind hid⟩

/-- A state without an activity needs nothing. -/
theorem driven_of_idle (hstep : s.kind ≠ .step) (hwait : s.kind ≠ .wait) : Driven ms s where
  task hkind := absurd hkind hstep
  timer hkind := by
    rcases hkind with hkind | hkind
    · exact absurd hkind hstep
    · exact absurd hkind hwait

theorem driven_of_isTerminal (h : s.isTerminal = true) : Driven ms s :=
  driven_of_idle (fun hkind => by simp [RunState.isTerminal, hkind] at h)
    fun hkind => by simp [RunState.isTerminal, hkind] at h

theorem messages_subset_flatMap {records : List Record} {r : Record} (hr : r ∈ records) :
    r.messages ⊆ records.flatMap Record.messages :=
  fun _ hm => List.mem_flatMap.mpr ⟨r, hr, hm⟩

/-- The records that fit a state drive it on if there is a timer among them, and a task if the
state is a step. -/
theorem driven_of_fits {records : List Record} (hfits : ∀ r ∈ records, r.Fits s)
    (htimer : ∃ t, Record.timer t ∈ records ∧ t.wfID = s.wfID)
    (htask : s.kind = .step → ∃ d, Record.workerTask d ∈ records ∧ d.id = s.activeDirectiveID ∧
      d.runInfo.wfID = s.wfID ∧ (d.runInfo.id = s.runID ∨ d.kind = .event)) :
    Driven (records.flatMap Record.messages) s where
  task hkind := by
    obtain ⟨d, hd, hrest⟩ := htask hkind
    exact ⟨d, messages_subset_flatMap hd, hrest⟩
  timer _ := by
    obtain ⟨t, ht, hwf⟩ := htimer
    exact ⟨t, messages_subset_flatMap ht, hwf, hfits _ ht⟩

end Driven

section Batch

variable {cfg : Manager.Config} {w : World} {c : Call} {sn : StateSnapshot} {src : Directive}
  {records notes body : List Record} {l : Stream} {s cur : RunState}

/-- What is dispatched is for the run of the directive, or it is an event from the inbox. -/
theorem Dispatches.sameRun_or_event {d : Directive} (h : Dispatches d sn src) :
    src.runInfo.SameRun d.runInfo ∨ src = sn.event ∧ sn.event.IsEvent := by
  cases h with
  | step => exact .inl ⟨rfl, rfl, rfl⟩
  | next _ _ _ _ hrun => exact .inl hrun
  | timeout _ _ _ hrun => exact .inl hrun
  | inbox _ _ hevent => exact .inr ⟨rfl, hevent⟩

/-- A step is dispatched with its task and its timer. -/
theorem Dispatch.driven (h : Dispatch src cur s body) (hfits : ∀ r ∈ body, r.Fits s)
    (hwf : src.runInfo.wfID = cur.wfID) (hrun : src.runInfo.id = cur.runID ∨ src.kind = .event) :
    Driven (body.flatMap Record.messages) s := by
  obtain @⟨_, timer, ri, -, htimer, hri⟩ := h
  refine driven_of_fits hfits ⟨timer, List.mem_cons_self, htimer.trans hwf⟩ fun _ => ?_
  refine ⟨{ Records.repairRunInfo src cur with runInfo := ri }, ?_, rfl, hri.wfID.trans hwf,
    hrun.imp_left hri.id.trans⟩
  exact List.mem_cons_of_mem _ (List.mem_cons_of_mem _ List.mem_cons_self)

/-- A wait begins with its timer. -/
theorem Suspend.driven (h : Suspend src sn s body) (hfits : ∀ r ∈ body, r.Fits s)
    (hwf : src.runInfo.wfID = sn.runState.wfID) : Driven (body.flatMap Record.messages) s := by
  obtain @⟨_, _, _, timer, _, -, -, -, htimer, -⟩ := h
  refine driven_of_fits hfits ⟨timer, by simp, htimer.trans hwf⟩ fun hkind => ?_
  cases hkind

/-- The first states of a run: the first one has no activity yet, and the start step drives on the
second one. -/
theorem Batch.driven_of_start (hw : Sound w) (hb : Batch cfg w c sn records l)
    (hkind : c.directive.kind = .start) {n : ℕ} (hs : Record.runState s n ∈ records) :
    Driven (records.flatMap Record.messages) s := by
  obtain ⟨s', hbegun⟩ := hb.begun hw hkind
  have hplanned := hw.planned hb
  cases hplanned with
  | nothing => cases hs
  | event _ hd => cases hkind.symm.trans hd
  | transition _ _ ht => exact absurd hkind ht.kind_ne.1
  | @start now h ri s₁ input body _ _ _ hri hinput hbody =>
    have hrecords : body ⊆ [.history h, .runInfo ri 0] ++ input ++
        .runState (startState now c.directive) 0 :: body := fun r hr =>
      List.mem_append_right _ (List.mem_cons_of_mem _ hr)
    have hstates : s = startState now c.directive ∨ s = s₁ := by
      cases hbody
      simp only [List.mem_append, List.mem_cons, reduceCtorEq, List.not_mem_nil, or_false,
        false_or, Record.runState.injEq] at hs
      rcases hs with hs | ⟨hs, -⟩ | ⟨hs, -⟩
      · obtain ⟨v, hv⟩ := hinput _ hs
        cases hv
      · exact .inl hs
      · exact .inr hs
    rcases hstates with rfl | rfl
    · exact driven_of_idle (by simp [startState, newRunState]) (by simp [startState, newRunState])
    · -- both states are in the start step, so that what fits the one fits the other
      have hfits : ∀ r ∈ body, r.Fits s := by
        intro r hr
        have hfit := hbegun.told.fits r (hrecords hr)
        obtain ⟨-, -, -⟩ := hbody
        cases r with
        | runInfo => simpa [Record.Fits, hbegun.kind] using hfit
        | timer t => exact Timer.Guards.congr hfit (by rw [hbegun.kind]) (by rw [hbegun.id])
        | backgroundTask => exact hfit
        | _ => trivial
      refine (hbody.driven hfits hri.wfID (.inl hri.id)).mono fun m hm => ?_
      obtain ⟨r, hr, hm⟩ := List.mem_flatMap.mp hm
      exact messages_subset_flatMap (hrecords hr) hm

/-- The state that a transition leads to has ended, goes on with the activity of the state before,
or is driven on by what the batch stores. -/
theorem Batch.driven_of_turn (hw : Sound w) (hb : Batch cfg w c sn records l)
    (hkind : c.directive.kind ≠ .start ∧ c.directive.kind ≠ .event)
    (hold : ∀ wf run s, StoredState w.stream wf run s → Driven w.stream.messages s)
    {n : ℕ} (hs : Record.runState s n ∈ records) :
    Driven (w.stream.messages ++ records.flatMap Record.messages) s := by
  obtain ⟨s', notes, body, rfl, hturn⟩ := hb.turn hw hkind
  have hstored := hb.stored hw rfl hturn.transition
  obtain ⟨hof, -⟩ := hw.stateOf hstored
  have hbefore := (hold _ _ _ hstored).mono (List.subset_append_left _
    ((notes ++ body).flatMap Record.messages))
  obtain ⟨ri, htold, -⟩ := hturn.told
  have hmem : (s, n) ∈ (notes ++ body).filterMap Record.runState? :=
    List.mem_filterMap.mpr ⟨_, hs, rfl⟩
  rw [hturn.runStates, List.mem_singleton] at hmem
  cases hmem
  have hbody : body.flatMap Record.messages ⊆ w.stream.messages ++
      (notes ++ body).flatMap Record.messages := by
    rw [List.flatMap_append]
    exact fun m hm => List.mem_append_right _ (List.mem_append_right _ hm)
  cases hturn.transition with
  | finish h hterm => exact driven_of_isTerminal (h.isTerminal.trans hterm)
  | dispatch h hsrc =>
    rcases hsrc.sameRun_or_event with hrun | hevent
    · exact (h.driven htold.fits (hrun.wfID.trans hof.wfID.symm)
        (.inl (hrun.id.trans hof.runID.symm))).mono hbody
    · obtain ⟨rfl, hevent⟩ := hevent
      exact (h.driven htold.fits ((hb.event_wfID hw hevent).trans hof.wfID.symm)
        (.inr hevent.2.1)).mono hbody
  | suspend h _ hrun =>
    refine (h.driven htold.fits ?_).mono hbody
    exact hrun.wfID.trans hof.wfID.symm
  | pickUp => exact hbefore.congr rfl rfl rfl rfl
  | park => exact hbefore.congr rfl rfl rfl rfl

end Batch

section Runs

variable {cfg : Manager.Config} {w : World} {wf : WFID} {run : RunID} {s : RunState}

/-- The messages drive on every state among them. -/
def AllDriven (ms : List Msg) : Prop := ∀ m ∈ ms, ∀ s, m.data = .runState s → Driven ms s

theorem AllDriven.stored {l : Stream} (h : AllDriven l.messages) (hs : StoredState l wf run s) :
    Driven l.messages s := by
  obtain ⟨e, he, -, s₀, hdata, rfl⟩ := hs
  exact (h e.toMessage (List.mem_map_of_mem he) s₀ hdata).congr rfl rfl rfl rfl

/-- Further messages, the states among which are driven on. -/
theorem AllDriven.append {ms ms' : List Msg} (h : AllDriven ms)
    (hnew : ∀ m ∈ ms', ∀ s, m.data = .runState s → Driven (ms ++ ms') s) :
    AllDriven (ms ++ ms') := by
  intro m hm s hs
  rcases List.mem_append.mp hm with hm | hm
  · exact (h m hm s hs).mono (List.subset_append_left ..)
  · exact hnew m hm s hs

theorem Batch.driven {c : Call} {sn : StateSnapshot} {records : List Record} {l : Stream}
    (hw : Sound w) (hb : Batch cfg w c sn records l) (h : AllDriven w.stream.messages) {n : ℕ}
    (hs : Record.runState s n ∈ records) :
    Driven (w.stream.messages ++ records.flatMap Record.messages) s := by
  rcases (hw.planned hb).runState_cases hs with ⟨hkind, -⟩ | ⟨-, _, _, -, -, ht⟩
  · exact (hb.driven_of_start hw hkind hs).mono (List.subset_append_right ..)
  · exact hb.driven_of_turn hw ht.kind_ne (fun _ _ _ => h.stored) hs

theorem allDriven_of_reachable (h : Reachable cfg w) : AllDriven w.stream.messages := by
  refine stored_invariant (P := fun l _ => AllDriven l.messages) h ?_ ?_ ?_ ?_
  · exact fun m hm => by cases hm
  · intro l j m ih hm
    rw [Log.append, Log.messages_appendAll]
    refine ih.append fun m' hm' s hs => ?_
    cases List.mem_singleton.mp hm'
    cases hm <;> cases hs
  · intro l j p ih _
    rwa [Log.messages_purge]
  · intro w c sn records l hw ih hb
    rw [Log.messages_appendAll]
    refine ih.append fun m hm s hs => ?_
    obtain ⟨r, hr, hm⟩ := List.mem_flatMap.mp hm
    obtain ⟨s₀, n, rfl, rfl⟩ := Record.eq_of_mem_messages_data_runState hm hs
    exact (hb.driven hw ih hr).congr rfl rfl rfl rfl

/-- A step in progress has its task, and a step or a wait in progress its timer. They are there
unless a run of the workflow has ended or, for the timer, unless it has fired or the step has had a
result. -/
theorem activity_driven (h : Reachable cfg w) (hs : getRunState w.stream wf run = .ok (some s)) :
    (s.kind = .step → ∃ e ∈ w.stream.entries, ∃ ty id d,
      e.subject = .workerTask ty wf id ∧ e.data = .directive d ∧ d.id = s.activeDirectiveID ∧
      (id = run ∨ d.kind = .event) ∧ (e.live = true ∨ ∃ c ∈ w.journal, c.EndsRunOf wf)) ∧
    (s.kind = .step ∨ s.kind = .wait → ∃ e ∈ w.stream.entries, ∃ t,
      e.subject = .timer wf t.kind t.id ∧ e.data = .timer t ∧ t.Guards s ∧
      (e.live = true ∨ (∃ c ∈ w.journal, c.EndsRunOf wf) ∨ (∃ c ∈ w.journal,
        c.directive.kind = .stepResult ∧
          c.snapshot.runState.activeDirectiveID = s.activeDirectiveID) ∨
        ∃ t' ∈ w.fired, t'.key = t.key)) := by
  have hstored := storedState_of_getRunState hs
  obtain ⟨⟨rfl, rfl, -⟩, -⟩ := (sound_of_reachableBy h).stateOf hstored
  obtain ⟨htask, htimer⟩ := (allDriven_of_reachable h).stored hstored
  refine ⟨fun hkind => ?_, fun hkind => ?_⟩
  · obtain ⟨d, hd, hid, hwf, hrun⟩ := htask hkind
    obtain ⟨⟨m, seq, live⟩, he, rfl⟩ := List.mem_map.mp (hd List.mem_cons_self)
    refine ⟨_, he, d.runInfo.wfType, d.runInfo.id, d, by rw [hwf], rfl, hid, hrun, ?_⟩
    -- the task is not a timer
    rcases live_or_removes h he (congrArg some hwf) with
      hlive | hends | ⟨c, -, -, hsubject⟩ | ⟨t, -, hsubject⟩
    · exact .inl hlive
    · exact .inr hends
    · cases hsubject
    · cases hsubject
  · obtain ⟨t, ht, hwf, hguards⟩ := htimer hkind
    obtain ⟨⟨m, seq, live⟩, he, rfl⟩ := List.mem_map.mp (ht List.mem_cons_self)
    refine ⟨_, he, t, by rw [hwf], rfl, hguards, ?_⟩
    rcases live_or_removes h he (congrArg some hwf) with
      hlive | hends | ⟨c, hc, hresult, hsubject⟩ | ⟨t', ht', hsubject⟩
    · exact .inl hlive
    · exact .inr (.inl hends)
    · -- the name of the timer tells the step
      obtain ⟨-, hstep, hname⟩ := Subject.timer.inj hsubject
      rw [hguards.id, ← hguards.kind, hstep] at hname
      exact .inr (.inr (.inl ⟨c, hc, hresult, (deriveTimerID_injective .stepTimeout hname).symm⟩))
    · obtain ⟨hwf', hkind', hname⟩ := Subject.timer.inj hsubject
      exact .inr (.inr (.inr ⟨t', ht', by rw [Timer.key, Timer.key, hwf', hkind', hname]⟩))

end Runs

/-- The step that an event has woken has its task and its timer. -/
theorem activity_driven_woken :
    ∃ s, getRunState (Sample.world Sample.woken).stream "wf" "r1" = .ok (some s) ∧
      s.kind = .step ∧ (∃ e ∈ (Sample.world Sample.woken).stream.entries, ∃ ty id d,
        e.subject = .workerTask ty "wf" id ∧ e.data = .directive d ∧
          d.id = s.activeDirectiveID) := by
  obtain ⟨s, hs, hkind⟩ : ∃ s, getRunState (Sample.world Sample.woken).stream "wf" "r1" =
      .ok (some s) ∧ s.kind = .step := by
    have hstate : (getRunState (Sample.world Sample.woken).stream "wf" "r1").map
        (·.map (·.kind)) = .ok (some .step) := by decide +kernel
    cases hget : getRunState (Sample.world Sample.woken).stream "wf" "r1" with
    | error f => simp [hget, Except.map] at hstate
    | ok o =>
      rw [hget] at hstate
      obtain ⟨s, rfl, hkind⟩ := Option.map_eq_some_iff.mp (Except.ok.inj hstate)
      exact ⟨s, rfl, hkind⟩
  obtain ⟨e, he, ty, id, d, hsubject, hdata, hid, -⟩ :=
    (activity_driven (Sample.reachable_world Sample.woken) hs).1 hkind
  exact ⟨s, hs, hkind, e, he, ty, id, d, hsubject, hdata, hid⟩

end Grctl
