import Grctl.Run.Timer
import Grctl.System.Provenance

/-!
# Timeouts that take effect

A timer holds a copy of the directive that its step or wait began with, and the directive that it
is turned into when it fires describes the run as that copy does. If the copy lacks the start time,
even the failure of the run cannot be built, and the timeout is dropped.

Under the assumptions of the previous file this does not happen: every worker task and timer of a
run has the start time of the run state, and a timer of the activity in progress, when it fires,
leads to a transition.

## Main results

* `timeout_takes_effect`: the timeout of the activity in progress takes effect.
* `timeout_goes_astray`: with an event of an earlier run it does not.
-/

namespace Grctl

open SubjectLog Lts

/-! ### The activity in progress -/

section Activity

variable {cfg : Manager.Config} {ok : World → Label → Prop} {w : World} {wf : WFID} {run : RunID}

/-- The current state of a run is a step, a wait or the end. -/
theorem kind_of_reachableBy (h : ReachableBy cfg ok w) {s : RunState}
    (hs : getRunState w.stream wf run = .ok (some s)) :
    s.kind = .step ∨ s.kind = .wait ∨ s.isTerminal = true := by
  have hinv : ∀ s, getRunState w.stream wf run = .ok (some s) →
      s.kind = .step ∨ s.kind = .wait ∨ s.isTerminal = true := by
    refine runState_invariant (Q := fun state _ => ∀ s, state = .ok (some s) →
      s.kind = .step ∨ s.kind = .wait ∨ s.isTerminal = true) h (fun s hs => by cases hs)
      fun w k c sn records l _ _ _ hr ih _ _ hb s hs => ?_
    cases hb.advance (sound_of_reachableBy hr) wf run with
    | other _ hsame => exact ih s (hsame ▸ hs)
    | event _ _ _ _ _ hsame => exact ih s (hsame ▸ hs)
    | start _ _ _ hbegun hnew =>
      cases hnew.symm.trans hs
      exact .inl hbegun.kind
    | turn _ _ _ hturn _ hold hnew =>
      cases hnew.symm.trans hs
      rcases hturn.transition.kind_cases with hkind | ⟨hkind, -⟩
      · simpa only [RunState.isTerminal, hkind] using ih _ hold
      · exact hkind
  exact hinv s hs

theorem Record.Stems.timer_id {kind : DirectiveKind} {src : RunInfo} {cur : RunState} {t : Timer}
    (h : (Record.timer t).Stems kind src cur) : t.directive.id ≠ "" := by
  cases h with
  | stepTimer _ _ hid => exact hid
  | waitTimer _ _ hid => exact hid
  | other hr => cases hr

/-- The directive of a committed timer has an identifier. -/
theorem timer_id_of_journal (h : ReachableBy cfg ok w) :
    ∀ c ∈ w.journal, ∀ t, Record.timer t ∈ c.records → t.directive.id ≠ "" := by
  refine forall_mem_journal h fun w c sn records l hr hb t ht => ?_
  have hw := sound_of_reachableBy hr
  have hdec := (hw.calls c hb.call).decoded
  obtain ⟨env, failEnv, hrec⟩ := hb.planned
  by_cases hstart : c.directive.kind = .start
  · obtain ⟨ri, -, hcopied, -⟩ := hb.stems_of_start hw hrec hstart
    exact (hcopied _ ht).timer_id
  · rcases traced_of_handleRecords hdec (hw.eventSound hb.call hb.phase) hstart hrec with
      hnone | ⟨kind, src, -, hstems⟩
    · cases hnone _ ht
    · exact (hstems _ ht).timer_id

end Activity

/-! ### The plan of a timeout -/

section Plan

variable {cfg : Defaults} {env env' : Readings} {d : Directive} {sn : StateSnapshot}
  {timer : Timer} {t : Time}

/-- The timeout of a step or a wait has come to an effect: the run has failed, or the wait has gone
over into a step. -/
def TimesOut (s : RunState) (records : List Record) : Prop :=
  ∃ s' n, Record.runState s' n ∈ records ∧ (s'.kind = .fail ∨ s.kind = .wait ∧ s'.kind = .step)

theorem exists_failRun_timesOut {src : Directive} {error : ErrorDetails} (s : RunState)
    (hmsg : src.msg = .fail error) (hstarted : src.runInfo.startedAt = some t) :
    ∃ records, Records.failRun env src s = .ok records ∧ TimesOut s records := by
  obtain ⟨ri, h, hfail⟩ := Records.exists_failRun env s hmsg hstarted
  exact ⟨_, hfail, Records.finished env.now s .fail, s.seqID, by simp, .inl rfl⟩

theorem TimesOut.cons {s : RunState} {records : List Record} (h : TimesOut s records) (r : Record) :
    TimesOut s (r :: records) := by
  obtain ⟨s', n, hmem, hs'⟩ := h
  exact ⟨s', n, List.mem_cons_of_mem _ hmem, hs'⟩

theorem exists_stepTimeout {s : RunState} {name : String}
    (hmsg : d.msg = .stepTimeout name s.activeDirectiveID) (hstep : s.kind = .step)
    (hstarted : d.runInfo.startedAt = some t) :
    ∃ records, Records.stepTimeout env d s = .ok records ∧ TimesOut s records := by
  obtain ⟨e, he⟩ : ∃ e, History.stepTimedout env.now d s = .ok e := by
    simp [History.stepTimedout, hmsg]
  obtain ⟨records, hfail, hout⟩ : ∃ records, Records.stepTimeoutFailure env d name s = .ok records ∧
    TimesOut s records := exists_failRun_timesOut s rfl hstarted
  refine ⟨.history e :: records, ?_, hout.cons _⟩
  simp only [Records.stepTimeout, hmsg, hstep, ne_eq, not_true_eq_false, or_self, if_false, he,
    hfail]
  rfl

/-- A wait that times out goes over into the step it names, or the run fails. -/
theorem exists_waitTimeout {s : RunState} {name : String} {timeoutMS : UInt32}
    (hmsg : d.msg = .waitTimeout name s.activeDirectiveID) (hwait : s.kind = .wait)
    (hstarted : d.runInfo.startedAt = some t) :
    ∃ records, Records.waitTimeout env d s timeoutMS = .ok records ∧ TimesOut s records := by
  obtain ⟨e, he⟩ : ∃ e, History.waitTimedOut env.now d = .ok e := by
    simp [History.waitTimedOut, hmsg]
  by_cases hname : name = ""
  · obtain ⟨records, hfail, hout⟩ : ∃ records, Records.failRun env (Records.failDirective env d
        { type := "WaitTimeout", message := "wait timed out without a timeout step" }) s =
        .ok records ∧ TimesOut s records := exists_failRun_timesOut s rfl hstarted
    refine ⟨.history e :: records, ?_, hout.cons _⟩
    simp only [Records.waitTimeout, hmsg, hwait, ne_eq, not_true_eq_false, or_self, if_false, he,
      hname, hfail]
    rfl
  · obtain ⟨records, hstep⟩ : ∃ records, Records.stepStart env
        (Records.timeoutStepDirective env d name) s timeoutMS = .ok records := exists_dispatch rfl
    refine ⟨.history e :: records, ?_, TimesOut.cons ?_ _⟩
    · simp only [Records.waitTimeout, hmsg, hwait, ne_eq, not_true_eq_false, or_self, if_false, he,
        hname, not_false_eq_true, if_true, hstep]
      rfl
    · obtain ⟨s', hs', -⟩ := Records.dispatch_of_stepStart hstep
      cases hs'
      exact ⟨_, _, .tail _ (.tail _ (.tail _ (.head _))), .inr ⟨hwait, rfl⟩⟩

/-- A timeout that is not stale takes effect, if the timer knows the start time of the run. -/
theorem exists_plan_of_firedAs (h : TimerMsgHandler.FiredAs env timer d)
    (hlive : sn.runState.isTerminal = false)
    (hkind : sn.runState.kind = .step ∨ sn.runState.kind = .wait)
    (hguards : timer.Guards sn.runState)
    (hstarted : timer.directive.runInfo.startedAt = some t) :
    ∃ records, plan cfg env' d sn = .ok records ∧ TimesOut sn.runState records := by
  have htimer := hguards.kind
  have hd : d.runInfo.startedAt = some t := h.runInfo ▸ hstarted
  cases h with
  | stepTimeout hfired =>
    have hstep : sn.runState.kind = .step := hkind.resolve_right fun hwait => by
      simp [RunState.timerKind, hwait, hfired] at htimer
    simp only [plan, hlive, planTransition]
    exact exists_stepTimeout (by rw [hguards.directive]) hstep hd
  | waitTimeout hfired =>
    have hwait : sn.runState.kind = .wait := hkind.resolve_left fun hstep => by
      simp [RunState.timerKind, hstep, hfired] at htimer
    simp only [plan, hlive, planTransition]
    exact exists_waitTimeout (by rw [hguards.directive]) hwait hd
  | failure =>
    simp only [plan, hlive, TimerMsgHandler.applyFailure, planTransition]
    exact exists_failRun_timesOut sn.runState rfl hd

end Plan

/-! ### Runs -/

/-- What a batch of the run hands on is for the run. -/
theorem handsOn_ofRun {cfg : Manager.Config} {w : World} {wf : WFID} {run : RunID}
    (h : ReachableBy cfg (EchoGuard wf run) w) :
    ∀ c ∈ w.journal, c.directive.OfRun wf run → ∀ r ∈ c.records, ∀ ri, r.handsOn? = some ri →
      ri.wfID = wf ∧ ri.id = run := by
  have halong : Along (fun _ c => c.directive.OfRun wf run → ∀ r ∈ c.records, ∀ ri,
      r.handsOn? = some ri → ri.wfID = wf ∧ ri.id = run) w.journal := by
    refine along_journal h fun w k c sn records l _ _ _ hr _ hok hc hb hrun r hr' ri hri => ?_
    have hown := hok.2 k rfl _ (World.ready?_eq_some hc hb.phase)
    obtain ⟨hwf, hid⟩ := hb.target_run (sound_of_reachableBy hr) hr' (Record.target?_of_handsOn hri)
    exact ⟨hwf.trans hrun.1, (hid (hown hrun.1)).trans hrun.2⟩
  intro c hc
  obtain ⟨_, _, -, hQ⟩ := halong.of_mem hc
  exact hQ

/-- Timeouts take effect. Take a run that is started once and whose surroundings do not make
descriptions up, also by way of events that were accepted before the start, and whose workflow
dispatches no event of another run. Then every worker task and timer that a batch of the run has
committed is for the run, and has the start time of the run state. So, when the timer of the
activity in progress fires, the directive that it is turned into is one of the run, and planning it
from the current state succeeds: the run fails, or a wait goes over into a step. -/
theorem timeout_takes_effect {cfg : Manager.Config} {w : World} {wf : WFID} {run : RunID}
    (h : ReachableBy cfg (EchoGuard wf run) w)
    (hstart : w.journal.countP (Commit.starts wf run) ≤ 1) :
    (∀ c ∈ w.journal, c.directive.OfRun wf run → ∀ r ∈ c.records, ∀ ri, r.handsOn? = some ri →
      ri.wfID = wf ∧ ri.id = run ∧ ∃ s t, getRunState w.stream wf run = .ok (some s) ∧
        s.startedAt = some t ∧ ri.startedAt = some t) ∧
    ∀ s, getRunState w.stream wf run = .ok (some s) → s.isTerminal = false →
      ∀ c ∈ w.journal, c.directive.OfRun wf run → ∀ timer, Record.timer timer ∈ c.records →
        timer.Guards s → ∀ m env n, ∃ d, TimerMsgHandler.handle m env timer n = some d ∧
          d.OfRun wf run ∧ ∀ defaults env' sn, sn.runState = s →
            ∃ records, plan defaults env' d sn = .ok records ∧ TimesOut s records := by
  have htimes : ∀ c ∈ w.journal, c.directive.OfRun wf run → ∀ r ∈ c.records, ∀ ri,
      r.handsOn? = some ri → ri.wfID = wf ∧ ri.id = run ∧ ∃ s t,
        getRunState w.stream wf run = .ok (some s) ∧ s.startedAt = some t ∧
          ri.startedAt = some t := by
    intro c hc hrun r hr ri hri
    obtain ⟨hwf, hid⟩ := handsOn_ofRun h c hc hrun r hr ri hri
    have hmem : ri ∈ handedOn wf run w.journal := mem_handedOn.mpr ⟨⟨c, hc, r, hr, hri⟩, hwf, hid⟩
    have htimed := timed_of_reachableBy h hstart
    generalize getRunState w.stream wf run = state at htimed ⊢
    cases htimed with
    | created _ hnil => simp [hnil] at hmem
    | started hs _ hhanded => exact ⟨hwf, hid, _, _, rfl, hs, hhanded ri hmem⟩
  refine ⟨htimes, fun s hs hlive c hc hrun timer htimer hguards m env n => ?_⟩
  obtain ⟨hwf, hid, s', t, hs', ht, hstarted⟩ := htimes c hc hrun _ htimer _ rfl
  cases hs.symm.trans hs'
  have hkind : s.kind = .step ∨ s.kind = .wait := by
    simpa [hlive] using kind_of_reachableBy h hs
  obtain ⟨d, hd, hfired⟩ : ∃ d, TimerMsgHandler.handle m env timer n = some d ∧
      TimerMsgHandler.FiredAs env timer d := by
    refine TimerMsgHandler.exists_handle (timer_id_of_journal h c hc timer htimer) ?_
    rw [hguards.kind, RunState.timerKind]
    split_ifs
    · exact .inr rfl
    · exact .inl rfl
  refine ⟨d, hd, ?_, fun defaults env' sn hsn => ?_⟩
  · rw [Directive.OfRun, hfired.runInfo]
    exact ⟨hwf, hid⟩
  · subst hsn
    exact exists_plan_of_firedAs hfired hlive hkind hguards hstarted

namespace Sample

/-- An event that is accepted before the run is started. -/
def earlyEvent : Directive := { event "pay" with runInfo := run }

/-- An event is accepted before the run is started, and dispatched when the run waits. -/
def early : List Label :=
  .admitRun run :: .saveRun 0 :: .publish start :: .publish earlyEvent :: handled 2 ++ handled 3 ++
    .publish (stepResult "done" .wait (.wait 0 "")) :: handled 13 ++ handled 20

/-- The step of the event. -/
def eventStep (run : RunID) (seqID : ℕ) : RunState where
  wfID := "wf"
  runID := run
  kind := .step
  enteredAt := 1000000
  startedAt := some 1000000
  lastEventSeqID := 11
  activeDirectiveID := "pay"
  seqID := seqID

/-- The timer of this step; it holds the description that the event carries. -/
def eventTimer (info : RunInfo) : Timer where
  id := deriveTimerID "pay" .stepTimeout
  kind := .stepTimeout
  wfID := "wf"
  createdAt := 1000000
  expiresAt := Time.addMilliseconds 1000000 300000
  stepName := "paid"
  directive :=
    { event "pay" with
      runInfo := info
      msg := .event { eventName := "paid", eventSeqID := some 11 } }

theorem eventTimer_guards (info : RunInfo) (run : RunID) (seqID : ℕ) :
    (eventTimer info).Guards (eventStep run seqID) := ⟨rfl, rfl, rfl⟩

end Sample

/-- The step of an event that was accepted before the start can time out. -/
theorem timeout_takes_effect_early : ∃ s timer d,
    getRunState (Sample.worldBy (EchoGuard "wf" "r1") Sample.early).stream "wf" "r1" =
      .ok (some s) ∧ timer.Guards s ∧ timer.directive.id = Sample.earlyEvent.id ∧
    TimerMsgHandler.handle 10 Sample.env timer 1 = some d ∧
    ∃ records, plan Sample.config.defaults Sample.env d { runState := s } = .ok records ∧
      TimesOut s records := by
  have hreach := Sample.reachableBy_worldBy (EchoGuard "wf" "r1") Sample.early
  -- the run is evaluated once for all that is read off it
  obtain ⟨hs, ⟨c, hc, hrun, htimer⟩, hstarts⟩ :
      getRunState (Sample.worldBy (EchoGuard "wf" "r1") Sample.early).stream "wf" "r1" =
        .ok (some (Sample.eventStep "r1" 24)) ∧
      (∃ c ∈ (Sample.worldBy (EchoGuard "wf" "r1") Sample.early).journal,
        c.directive.OfRun "wf" "r1" ∧ .timer (Sample.eventTimer { Sample.run with
          startedAt := some 1000000, historySeqID := 19 }) ∈ c.records) ∧
      (Sample.worldBy (EchoGuard "wf" "r1") Sample.early).journal.countP
        (Commit.starts "wf" "r1") ≤ 1 := by decide +kernel
  obtain ⟨d, hd, -, hplan⟩ := (timeout_takes_effect hreach hstarts).2 _ hs rfl c hc hrun
    _ htimer (Sample.eventTimer_guards ..) 10 Sample.env 1
  exact ⟨_, _, d, hs, Sample.eventTimer_guards .., rfl, hd, hplan _ _ _ rfl⟩

namespace Sample

/-- The run `r2` of the workflow before it has been started. -/
def laterRun : RunInfo := { run with id := "r2" }

/-- An event is accepted during the first step of a run, which is then terminated. A later run is
created and started, waits, and dispatches the event. -/
def astray : List Label :=
  .admitRun run :: .saveRun 0 :: .publish start :: handled 2 ++
    .publish (event "pay") :: handled 10 ++
    .publish (directive "stop" .terminate (.terminate "no longer needed")) :: handled 13 ++
    .admitRun laterRun :: .saveRun 0 :: .publish (later start) :: handled 19 ++
    .publish (later (stepResult "done" .wait (.wait 0 ""))) :: handled 27 ++ handled 34

/-- Nobody makes descriptions of the two runs up. -/
def CarriesBoth (w : World) (a : Label) : Prop :=
  CarriesCopies "wf" "r1" w a ∧ CarriesCopies "wf" "r2" w a

instance (w : World) (a : Label) : Decidable (CarriesBoth w a) :=
  inferInstanceAs (Decidable (_ ∧ _))

end Sample

/-- The timer of a step of the run `r2` is turned into a directive of the ended run `r1`, for which
nothing is planned. -/
theorem timeout_goes_astray :
    ReachableBy Sample.config Sample.CarriesBoth (Sample.worldBy Sample.CarriesBoth Sample.astray) ∧
    (Sample.worldBy Sample.CarriesBoth Sample.astray).journal.countP (Commit.starts "wf" "r2") = 1 ∧
    ∃ s s₁ timer d,
      getRunState (Sample.worldBy Sample.CarriesBoth Sample.astray).stream "wf" "r2" =
        .ok (some s) ∧
      getRunState (Sample.worldBy Sample.CarriesBoth Sample.astray).stream "wf" "r1" =
        .ok (some s₁) ∧
      (∃ c ∈ (Sample.worldBy Sample.CarriesBoth Sample.astray).journal,
        c.directive.OfRun "wf" "r2" ∧ .timer timer ∈ c.records) ∧
      s.isTerminal = false ∧ timer.Guards s ∧
      TimerMsgHandler.handle 10 Sample.env timer 1 = some d ∧ d.OfRun "wf" "r1" ∧
      plan Sample.config.defaults Sample.env d { runState := s₁ } = .ok [] := by
  obtain ⟨hstarts, hs, hs₁, hcommit⟩ :
      (Sample.worldBy Sample.CarriesBoth Sample.astray).journal.countP (Commit.starts "wf" "r2") =
        1 ∧
      getRunState (Sample.worldBy Sample.CarriesBoth Sample.astray).stream "wf" "r2" =
        .ok (some (Sample.eventStep "r2" 38)) ∧
      getRunState (Sample.worldBy Sample.CarriesBoth Sample.astray).stream "wf" "r1" =
        .ok (some
          { wfID := "wf", runID := "r1", kind := .terminate, enteredAt := 1000000,
            startedAt := some 1000000, seqID := 16 }) ∧
      ∃ c ∈ (Sample.worldBy Sample.CarriesBoth Sample.astray).journal,
        c.directive.OfRun "wf" "r2" ∧
          .timer (Sample.eventTimer { Sample.started with historySeqID := 33 }) ∈ c.records := by
    decide +kernel
  exact ⟨Sample.reachableBy_worldBy _ _, hstarts, _, _, _, _, hs, hs₁, hcommit, rfl,
    Sample.eventTimer_guards .., rfl, ⟨rfl, rfl⟩, rfl⟩

end Grctl
