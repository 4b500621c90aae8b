import Grctl.Run.Subjects
import Grctl.Run.Timer
import Grctl.System.Serial

/-!
# Stale timers

A timer is stale when it was set for a directive that is not the active one of its run, or when
the run is not in the state its kind is about. The record builders notice this, but report it as
an ordinary planning error, and a planning error fails the run. A timer that was delivered too
often is not looked at at all.

## Main definitions

* `Timer.Stale`, `runData`, `FreshIDs`.

## Main results

* `stale_timer_keeps_run_iff`: when a stale timer leaves a run as it is.
* `stale_timer_fails_run`: it can fail a run.
-/

namespace Grctl

open SubjectLog Lts

/-- The timer no longer belongs to the state `s` of its run. -/
def Timer.Stale (timer : Timer) (s : RunState) : Prop :=
  timer.directive.id ≠ s.activeDirectiveID ∨
    timer.kind = .stepTimeout ∧ s.kind ≠ .step ∨ timer.kind = .waitTimeout ∧ s.kind ≠ .wait

/-- The subjects of the state, the description, the key-value pairs, the worker tasks and the
history of a run. -/
def Subject.isDataOf (wf : WFID) (run : RunID) : Subject → Bool
  | .runState wf' run' | .runInfo _ wf' run' | .kv wf' run' _ | .workerTask _ wf' run'
  | .history wf' run' => wf' == wf && run' == run
  | _ => false

/-- The stored state, descriptions, key-value pairs, worker tasks and history of a run. -/
def runData (l : Stream) (wf : WFID) (run : RunID) : List StreamEntry :=
  l.entries.filter fun e => e.subject.isDataOf wf run

instance (timer : Timer) (s : RunState) : Decidable (timer.Stale s) :=
  inferInstanceAs (Decidable (_ ∨ _))

/-- The kinds of background tasks that a failed run asks for. -/
def failTaskKinds : List BackgroundTaskKind :=
  [.workerTerminateRun, .notifyParentComplete, .purgeRunResidue]

/-- The identifiers that a timer handler and the run manager draw while they handle a timer are
new: no stored message has an identifier that is derived from them. -/
structure FreshIDs (l : Stream) (timerEnv failEnv : Readings) : Prop where
  timer : ∀ kind ∈ failTaskKinds, l.seen (deriveBgTaskID timerEnv.newID kind) = false
  fail : ∀ kind ∈ failTaskKinds, l.seen (deriveBgTaskID failEnv.newID kind) = false
  ne : ∀ kind ∈ failTaskKinds, deriveBgTaskID failEnv.newID kind ≠ timerEnv.newID

section RunData

variable {l : Stream} {wf : WFID} {run : RunID}

theorem runData_appendAll_eq_iff {ms : List Msg} :
    runData (l.appendAll ms) wf run = runData l wf run ↔
      ∀ m ∈ ms, m.subject.isDataOf wf run = false := by
  rw [runData, Log.entries_appendAll, List.filter_append, runData, List.append_right_eq_self,
    List.filter_eq_nil_iff]
  constructor
  · intro h m hm
    obtain ⟨e, he, rfl⟩ := exists_mem_stamp (n := l.length) hm
    simpa using h e he
  · intro h e he
    simpa using h _ (mem_stamp he).1

theorem runData_publishDirective (dup : Stream → DirectiveID → Bool) (l : Stream) (d : Directive)
    (wf : WFID) (run : RunID) :
    runData (publishDirective dup l d) wf run = runData l wf run := by
  rcases publishDirective_eq dup l d with h | h <;> rw [h]
  exact runData_appendAll_eq_iff.mpr
    (by simp [Directive.message, Directive.subject, Subject.isDataOf])

end RunData

/-! ### The snapshot of a call that handles a published directive -/

section Snapshot

variable {w : World} {d : Directive} {wf : WFID} {run : RunID} {s : Option RunState}

theorem getRunState_publishDirective (dup : Stream → DirectiveID → Bool) (l : Stream)
    (d : Directive) (wf : WFID) (run : RunID) :
    getRunState (publishDirective dup l d) wf run = getRunState l wf run := by
  rcases publishDirective_eq dup l d with h | h <;> rw [h]
  refine getRunState_congr (Log.lastOn_appendAll_of_ne l fun m hm => ?_)
  rw [List.mem_singleton.mp hm]
  exact fun h => by cases h

theorem exists_getNextEvent (hw : Sound w) (dup : Stream → DirectiveID → Bool) (d : Directive)
    (wf : WFID) (n : ℕ) : ∃ o, getNextEvent (publishDirective dup w.stream d) wf n = .ok o := by
  have hfirst : (publishDirective dup w.stream d).firstFrom (.inbox wf) (startSeq n) =
      w.stream.firstFrom (.inbox wf) (startSeq n) := by
    rcases publishDirective_eq dup w.stream d with h | h <;> rw [h]
    refine Log.firstFrom_appendAll_of_ne w.stream _ fun m hm => ?_
    rw [List.mem_singleton.mp hm]
    exact fun h => by cases h
  rw [getNextEvent, hfirst]
  split
  · exact ⟨none, rfl⟩
  · rename_i e he
    obtain ⟨hmem, -, hsubject, -⟩ := Log.mem_of_firstFrom he
    obtain ⟨d₀, hdata, ⟨-, -, ev, hmsg⟩, -⟩ := (hw.messages e hmem).inbox wf hsubject
    exact ⟨_, by simp only [readInboxEntry, hdata, hmsg]; rfl⟩

/-- A snapshot that is taken right after a directive has been published. -/
theorem exists_getStateSnapshot (hw : Sound w) (dup : Stream → DirectiveID → Bool) (d : Directive)
    (hs : getRunState w.stream wf run = .ok s) :
    ∃ sn, getStateSnapshot (publishDirective dup w.stream d) wf run = .ok sn ∧
      sn.runState = s.getD .zero := by
  obtain ⟨o, ho⟩ := exists_getNextEvent hw dup d wf (s.getD .zero).lastEventSeqID
  have hsn : getStateSnapshot (publishDirective dup w.stream d) wf run = .ok
      { runState := s.getD .zero
        event := o.getD .zero
        lastHistorySeqID := getLastHistorySeqID (publishDirective dup w.stream d) wf run } := by
    simp only [getStateSnapshot, getRunState_publishDirective, hs, bind_eq_ok, pure_eq_ok]
    exact ⟨s, rfl, o, ho, rfl⟩
  exact ⟨_, hsn, rfl⟩

end Snapshot

/-! ### The failure of a run -/

section Failure

variable {cfg : Manager.Config} {env failEnv timerEnv : Readings} {timer : Timer}
  {d src : Directive} {sn : StateSnapshot} {cur : RunState} {error : ErrorDetails} {l : Stream}

theorem failRun_of_startedAt_none (env : Readings) (cur : RunState) (hmsg : src.msg = .fail error)
    (hstarted : src.runInfo.startedAt = none) :
    ∃ cause, Records.failRun env src cur = .error (.error cause) := by
  simp only [Records.failRun, hmsg, RunInfo.fail, RunInfo.finishStarted, hstarted]
  exact ⟨_, rfl⟩

/-- The background tasks of a failed run: their identifiers are derived from the directive that
fails it and differ from each other. -/
theorem exists_failTasks (src : Directive) (cur : RunState) (error : ErrorDetails) :
    ∃ tasks : List BackgroundTask,
      Records.workerTerminateRecords src cur ++
        Records.parentCallbackRecords src .failed .nil (some error) ++ [Records.purgeRecord src] =
        tasks.map .backgroundTask ∧ (tasks.map (·.deduplicationID)).Nodup ∧
      ∀ t ∈ tasks, ∃ kind ∈ failTaskKinds, t.deduplicationID = deriveBgTaskID src.id kind := by
  have hids (k k' : BackgroundTaskKind) (h : k.text ≠ k'.text) :
      deriveBgTaskID src.id k ≠ deriveBgTaskID src.id k' := by
    simpa [deriveBgTaskID] using h
  have hwn := hids .workerTerminateRun .notifyParentComplete (by decide)
  have hwp := hids .workerTerminateRun .purgeRunResidue (by decide)
  have hnp := hids .notifyParentComplete .purgeRunResidue (by decide)
  unfold Records.workerTerminateRecords Records.parentCallbackRecords Records.purgeRecord
    newWorkerTerminateRunTask newNotifyParentCompleteTask newPurgeRunResidueTask newTask
  -- a task for the worker and one for the parent, where they are known
  split <;> split
  · exact ⟨[_, _], rfl, by simp [hnp], by simp [failTaskKinds]⟩
  · exact ⟨[_], rfl, by simp, by simp [failTaskKinds]⟩
  · exact ⟨[_, _, _], rfl, by simp [hwn, hwp, hnp], by simp [failTaskKinds]⟩
  · exact ⟨[_, _], rfl, by simp [hwp], by simp [failTaskKinds]⟩

/-- The failure of a run is committed when its state is the current one, the stream takes its
description and the identifiers of its background tasks are new. -/
theorem commit_failRun (env : Readings) {dup : Stream → DirectiveID → Bool}
    (hdup : ∀ l id, dup l id = true → Log.seen l id = true)
    (hrun : getRunState l cur.wfID cur.runID = .ok (some cur))
    (hof : StateOf src.runInfo.wfID src.runInfo.id cur) (hnamed : cur.wfID ≠ "" ∧ cur.runID ≠ "")
    (htaken : src.runInfo.Taken)
    (hnew : ∀ kind ∈ failTaskKinds, l.seen (deriveBgTaskID src.id kind) = false)
    (hmsg : src.msg = .fail error) {t : Time} (hstarted : src.runInfo.startedAt = some t) :
    ∃ records, Records.failRun env src cur = .ok records ∧
      commit dup l records = .ok (l.appendAll (records.flatMap Record.messages)) ∧
      .runState (Records.finished env.now cur .fail) cur.seqID ∈ records := by
  obtain ⟨ri, h, hfail⟩ := Records.exists_failRun env cur hmsg hstarted
  have hcur : cur.Housed := fun _ _ => by
    rw [hof.wfID, hof.runID]
    exact htaken.texts.2
  have hfiled := Records.filed_failRun htaken hcur hfail
  obtain ⟨tasks, htasks, hnodup, hids⟩ := exists_failTasks src cur error
  rw [htasks] at hfail hfiled
  have hmsgs : (tasks.map Record.backgroundTask).flatMap Record.messages = tasks.map fun t =>
      { subject := .bgTask, data := .bgTask t, msgId := some t.deduplicationID } := by
    rw [List.flatMap_map]
    exact List.flatMap_pure_eq_map ..
  have hstates (s : RunState) (n : ℕ)
      (hmem : Record.runState s n ∈ [Record.runInfo ri 0, .history h,
        .runState (Records.finished env.now cur .fail) cur.seqID,
        .runError src.runInfo.wfID src.runInfo.id error] ++ tasks.map .backgroundTask) :
      s.wfID ≠ "" ∧ s.runID ≠ "" := by
    simp at hmem
    rw [hmem.1]
    exact hnamed
  refine ⟨_, hfail, commit_of_log hstates (hfiled.taken hstates (by simp))
    (by simp [Record.messages]) ?_, by simp⟩
  · rw [List.flatMap_append, hmsgs]
    refine Log.commit_of_fresh hdup ?_ ?_ ?_ ?_
    · simpa [Record.messages, List.filterMap_map] using hnodup
    · have hseen (t : BackgroundTask) (ht : t ∈ tasks) : l.seen t.deduplicationID = false := by
        obtain ⟨kind, hkind, hid⟩ := hids t ht
        exact hid ▸ hnew kind hkind
      simpa [Record.messages] using hseen
    · -- of the expectations only the one on the run state is set
      have hlast (n : ℕ) (hn : expectedLastHeader cur.seqID = some n) :
          l.lastSeq (.runState cur.wfID cur.runID) = n := by
        rw [lastSeq_of_getRunState hrun]
        unfold expectedLastHeader at hn
        split_ifs at hn
        exact Option.some.inj hn
      simpa [Record.messages, expectedLastHeader, Records.finished] using hlast
    · have htasks :
          (tasks.map fun t => (⟨.bgTask, .bgTask t, some t.deduplicationID, none⟩ : Msg)).Pairwise
            fun m m' => m'.expectedLast.isSome → m.subject ≠ m'.subject := by
        rw [List.pairwise_map]
        exact List.pairwise_of_forall fun _ _ h => absurd h (by simp)
      simpa [Record.messages] using htasks

/-- A stale timer leads to a failure of the run, on behalf of the directive that the handler has
published or of the one that `failAndCommit` makes up. -/
theorem handleRecords_of_stale (cfg : Manager.Config) (env failEnv : Readings)
    (hd : TimerMsgHandler.FiredAs timerEnv timer d)
    (hlive : sn.runState.isTerminal = false) (hstale : timer.Stale sn.runState) :
    ∃ fenv src error, src.msg = .fail error ∧ src.runInfo = timer.directive.runInfo ∧
      (src.id = timerEnv.newID ∨ src.id = failEnv.newID) ∧
      handleRecords cfg.defaults env failEnv d sn = Records.failRun fenv src sn.runState := by
  -- a planning error fails the run
  have unexpected {cause : String} (hplan : plan cfg.defaults env d sn = .error (.error cause)) :
      ∃ fenv src error, src.msg = .fail error ∧ src.runInfo = timer.directive.runInfo ∧
        (src.id = timerEnv.newID ∨ src.id = failEnv.newID) ∧
        handleRecords cfg.defaults env failEnv d sn = Records.failRun fenv src sn.runState :=
    ⟨failEnv, Records.failDirective failEnv d _, _, rfl, hd.runInfo, .inr rfl,
      by rw [handleRecords, hplan]; rfl⟩
  cases hd with
  | stepTimeout hkind =>
    have hcheck : sn.runState.kind ≠ .step ∨
        sn.runState.activeDirectiveID ≠ timer.directive.id := by
      rcases hstale with hne | ⟨-, hne⟩ | ⟨hk, -⟩
      · exact .inr hne.symm
      · exact .inl hne
      · simp [hkind] at hk
    exact unexpected
      (by simp only [plan, hlive, planTransition, Records.stepTimeout, if_pos hcheck]; rfl)
  | waitTimeout hkind =>
    have hcheck : sn.runState.kind ≠ .wait ∨
        sn.runState.activeDirectiveID ≠ timer.directive.id := by
      rcases hstale with hne | ⟨hk, -⟩ | ⟨-, hne⟩
      · exact .inr hne.symm
      · simp [hkind] at hk
      · exact .inl hne
    exact unexpected
      (by simp only [plan, hlive, planTransition, Records.waitTimeout, if_pos hcheck]; rfl)
  | @failure cause =>
    generalize hd : TimerMsgHandler.applyFailure timerEnv timer.directive cause = d at *
    have hmsg : d.msg = .fail { type := "TimerExhausted", message := cause } := hd ▸ rfl
    have hinfo : d.runInfo = timer.directive.runInfo := hd ▸ rfl
    have hplan : plan cfg.defaults env d sn = Records.failRun env d sn.runState := by
      subst hd
      simp only [plan, hlive, planTransition]
      rfl
    cases hstarted : timer.directive.runInfo.startedAt with
    | none =>
      obtain ⟨_, hfail⟩ := failRun_of_startedAt_none env sn.runState hmsg (hinfo ▸ hstarted)
      exact unexpected (hplan.trans hfail)
    | some t =>
      obtain ⟨_, _, hfail⟩ := Records.exists_failRun env sn.runState hmsg (hinfo ▸ hstarted)
      exact ⟨env, d, _, hmsg, hinfo, .inl (hd ▸ rfl), by rw [handleRecords, hplan, hfail]⟩

end Failure

/-! ### Firing a stale timer -/

section Fire

variable {cfg : Manager.Config} {w : World} {timerEnv env failEnv : Readings} {timer : Timer}
  {d : Directive} {sn : StateSnapshot} {s : Option RunState} {l : Stream}

/-- Firing a timer whose directive the stream does not take does nothing. -/
theorem fire_of_not_taken (cfg : Manager.Config) (timerEnv env failEnv : Readings)
    (numDelivered : ℕ) (l : Stream) (hnot : ¬ timer.directive.subject.Taken) :
    TimerMsgHandler.fire cfg timerEnv env failEnv timer numDelivered l = .ok l := by
  rw [TimerMsgHandler.fire]
  split
  · rfl
  · rename_i d hd
    have hsubject : d.subject = timer.directive.subject := by
      simp only [Directive.subject, (TimerMsgHandler.firedAs_of_handle hd).runInfo]
    rw [if_neg (hsubject ▸ hnot)]

/-- Firing a timer handles the directive it is turned into, with the current state of its run. -/
theorem exists_fire (cfg : Manager.Config) (timerEnv env failEnv : Readings) (numDelivered : ℕ)
    (hw : Sound w) (htaken : timer.directive.subject.Taken) (hid : timer.directive.id ≠ "")
    (hkind : timer.kind = .stepTimeout ∨ timer.kind = .waitTimeout)
    (hs : getRunState w.stream timer.directive.runInfo.wfID timer.directive.runInfo.id = .ok s) :
    ∃ d sn, TimerMsgHandler.FiredAs timerEnv timer d ∧ sn.runState = s.getD .zero ∧
      TimerMsgHandler.fire cfg timerEnv env failEnv timer numDelivered w.stream =
        (Manager.handleSnapshot cfg env failEnv d sn
          (publishDirective cfg.dup w.stream d)).map (·.stream) := by
  obtain ⟨d, hd, hfired⟩ := TimerMsgHandler.exists_handle hid hkind
  obtain ⟨sn, hsn, hstate⟩ := exists_getStateSnapshot hw cfg.dup d hs
  refine ⟨d, sn, hfired, hstate, ?_⟩
  have hsubject : d.subject = timer.directive.subject := by
    simp only [Directive.subject, hfired.runInfo]
  rw [TimerMsgHandler.fire, hd]
  simp only [hsubject, if_pos htaken, Manager.handle, hfired.runInfo, hsn]

/-- A stale timer of a run that has ended, that was never started as far as the timer or the store
knows, or whose description the stream does not take, commits nothing. -/
theorem handleSnapshot_of_idle (hd : TimerMsgHandler.FiredAs timerEnv timer d)
    (hstale : timer.Stale sn.runState)
    (hidle : sn.runState = .zero ∨ sn.runState.isTerminal = true ∨
      timer.directive.runInfo.startedAt = none ∨ ¬ timer.directive.runInfo.Taken) :
    ∃ handled, Manager.handleSnapshot cfg env failEnv d sn l = .ok handled ∧
      handled.stream = l := by
  cases hterm : sn.runState.isTerminal with
  | true =>
    have hrec : handleRecords cfg.defaults env failEnv d sn = .ok [] := by
      simp [handleRecords, plan, hterm]
    exact ⟨_, by rw [Manager.handleSnapshot, hrec], rfl⟩
  | false =>
    obtain ⟨fenv, src, error, hmsg, hinfo, -, hrec⟩ :=
      handleRecords_of_stale cfg env failEnv hd hterm hstale
    rw [Manager.handleSnapshot, hrec]
    cases hstarted : timer.directive.runInfo.startedAt with
    | none =>
      obtain ⟨cause, hfail⟩ := failRun_of_startedAt_none fenv sn.runState hmsg (hinfo ▸ hstarted)
      exact ⟨_, by rw [hfail], rfl⟩
    | some t =>
      obtain ⟨records, hfail, hmem, ri, hsame, hri⟩ : ∃ records,
          Records.failRun fenv src sn.runState = .ok records ∧
          .runState (Records.finished fenv.now sn.runState .fail) sn.runState.seqID ∈ records ∧
          ∃ ri : RunInfo, ri.SameRun timer.directive.runInfo ∧ .runInfo ri 0 ∈ records := by
        obtain ⟨_, _, hfail⟩ := Records.exists_failRun fenv sn.runState hmsg (hinfo ▸ hstarted)
        obtain ⟨_, ri, _, -, hri, -, hrecords⟩ := Records.failRun_eq_ok hfail
        exact ⟨_, hfail, by simp, ri, hinfo ▸ (RunInfo.sameRun_of_finishStarted hri).1,
          by rw [hrecords]; simp⟩
      refine ⟨Manager.commit cfg l records, by rw [hfail], ?_⟩
      rcases Manager.commit_cases cfg l records with ⟨l', hcommit, -⟩ | ⟨hl, -⟩
      · have hrefused : sn.runState = .zero ∨ ¬ timer.directive.runInfo.Taken := by
          simpa [hterm, hstarted] using hidle
        rcases hrefused with hzero | hnot
        · -- the encoder refuses a state that is derived from the zero state
          refine absurd ?_ ((commit_eq_ok hcommit).2.2 _ _ hmem).1
          rw [hzero]
          rfl
        · have htaken : ri.Taken := taken_of_commit hcommit hri _ List.mem_cons_self
          exact absurd (hsame.taken_iff.1 htaken) hnot
      · exact hl

theorem seen_publishDirective {id : DirectiveID} (dup : Stream → DirectiveID → Bool)
    (hseen : l.seen id = false) (hne : id ≠ d.id) :
    (publishDirective dup l d).seen id = false := by
  rcases publishDirective_eq dup l d with h | h <;> rw [h]
  · exact hseen
  · rw [Log.append, Log.seen_appendAll, hseen]
    simpa [Directive.message] using hne

theorem deriveBgTaskID_ne (id : DirectiveID) (kind : BackgroundTaskKind) :
    deriveBgTaskID id kind ≠ id := by
  intro h
  have := congrArg String.length h
  simp [deriveBgTaskID] at this

/-- A stale timer of a started run that has not ended fails it. -/
theorem handleSnapshot_of_live (env : Readings)
    (hdup : ∀ l id, cfg.dup l id = true → Log.seen l id = true)
    (hw : Sound w) (hfresh : FreshIDs w.stream timerEnv failEnv)
    (hd : TimerMsgHandler.FiredAs timerEnv timer d) (hstale : timer.Stale sn.runState)
    (hrun : getRunState w.stream timer.directive.runInfo.wfID timer.directive.runInfo.id =
      .ok (some sn.runState))
    (hlive : sn.runState.isTerminal = false) {t : Time}
    (hstarted : timer.directive.runInfo.startedAt = some t)
    (htaken : timer.directive.runInfo.Taken) :
    ∃ (handled : Manager.Handled) (records : List Record),
      Manager.handleSnapshot cfg env failEnv d sn
        (publishDirective cfg.dup w.stream d) = .ok handled ∧
      handled.stream =
        (publishDirective cfg.dup w.stream d).appendAll (records.flatMap Record.messages) ∧
      ∃ state n, Record.runState state n ∈ records ∧
        state.wfID = timer.directive.runInfo.wfID ∧ state.runID = timer.directive.runInfo.id := by
  obtain ⟨fenv, src, error, hmsg, hinfo, hsrc, hrec⟩ :=
    handleRecords_of_stale cfg env failEnv hd hlive hstale
  obtain ⟨hof, hnamed⟩ := hw.stateOf (storedState_of_getRunState hrun)
  have hnew (kind : BackgroundTaskKind) (hkind : kind ∈ failTaskKinds) :
      (publishDirective cfg.dup w.stream d).seen (deriveBgTaskID src.id kind) = false := by
    rcases hsrc with hsrc | hsrc <;> rw [hsrc]
    · exact seen_publishDirective _ (hfresh.timer kind hkind) (hd.id ▸ deriveBgTaskID_ne _ kind)
    · exact seen_publishDirective _ (hfresh.fail kind hkind) (hd.id ▸ hfresh.ne kind hkind)
  obtain ⟨records, hfail, hcommit, hmem⟩ := commit_failRun fenv hdup
    (by rw [getRunState_publishDirective, hof.wfID, hof.runID, hrun]) (hinfo ▸ hof)
    (by rw [hof.wfID, hof.runID]; exact hnamed) (hinfo ▸ htaken) hnew hmsg (hinfo ▸ hstarted)
  refine ⟨_, records, by rw [Manager.handleSnapshot, hrec, hfail], ?_, _, _, hmem, hof.wfID,
    hof.runID⟩
  rw [Manager.commit, hcommit]

end Fire

/-- When a stale timer leaves a run as it is. Fire a step or wait timer, delivered any number of
times, that does not belong to the current state of its run, and handle the directive it leads
to. The state, the description, the key-value pairs, the worker tasks and the history of the run
are unchanged exactly if the timer carries no directive, the run has no state or has ended, or the
description in the timer has no start time or one of its identifiers is refused by the stream. -/
theorem stale_timer_keeps_run_iff {cfg : Manager.Config} {w : World} (h : Reachable cfg w)
    (hdup : ∀ l id, cfg.dup l id = true → Log.seen l id = true) (timer : Timer)
    (hkind : timer.kind = .stepTimeout ∨ timer.kind = .waitTimeout) (numDelivered : ℕ)
    (timerEnv env failEnv : Readings) (hfresh : FreshIDs w.stream timerEnv failEnv)
    (wf : WFID) (run : RunID) (hrun : timer.directive.OfRun wf run) (s : Option RunState)
    (hs : getRunState w.stream wf run = .ok s) (hstale : timer.Stale (s.getD .zero)) :
    (∃ l, TimerMsgHandler.fire cfg timerEnv env failEnv timer numDelivered w.stream = .ok l ∧
      runData l wf run = runData w.stream wf run) ↔
    timer.directive.id = "" ∨ s = none ∨ (∃ s₀, s = some s₀ ∧ s₀.isTerminal = true) ∨
      timer.directive.runInfo.startedAt = none ∨ ¬ timer.directive.runInfo.Taken := by
  have hw := sound_of_reachableBy h
  obtain ⟨rfl, rfl⟩ := hrun
  by_cases hid : timer.directive.id = ""
  · simp [TimerMsgHandler.fire, TimerMsgHandler.handle, hid]
  by_cases hsubject : timer.directive.subject.Taken
  swap
  · have hnot : ¬ timer.directive.runInfo.Taken := fun htaken => hsubject htaken.texts
    exact iff_of_true ⟨_, fire_of_not_taken cfg timerEnv env failEnv numDelivered _ hsubject, rfl⟩
      (.inr (.inr (.inr (.inr hnot))))
  obtain ⟨d, sn, hfired, hstate, hfire⟩ :=
    exists_fire cfg timerEnv env failEnv numDelivered hw hsubject hid hkind hs
  rw [← hstate] at hstale
  rw [hfire]
  have hpublish := runData_publishDirective cfg.dup w.stream d timer.directive.runInfo.wfID
    timer.directive.runInfo.id
  constructor
  · rintro ⟨l, hl, hdata⟩
    by_contra hcond
    obtain ⟨-, hsome, hlive, hstarted, htaken⟩ : _ ∧ _ ∧ _ ∧ _ ∧ _ := by
      simpa only [not_or] using hcond
    obtain ⟨s₀, rfl⟩ := Option.ne_none_iff_exists'.mp hsome
    obtain ⟨t, ht⟩ := Option.ne_none_iff_exists'.mp hstarted
    have hs₀ : sn.runState = s₀ := hstate
    obtain ⟨handled, records, hhandled, hstream, state, n, hmem, hwf, hrun⟩ :=
      handleSnapshot_of_live env hdup hw hfresh hfired hstale (hs₀ ▸ hs)
        (by simpa [hs₀] using hlive) ht (not_not.1 htaken)
    rw [hhandled] at hl
    cases hl
    simp only [hstream] at hdata
    rw [← hpublish, runData_appendAll_eq_iff] at hdata
    have := hdata _ (List.mem_flatMap.mpr ⟨_, hmem, List.mem_singleton_self _⟩)
    simp [Subject.isDataOf, hwf, hrun] at this
  · intro hcond
    have hidle : sn.runState = .zero ∨ sn.runState.isTerminal = true ∨
        timer.directive.runInfo.startedAt = none ∨ ¬ timer.directive.runInfo.Taken := by
      rcases hcond with h | rfl | ⟨s₀, rfl, hs₀⟩ | h
      · exact absurd h hid
      · exact .inl hstate
      · exact .inr (.inl (by rw [hstate]; exact hs₀))
      · exact .inr (.inr h)
    obtain ⟨handled, hhandled, hl⟩ := handleSnapshot_of_idle hfired hstale hidle
    exact ⟨handled.stream, by rw [hhandled]; rfl, by rw [hl, hpublish]⟩

/-- The timer of the wait that the sample run was in. -/
def Sample.waitTimer : Timer where
  id := "wait_timeout.next.done"
  kind := .waitTimeout
  wfID := "wf"
  createdAt := env.now
  expiresAt := env.now.addMilliseconds 86400000
  stepName := ""
  directive :=
    { id := "next.done"
      timestamp := env.now
      kind := .wait
      runInfo := { started with historySeqID := 3 }
      msg := .wait 0 "" }

/-- Once the sample run has ended, the timer of its wait is harmless. -/
theorem stale_timer_keeps_terminated_run :
    ∃ l, TimerMsgHandler.fire Sample.config Sample.env Sample.env Sample.env Sample.waitTimer 1
        (Sample.world Sample.terminated).stream = .ok l ∧
      runData l "wf" "r1" = runData (Sample.world Sample.terminated).stream "wf" "r1" := by
  have hreach := Sample.reachable_world Sample.terminated
  generalize hw : Sample.world Sample.terminated = w at hreach ⊢
  obtain ⟨hnew, hne, hs, hstale, hended⟩ :
      (∀ kind ∈ failTaskKinds, w.stream.seen (deriveBgTaskID Sample.env.newID kind) = false) ∧
      (∀ kind ∈ failTaskKinds, deriveBgTaskID Sample.env.newID kind ≠ Sample.env.newID) ∧
      getRunState w.stream "wf" "r1" = .ok (some (currentState w.stream "wf" "r1")) ∧
      Sample.waitTimer.Stale (currentState w.stream "wf" "r1") ∧
      (currentState w.stream "wf" "r1").isTerminal = true := by
    rw [← hw]
    decide +kernel
  exact (stale_timer_keeps_run_iff hreach (fun _ _ h => h) Sample.waitTimer (.inr rfl) 1 Sample.env
    Sample.env Sample.env ⟨hnew, hnew, hne⟩ "wf" "r1" ⟨rfl, rfl⟩ _ hs hstale).mpr
      (.inr (.inr (.inl ⟨_, rfl, hended⟩)))

/-- A run that waits, is woken by an event and works on it is failed by the timer of its wait. -/
theorem stale_timer_fails_run :
    (∃ e ∈ (Sample.world Sample.woken).stream.entries, e.data = .timer Sample.waitTimer) ∧
    Sample.waitTimer.Stale (currentState (Sample.world Sample.woken).stream "wf" "r1") ∧
    (currentState (Sample.world Sample.woken).stream "wf" "r1").kind = .step ∧
    (TimerMsgHandler.fire Sample.config Sample.env Sample.env Sample.env Sample.waitTimer 1
      (Sample.world Sample.woken).stream).map (fun l => (currentState l "wf" "r1").kind) =
      .ok .fail := by
  decide +kernel

end Grctl
