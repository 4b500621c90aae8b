import Grctl.System.Progress

/-!
# Runs that have ended

A directive for a run that has ended plans nothing, and a transition from an older state is
refused by the stream. But the batch of an event carries no run state, and the one of a start
does not compare it: what they were planned from may be out of date when they commit. An event
whose snapshot was taken before the run ended is still stored in the inbox and in the history
afterwards, and can still wake the run.

If these calls see that the run has ended, it stays silent: no batch of it commits any more, and
the event that closed its history is the last one that the server has written there.

A directive that plans nothing is not acknowledged, though. The store refuses an empty batch, the
manager takes this for a failure that may pass, and the queue delivers the directive again.

## Main definitions

* `historyIn`: what batches have written into the history of a run.
* `EndGuard`: a call that commits an event or a start sees whether the run has ended.
* `Directive.Idle`: a directive with nothing to do.

## Main results

* `finished_run_silent`: what happens after a run has ended.
* `idle_directive_retried`: what happens to a directive with nothing to do.
-/

namespace Grctl

open SubjectLog Lts

/-- The events that a batch writes into the history of a run. -/
def Commit.events (wf : WFID) (run : RunID) (c : Commit) : List HistoryEvent :=
  (c.records.filterMap Record.history?).filter fun h => h.wfID = wf ∧ h.runID = run

/-- The events that batches have written into the history of a run. -/
def historyIn (wf : WFID) (run : RunID) (journal : List Commit) : List HistoryEvent :=
  journal.flatMap (Commit.events wf run)

/-- A terminal state of the run has been committed. -/
def EndedIn (wf : WFID) (run : RunID) (journal : List Commit) : Prop :=
  ∃ s ∈ statesIn wf run journal, s.isTerminal = true

instance (wf : WFID) (run : RunID) (journal : List Commit) : Decidable (EndedIn wf run journal) :=
  inferInstanceAs (Decidable (∃ s ∈ statesIn wf run journal, _))

/-- If the run has ended, the snapshot of a call that handles an event or a start shows it. -/
def SeesEnd (wf : WFID) (run : RunID) (l : Stream) (d : Directive) (sn : StateSnapshot) : Prop :=
  d.OfRun wf run → d.kind = .event ∨ d.kind = .start →
    (currentState l wf run).isTerminal = true → sn.runState.isTerminal = true

instance (wf : WFID) (run : RunID) (l : Stream) (d : Directive) (sn : StateSnapshot) :
    Decidable (SeesEnd wf run l d sn) :=
  inferInstanceAs (Decidable (_ → _ → _ → _))

/-- Every call that comes to its commit sees whether the run has ended, if it handles an event or
a start of it. -/
def EndGuard (wf : WFID) (run : RunID) (w : World) (a : Label) : Prop :=
  ∀ k ∈ a.finished?, ∀ p ∈ w.ready? k, SeesEnd wf run w.stream p.1 p.2

instance (wf : WFID) (run : RunID) (w : World) (a : Label) : Decidable (EndGuard wf run w a) :=
  inferInstanceAs (Decidable (∀ k ∈ a.finished?, _))

/-- The history of a run is closed by its last event exactly if the run has ended. -/
structure Silent (wf : WFID) (run : RunID) (journal : List Commit) : Prop where
  last : EndedIn wf run journal →
    ∃ s, (statesIn wf run journal).getLast? = some s ∧ s.isTerminal = true
  closed : EndedIn wf run journal → ∃ hs h, historyIn wf run journal = hs ++ [h] ∧
    h.kind.closes = true ∧ ∀ h' ∈ hs, h'.kind.closes = false
  unclosed : ¬ EndedIn wf run journal → ∀ h ∈ historyIn wf run journal, h.kind.closes = false

/-- A batch of the run commits before the run has ended, and leaves it silent. -/
structure Quiet (wf : WFID) (run : RunID) (pre : List Commit) (c : Commit) : Prop where
  silent : Silent wf run (pre ++ [c])
  other : EndedIn wf run pre → ¬ c.directive.OfRun wf run

section Events

variable {wf : WFID} {run : RunID}

theorem historyIn_concat (wf : WFID) (run : RunID) (journal : List Commit) (c : Commit) :
    historyIn wf run (journal ++ [c]) = historyIn wf run journal ++ c.events wf run := by
  simp [historyIn]

theorem endedIn_concat {journal : List Commit} {c : Commit} :
    EndedIn wf run (journal ++ [c]) ↔
      EndedIn wf run journal ∨ ∃ s ∈ c.states wf run, s.isTerminal = true := by
  simp only [EndedIn, statesIn_concat, List.mem_append, or_and_right, exists_or]

end Events

section Batch

variable {cfg : Manager.Config} {w : World} {c : Call} {sn : StateSnapshot}
  {records : List Record} {l : Stream} {wf : WFID} {run : RunID}

theorem Batch.events_eq_nil (hw : Sound w) (hb : Batch cfg w c sn records l)
    (hrun : ¬ c.directive.OfRun wf run) : (w.commitOf c sn records).events wf run = [] := by
  refine List.filter_eq_nil_iff.mpr fun h hh => ?_
  obtain ⟨r, hr, hh⟩ := List.mem_filterMap.mp hh
  obtain rfl := Record.history?_eq_some.mp hh
  have hof := hb.history_ofRun hw hr
  rw [decide_eq_true_eq]
  exact fun heq => hrun ⟨hof.1.symm.trans heq.1, hof.2.symm.trans heq.2⟩

theorem Batch.events_eq (hw : Sound w) (hb : Batch cfg w c sn records l)
    (hrun : c.directive.OfRun wf run) :
    (w.commitOf c sn records).events wf run = records.filterMap Record.history? := by
  refine List.filter_eq_self.mpr fun h hh => ?_
  obtain ⟨r, hr, hh⟩ := List.mem_filterMap.mp hh
  obtain rfl := Record.history?_eq_some.mp hh
  have hof := hb.history_ofRun hw hr
  exact decide_eq_true ⟨hof.1.trans hrun.1, hof.2.trans hrun.2⟩

/-- A batch that neither ends the run nor closes its history. -/
theorem Silent.unended (h : Silent wf run w.journal) {c : Commit}
    (hended : ¬ EndedIn wf run w.journal)
    (hstates : ∀ s ∈ c.states wf run, s.isTerminal = false)
    (hevents : ∀ h ∈ c.events wf run, h.kind.closes = false) :
    Silent wf run (w.journal ++ [c]) := by
  have hnot : ¬ EndedIn wf run (w.journal ++ [c]) := by
    rw [endedIn_concat, not_or]
    refine ⟨hended, fun ⟨s, hs, hterm⟩ => ?_⟩
    simp [hstates s hs] at hterm
  refine ⟨fun he => absurd he hnot, fun he => absurd he hnot, fun _ e he => ?_⟩
  rw [historyIn_concat] at he
  exact (List.mem_append.mp he).elim (h.unclosed hended e) (hevents e)

/-- A batch that leaves the run alone. -/
theorem Silent.same (h : Silent wf run w.journal) {c : Commit} (hstates : c.states wf run = [])
    (hevents : c.events wf run = []) : Silent wf run (w.journal ++ [c]) := by
  have hiff : EndedIn wf run (w.journal ++ [c]) ↔ EndedIn wf run w.journal := by
    simp [endedIn_concat, hstates]
  refine ⟨fun he => ?_, fun he => ?_, fun he => ?_⟩
  · rw [statesIn_concat, hstates, List.append_nil]
    exact h.last (hiff.mp he)
  · rw [historyIn_concat, hevents, List.append_nil]
    exact h.closed (hiff.mp he)
  · rw [historyIn_concat, hevents, List.append_nil]
    exact h.unclosed (hiff.not.mp he)

/-- A batch that ends the run and closes its history. -/
theorem Silent.ended (h : Silent wf run w.journal) {c : Commit} {s : RunState}
    {hs : List HistoryEvent} {e : HistoryEvent} (hended : ¬ EndedIn wf run w.journal)
    (hstates : c.states wf run = [s]) (hterm : s.isTerminal = true)
    (hevents : c.events wf run = hs ++ [e]) (hcloses : e.kind.closes = true)
    (hopen : ∀ h ∈ hs, h.kind.closes = false) : Silent wf run (w.journal ++ [c]) := by
  refine ⟨fun _ => ⟨s, ?_, hterm⟩, fun _ => ⟨historyIn wf run w.journal ++ hs, e, ?_, hcloses, ?_⟩,
    fun hnot => absurd (endedIn_concat.mpr (.inr ⟨s, by simp [hstates], hterm⟩)) hnot⟩
  · rw [statesIn_concat, hstates, List.getLast?_concat]
  · rw [historyIn_concat, hevents, List.append_assoc]
  · intro h' hh'
    exact (List.mem_append.mp hh').elim (h.unclosed hended h') (hopen h')

/-- As long as the current state is not terminal, none was before. -/
theorem Silent.not_endedIn (h : Silent wf run w.journal) (hj : Journaled w)
    (hcur : (currentState w.stream wf run).isTerminal = false) : ¬ EndedIn wf run w.journal := by
  intro hended
  obtain ⟨s, hlast, hterm⟩ := h.last hended
  obtain ⟨s', hs', hmap⟩ := hj wf run
  rw [hlast] at hmap
  obtain ⟨s₀, rfl, rfl⟩ := Option.map_eq_some_iff.mp hmap
  rw [currentState_eq hs', ← RunState.isTerminal_stored, hterm] at hcur
  cases hcur

theorem mem_of_mem_histories {h : HistoryEvent} (hh : h ∈ records.filterMap Record.history?) :
    Record.history h ∈ records := by
  obtain ⟨r, hr, hh⟩ := List.mem_filterMap.mp hh
  exact Record.history?_eq_some.mp hh ▸ hr

theorem Batch.quiet (hw : Sound w) (hj : Journaled w) (hb : Batch cfg w c sn records l)
    (hsees : SeesEnd wf run w.stream c.directive sn) (h : Silent wf run w.journal) :
    Quiet wf run w.journal (w.commitOf c sn records) := by
  have hlive := hb.live hw
  -- a call that would not be stopped by the stream has seen the end of the run
  have seen (hrun : c.directive.OfRun wf run)
      (hkind : c.directive.kind = .event ∨ c.directive.kind = .start) :
      ¬ EndedIn wf run w.journal := by
    refine h.not_endedIn hj (Bool.eq_false_iff.mpr fun hterm => ?_)
    simp [hsees hrun hkind hterm] at hlive
  cases hb.advance hw wf run with
  | other hrun =>
    exact ⟨h.same (hb.states_eq_nil hw hrun) (hb.events_eq_nil hw hrun), fun _ => hrun⟩
  | start hrun hkind hs hbegun =>
    have hended := seen hrun (.inr hkind)
    refine ⟨h.unended hended (fun s hs => (hb.states_of_start hw hkind s hs).2) fun e he => ?_,
      fun he => absurd he hended⟩
    rw [hb.events_eq hw hrun] at he
    exact (hbegun.told.history e (mem_of_mem_histories he)).1.trans hs.isTerminal
  | event hrun hkind habout _ hrecords =>
    have hended := seen hrun (.inl hkind)
    refine ⟨h.unended hended (fun s hs => ?_) fun e he => ?_, fun he => absurd he hended⟩
    · rw [hb.states_of_event hw hkind] at hs
      cases hs
    · rw [hb.events_eq hw hrun] at he
      have hmem := hrecords ▸ mem_of_mem_histories he
      split_ifs at hmem <;> simp at hmem <;> rw [hmem, habout.kind] <;> rfl
  | @turn s _ notes body hrun _ _ hturn hrecords hold =>
    have hended : ¬ EndedIn wf run w.journal :=
      h.not_endedIn hj (by rw [currentState_eq hold]; exact hlive)
    have hstates := hb.states_of_turn hw hrun hturn hrecords
    have hevents : (w.commitOf c sn records).events wf run =
        notes.filterMap Record.history? ++ body.filterMap Record.history? := by
      rw [hb.events_eq hw hrun, hrecords, List.filterMap_append]
    have hnotes : ∀ e ∈ notes.filterMap Record.history?, e.kind.closes = false :=
      fun e he => (hturn.noted.history e (mem_of_mem_histories he)).1
    obtain ⟨ri, hbody, -⟩ := hturn.told
    have hclose : ∀ e ∈ body.filterMap Record.history?, e.kind.closes = s.isTerminal :=
      fun e he => (hbody.history e (mem_of_mem_histories he)).1
    refine ⟨?_, fun he => absurd he hended⟩
    by_cases hterm : s.isTerminal = true
    · obtain ⟨e, he⟩ := hbody.closing hterm
      refine h.ended hended hstates hterm (he ▸ hevents) ?_ hnotes
      exact (hclose e (he ▸ List.mem_singleton_self e)).trans hterm
    · refine h.unended hended (fun s' hs' => ?_) fun e he => ?_
      · rw [hstates, List.mem_singleton] at hs'
        rw [hs', RunState.isTerminal_stored]
        exact Bool.eq_false_iff.mpr hterm
      · rw [hevents] at he
        exact (List.mem_append.mp he).elim (hnotes e)
          fun he => (hclose e he).trans (Bool.eq_false_iff.mpr hterm)

/-- The batches of other runs do not touch the history and the directives of a run. -/
theorem Batch.spares (hw : Sound w) (hb : Batch cfg w c sn records l)
    (hrun : ¬ c.directive.OfRun wf run) {m : Msg} (hm : m ∈ records.flatMap Record.messages) :
    m.subject ≠ .history wf run ∧ (∀ ty, m.subject ≠ .directive ty wf run) ∧
      (m.subject = .inbox wf → c.directive.runInfo.id ≠ run) := by
  refine ⟨fun hs => ?_, fun ty hs => ?_, fun hs hid => ?_⟩
  · obtain ⟨r, hr, hm⟩ := List.mem_flatMap.mp hm
    obtain ⟨h, rfl, hwf, hid⟩ := Record.eq_of_mem_messages_history hm hs
    obtain ⟨hwf', hid'⟩ := hb.history_ofRun hw hr
    exact hrun ⟨hwf'.symm.trans hwf, hid'.symm.trans hid⟩
  · obtain ⟨r, hr, hm⟩ := List.mem_flatMap.mp hm
    obtain ⟨wake, rfl, rfl⟩ := Record.eq_of_mem_messages_directive hm hs
    obtain ⟨src, hsrc, hwake⟩ := (hw.planned hb).directive_cases hr
    cases hs
    have hsame : wake.runInfo.SameRun _ := hwake.runInfo ▸ hsrc
    exact hrun ⟨hsame.wfID.symm, hsame.id.symm⟩
  · exact hrun ⟨(hb.inbox_message hw hm hs).2.1, hid⟩

theorem silent_of_along {journal : List Commit} (h : Along (Quiet wf run) journal) :
    Silent wf run journal := by
  rcases List.eq_nil_or_concat journal with rfl | ⟨pre, c, rfl⟩
  · have hnot : ¬ EndedIn wf run [] := by simp [EndedIn, statesIn]
    exact ⟨fun he => absurd he hnot, fun he => absurd he hnot, fun _ e he => by cases he⟩
  · rw [List.concat_eq_append] at h ⊢
    exact (h pre c [] rfl).silent

end Batch

/-- A finished run stays silent. In every run of the system in which each call that comes to commit
an event or a start of `run` sees whether the run has ended: once a terminal state has been
committed, no batch of the run commits any more, so nothing is appended to its history, to the
inbox of its workflow or to its directives on its behalf; and the history that the server has
written ends with the event that closes it, which is the only such event. -/
theorem finished_run_silent {cfg : Manager.Config} {w : World} {wf : WFID} {run : RunID}
    (h : ReachableBy cfg (EndGuard wf run) w) :
    (∀ pre c post, w.journal = pre ++ c :: post → EndedIn wf run pre →
      ¬ c.directive.OfRun wf run ∧ ∀ m ∈ c.records.flatMap Record.messages,
        m.subject ≠ .history wf run ∧ (∀ ty, m.subject ≠ .directive ty wf run) ∧
          (m.subject = .inbox wf → c.directive.runInfo.id ≠ run)) ∧
    (EndedIn wf run w.journal → ∃ hs h, historyIn wf run w.journal = hs ++ [h] ∧
      h.kind.closes = true ∧ ∀ h' ∈ hs, h'.kind.closes = false) := by
  have halong : Along (fun pre c => Quiet wf run pre c ∧ (¬ c.directive.OfRun wf run →
      ∀ m ∈ c.records.flatMap Record.messages, m.subject ≠ .history wf run ∧
        (∀ ty, m.subject ≠ .directive ty wf run) ∧
          (m.subject = .inbox wf → c.directive.runInfo.id ≠ run))) w.journal := by
    refine along_journal h fun w k c sn records l _ _ _ hr ha hok hc hb => ?_
    have hw := sound_of_reachableBy hr
    have hsees := hok k rfl _ (World.ready?_eq_some hc hb.phase)
    exact ⟨hb.quiet hw (journaled_of_reachableBy hr) hsees
      (silent_of_along fun pre c post hsplit => (ha pre c post hsplit).1),
      fun hrun m hm => hb.spares hw hrun hm⟩
  refine ⟨fun pre c post hsplit hended => ?_,
    (silent_of_along fun pre c post hsplit => (halong pre c post hsplit).1).closed⟩
  obtain ⟨hquiet, hspares⟩ := halong pre c post hsplit
  exact ⟨hquiet.other hended, hspares (hquiet.other hended)⟩

theorem finished_run_silent_terminated :
    EndedIn "wf" "r1" (Sample.worldBy (EndGuard "wf" "r1") Sample.terminated).journal ∧
    ∃ hs h, historyIn "wf" "r1" (Sample.worldBy (EndGuard "wf" "r1") Sample.terminated).journal =
      hs ++ [h] ∧ h.kind.closes = true ∧ ∀ h' ∈ hs, h'.kind.closes = false := by
  have hended : EndedIn "wf" "r1"
    (Sample.worldBy (EndGuard "wf" "r1") Sample.terminated).journal := by decide +kernel
  exact ⟨hended, (finished_run_silent (Sample.reachableBy_worldBy (EndGuard "wf" "r1")
    Sample.terminated)).2 hended⟩

/-- An event for a waiting run is about to be committed when the run is terminated. -/
def Sample.unnoticed : List Label :=
  waiting ++ [.publish (event "pay"), .deliver 16, .readState 0, .readHistory 0, .readEvent 0,
    .publish (directive "stop" .terminate (.terminate "no longer needed")), .deliver 17,
    .readState 1, .readHistory 1, .readEvent 1, .finish 1 env env true, .finish 0 env env true]

/-- The event is stored in the inbox and in the history of the run that has ended, and wakes it. -/
theorem finished_run_speaks :
    EndedIn "wf" "r1" ((Sample.world Sample.unnoticed).journal.take 3) ∧
    ∃ c ∈ (Sample.world Sample.unnoticed).journal.drop 3, c.directive.OfRun "wf" "r1" ∧
      (c.records.flatMap Record.messages).map (·.subject) =
        [.inbox "wf", .history "wf" "r1", .directive "order" "wf" "r1"] := by
  decide +kernel

/-! ### Directives with nothing to do -/

/-- A directive of a finished run, or a wake-up of a run that does not wait or has no pending
event: there is nothing to do. -/
def Directive.Idle (d : Directive) (sn : StateSnapshot) : Prop :=
  sn.runState.isTerminal = true ∨
    d.kind = .wakeFromInbox ∧ (sn.runState.kind ≠ .wait ∨ sn.event.id = "")

/-- The message at `seq` is the directive `d`, and the queue may deliver it. -/
structure World.Offers (w : World) (seq : ℕ) (d : Directive) : Prop where
  unacked : seq ∉ w.acked
  stored : (w.entryAt seq).map (·.toMessage) = some d.message

/-- A call that nothing interrupts, from the delivery of the message at `seq` to its end; `k` is
its place among the calls. -/
def uninterrupted (k seq : ℕ) (env failEnv : Readings) (ack : Bool) : List Label :=
  [.deliver seq, .readState k, .readHistory k, .readEvent k, .finish k env failEnv ack]

section Idle

variable {cfg : Manager.Config} {env failEnv : Readings} {d : Directive} {sn : StateSnapshot}
  {l : Stream} {w : World}

theorem plan_of_idle (h : d.Idle sn) : plan cfg.defaults env d sn = .ok [] := by
  rw [plan]
  split_ifs with hlive
  · rfl
  · obtain ⟨hkind, hsn⟩ := h.resolve_left hlive
    rw [hkind]
    exact if_pos hsn

/-- The store refuses an empty batch, and the manager asks for another delivery. -/
theorem handleSnapshot_of_nil (h : plan cfg.defaults env d sn = .ok []) :
    Manager.handleSnapshot cfg env failEnv d sn l = .ok { stream := l, result := .retryable } := by
  rw [Manager.handleSnapshot, handleRecords, h]
  rfl

theorem getStateSnapshot_eq_ok {wf : WFID} {run : RunID} (h : getStateSnapshot l wf run = .ok sn) :
    ∃ s e, getRunState l wf run = .ok s ∧
      getNextEvent l wf (s.getD .zero).lastEventSeqID = .ok e ∧
      sn = { runState := s.getD .zero, event := e.getD .zero,
             lastHistorySeqID := getLastHistorySeqID l wf run } := by
  rw [getStateSnapshot] at h
  simp only [bind_eq_ok, pure_eq_ok] at h
  obtain ⟨s, hs, e, he, rfl⟩ := h
  exact ⟨s, e, hs, he, rfl⟩

/-- An uninterrupted call with nothing to do leads back to the world it started from. -/
theorem exec_uninterrupted_of_nil {seq : ℕ} (ack : Bool) (hd : w.Offers seq d)
    (hsn : getStateSnapshot w.stream d.runInfo.wfID d.runInfo.id = .ok sn)
    (h : plan cfg.defaults env d sn = .ok []) :
    exec (step cfg) (fun _ _ => True) w (uninterrupted w.calls.length seq env failEnv ack) =
      some w := by
  obtain ⟨s, e, hs, he, rfl⟩ := getStateSnapshot_eq_ok hsn
  obtain ⟨⟨_, _, _⟩, hentry, rfl⟩ := Option.map_eq_some_iff.mp hd.stored
  simp [uninterrupted, exec, step, hentry, Directive.message, Directive.subject, hd.unacked, hs, he,
    World.advance, World.finish, handleSnapshot_of_nil h, World.drop,
    List.eraseIdx_append_of_length_le]

end Idle

/-- A directive with nothing to do is handed back to the queue, and nothing else happens: it can be
delivered again without end. -/
theorem idle_directive_retried (cfg : Manager.Config) (env failEnv : Readings) (d : Directive)
    (sn : StateSnapshot) :
    (d.Idle sn → plan cfg.defaults env d sn = .ok []) ∧
    (plan cfg.defaults env d sn = .ok [] →
      (∀ l, getStateSnapshot l d.runInfo.wfID d.runInfo.id = .ok sn →
        Manager.handle cfg env failEnv d l = .ok { stream := l, result := .retryable }) ∧
      ∀ w seq ack, w.Offers seq d →
        getStateSnapshot w.stream d.runInfo.wfID d.runInfo.id = .ok sn →
          exec (step cfg) (fun _ _ => True) w
            (uninterrupted w.calls.length seq env failEnv ack) = some w) := by
  refine ⟨plan_of_idle, fun hplan => ⟨fun l hsn => ?_, fun w seq ack hd hsn => ?_⟩⟩
  · rw [Manager.handle, hsn]
    exact handleSnapshot_of_nil hplan
  · exact exec_uninterrupted_of_nil ack hd hsn hplan

/-- An event reaches a run that has been terminated. -/
def Sample.lateEvent : World := world (terminated ++ [.publish (event "pay")])

/-- What the call that handles the event sees. -/
def Sample.ended : StateSnapshot where
  runState :=
    { RunState.zero with
      wfID := "wf", runID := "r1", kind := .terminate, enteredAt := 1000000,
      startedAt := some 1000000, seqID := 12 }
  lastHistorySeqID := 11

theorem idle_directive_retried_late :
    (Sample.event "pay").Idle Sample.ended ∧
    Manager.handle Sample.config Sample.env Sample.env (Sample.event "pay")
        Sample.lateEvent.stream =
      .ok { stream := Sample.lateEvent.stream, result := .retryable } ∧
    exec (step Sample.config) (fun _ _ => True) Sample.lateEvent
      (uninterrupted 0 14 Sample.env Sample.env true) = some Sample.lateEvent := by
  have hidle : (Sample.event "pay").Idle Sample.ended := .inl rfl
  obtain ⟨hsn, hunacked, hstored⟩ :
      getStateSnapshot Sample.lateEvent.stream "wf" "r1" = .ok Sample.ended ∧
        14 ∉ Sample.lateEvent.acked ∧
        (Sample.lateEvent.entryAt 14).map (·.toMessage) = some (Sample.event "pay").message := by
    decide +kernel
  obtain ⟨hplan, hnil⟩ := idle_directive_retried Sample.config Sample.env Sample.env
    (Sample.event "pay") Sample.ended
  obtain ⟨hhandle, hloop⟩ := hnil (hplan hidle)
  exact ⟨hidle, hhandle _ hsn, hloop Sample.lateEvent 14 true ⟨hunacked, hstored⟩ hsn⟩

theorem late_event_not_acked :
    plan Sample.config.defaults Sample.env (Sample.event "pay") Sample.ended = .ok [] ∧
    getStateSnapshot Sample.lateEvent.stream "wf" "r1" = .ok Sample.ended ∧
    (Manager.handle Sample.config Sample.env Sample.env (Sample.event "pay")
        Sample.lateEvent.stream).map (·.result) = .ok .retryable := by
  decide +kernel

end Grctl
