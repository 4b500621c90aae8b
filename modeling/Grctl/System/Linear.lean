import Grctl.Run.Freshness
import Grctl.System.Inbox

/-!
# The three reads of a snapshot behave like one

`GetStateSnapshot` reads the state of a run, the end of its history and its inbox one after the
other, and `Manager.Handle` commits later still. Anything can happen in between. What makes a
committed transition behave as if it had happened at once is the sequence number it expects: the
run state that was read is still the current one when the batch is accepted. So the snapshot that
`Manager.Handle` would take at that moment differs from the one it took only in what the state of
the run does not record.

## Main definitions

* `Phase.historySeqID?`: the end of the history that a call has read.

## Main results

* `handle_linearizes`: what a committed transition has in common with one that is planned and
  committed at once.
-/

namespace Grctl

open SubjectLog Lts

/-- The end of the history that a call has read. -/
def Phase.historySeqID? : Phase → Option ℕ
  | .gotHistory _ n => some n
  | .ready sn => some sn.lastHistorySeqID
  | _ => none

/-! ### Snapshots that are taken at once -/

section Snapshot

variable {w : World} {l : Stream} {wf : WFID} {run : RunID}

/-- Every stored run state decodes. -/
theorem Sound.exists_getRunState (hw : Sound w) (wf : WFID) (run : RunID) :
    ∃ s, getRunState w.stream wf run = .ok s := by
  rw [getRunState]
  split
  · exact ⟨none, rfl⟩
  · rename_i e he
    obtain ⟨hmem, -, hsubject⟩ := Log.mem_of_lastOn he
    obtain ⟨-, -, s, hdata, -⟩ := (hw.messages e hmem).runState wf run hsubject
    exact ⟨_, by rw [hdata]⟩

/-- Every stored inbox message is an event. -/
theorem Sound.exists_getNextEvent (hw : Sound w) (wf : WFID) (n : ℕ) :
    ∃ e, getNextEvent w.stream wf n = .ok e := by
  rw [getNextEvent]
  split
  · exact ⟨none, rfl⟩
  · rename_i e he
    obtain ⟨hmem, -, hsubject, -⟩ := Log.mem_of_firstFrom he
    obtain ⟨d, hdata, ⟨-, -, ev, hmsg⟩, -⟩ := (hw.messages e hmem).inbox wf hsubject
    exact ⟨_, by simp only [readInboxEntry, hdata, hmsg]; rfl⟩

/-- A snapshot can always be taken. -/
theorem Sound.exists_getStateSnapshot (hw : Sound w) (wf : WFID) (run : RunID) :
    ∃ sn, getStateSnapshot w.stream wf run = .ok sn := by
  obtain ⟨s, hs⟩ := hw.exists_getRunState wf run
  obtain ⟨e, he⟩ := hw.exists_getNextEvent wf (s.getD .zero).lastEventSeqID
  refine ⟨{ runState := s.getD .zero, event := e.getD .zero,
            lastHistorySeqID := getLastHistorySeqID w.stream wf run }, ?_⟩
  simp only [getStateSnapshot, bind_eq_ok, pure_eq_ok]
  exact ⟨s, hs, e, he, rfl⟩

/-- As long as no event is removed, the first one after the cursor is the one to be read. -/
theorem FirstEvent.getNextEvent {n : ℕ} {d : Directive} (h : FirstEvent l wf n d)
    (hlive : ∀ e ∈ l.entries, e.subject = .inbox wf → e.live = true) :
    getNextEvent l wf n = .ok (some d) := by
  obtain ⟨e, he, hsubject, hread, hlt, hfirst⟩ := h
  have hfrom : startSeq n ≤ e.seq := by
    rw [startSeq]
    split_ifs <;> omega
  cases hfound : l.firstFrom (.inbox wf) (startSeq n) with
  | none =>
    have hnone := List.find?_eq_none.mp hfound e he
    simp [Log.Entry.isOn, hlive e he hsubject, hsubject, hfrom] at hnone
  | some e' =>
    obtain ⟨hmem', -, hsubject', hfrom'⟩ := Log.mem_of_firstFrom hfound
    have hlt' : n < e'.seq := by
      have := (Log.seq_mem_range hmem').1
      rw [startSeq] at hfrom'
      split_ifs at hfrom' <;> omega
    have hseq : e'.seq = e.seq := le_antisymm
      (Log.firstFrom_le hfound he (hlive e he hsubject) hsubject hfrom)
      (hfirst e' hmem' hsubject' (hlive e' hmem' hsubject') hlt')
    obtain rfl := Log.eq_of_seq_eq hmem' he hseq
    rw [Grctl.getNextEvent, hfound]
    simp only [hread]
    rfl

end Snapshot

/-! ### The history that a call has read -/

section History

variable {cfg : Manager.Config} {ok : World → Label → Prop} {w w' : World} {a : Label}

/-- The history of a run only grows. -/
theorem Change.getLastHistorySeqID_le {l : Stream} {j : List Commit} (h : Change cfg w l j)
    (wf : WFID) (run : RunID) :
    getLastHistorySeqID w.stream wf run ≤ getLastHistorySeqID l wf run := by
  cases h with
  | same => exact le_rfl
  | outside => exact Log.lastSeq_le_appendAll ..
  | purge hp =>
    have hkeep : Log.lastOn (w.stream.purge _) (.history wf run) = _ := Log.lastOn_purge w.stream
      (Bool.eq_false_iff.mpr fun hres => by simpa [Subject.isResidue] using hp _ hres)
    rw [getLastHistorySeqID, getLastHistorySeqID, Log.lastSeq, Log.lastSeq, hkeep]
  | commit hb =>
    rw [eq_appendAll_of_commit hb.commit]
    exact Log.lastSeq_le_appendAll ..

/-- A call that knows the end of the history has read it just now or before. -/
theorem Effect.historySeqID (h : Effect cfg w a w') {c : Call} (hc : c ∈ w'.calls) {n : ℕ}
    (hn : c.phase.historySeqID? = some n) :
    (∃ c₀ ∈ w.calls, c₀.directive = c.directive ∧ c₀.phase.historySeqID? = some n) ∨
      n = getLastHistorySeqID w.stream c.directive.runInfo.wfID c.directive.runInfo.id := by
  cases h.callChange hc with
  | old hold => exact .inl ⟨c, hold, rfl, hn⟩
  | deliver => simp [Phase.historySeqID?] at hn
  | readState => simp [Phase.historySeqID?] at hn
  | readEvent hk hphase =>
    exact .inl ⟨_, List.mem_of_getElem? hk, rfl, by rw [hphase]; exact hn⟩
  | readHistory hk hphase =>
    cases h with
    | readHistory hk' hphase' =>
      rcases List.mem_or_eq_of_mem_set hc with hold | heq
      · exact .inl ⟨_, hold, rfl, hn⟩
      · obtain rfl := Option.some.inj (hk.symm.trans hk')
        obtain ⟨-, rfl⟩ := Phase.gotHistory.inj (congrArg Call.phase heq)
        exact .inr (Option.some.inj hn).symm
    | drop => exact .inl ⟨_, List.mem_of_mem_eraseIdx hc, rfl, hn⟩
    | crash => cases hc

/-- What the calls have read of the history is still there. -/
def HistoryKept (w : World) : Prop :=
  ∀ c ∈ w.calls, ∀ n, c.phase.historySeqID? = some n →
    n ≤ getLastHistorySeqID w.stream c.directive.runInfo.wfID c.directive.runInfo.id

theorem historyKept_of_reachableBy (h : ReachableBy cfg ok w) : HistoryKept w := by
  refine Reach.invariant (P := HistoryKept) h (fun c hc => by cases hc)
    fun w a w' _ ih _ hstep c hc n hn => ?_
  have heffect := effect_of_step hstep
  have hle := heffect.change.getLastHistorySeqID_le c.directive.runInfo.wfID c.directive.runInfo.id
  rcases heffect.historySeqID hc hn with ⟨c₀, hc₀, hd, hn₀⟩ | rfl
  · exact (hd ▸ ih c₀ hc₀ n hn₀).trans hle
  · exact hle

end History

/-! ### The snapshot at the commit -/

section Commit

variable {cfg : Manager.Config} {ok : World → Label → Prop} {w : World} {c : Call}
  {sn : StateSnapshot} {records : List Record} {l : Stream}

/-- The snapshot of a batch that has not been overtaken by another one of its run, and the one that
is taken at its commit. -/
theorem Batch.precedes (h : ReachableBy cfg ok w) (hok : ∀ w a, ok w a → a.Handling)
    (hb : Batch cfg w c sn records l)
    (hkind : c.directive.kind ≠ .start ∧ c.directive.kind ≠ .event) :
    ∃ sn', getStateSnapshot w.stream c.directive.runInfo.wfID c.directive.runInfo.id = .ok sn' ∧
      sn.Precedes sn' := by
  have hw := sound_of_reachableBy h
  obtain ⟨s, notes, body, hrecords, hturn⟩ := hb.turn hw hkind
  have hcurrent := hb.current hw hrecords hturn.noted.allNotes hturn.transition
  obtain ⟨sn', hsn'⟩ := hw.exists_getStateSnapshot c.directive.runInfo.wfID c.directive.runInfo.id
  refine ⟨sn', hsn', ?_⟩
  simp only [getStateSnapshot, hcurrent, bind_eq_ok, pure_eq_ok, Except.ok.injEq, exists_eq_left',
    Option.getD_some] at hsn'
  obtain ⟨e, he, rfl⟩ := hsn'
  refine ⟨rfl, historyKept_of_reachableBy h c hb.call _ (by rw [hb.phase]; rfl), ?_⟩
  refine ((hw.calls c hb.call).event sn hb.phase).imp_right fun hfirst => ?_
  have hread := hfirst.getNextEvent (inbox_live_of_reachableBy h hok)
  rw [Except.ok.inj (he.symm.trans hread)]
  rfl

/-- A wake-up that commits a batch has an event to dispatch. -/
theorem Batch.event_of_wake (hw : Sound w) (hb : Batch cfg w c sn records l)
    (hkind : c.directive.kind = .wakeFromInbox) : sn.event.id ≠ "" := by
  obtain ⟨s, notes, body, -, hturn⟩ := hb.turn hw ⟨by simp [hkind], by simp [hkind]⟩
  rcases hturn.transition.cursor_cases with ⟨-, hevent, -⟩ | ⟨hne, -⟩
  · exact hevent.1
  · exact absurd hkind hne

/-- The batch behind a new entry of the journal. -/
theorem batch_of_finish {w' : World} {k : ℕ} {env failEnv : Readings} {ack : Bool} {c : Commit}
    (h : step cfg w (.finish k env failEnv ack) = some w') (hj : w'.journal = w.journal ++ [c]) :
    ∃ call, Batch cfg w call c.snapshot c.records w'.stream ∧ call.directive = c.directive ∧
      handleRecords cfg.defaults env failEnv c.directive c.snapshot = .ok c.records := by
  cases effect_of_step h with
  | commit hc hb =>
    obtain rfl := List.singleton_inj.mp (List.append_cancel_left hj)
    exact ⟨_, hb, rfl, handleRecords_of_finish h hc hb.phase rfl⟩
  | drop => simp at hj
  | crash => simp at hj
  | reject => simp at hj

end Commit

/-- A committed batch other than a start or an event could have been planned and committed at one
moment. With the snapshot of that moment, and with the same readings, `Manager.Handle` leads to
the same stream, if it does not handle a step result or a wait. For those two the batch is the same
up to the history bounds it hands out and up to the wake-up of a wait for an event that came while
the call was under way. -/
theorem handle_linearizes {cfg : Manager.Config} {w w' : World}
    (h : ReachableBy cfg (fun _ a => a.Handling) w) (k : ℕ) (env failEnv : Readings) (ack : Bool)
    (c : Commit) (hstep : step cfg w (.finish k env failEnv ack) = some w')
    (hcommit : w'.journal = w.journal ++ [c])
    (hkind : c.directive.kind ≠ .start ∧ c.directive.kind ≠ .event) :
    ∃ sn', getStateSnapshot w.stream c.directive.runInfo.wfID c.directive.runInfo.id = .ok sn' ∧
      c.snapshot.Precedes sn' ∧
      (c.directive.kind ≠ .stepResult → c.directive.kind ≠ .wait →
        Manager.handle cfg env failEnv c.directive w.stream =
          .ok { stream := w'.stream, result := .processed, committed := c.records }) ∧
      ∃ records' extra, handleRecords cfg.defaults env failEnv c.directive sn' = .ok records' ∧
        records'.map Record.unbound = (c.records ++ extra).map Record.unbound ∧
        Lacks c.directive c.snapshot extra := by
  obtain ⟨call, hb, hd, hplanned⟩ := batch_of_finish hstep hcommit
  obtain ⟨sn', hsn', hprecedes⟩ := hb.precedes h (fun _ _ ha => ha) (by rwa [hd])
  rw [hd] at hsn'
  have hwake : c.directive.kind = .wakeFromInbox → c.snapshot.event.id ≠ "" :=
    fun hk => hb.event_of_wake (sound_of_reachableBy h) (by rw [hd, hk])
  refine ⟨sn', hsn', hprecedes, fun hresult hwait => ?_, ?_⟩
  · have hsame := handleRecords_of_precedes cfg.defaults env failEnv hprecedes
      (by simp [hkind.2, hresult, hwait]) hwake
    rw [Manager.handle, hsn']
    simp only [Manager.handleSnapshot, hsame, hplanned, Manager.commit, hb.commit]
  · obtain ⟨extra, hextra, hagree⟩ :=
      agree_of_precedes cfg.defaults env failEnv hprecedes hkind.2 hwake
    rw [hplanned] at hagree
    cases hlater : handleRecords cfg.defaults env failEnv c.directive sn' with
    | error fault =>
      rw [hlater] at hagree
      cases hagree
    | ok records' =>
      rw [hlater] at hagree
      cases hagree with
      | ok hrecords => exact ⟨records', extra, rfl, hrecords, hextra⟩

/-- A step result that asks for a wait, and an event that is stored after the snapshot of the result
was taken. -/
def Sample.missedEvent : World :=
  worldBy (fun _ a => a.Handling) (.publish start :: handled 1 ++
    [.publish (stepResult "done" .wait (.wait 0 "")), .deliver 9, .readState 0, .readHistory 0,
      .readEvent 0, .publish (event "pay"), .deliver 10, .readState 1, .readHistory 1, .readEvent 1,
      .finish 1 env env true])

theorem handle_linearizes_overtaken : ∃ w' c sn',
    step Sample.config Sample.missedEvent (.finish 0 Sample.env Sample.env true) = some w' ∧
      w'.journal = Sample.missedEvent.journal ++ [c] ∧ c.directive.kind = .stepResult ∧
      c.snapshot.event = .zero ∧
      getStateSnapshot Sample.missedEvent.stream c.directive.runInfo.wfID c.directive.runInfo.id =
        .ok sn' ∧ c.snapshot.Precedes sn' := by
  obtain ⟨w', hw', c, hlast, hinit, hkind, hevent⟩ : ∃ w' ∈
      step Sample.config Sample.missedEvent (.finish 0 Sample.env Sample.env true),
      ∃ c ∈ w'.journal.getLast?, w'.journal.dropLast = Sample.missedEvent.journal ∧
        c.directive.kind = .stepResult ∧ c.snapshot.event = .zero := by
    decide +kernel
  have hcommit : w'.journal = Sample.missedEvent.journal ++ [c] := by
    rw [← hinit, List.dropLast_append_getLast? c hlast]
  obtain ⟨sn', hsn', hprecedes, -⟩ := handle_linearizes (Sample.reachableBy_worldBy _ _) 0 _ _ _ c
    hw' hcommit (by simp [hkind])
  exact ⟨w', c, sn', hw', hcommit, hkind, hevent, hsn', hprecedes⟩

end Grctl
