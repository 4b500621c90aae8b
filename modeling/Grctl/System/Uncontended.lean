import Grctl.Run.Admissible
import Grctl.Run.Subjects
import Grctl.System.Linear
import Grctl.System.Silence

/-!
# A directive that is handled alone

A batch that is well formed can be refused by the stream for two reasons: the state of its run has
changed since it was read, or an identifier has been used. The first cannot happen to a call that
nothing interrupts. So a call that plans a batch with unused identifiers commits it, in every world
that can be reached and whatever calls are under way; a directive that loses against another one can
be handled later.

A termination needs nothing but the state of its run, not even a start time, and so ends every run
that has one.

## Main definitions

* `World.after`: what an uninterrupted call makes of a world.

## Main results

* `handled_alone`: the world that an uninterrupted call with a batch leads to.
* `terminate_ends_run`: a termination that is handled alone ends its run.
-/

namespace Grctl

open SubjectLog Lts

/-- What an uninterrupted call makes of a world. -/
def World.after (w : World) (seq : ℕ) (d : Directive) (sn : StateSnapshot) (ack : Bool)
    (handled : Manager.Handled) : World :=
  { w with
    stream := handled.stream
    acked := if handled.result = .processed ∧ ack then seq :: w.acked else w.acked
    journal := w.journal ++ if handled.committed = [] then [] else
      [{ directive := d, snapshot := sn, records := handled.committed, base := w.stream.length }] }

section Call

variable {cfg : Manager.Config} {env failEnv : Readings} {d : Directive} {sn : StateSnapshot}
  {w : World} {seq : ℕ}

/-- The five steps of an uninterrupted call are one call of `Manager.Handle`. -/
theorem exec_uninterrupted (ack : Bool) (hd : w.Offers seq d)
    (hsn : getStateSnapshot w.stream d.runInfo.wfID d.runInfo.id = .ok sn)
    {handled : Manager.Handled}
    (h : Manager.handleSnapshot cfg env failEnv d sn w.stream = .ok handled) :
    exec (step cfg) (fun _ _ => True) w (uninterrupted w.calls.length seq env failEnv ack) =
      some (w.after seq d sn ack handled) := by
  obtain ⟨s, e, hs, he, rfl⟩ := getStateSnapshot_eq_ok hsn
  obtain ⟨⟨_, _, _⟩, hentry, rfl⟩ := Option.map_eq_some_iff.mp hd.stored
  simp [uninterrupted, exec, step, hentry, Directive.message, Directive.subject, hd.unacked, hs, he,
    World.advance, World.finish, h, World.drop, World.after, World.commitOf,
    List.eraseIdx_append_of_length_le]

end Call

/-! ### Why a batch is accepted -/

section Accepted

variable {cfg : Manager.Config} {env failEnv : Readings} {d : Directive} {sn : StateSnapshot}
  {w : World} {records : List Record}

/-- A snapshot of a sound stream carries an event or none. -/
theorem Sound.eventSound_of_snapshot (hw : Sound w) {wf : WFID} {run : RunID}
    (hsn : getStateSnapshot w.stream wf run = .ok sn) : sn.EventSound := by
  obtain ⟨s, e, -, he, rfl⟩ := getStateSnapshot_eq_ok hsn
  cases e with
  | none => exact .inl rfl
  | some ev =>
    obtain ⟨entry, hmem, hsubject, hread, -⟩ := firstEvent_of_getNextEvent he
    exact .inr (isEvent_of_readInboxEntry (hw.messages entry hmem) hsubject hread).1

/-- The state that a snapshot shows is the last one of its run, or there is none. -/
theorem Sound.lastSeq_of_snapshot (hw : Sound w) {wf : WFID} {run : RunID}
    (hsn : getStateSnapshot w.stream wf run = .ok sn) :
    sn.runState = .zero ∨ StateOf wf run sn.runState ∧ wf ≠ "" ∧ run ≠ "" ∧
      w.stream.lastSeq (.runState wf run) = sn.runState.seqID := by
  obtain ⟨s, e, hs, -, rfl⟩ := getStateSnapshot_eq_ok hsn
  cases s with
  | none => exact .inl rfl
  | some s =>
    obtain ⟨hof, hwf, hrun⟩ := hw.stateOf (storedState_of_getRunState hs)
    exact .inr ⟨hof, hwf, hrun, lastSeq_of_getRunState hs⟩

theorem AllNotes.runInfo_seq (h : AllNotes records) {info : RunInfo} {n : ℕ}
    (hmem : Record.runInfo info n ∈ records) : n = 0 := by
  simpa [Record.isNote] using h _ hmem

theorem Transition.runInfo_seq {s : RunState} {body : List Record} (h : Transition d sn s body)
    {info : RunInfo} {n : ℕ} (hmem : Record.runInfo info n ∈ body) : n = 0 := by
  cases h with
  | finish h =>
    cases h with
    | mk hri hh hrest =>
      simp only [List.mem_cons, Record.runInfo.injEq, reduceCtorEq, false_or] at hmem
      exact hmem.elim (·.2) hrest.runInfo_seq
  | dispatch h =>
    cases h
    simp_all
  | suspend h =>
    cases h
    simp only [List.mem_append, List.mem_cons, Record.runInfo.injEq] at hmem
    grind
  | pickUp => simp at hmem
  | park => simp at hmem

/-- No batch expects anything of a run description. -/
theorem Planned.runInfo_seq (h : Planned d sn records) {info : RunInfo} {n : ℕ}
    (hmem : Record.runInfo info n ∈ records) : n = 0 := by
  cases h with
  | nothing => cases hmem
  | start hlive hd hh hri hinput hbody =>
    cases hbody
    grind
  | event => grind
  | transition hlive hnotes h =>
    exact (List.mem_append.mp hmem).elim hnotes.runInfo_seq h.runInfo_seq

/-- A batch stores something. -/
theorem Planned.messages_ne_nil (h : Planned d sn records) (hne : records ≠ []) :
    records.flatMap Record.messages ≠ [] := by
  have hstored {r : Record} (hr : r ∈ records) (hm : r.messages ≠ []) :
      records.flatMap Record.messages ≠ [] := by
    obtain ⟨m, hm⟩ := List.exists_mem_of_ne_nil _ hm
    exact List.ne_nil_of_mem (List.mem_flatMap.mpr ⟨r, hr, hm⟩)
  cases h with
  | nothing => exact absurd rfl hne
  | start => simp [Record.messages]
  | event => simp [Record.messages]
  | @transition s notes body hlive hnotes h =>
    have hmem : (s, sn.runState.seqID) ∈ body.filterMap Record.runState? := by simp [h.runStates]
    obtain ⟨r, hr, hs⟩ := List.mem_filterMap.mp hmem
    obtain rfl := Record.runState?_eq_some.mp hs
    exact hstored (List.mem_append_right _ hr) (by simp [Record.messages])

/-- What a batch of a directive expects of the state of its run is what the snapshot shows. -/
theorem Planned.expects (h : Planned d sn records) {m : Msg}
    (hm : m ∈ records.flatMap Record.messages) {n : ℕ} (hn : m.expectedLast = some n) :
    n ≠ 0 ∧ n = sn.runState.seqID ∧
      m.subject = .runState sn.runState.wfID sn.runState.runID := by
  obtain ⟨r, hr, hm⟩ := List.mem_flatMap.mp hm
  obtain ⟨hpos, ⟨info, rfl⟩ | ⟨s, rfl, hsubject⟩⟩ := Record.eq_of_expectedLast hm hn
  · exact absurd (h.runInfo_seq hr) hpos
  · rcases h.runState_cases hr with ⟨-, hzero, -⟩ | ⟨hseq, notes, body, -, -, ht⟩
    · exact absurd hzero hpos
    · exact ⟨hpos, hseq, by rw [hsubject, ht.sameRun.1, ht.sameRun.2]⟩

/-- The run states of a batch can be stored: the directive is an event and changes none, or its run
has a state, or it starts a run that has identifiers. -/
def Storable (d : Directive) (sn : StateSnapshot) : Prop :=
  d.kind = .event ∨ sn.runState ≠ .zero ∨
    d.kind = .start ∧ d.runInfo.wfID ≠ "" ∧ d.runInfo.id ≠ ""

instance (d : Directive) (sn : StateSnapshot) : Decidable (Storable d sn) :=
  inferInstanceAs (Decidable (_ ∨ _ ∨ _))

theorem statesNamed_of_storable (hw : Sound w) (h : Planned d sn records)
    (hsn : getStateSnapshot w.stream d.runInfo.wfID d.runInfo.id = .ok sn)
    (hstorable : Storable d sn) : StatesNamed records := by
  intro s n hs
  rcases h.runState_cases hs with ⟨hstart, -, hof⟩ | ⟨-, notes, body, -, -, ht⟩
  · rw [hof.wfID, hof.runID]
    rcases hstorable with hevent | hstate | ⟨-, hnamed⟩
    · simp [hstart] at hevent
    · exact ((hw.lastSeq_of_snapshot hsn).resolve_left hstate).2.imp_right (·.1)
    · exact hnamed
  · rw [ht.sameRun.1, ht.sameRun.2]
    rcases hstorable with hevent | hstate | ⟨hstart, -⟩
    · exact absurd hevent ht.kind_ne.2
    · obtain ⟨hof, hwf, hrun, -⟩ := (hw.lastSeq_of_snapshot hsn).resolve_left hstate
      exact ⟨hof.wfID ▸ hwf, hof.runID ▸ hrun⟩
    · exact absurd hstart ht.kind_ne.1

/-- A run state without identifiers is among the records, otherwise. -/
theorem not_statesNamed (h : Planned d sn records)
    (hstate : ∃ s n, Record.runState s n ∈ records) (hnot : ¬ Storable d sn) :
    ¬ StatesNamed records := by
  simp only [Storable, not_or, not_not, not_and] at hnot
  obtain ⟨-, hzero, hstart⟩ := hnot
  obtain ⟨s, n, hs⟩ := hstate
  intro hnamed
  obtain ⟨hwf, hrun⟩ := hnamed s n hs
  rcases h.runState_cases hs with ⟨hkind, -, hof⟩ | ⟨-, notes, body, -, -, ht⟩
  · exact hrun (hof.runID ▸ hstart hkind (hof.wfID ▸ hwf))
  · exact hwf (by rw [ht.sameRun.1, hzero]; rfl)

private theorem pairwise_of_splits {α : Type} {R : α → α → Prop} {xs : List α}
    (h : ∀ before x later, xs = before ++ x :: later → ∀ y ∈ before, R y x) : xs.Pairwise R := by
  induction xs using List.reverseRecOn with
  | nil => exact .nil
  | append_singleton xs x ih =>
    refine List.pairwise_append.mpr ⟨ih fun before y later hxs => ?_, List.pairwise_singleton R x,
      fun y hy z hz => List.mem_singleton.mp hz ▸ h xs x [] rfl y hy⟩
    exact h before y (later ++ [x]) (by rw [hxs, List.append_assoc, List.cons_append])

/-- The stream accepts a batch whose snapshot is up to date, whose subjects it takes and whose
identifiers are unused. -/
theorem commit_of_snapshot (hw : Sound w)
    (hdup : ∀ l id, cfg.dup l id = true → l.seen id = true) (hd : d.Decoded)
    (hsn : getStateSnapshot w.stream d.runInfo.wfID d.runInfo.id = .ok sn)
    (hplan : handleRecords cfg.defaults env failEnv d sn = .ok records) (hne : records ≠ [])
    (hfresh : ∀ id ∈ records.filterMap Record.msgID?, w.stream.seen id = false)
    (hstorable : Storable d sn) (htaken : ∀ r ∈ records, r.Taken) :
    commit cfg.dup w.stream records =
      .ok (w.stream.appendAll (records.flatMap Record.messages)) := by
  have hplanned := planned_of_handleRecords hd (hw.eventSound_of_snapshot hsn) hplan
  obtain ⟨hguard, hmarked, -⟩ := checks_of_handleRecords hne hplan
  refine commit_of_log (statesNamed_of_storable hw hplanned hsn hstorable) htaken
    (hplanned.messages_ne_nil hne) (Log.commit_of_fresh hdup ?_ ?_ (fun m hm n hn => ?_) ?_)
  · exact filterMap_msgId records ▸ hmarked.nodup
  · exact filterMap_msgId records ▸ hfresh
  · obtain ⟨hpos, hseq, hsubject⟩ := hplanned.expects hm hn
    rcases hw.lastSeq_of_snapshot hsn with hzero | ⟨hof, -, -, hlast⟩
    · exact absurd (by rw [hseq, hzero]; rfl) hpos
    · rw [hsubject, hof.wfID, hof.runID, hlast, hseq]
  · refine pairwise_of_splits fun before m later hmsgs m' hm' hexp hsame => ?_
    obtain ⟨n, hn⟩ := Option.isSome_iff_exists.mp hexp
    exact ((hguard before m later n hmsgs hn).2 m' (List.mem_append_left _ hm')).2 .written .written
      (by rw [hsame])

end Accepted

theorem Sound.decoded_of_offers {w : World} {seq : ℕ} {d : Directive} (hw : Sound w)
    (hd : w.Offers seq d) : d.Decoded := by
  obtain ⟨e, hentry, hm⟩ := Option.map_eq_some_iff.mp hd.stored
  obtain ⟨hmem, -, -⟩ := mem_of_entryAt hentry
  obtain ⟨d', hd', hdecoded⟩ := (hw.messages e hmem).directive _ _ _ (congrArg (·.subject) hm)
  have hdata : Data.directive d = .directive d' := congrArg (·.data) (hm.symm.trans hd')
  exact (Data.directive.inj hdata) ▸ hdecoded

/-- A directive whose batch can be stored and uses new identifiers only, and that is handled
without an interruption, has its batch committed. -/
theorem exec_of_storable {cfg : Manager.Config} {w : World} (h : Reachable cfg w)
    (hdup : ∀ l id, cfg.dup l id = true → l.seen id = true) {seq : ℕ} {d : Directive}
    (hd : w.Offers seq d) {env failEnv : Readings} {ack : Bool} {sn : StateSnapshot}
    {records : List Record}
    (hsn : getStateSnapshot w.stream d.runInfo.wfID d.runInfo.id = .ok sn)
    (hplan : handleRecords cfg.defaults env failEnv d sn = .ok records) (hne : records ≠ [])
    (hfresh : ∀ id ∈ records.filterMap Record.msgID?, w.stream.seen id = false)
    (hstorable : Storable d sn) (htaken : ∀ r ∈ records, r.Taken) :
    exec (step cfg) (fun _ _ => True) w (uninterrupted w.calls.length seq env failEnv ack) = some
      { w with
        stream := w.stream.appendAll (records.flatMap Record.messages)
        acked := if ack then seq :: w.acked else w.acked
        journal := w.journal ++ [{ directive := d, snapshot := sn, records := records,
                                   base := w.stream.length }] } := by
  have hw := sound_of_reachableBy h
  have hcommit := commit_of_snapshot hw hdup (hw.decoded_of_offers hd) hsn hplan hne hfresh
    hstorable htaken
  have hhandled : Manager.handleSnapshot cfg env failEnv d sn w.stream = .ok
      { stream := w.stream.appendAll (records.flatMap Record.messages), result := .processed,
        committed := records } := by
    simp only [Manager.handleSnapshot, hplan, Manager.commit, hcommit]
  rw [exec_uninterrupted ack hd hsn hhandled]
  simp [World.after, hne]

/-- **Uncontended handling.** In every reachable world, a directive that is handled without an
interruption and whose batch uses new identifiers only commits the batch that is planned from the
current state of its run, if the run states in it can be stored and the stream takes all its
subjects; otherwise the directive is handed back and nothing has changed. -/
theorem handled_alone {cfg : Manager.Config} {w : World} (h : Reachable cfg w)
    (hdup : ∀ l id, cfg.dup l id = true → l.seen id = true) (seq : ℕ) (d : Directive)
    (hd : w.Offers seq d) (env failEnv : Readings) (ack : Bool) (sn : StateSnapshot)
    (records : List Record)
    (hsn : getStateSnapshot w.stream d.runInfo.wfID d.runInfo.id = .ok sn)
    (hplan : handleRecords cfg.defaults env failEnv d sn = .ok records) (hne : records ≠ [])
    (hfresh : ∀ id ∈ records.filterMap Record.msgID?, w.stream.seen id = false) :
    exec (step cfg) (fun _ _ => True) w (uninterrupted w.calls.length seq env failEnv ack) =
      some (if Storable d sn ∧ ∀ r ∈ records, r.Taken then
        { w with
          stream := w.stream.appendAll (records.flatMap Record.messages)
          acked := if ack then seq :: w.acked else w.acked
          journal := w.journal ++ [{ directive := d, snapshot := sn, records := records,
                                     base := w.stream.length }] }
      else w) := by
  have hw := sound_of_reachableBy h
  have hdecoded := hw.decoded_of_offers hd
  by_cases hcond : Storable d sn ∧ ∀ r ∈ records, r.Taken
  · rw [exec_of_storable h hdup hd hsn hplan hne hfresh hcond.1 hcond.2, if_pos hcond]
  · have hrefused : Manager.commit cfg w.stream records =
        { stream := w.stream, result := .retryable } := by
      refine Manager.commit_of_unsendable fun ⟨hnamed, htaken⟩ => ?_
      have hstorable : ¬ Storable d sn := fun hstorable => hcond ⟨hstorable, htaken⟩
      have hplanned := planned_of_handleRecords hdecoded (hw.eventSound_of_snapshot hsn) hplan
      have hstate := (checks_of_handleRecords hne hplan).2.2.mpr fun hevent =>
        hstorable (.inl hevent.1)
      exact not_statesNamed hplanned hstate hstorable hnamed
    have hhandled : Manager.handleSnapshot cfg env failEnv d sn w.stream =
        .ok { stream := w.stream, result := .retryable } := by
      rw [Manager.handleSnapshot, hplan]
      exact congrArg Except.ok hrefused
    rw [exec_uninterrupted ack hd hsn hhandled, if_neg hcond]
    simp [World.after]

namespace Sample

/-- The run is in its first step, and an event for it has been published. -/
def eventOffered : World := world (.publish start :: handled 1 ++ [.publish (event "pay")])

/-- What a call sees of the run in its first step. -/
def firstStep : StateSnapshot where
  runState := currentState eventOffered.stream "wf" "r1"
  lastHistorySeqID := 2

end Sample

theorem handled_alone_event : ∃ records,
    exec (step Sample.config) (fun _ _ => True) Sample.eventOffered
      (uninterrupted 0 9 Sample.env Sample.env true) = some { Sample.eventOffered with
        stream := Sample.eventOffered.stream.appendAll (records.flatMap Record.messages)
        acked := 9 :: Sample.eventOffered.acked
        journal := Sample.eventOffered.journal ++ [{ directive := Sample.event "pay",
                                                     snapshot := Sample.firstStep,
                                                     records := records, base := 9 }] } := by
  have hplan : handleRecords Sample.config.defaults Sample.env Sample.env (Sample.event "pay")
      Sample.firstStep = .ok [.inbox (Sample.event "pay"), .history _] := rfl
  obtain ⟨hunacked, hstored, hsn⟩ : 9 ∉ Sample.eventOffered.acked ∧
      (Sample.eventOffered.entryAt 9).map (·.toMessage) = some (Sample.event "pay").message ∧
      getStateSnapshot Sample.eventOffered.stream "wf" "r1" = .ok Sample.firstStep := by
    decide +kernel
  exact ⟨_, handled_alone (Sample.reachable_world _) (fun _ _ h => h) 9 (Sample.event "pay")
    ⟨hunacked, hstored⟩ _ _ true Sample.firstStep _ hsn hplan (List.cons_ne_nil _ _)
    (by simp [Record.msgID?])⟩

/-! ### Terminations -/

section Terminate

variable {d : Directive} {reason : String}

/-- What a termination asks for besides the state of the run. -/
def terminationTasks (d : Directive) (reason : String) (cur : RunState) : List Record :=
  Records.workerTerminateRecords d cur ++
    Records.parentCallbackRecords d .terminated .nil
      (some (Records.stopError "Terminated" "run was terminated" reason)) ++ [Records.purgeRecord d]

theorem allAftermath_terminationTasks (d : Directive) (reason : String) (cur : RunState) :
    AllAftermath (terminationTasks d reason cur) := by
  simp [terminationTasks]

/-- The records of a termination, which can always be built. -/
def terminationRecords (env : Readings) (d : Directive) (reason : String) (cur : RunState) :
    List Record :=
  .runInfo { d.runInfo with status := .terminated, completedAt := some d.timestamp } 0 ::
    .history (History.event d d.timestamp .runTerminated (.runTerminated reason
      (d.runInfo.startedAt.elim 0 d.timestamp.subMilliseconds))) ::
    .runState (Records.finished env.now cur .terminate) cur.seqID ::
    terminationTasks d reason cur

theorem terminateRun_eq (hmsg : d.msg = .terminate reason) (env : Readings) (cur : RunState) :
    Records.terminateRun env d cur = .ok (terminationRecords env d reason cur) := by
  simp only [Records.terminateRun, RunInfo.terminate, History.runTerminated, hmsg,
    terminationRecords]
  cases d.runInfo.startedAt <;> rfl

theorem handleRecords_of_terminate (hkind : d.kind = .terminate) (hmsg : d.msg = .terminate reason)
    (cfg : Defaults) (env failEnv : Readings) {sn : StateSnapshot}
    (hlive : sn.runState.isTerminal = false) :
    handleRecords cfg env failEnv d sn = .ok (terminationRecords env d reason sn.runState) := by
  simp only [handleRecords, plan, hlive, hkind, planTransition, terminateRun_eq hmsg,
    Bool.false_eq_true, if_false]

/-- The identifiers of a termination come from its directive. -/
theorem msgIDs_terminationRecords (env : Readings) (cur : RunState) {id : DirectiveID}
    (hid : id ∈ (terminationRecords env d reason cur).filterMap Record.msgID?) :
    ∃ mark ∈ Mark.after, id = mark.id d.id := by
  obtain ⟨r, hr, hid⟩ := List.mem_filterMap.mp hid
  simp only [terminationRecords, terminationTasks, List.mem_append, List.mem_cons,
    List.not_mem_nil, or_false] at hr
  rcases hr with rfl | rfl | rfl | (hr | hr) | rfl
  · cases hid
  · cases hid
  · cases hid
  · rw [Records.workerTerminateRecords] at hr
    split at hr
    · cases hr
    · rw [List.mem_singleton.mp hr] at hid
      exact ⟨.task .workerTerminateRun, by decide, (Option.some.inj hid).symm⟩
  · rw [Records.parentCallbackRecords] at hr
    split at hr
    · rw [List.mem_singleton.mp hr] at hid
      exact ⟨.task .notifyParentComplete, by decide, (Option.some.inj hid).symm⟩
    · cases hr
  · exact ⟨.task .purgeRunResidue, by decide, (Option.some.inj hid).symm⟩

theorem not_describes_of_isAftermath {r : Record} (hr : r.isAftermath = true) {m : Msg}
    (hm : m ∈ r.messages) (wf : WFID) : m.subject.describes wf = false := by
  cases r <;> simp_all [Record.isAftermath, Record.messages, Subject.describes]

/-- A termination leaves its own description of the run behind. -/
theorem getRunByWFID_terminationRecords (env : Readings) (cur : RunState) (l : Stream) :
    getRunByWFID (l.appendAll ((terminationRecords env d reason cur).flatMap Record.messages))
      d.runInfo.wfID = .ok (some { d.runInfo with
        status := .terminated, completedAt := some d.timestamp }) := by
  refine getRunByWFID_appendAll l [] ((Record.history _).messages ++
    ((Record.runState _ _).messages ++ (terminationTasks d reason cur).flatMap Record.messages))
    (by simp [Subject.describes]) rfl fun m hm => ?_
  simp only [List.mem_append] at hm
  rcases hm with hm | hm | hm
  · rw [List.mem_singleton.mp hm]
    rfl
  · rw [List.mem_singleton.mp hm]
    rfl
  · obtain ⟨r, hr, hm⟩ := List.mem_flatMap.mp hm
    exact not_describes_of_isAftermath (allAftermath_terminationTasks _ _ _ r hr) hm _

theorem runStates_terminationRecords (env : Readings) (cur : RunState) :
    (terminationRecords env d reason cur).filterMap Record.runState? =
      [(Records.finished env.now cur .terminate, cur.seqID)] := by
  have hnone := (allAftermath_terminationTasks d reason cur).allNotes.runStates
  simp [terminationRecords, List.filterMap_cons, hnone, Record.runState?]

end Terminate

/-- **Terminations.** In every reachable world, a termination that is handled without an
interruption ends its run, if the run has a state that is not terminal yet, the stream takes the
description of the run and the identifiers that derive from the directive are unused. The run need
not have a start time. -/
theorem terminate_ends_run {cfg : Manager.Config} {w : World} (h : Reachable cfg w)
    (hdup : ∀ l id, cfg.dup l id = true → l.seen id = true) (seq : ℕ) (d : Directive)
    (hd : w.Offers seq d) (hkind : d.kind = .terminate) (s : RunState)
    (hs : getRunState w.stream d.runInfo.wfID d.runInfo.id = .ok (some s))
    (hlive : s.isTerminal = false) (hinfo : d.runInfo.Taken)
    (hfresh : ∀ mark ∈ Mark.after, w.stream.seen (mark.id d.id) = false)
    (env failEnv : Readings) (ack : Bool) :
    ∃ w' k, exec (step cfg) (fun _ _ => True) w
        (uninterrupted w.calls.length seq env failEnv ack) = some w' ∧
      getRunState w'.stream d.runInfo.wfID d.runInfo.id =
        .ok (some { Records.finished env.now s .terminate with seqID := k }) ∧
      getRunByWFID w'.stream d.runInfo.wfID =
        .ok (some { d.runInfo with status := .terminated, completedAt := some d.timestamp }) ∧
      w'.acked = if ack then seq :: w.acked else w.acked := by
  have hw := sound_of_reachableBy h
  have hdecoded := hw.decoded_of_offers hd
  obtain ⟨reason, hmsg⟩ : ∃ reason, d.msg = .terminate reason := by
    have hagrees := hdecoded.2
    rw [hkind] at hagrees
    cases hmsg : d.msg <;> simp [hmsg, DirectiveMessage.agrees] at hagrees
    exact ⟨_, rfl⟩
  obtain ⟨sn, hsn⟩ := hw.exists_getStateSnapshot d.runInfo.wfID d.runInfo.id
  have hstate : sn.runState = s := by
    obtain ⟨s', e, hs', -, rfl⟩ := getStateSnapshot_eq_ok hsn
    rw [Except.ok.inj (hs'.symm.trans hs)]
    rfl
  have hplan := handleRecords_of_terminate hkind hmsg cfg.defaults env failEnv (hstate ▸ hlive)
  have hne : terminationRecords env d reason sn.runState ≠ [] := List.cons_ne_nil _ _
  have hnew : ∀ id ∈ (terminationRecords env d reason sn.runState).filterMap Record.msgID?,
      w.stream.seen id = false := fun id hid => by
    obtain ⟨mark, hmark, rfl⟩ := msgIDs_terminationRecords env sn.runState hid
    exact hfresh mark hmark
  obtain ⟨hof, hwf, -⟩ := hw.stateOf (storedState_of_getRunState hs)
  have hstorable : Storable d sn := .inr (.inl fun hzero => hwf (by
    rw [← hof.wfID, ← hstate, hzero]
    rfl))
  have hcur : sn.runState.Housed := fun _ _ => by
    rw [hstate, hof.wfID, hof.runID]
    exact hinfo.texts.2
  have hplanned := planned_of_handleRecords hdecoded (hw.eventSound_of_snapshot hsn) hplan
  have htaken : ∀ r ∈ terminationRecords env d reason sn.runState, r.Taken :=
    (Records.filed_terminateRun hinfo hcur (terminateRun_eq hmsg env sn.runState)).taken
      (statesNamed_of_storable hw hplanned hsn hstorable) (by simp)
  have hcommit := commit_of_snapshot hw hdup hdecoded hsn hplan hne hnew hstorable htaken
  have hstates : (terminationRecords env d reason sn.runState).filterMap Record.runState? =
      [] ++ [_] := runStates_terminationRecords env sn.runState
  obtain ⟨k, hk⟩ := getRunState_of_commit hstates hcommit
  refine ⟨_, k, exec_of_storable h hdup hd hsn hplan hne hnew hstorable htaken, ?_,
    getRunByWFID_terminationRecords env sn.runState w.stream, rfl⟩
  rw [← hof.wfID, ← hof.runID, ← hstate]
  exact hk

/-- A termination of the run in its first step has been published. -/
def Sample.stopOffered : World :=
  world (.publish start :: handled 1 ++
    [.publish (directive "stop" .terminate (.terminate "no longer needed"))])

theorem terminate_ends_run_stop : ∃ w',
    exec (step Sample.config) (fun _ _ => True) Sample.stopOffered
      (uninterrupted 0 9 Sample.env Sample.env true) = some w' ∧
    (∃ s, getRunState w'.stream "wf" "r1" = .ok (some s) ∧ s.kind = .terminate) ∧
    w'.acked = 9 :: Sample.stopOffered.acked := by
  have hreach : Reachable Sample.config Sample.stopOffered := Sample.reachable_world _
  obtain ⟨hunacked, hstored, hs, hlive, hfresh⟩ : 9 ∉ Sample.stopOffered.acked ∧
      (Sample.stopOffered.entryAt 9).map (·.toMessage) =
        some (Sample.directive "stop" .terminate (.terminate "no longer needed")).message ∧
      getRunState Sample.stopOffered.stream "wf" "r1" =
        .ok (some (currentState Sample.stopOffered.stream "wf" "r1")) ∧
      (currentState Sample.stopOffered.stream "wf" "r1").isTerminal = false ∧
      ∀ mark ∈ Mark.after, Sample.stopOffered.stream.seen (mark.id "stop") = false := by
    decide +kernel
  obtain ⟨w', k, hexec, hstate, -, hacked⟩ := terminate_ends_run hreach
    (fun _ _ h => h) 9 (Sample.directive "stop" .terminate (.terminate "no longer needed"))
    ⟨hunacked, hstored⟩ rfl _ hs hlive (by decide +kernel) hfresh Sample.env Sample.env true
  exact ⟨w', hexec, ⟨_, hstate, rfl⟩, hacked⟩

end Grctl
