import Grctl.Run.Turn
import Grctl.Store.JSStateStore

/-!
# The subjects of a batch

A batch is published as a whole: one message whose subject the stream does not take makes the store
refuse all of it. The subjects of a batch are made of the identifiers of the run, of directive
identifiers, which are part of the identifiers of timers, and of the keys that a step result
updates. The keys are the only texts in a batch that have not been part of a subject before: the
description of the run was stored when the run was created, and its state is read from the stream.

`Filed` says so of a list of records: apart from the keys, the stream takes their messages. This
file proves it of what the builders make of a directive. Whether the stream takes a batch is then
decided by the keys alone (`Filed.taken_iff`).

## Main definitions

* `RunState.Housed`, `Record.Housed`.
* `Record.keys`, `Directive.resultKeys`.
* `Filed`: records whose subjects are taken, with the keys that they have.

## Main results

* `Filed.taken_iff`: the stream takes the messages of such records exactly if the keys are single
  tokens.
* `Records.filed_failRun`, `Records.filed_terminateRun`, `filed_planTransition`, `filed_of_plan`.
-/

namespace Grctl

/-- The stream takes the state, if it has the identifiers that the encoder asks for. -/
def RunState.Housed (s : RunState) : Prop :=
  s.wfID ≠ "" → s.runID ≠ "" → (Subject.runState s.wfID s.runID).Taken
  deriving Decidable

/-- The keys of a record of updates. -/
def Record.keys : Record → List String
  | .kv _ _ kvMap => kvMap.map Prod.fst
  | _ => []

/-- Apart from keys, the stream takes the messages of the record that the encoder makes. -/
def Record.Housed : Record → Prop
  | .kv wfID runID _ => SubjectToken wfID ∧ SubjectToken runID
  | .runState s _ => s.Housed
  | r => r.Taken

/-- The keys that a step result updates. -/
def Directive.resultKeys (d : Directive) : List String :=
  match d.kind, d.msg with
  | .stepResult, .stepResult _ _ _ _ kvUpdates _ _ => (kvUpdates.getD []).map Prod.fst
  | _, _ => []

/-- Apart from the given keys, the stream takes the messages of the records. -/
structure Filed (keys : List String) (records : List Record) : Prop where
  housed : ∀ r ∈ records, r.Housed
  keys : records.flatMap Record.keys = keys

section Filed

variable {ks ks' : List String} {rs rs' records : List Record} {r : Record}

theorem Filed.append (h : Filed ks rs) (h' : Filed ks' rs') : Filed (ks ++ ks') (rs ++ rs') where
  housed := List.forall_mem_append.2 ⟨h.housed, h'.housed⟩
  keys := by rw [List.flatMap_append, h.keys, h'.keys]

theorem filed_nil : Filed [] [] := ⟨by simp, rfl⟩

theorem Filed.cons (hr : r.Housed) (hkeys : r.keys = []) (h : Filed ks rs) :
    Filed ks (r :: rs) where
  housed := List.forall_mem_cons.2 ⟨hr, h.housed⟩
  keys := by rw [List.flatMap_cons, hkeys, List.nil_append, h.keys]

/-- Background tasks have a subject of their own. -/
theorem Filed.cons_task {task : BackgroundTask} (h : Filed ks rs) :
    Filed ks (.backgroundTask task :: rs) :=
  h.cons (by simp [Record.Housed, Record.Taken, Record.messages, Subject.Taken]) rfl

/-- What the encoder makes of a record is taken, if its keys are single tokens. -/
theorem Record.taken_of_housed {messages : List Msg} (hr : r.Housed)
    (hkeys : ∀ key ∈ r.keys, SubjectToken key) (h : recordToNats r = .ok messages) :
    ∀ m ∈ messages, m.subject.Taken := by
  obtain ⟨rfl, hnamed⟩ := recordToNats_eq_ok h
  cases r with
  | kv wfID runID kvMap =>
    intro m hm
    obtain ⟨u, hu, rfl⟩ := List.mem_map.1 hm
    exact ⟨hr.1, hr.2, hkeys u.1 (List.mem_map_of_mem hu)⟩
  | runState s n =>
    obtain ⟨hwf, hrun⟩ := hnamed s n rfl
    exact List.forall_mem_singleton.2 (hr hwf hrun)
  | _ => exact hr

/-- The keys of a record whose messages are taken are single tokens. -/
theorem Record.token_of_taken {key : String} (h : ∀ m ∈ r.messages, m.subject.Taken)
    (hkey : key ∈ r.keys) : SubjectToken key := by
  cases r with
  | kv wfID runID kvMap =>
    obtain ⟨u, hu, rfl⟩ := List.mem_map.1 hkey
    exact (h _ (List.mem_map_of_mem hu)).2.2
  | _ => cases hkey

/-- Whether the stream takes the messages is decided by the keys. -/
theorem Filed.taken_iff (h : Filed ks records) :
    (∀ r ∈ records, ∀ messages, recordToNats r = .ok messages →
      ∀ m ∈ messages, m.subject.Taken) ↔ ∀ key ∈ ks, SubjectToken key := by
  constructor
  · intro htaken key hkey
    rw [← h.keys] at hkey
    obtain ⟨r, hr, hkey⟩ := List.mem_flatMap.1 hkey
    refine Record.token_of_taken (fun m hm => ?_) hkey
    cases r with
    | kv wfID runID kvMap => exact htaken _ hr _ rfl m hm
    | _ => cases hkey
  · intro hkeys r hr messages hmessages
    refine Record.taken_of_housed (h.housed r hr) (fun key hkey => hkeys key ?_) hmessages
    rw [← h.keys]
    exact List.mem_flatMap.2 ⟨r, hr, hkey⟩

theorem Filed.taken (h : Filed ks records) (hnamed : StatesNamed records)
    (hkeys : ∀ key ∈ ks, SubjectToken key) : ∀ r ∈ records, r.Taken :=
  fun r hr => h.taken_iff.2 hkeys r hr _ (recordToNats_of_statesNamed hnamed hr)

end Filed

/-! ### The pieces of a batch -/

section Pieces

variable {ri ri' : RunInfo} {d : Directive} {e : HistoryEvent} {k : HistoryKind} {n : ℕ}

theorem RunInfo.SameRun.taken_iff (h : ri.SameRun ri') : ri.Taken ↔ ri'.Taken := by
  rw [RunInfo.Taken, RunInfo.Taken, h.wfType, h.wfID, h.id]

/-- The identifiers of a run whose description is taken can be part of other subjects. -/
theorem housed_runInfo (h : ri.Taken) : (Record.runInfo ri n).Housed :=
  List.forall_mem_singleton.2 h

theorem housed_history (he : History.About d k e) (h : d.runInfo.Taken) :
    (Record.history e).Housed := by
  have htexts := h.texts.2
  rw [← he.wfID, ← he.runID] at htexts
  exact List.forall_mem_singleton.2 htexts

theorem housed_directive (h : d.runInfo.Taken) : (Record.directive d).Housed :=
  List.forall_mem_singleton.2 h.texts

theorem housed_workerTask (h : d.runInfo.Taken) : (Record.workerTask d).Housed :=
  List.forall_mem_singleton.2 h.texts

theorem housed_inbox (h : d.runInfo.Taken) : (Record.inbox d).Housed :=
  List.forall_mem_singleton.2 h.texts.2.1

theorem housed_runInput {input : Value} (h : ri.Taken) :
    (Record.runInput ri.wfID ri.id input).Housed :=
  List.forall_mem_singleton.2 h.2

theorem housed_runOutput {result : Value} (h : ri.Taken) :
    (Record.runOutput ri.wfID ri.id result).Housed :=
  List.forall_mem_singleton.2 h.2

theorem housed_runError {error : ErrorDetails} (h : ri.Taken) :
    (Record.runError ri.wfID ri.id error).Housed :=
  List.forall_mem_singleton.2 h.2

/-- An identifier in front of which the server puts a word and a dot. -/
theorem subjectText_dotted {word id : String} (hword : SubjectText word) (h : SubjectText id) :
    SubjectText (word ++ "." ++ id) := by
  have heq : (word ++ "." ++ id).toList = word.toList ++ '.' :: id.toList := by
    simp [String.toList_append]
  rw [SubjectText, heq, Text.wellFormed_append_cons]
  exact ⟨hword, h⟩

theorem subjectText_deriveNextDirectiveID {id : DirectiveID} (h : SubjectText id) :
    SubjectText (deriveNextDirectiveID id) := by
  have hword : SubjectText "next" := by decide
  simpa [deriveNextDirectiveID] using subjectText_dotted hword h

/-- The timers of steps and waits are taken with the identifiers of their directives. -/
theorem housed_timer {t : Timer} {id : DirectiveID} (hwf : SubjectText t.wfID)
    (hkind : t.kind = .stepTimeout ∨ t.kind = .waitTimeout) (hid : t.id = deriveTimerID id t.kind)
    (h : SubjectText id) : (Record.timer t).Housed := by
  have htext : SubjectText t.kind.text := by
    rcases hkind with hkind | hkind <;> rw [hkind] <;> decide
  have htimer : SubjectText t.id := by
    rw [hid]
    exact subjectText_dotted htext h
  exact List.forall_mem_singleton.2 ⟨hwf, htext, htimer⟩

end Pieces

/-! ### The builders -/

namespace Records

variable {env : Readings} {d : Directive} {cur : RunState} {sn : StateSnapshot}
  {records : List Record} {timeoutMS : UInt32}

theorem filed_parentCallbackRecords {status : RunStatus} {result : Value}
    {error : Option ErrorDetails} : Filed [] (parentCallbackRecords d status result error) := by
  unfold parentCallbackRecords
  split
  · exact filed_nil.cons_task
  · exact filed_nil

theorem filed_workerTerminateRecords : Filed [] (workerTerminateRecords d cur) := by
  unfold workerTerminateRecords
  split
  · exact filed_nil
  · exact filed_nil.cons_task

/-- The task that every ended run leaves, after its notice to the parent. -/
theorem filed_aftermath {status : RunStatus} {result : Value} {error : Option ErrorDetails} :
    Filed [] (parentCallbackRecords d status result error ++ [purgeRecord d]) :=
  filed_parentCallbackRecords.append filed_nil.cons_task

theorem filed_outputRecords {result : Value} (hri : d.runInfo.Taken) :
    Filed [] (outputRecords d result) := by
  unfold outputRecords
  split
  · exact filed_nil
  · exact filed_nil.cons (housed_runOutput hri) rfl

/-- The end of a run: what the four terminal builders have in common. -/
theorem filed_end {now : Time} {kind : RunStateKind} {k : HistoryKind} {ri : RunInfo}
    {e : HistoryEvent} {rest : List Record} {n : ℕ} (hri : d.runInfo.Taken) (hcur : cur.Housed)
    (hsame : ri.SameRun d.runInfo) (he : History.About d k e) (hrest : Filed [] rest) :
    Filed [] (.runInfo ri 0 :: .history e :: .runState (finished now cur kind) n :: rest) :=
  .cons (housed_runInfo (hsame.taken_iff.2 hri)) rfl
    (.cons (housed_history he hri) rfl (.cons hcur rfl hrest))

theorem filed_completeRun (hri : d.runInfo.Taken) (hcur : cur.Housed)
    (h : completeRun env d cur = .ok records) : Filed [] records := by
  obtain ⟨result, ri, e, -, hri', he, rfl⟩ := completeRun_eq_ok h
  rw [List.append_assoc]
  exact filed_end hri hcur (RunInfo.sameRun_of_finishStarted hri').1
    (History.about_of_runCompleted he) ((filed_outputRecords hri).append filed_aftermath)

theorem filed_failRun (hri : d.runInfo.Taken) (hcur : cur.Housed)
    (h : failRun env d cur = .ok records) : Filed [] records := by
  obtain ⟨error, ri, e, -, hri', he, rfl⟩ := failRun_eq_ok h
  rw [List.append_assoc, List.append_assoc]
  exact filed_end hri hcur (RunInfo.sameRun_of_finishStarted hri').1
    (History.about_of_runFailed he)
    (.cons (housed_runError hri) rfl (filed_workerTerminateRecords.append filed_aftermath))

theorem filed_terminateRun (hri : d.runInfo.Taken) (hcur : cur.Housed)
    (h : terminateRun env d cur = .ok records) : Filed [] records := by
  obtain ⟨reason, ri, e, -, hri', he, rfl⟩ := terminateRun_eq_ok h
  cases hri'
  rw [List.append_assoc, List.append_assoc]
  exact filed_end hri hcur ⟨rfl, rfl, rfl⟩ (History.about_of_runTerminated he)
    (filed_workerTerminateRecords.append filed_aftermath)

theorem filed_cancelRun (hri : d.runInfo.Taken) (hcur : cur.Housed)
    (h : cancelRun env d cur = .ok records) : Filed [] records := by
  obtain ⟨reason, ri, e, -, hri', he, rfl⟩ := cancelRun_eq_ok h
  cases hri'
  rw [List.append_assoc]
  exact filed_end hri hcur ⟨rfl, rfl, rfl⟩ (History.about_of_runCancelled he) filed_aftermath

/-- An event of the history that is followed by a change of the state. -/
theorem filed_receipt {k : HistoryKind} {e : HistoryEvent} {s : RunState} {n : ℕ}
    (hri : d.runInfo.Taken) (he : History.About d k e) (hs : s.Housed) :
    Filed [] [.history e, .runState s n] :=
  .cons (housed_history he hri) rfl (.cons hs rfl filed_nil)

theorem filed_dispatch {name : String} {cursor : ℕ} (hri : d.runInfo.Taken)
    (hid : SubjectText d.id) (hcur : cur.Housed)
    (h : dispatch env d name cur cursor timeoutMS = .ok records) : Filed [] records := by
  simp only [dispatch, bind_eq_ok, wrap_eq_ok, pure_eq_ok] at h
  obtain ⟨timer, htimer, ri, hri', rfl⟩ := h
  have hsame := (RunInfo.sameRun_of_startStep hri').1
  have htimer : (Record.timer timer).Housed := by
    rw [stepTimeoutTimer] at htimer
    split at htimer
    · simp at htimer
    · cases htimer
      exact housed_timer hri.texts.2.1 (.inl rfl) rfl hid
  exact .cons htimer rfl (.cons (housed_runInfo (hsame.taken_iff.2 hri)) rfl
    (.cons (housed_workerTask (hsame.taken_iff.2 hri)) rfl (.cons hcur rfl filed_nil)))

theorem filed_stepStart (hri : d.runInfo.Taken) (hid : SubjectText d.id) (hcur : cur.Housed)
    (h : stepStart env d cur timeoutMS = .ok records) : Filed [] records := by
  obtain ⟨name, h⟩ := stepStart_eq_ok h
  have hsame : (repairRunInfo d cur).runInfo.SameRun d.runInfo := ⟨rfl, rfl, rfl⟩
  exact filed_dispatch (hsame.taken_iff.2 hri) hid hcur h

theorem filed_eventStart (hri : d.runInfo.Taken) (hid : SubjectText d.id) (hcur : cur.Housed)
    (h : eventStart env d cur timeoutMS = .ok records) : Filed [] records := by
  obtain ⟨e, -, h⟩ := eventStart_eq_ok h
  have hsame : (repairRunInfo d cur).runInfo.SameRun d.runInfo := ⟨rfl, rfl, rfl⟩
  exact filed_dispatch (hsame.taken_iff.2 hri) hid hcur h

theorem filed_wait (hri : d.runInfo.Taken) (hid : SubjectText d.id) (hcur : sn.runState.Housed)
    (h : wait env d sn timeoutMS = .ok records) : Filed [] records := by
  obtain ⟨t, name, ri, e, -, hri', he, rfl⟩ := wait_eq_ok h
  cases hri'
  have hhistory := housed_history (History.about_of_waitStarted he) hri
  refine .cons (housed_runInfo hri) rfl (.cons hhistory
    rfl (.cons (housed_timer hri.texts.2.1 (.inr rfl) rfl hid) rfl (.cons hcur rfl ?_)))
  split_ifs
  · exact filed_nil.cons (housed_directive hri) rfl
  · exact filed_nil

theorem filed_stepTimeout (hri : d.runInfo.Taken) (hcur : cur.Housed)
    (h : stepTimeout env d cur = .ok records) : Filed [] records := by
  obtain ⟨_, _, e, body, -, -, he, hbody, rfl⟩ := stepTimeout_eq_ok h
  exact .cons (housed_history (History.about_of_stepTimedout he) hri) rfl
    (filed_failRun (d := failDirective ..) hri hcur hbody)

theorem filed_waitTimeout (hri : d.runInfo.Taken) (hid : SubjectText d.id) (hcur : cur.Housed)
    (h : waitTimeout env d cur timeoutMS = .ok records) : Filed [] records := by
  obtain ⟨_, e, body, -, -, he, rfl, hbody⟩ := waitTimeout_eq_ok h
  refine .cons (housed_history (History.about_of_waitTimedOut he) hri) rfl ?_
  rcases hbody with hbody | ⟨error, hbody⟩
  · exact filed_stepStart (d := timeoutStepDirective ..) hri
      (subjectText_deriveNextDirectiveID hid) hcur hbody
  · exact filed_failRun (d := failDirective ..) hri hcur hbody

/-- The records that close a step file its updates. -/
theorem filed_step {k : HistoryKind} {kvUpdates : Option KVUpdates} {e : HistoryEvent}
    (hri : d.runInfo.Taken) (he : History.About d k e) :
    Filed ((kvUpdates.getD []).map Prod.fst)
      (kvRecords d kvUpdates ++ [.history e] ++ deleteStepTimeoutTimer d cur) := by
  have hkv : Filed ((kvUpdates.getD []).map Prod.fst) (kvRecords d kvUpdates) := by
    cases kvUpdates with
    | none => exact filed_nil
    | some kvMap =>
      refine ⟨?_, by simp [kvRecords, Record.keys]⟩
      simpa [kvRecords, Record.Housed] using hri.2
  have hrest : Filed [] ([.history e] ++ deleteStepTimeoutTimer d cur) :=
    .cons (housed_history he hri) rfl filed_nil.cons_task
  rw [List.append_assoc]
  simpa using hkv.append hrest

end Records

/-! ### Planned batches -/

section Plan

variable {cfg : Defaults} {env : Readings} {d : Directive} {sn : StateSnapshot}
  {records : List Record}

theorem filed_planTransition (hri : d.runInfo.Taken) (hid : SubjectText d.id)
    (hcur : sn.runState.Housed) (h : planTransition cfg env d sn = .ok records) :
    Filed [] records := by
  rw [planTransition] at h
  split at h
  · exact Records.filed_stepStart hri hid hcur h
  · obtain ⟨workerID, e, he, rfl⟩ := Records.stepPickedUp_eq_ok h
    exact Records.filed_receipt hri (History.about_of_stepPickedUp he) hcur
  · exact Records.filed_eventStart hri hid hcur h
  · exact Records.filed_stepTimeout hri hcur h
  · exact Records.filed_completeRun hri hcur h
  · exact Records.filed_failRun hri hcur h
  · exact Records.filed_terminateRun hri hcur h
  · exact Records.filed_wait hri hid hcur h
  · exact Records.filed_waitTimeout hri hid hcur h
  · simp at h

theorem resultKeys_of_msg {processedKind nextMsgKind : DirectiveKind}
    {processedMsg nextMsg : DirectiveMessage} {workerID : Option WorkerID} {durationMS : ℤ}
    {kvUpdates : Option KVUpdates} (hd : d.kind = .stepResult)
    (hmsg : d.msg = .stepResult processedKind processedMsg workerID durationMS kvUpdates nextMsgKind
      nextMsg) : d.resultKeys = (kvUpdates.getD []).map Prod.fst := by
  simp [Directive.resultKeys, hd, hmsg]

theorem resultKeys_eq_nil (hd : d.kind ≠ .stepResult) : d.resultKeys = [] := by
  unfold Directive.resultKeys
  split
  · exact absurd ‹_› hd
  · rfl

theorem filed_stepComplete {cur : RunState} (hri : d.runInfo.Taken) (hd : d.kind = .stepResult)
    (h : Records.stepComplete env d cur = .ok records) : Filed d.resultKeys records := by
  obtain ⟨_, _, _, _, _, _, _, e, hmsg, he, rfl⟩ := Records.stepComplete_eq_ok h
  exact resultKeys_of_msg hd hmsg ▸ Records.filed_step hri (History.about_of_stepCompleted he)

theorem filed_stepFail {cur : RunState} (hri : d.runInfo.Taken) (hd : d.kind = .stepResult)
    (h : Records.stepFail env d cur = .ok records) : Filed d.resultKeys records := by
  obtain ⟨_, _, _, _, _, _, _, e, hmsg, he, rfl⟩ := Records.stepFail_eq_ok h
  exact resultKeys_of_msg hd hmsg ▸ Records.filed_step hri (History.about_of_stepFailed he)

theorem filed_planFromStepResult (hri : d.runInfo.Taken) (hid : SubjectText d.id)
    (hcur : sn.runState.Housed)
    (hcancel : ∀ cancel, sn.runState.pendingCancel = some cancel → cancel.runInfo.Taken)
    (hd : d.kind = .stepResult) (h : planFromStepResult cfg env d sn = .ok records) :
    Filed d.resultKeys records := by
  obtain ⟨notes, body, hparts, rfl⟩ := planFromStepResult_eq_ok h
  rw [← List.append_nil d.resultKeys]
  cases hparts with
  | fail hnotes hbody =>
    exact (filed_stepFail hri hd hnotes).append
      (Records.filed_failRun (d := deriveNextDirective ..) hri hcur hbody)
  | cancel hc hnotes hbody =>
    exact (filed_stepComplete hri hd hnotes).append
      (Records.filed_cancelRun (hcancel _ hc) hcur hbody)
  | next _ _ hnotes hbody =>
    exact (filed_stepComplete hri hd hnotes).append
      (filed_planTransition (d := deriveNextDirective ..) hri
        (subjectText_deriveNextDirectiveID hid) hcur hbody)

theorem filed_planFromRunStart (hri : d.runInfo.Taken) (hid : SubjectText d.id)
    (h : planFromRunStart cfg env d = .ok records) : Filed [] records := by
  obtain ⟨ri, e, input, step, hri', he, hinput, hstep, rfl⟩ := parts_of_planFromRunStart h
  have htaken : ri.Taken := (RunInfo.sameRun_of_start hri').1.taken_iff.2 hri
  have hstate : (startState env.now d).Housed := fun _ _ => hri.texts.2
  have hfiled : Filed [] input := by
    refine ⟨fun r hr => ?_, List.flatMap_eq_nil_iff.2 fun r hr => ?_⟩
    · obtain ⟨v, rfl⟩ := hinput r hr
      exact housed_runInput htaken
    · obtain ⟨v, rfl⟩ := hinput r hr
      rfl
  have hhead : Filed [] [.history e, .runInfo ri 0] :=
    .cons (housed_history he hri) rfl (.cons (housed_runInfo htaken) rfl filed_nil)
  exact (hhead.append hfiled).append
    (.cons hstate rfl
      (Records.filed_stepStart (d := { d with runInfo := ri }) htaken hid hstate hstep))

/-- Apart from the keys of a result, the stream takes the messages of a planned batch. -/
theorem filed_of_plan (hri : d.runInfo.Taken) (hid : SubjectText d.id)
    (hcur : sn.runState.Housed)
    (hevent : sn.event.id ≠ "" → sn.event.runInfo.Taken ∧ SubjectText sn.event.id)
    (hcancel : ∀ cancel, sn.runState.pendingCancel = some cancel → cancel.runInfo.Taken)
    (hlive : sn.runState.isTerminal = false) (h : plan cfg env d sn = .ok records) :
    Filed d.resultKeys records := by
  rw [plan, if_neg (by simp [hlive])] at h
  split at h <;> rename_i hd
  · rw [resultKeys_eq_nil (by simp [hd])]
    exact filed_planFromRunStart hri hid h
  · exact filed_planFromStepResult hri hid hcur hcancel hd h
  · rw [resultKeys_eq_nil (by simp [hd])]
    rw [planCancel] at h
    split_ifs at h
    · obtain ⟨e, he, rfl⟩ := Records.cancelReceived_eq_ok h
      exact Records.filed_receipt hri (History.about_of_runCancelReceived he) hcur
    · exact Records.filed_cancelRun hri hcur h
  · rw [resultKeys_eq_nil (by simp [hd])]
    obtain ⟨e, he, rfl⟩ := Records.eventReceived_eq_ok h
    refine .cons (housed_inbox hri) rfl
      (.cons (housed_history (History.about_of_eventReceived he) hri) rfl ?_)
    split_ifs
    · exact filed_nil.cons (housed_directive hri) rfl
    · exact filed_nil
  · rw [resultKeys_eq_nil (by simp [hd])]
    rw [planWakeFromInbox] at h
    split_ifs at h with hidle
    · cases h
      exact filed_nil
    · obtain ⟨hri', hid'⟩ := hevent (by simp_all)
      exact filed_planTransition hri' hid' hcur h
  · rw [resultKeys_eq_nil (by assumption)]
    exact filed_planTransition hri hid hcur h

end Plan

end Grctl
