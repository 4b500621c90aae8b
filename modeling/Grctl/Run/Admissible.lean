import Grctl.Natsreg.Family
import Grctl.Run.Identifiers
import Grctl.Run.Manager

/-!
# Batches and the checks of the stream

The stream publishes a batch as a whole or refuses it. It refuses two messages with one identifier,
and an expected sequence that is not the last one of its subject, for which another message of the
same batch is enough. Both would be refused for ever, as a retried directive leads to the same
batch, so that the batches must be right by construction.

The identifiers of a batch are derived: those of background tasks from the directive that a record
builder was handed, which can be the directive at hand, the one that follows it, a parked cancel or
a failure made up on the spot, and that of a wake-up. Every way to derive one, a `Mark`, is used at
most once in a batch, and an identifier tells its mark; so it does not matter what the directives
are. The expected sequences stand on run states only, and a batch writes one run state, except for
that of a start, which expects nothing.

Unlike `Planned`, nothing is asked of the directive or the snapshot here.

## Main definitions

* `Mark`, `Marked`: the identifiers of a batch and where they come from.
* `Advances`: the batch writes one run state that follows the one of the snapshot.
* `SingleGuard`: what the stream is asked to check.

## Main results

* `Marked.nodup`, `Advances.singleGuard`.
* `advances_of_planTransition`, `advances_of_planFromStepResult`.
* `batch_admissible`.
-/

namespace Grctl

/-! ### Identifiers -/

/-- The ways to derive the identifiers of messages: a directive that follows another one, and a
task of some kind that a directive asks for. -/
inductive Mark
  | next
  | task (kind : BackgroundTaskKind)
  deriving DecidableEq

namespace Mark

/-- The identifier that is derived from another one. -/
def id : Mark → DirectiveID → DirectiveID
  | .next, parent => deriveNextDirectiveID parent
  | .task kind, parent => deriveBgTaskID parent kind

/-- The tasks that end a run, in the order of their records, and the wake-up of a wait. -/
def after : List Mark :=
  [.task .workerTerminateRun, .task .notifyParentComplete, .task .purgeRunResidue, .next]

/-- What a batch can hold: the end of a step, and what comes after it. -/
def all : List Mark := .task .deleteTimer :: after

/-- The first word of an identifier. -/
def word : Mark → String
  | .next => "next"
  | .task _ => "bg"

/-- What follows the first word of an identifier and its dot. -/
def rest : Mark → DirectiveID → String
  | .next, parent => parent
  | .task kind, parent => kind.text ++ "." ++ parent

theorem id_eq_dotted (o : Mark) (parent : DirectiveID) :
    o.id parent = o.word ++ "." ++ o.rest parent := by
  cases o <;>
    simp [id, word, rest, deriveNextDirectiveID, deriveBgTaskID, ← String.toList_inj]

theorem dot_not_mem_word (o : Mark) : '.' ∉ o.word.toList := by
  cases o <;> simp [word]

theorem declared_of_mem_all {kind : BackgroundTaskKind} (h : .task kind ∈ all) :
    kind.Declared := by
  simp only [all, after, List.mem_cons, task.injEq, reduceCtorEq, List.not_mem_nil, or_false] at h
  rcases h with rfl | rfl | rfl | rfl <;> trivial

/-- An identifier tells its mark, whatever it is derived from. -/
theorem eq_of_id {o o' : Mark} (ho : o ∈ all) (ho' : o' ∈ all) {parent parent' : DirectiveID}
    (h : o.id parent = o'.id parent') : o = o' := by
  rw [id_eq_dotted, id_eq_dotted, dotted_inj o.dot_not_mem_word o'.dot_not_mem_word] at h
  obtain ⟨hword, hrest⟩ := h
  cases o with
  | next =>
    cases o' with
    | next => rfl
    | task kind' => simp [word] at hword
  | task kind =>
    cases o' with
    | next => simp [word] at hword
    | task kind' =>
      have hkind := declared_of_mem_all ho
      have hkind' := declared_of_mem_all ho'
      have htext := ((dotted_inj hkind.dot_not_mem hkind'.dot_not_mem).1 hrest).1
      rw [hkind.text_inj hkind' htext]

end Mark

/-- The identifier of the message that a record is stored as. -/
def Record.msgID? : Record → Option DirectiveID
  | .directive d => some d.id
  | .backgroundTask task => some task.deduplicationID
  | _ => none

theorem Record.filterMap_msgId (r : Record) :
    r.messages.filterMap (fun m => m.msgId) = r.msgID?.toList := by
  cases r with
  | kv wfID runID kvMap => simp [messages, msgID?, List.filterMap_map]
  | _ => rfl

theorem filterMap_msgId (records : List Record) :
    (records.flatMap Record.messages).filterMap (fun m => m.msgId) =
      records.filterMap Record.msgID? := by
  induction records with
  | nil => rfl
  | cons r records ih =>
    rw [List.flatMap_cons, List.filterMap_append, ih, Record.filterMap_msgId]
    cases h : r.msgID? <;> simp [h]

/-- The identifiers in the records are derived in the given ways, each of which is used at most
once. -/
def Marked (allowed : List Mark) (records : List Record) : Prop :=
  ∃ marks : List (Mark × DirectiveID), (marks.map Prod.fst).Sublist allowed ∧
    records.filterMap Record.msgID? = marks.map fun mark => mark.1.id mark.2

namespace Marked

variable {allowed allowed' : List Mark} {records records' : List Record}

theorem nil (h : ∀ r ∈ records, r.msgID? = none) : Marked [] records :=
  ⟨[], .slnil, List.filterMap_eq_nil_iff.2 h⟩

theorem append (h : Marked allowed records) (h' : Marked allowed' records') :
    Marked (allowed ++ allowed') (records ++ records') := by
  obtain ⟨marks, hsub, hids⟩ := h
  obtain ⟨marks', hsub', hids'⟩ := h'
  refine ⟨marks ++ marks', ?_, ?_⟩
  · rw [List.map_append]
    exact hsub.append hsub'
  · rw [List.filterMap_append, hids, hids', List.map_append]

theorem mono (h : Marked allowed records) (hsub : allowed.Sublist allowed') :
    Marked allowed' records := by
  obtain ⟨marks, hmarks, hids⟩ := h
  exact ⟨marks, hmarks.trans hsub, hids⟩

/-- So no identifier occurs twice. -/
theorem nodup (h : Marked Mark.all records) : (records.filterMap Record.msgID?).Nodup := by
  obtain ⟨marks, hsub, hids⟩ := h
  have hnodup : (marks.map Prod.fst).Nodup := hsub.nodup (by decide)
  rw [hids]
  refine List.Nodup.map_on (fun mark hmark mark' hmark' heq => ?_) hnodup.of_map
  have hfst := Mark.eq_of_id (hsub.subset (List.mem_map_of_mem hmark))
    (hsub.subset (List.mem_map_of_mem hmark')) heq
  exact List.inj_on_of_nodup_map hnodup hmark hmark' hfst

end Marked

/-! ### Expected sequences -/

/-- Whether a message is on the subject of a run state. -/
def onRunState (m : Msg) : Bool :=
  match m.subject with
  | .runState .. => true
  | _ => false

/-- The message of a run state. -/
def stateMessage (state : RunState × ℕ) : Msg where
  subject := .runState state.1.wfID state.1.runID
  data := .runState { state.1 with seqID := 0 }
  expectedLast := expectedLastHeader state.2

theorem filter_onRunState (records : List Record) :
    (records.flatMap Record.messages).filter onRunState =
      (records.filterMap Record.runState?).map stateMessage := by
  induction records with
  | nil => rfl
  | cons r records ih =>
    rw [List.flatMap_cons, List.filter_append, ih]
    cases r with
    | kv wfID runID kvMap =>
      have hkv : (Record.kv wfID runID kvMap).messages.filter onRunState = [] := by
        refine List.filter_eq_nil_iff.2 fun m hm => ?_
        obtain ⟨u, -, rfl⟩ := List.mem_map.1 hm
        simp [onRunState]
      rw [hkv]
      rfl
    | _ => rfl

theorem expectedLastHeader_eq_some {n seq : ℕ} (h : expectedLastHeader n = some seq) :
    n = seq ∧ seq ≠ 0 := by
  unfold expectedLastHeader at h
  split_ifs at h with hpos
  cases h
  exact ⟨rfl, by omega⟩

/-- Only the messages of run descriptions and run states expect anything. -/
theorem Record.eq_of_expectedLast {r : Record} {m : Msg} (hm : m ∈ r.messages) {seq : ℕ}
    (h : m.expectedLast = some seq) :
    seq ≠ 0 ∧ ((∃ info, r = .runInfo info seq) ∨
      ∃ s, r = .runState s seq ∧ m.subject = .runState s.wfID s.runID) := by
  cases r with
  | runInfo info n =>
    obtain rfl := List.mem_singleton.1 hm
    obtain ⟨rfl, hne⟩ := expectedLastHeader_eq_some h
    exact ⟨hne, .inl ⟨info, rfl⟩⟩
  | runState s n =>
    obtain rfl := List.mem_singleton.1 hm
    obtain ⟨rfl, hne⟩ := expectedLastHeader_eq_some h
    exact ⟨hne, .inr ⟨s, rfl, rfl⟩⟩
  | kv wfID runID kvMap =>
    obtain ⟨u, -, rfl⟩ := List.mem_map.1 hm
    cases h
  | _ =>
    obtain rfl := List.mem_singleton.1 hm
    cases h

/-- A batch that writes one run state, to follow the one of the snapshot. -/
structure Advances (allowed : List Mark) (sn : StateSnapshot) (records : List Record) : Prop where
  state : ∃ s, records.filterMap Record.runState? = [(s, sn.runState.seqID)]
  infos : ∀ info n, Record.runInfo info n ∈ records → n = 0
  marked : Marked allowed records

/-- What the stream is asked to check: at most one message expects a sequence, namely that of the
state in the snapshot, and no other message has its subject. -/
def SingleGuard (sn : StateSnapshot) (msgs : List Msg) : Prop :=
  ∀ before m later seq, msgs = before ++ m :: later → m.expectedLast = some seq →
    seq = sn.runState.seqID ∧ ∀ m' ∈ before ++ later, m'.expectedLast = none ∧
      ∀ it it', m'.subject.render it ≠ m.subject.render it'

theorem Advances.exists_runState {allowed : List Mark} {sn : StateSnapshot}
    {records : List Record} (h : Advances allowed sn records) :
    ∃ s n, Record.runState s n ∈ records := by
  obtain ⟨s, hs⟩ := h.state
  have hmem : (s, sn.runState.seqID) ∈ records.filterMap Record.runState? := by simp [hs]
  obtain ⟨r, hr, hstate⟩ := List.mem_filterMap.1 hmem
  obtain rfl := Record.runState?_eq_some.1 hstate
  exact ⟨s, _, hr⟩

section Guards

variable {sn : StateSnapshot} {records : List Record}

/-- Without expectations there is nothing to check. -/
theorem singleGuard_of_zero (hinfos : ∀ info n, Record.runInfo info n ∈ records → n = 0)
    (hstates : ∀ s n, Record.runState s n ∈ records → n = 0) :
    SingleGuard sn (records.flatMap Record.messages) := by
  intro before m later seq hmsgs hseq
  have hm : m ∈ records.flatMap Record.messages := by simp [hmsgs]
  obtain ⟨r, hr, hm⟩ := List.mem_flatMap.1 hm
  obtain ⟨hne, ⟨info, rfl⟩ | ⟨s, rfl, -⟩⟩ := Record.eq_of_expectedLast hm hseq
  · exact absurd (hinfos info seq hr) hne
  · exact absurd (hstates s seq hr) hne

/-- The one run state of a batch is the only message that expects anything. -/
theorem Advances.singleGuard {allowed : List Mark} (h : Advances allowed sn records) :
    SingleGuard sn (records.flatMap Record.messages) := by
  have hstate : ∀ m ∈ records.flatMap Record.messages, ∀ seq, m.expectedLast = some seq →
      ∃ s, Record.runState s seq ∈ records ∧ m.subject = .runState s.wfID s.runID := by
    intro m hm seq hseq
    obtain ⟨r, hr, hm⟩ := List.mem_flatMap.1 hm
    obtain ⟨hne, ⟨info, rfl⟩ | ⟨s, rfl, hsubject⟩⟩ := Record.eq_of_expectedLast hm hseq
    · exact absurd (h.infos info seq hr) hne
    · exact ⟨s, hr, hsubject⟩
  obtain ⟨s₀, hs₀⟩ := h.state
  intro before m later seq hmsgs hseq
  obtain ⟨s, hs, hsubject⟩ := hstate m (by simp [hmsgs]) seq hseq
  have hmem : (s, seq) ∈ records.filterMap Record.runState? := List.mem_filterMap.2 ⟨_, hs, rfl⟩
  rw [hs₀, List.mem_singleton, Prod.mk.injEq] at hmem
  obtain ⟨rfl, rfl⟩ := hmem
  refine ⟨rfl, fun m' hm' => ?_⟩
  -- the other messages are not on the subject of a run state
  have hother : onRunState m' = false := by
    have hfilter := filter_onRunState records
    have hm : onRunState m = true := by simp [onRunState, hsubject]
    rw [hmsgs, hs₀, List.filter_append, List.filter_cons_of_pos hm] at hfilter
    have hlength := congrArg List.length hfilter
    simp only [List.length_append, List.length_cons, List.map_cons, List.map_nil,
      List.length_nil] at hlength
    have hnil : (before ++ later).filter onRunState = [] := by
      rw [List.filter_append, ← List.length_eq_zero_iff, List.length_append]
      omega
    simpa using List.filter_eq_nil_iff.1 hnil m' hm'
  constructor
  · cases hlast : m'.expectedLast with
    | none => rfl
    | some seq' =>
      have hmem : m' ∈ records.flatMap Record.messages := by
        rw [hmsgs]
        rcases List.mem_append.1 hm' with hm' | hm'
        · exact List.mem_append_left _ hm'
        · exact List.mem_append_right _ (List.mem_cons_of_mem _ hm')
      obtain ⟨s', -, hsubject'⟩ := hstate m' hmem seq' hlast
      simp [onRunState, hsubject'] at hother
  · intro it it'
    rw [hsubject]
    refine Subject.render_ne_runState it it' fun wfID runID heq => ?_
    simp [onRunState, heq] at hother

end Guards

/-! ### The record builders -/

section Builders

variable {cfg : Defaults} {env failEnv : Readings} {d nd src : Directive} {sn : StateSnapshot}
  {cur s : RunState} {kind : RunStateKind} {records notes body : List Record}

theorem Marked.parentCallbackRecords (d : Directive) (status : RunStatus) (result : Value)
    (error : Option ErrorDetails) :
    Marked [.task .notifyParentComplete] (Records.parentCallbackRecords d status result error) := by
  unfold Records.parentCallbackRecords
  split
  · exact ⟨[(.task .notifyParentComplete, d.id)], .refl _, rfl⟩
  · exact ⟨[], List.nil_sublist _, rfl⟩

theorem Marked.workerTerminateRecords (d : Directive) (cur : RunState) :
    Marked [.task .workerTerminateRun] (Records.workerTerminateRecords d cur) := by
  unfold Records.workerTerminateRecords
  split
  · exact ⟨[], List.nil_sublist _, rfl⟩
  · exact ⟨[(.task .workerTerminateRun, d.id)], .refl _, rfl⟩

theorem Marked.purgeRecord (d : Directive) :
    Marked [.task .purgeRunResidue] [Records.purgeRecord d] :=
  ⟨[(.task .purgeRunResidue, d.id)], .refl _, rfl⟩

/-- What the builders that end a run have in common. -/
theorem marked_of_parts {front callback : List Record}
    (hfront : Marked [.task .workerTerminateRun] front)
    (hcallback : Marked [.task .notifyParentComplete] callback) :
    Marked Mark.after (front ++ callback ++ [Records.purgeRecord d]) :=
  ((hfront.append hcallback).append (.purgeRecord d)).mono (by simp [Mark.after])

theorem msgID?_outputRecords (d : Directive) (result : Value) :
    ∀ r ∈ Records.outputRecords d result, r.msgID? = none := by
  cases result <;> simp [Records.outputRecords, Record.msgID?]

theorem Finish.advances (h : Finish src sn.runState kind s body)
    (hmarked : Marked Mark.after body) : Advances Mark.after sn body := by
  refine ⟨⟨s, h.runStates⟩, fun info n hinfo => ?_, hmarked⟩
  obtain ⟨-, -, hrest⟩ := h
  simp only [List.mem_cons, Record.runInfo.injEq, reduceCtorEq, false_or] at hinfo
  rcases hinfo with ⟨-, rfl⟩ | hinfo
  · rfl
  · cases hrest _ hinfo

theorem advances_of_completeRun (h : Records.completeRun env d sn.runState = .ok records) :
    Advances Mark.after sn records := by
  obtain ⟨s, hs, -⟩ := Records.finish_of_completeRun h
  refine hs.advances ?_
  obtain ⟨result, ri, e, -, -, -, rfl⟩ := Records.completeRun_eq_ok h
  refine marked_of_parts ((Marked.nil ?_).mono (List.nil_sublist _)) (.parentCallbackRecords ..)
  simpa [Record.msgID?] using msgID?_outputRecords d _

theorem advances_of_terminateRun (h : Records.terminateRun env d sn.runState = .ok records) :
    Advances Mark.after sn records := by
  obtain ⟨s, hs, -⟩ := Records.finish_of_terminateRun h
  refine hs.advances ?_
  obtain ⟨reason, ri, e, -, -, -, rfl⟩ := Records.terminateRun_eq_ok h
  exact marked_of_parts ((Marked.nil (by simp [Record.msgID?])).append (.workerTerminateRecords ..))
    (.parentCallbackRecords ..)

theorem advances_of_cancelRun (h : Records.cancelRun env d sn.runState = .ok records) :
    Advances Mark.after sn records := by
  obtain ⟨s, hs, -⟩ := Records.finish_of_cancelRun h
  refine hs.advances ?_
  obtain ⟨reason, ri, e, -, -, -, rfl⟩ := Records.cancelRun_eq_ok h
  exact marked_of_parts ((Marked.nil (by simp [Record.msgID?])).mono (List.nil_sublist _))
    (.parentCallbackRecords ..)

theorem advances_of_failRun (h : Records.failRun env d sn.runState = .ok records) :
    Advances Mark.after sn records := by
  obtain ⟨s, hs, -⟩ := Records.finish_of_failRun h
  refine hs.advances ?_
  obtain ⟨error, ri, e, -, -, -, rfl⟩ := Records.failRun_eq_ok h
  exact marked_of_parts ((Marked.nil (by simp [Record.msgID?])).append (.workerTerminateRecords ..))
    (.parentCallbackRecords ..)

theorem Dispatch.advances (h : Dispatch src sn.runState s body) :
    Advances Mark.after sn body := by
  refine ⟨⟨s, h.runStates⟩, ?_, (Marked.nil ?_).mono (List.nil_sublist _)⟩
  · cases h
    simp
  · cases h
    simp [Record.msgID?]

theorem advances_of_wait {timeoutMS : UInt32}
    (h : Records.wait env d sn timeoutMS = .ok records) : Advances Mark.after sn records := by
  obtain ⟨s, hs, -⟩ := Records.suspend_of_wait h
  have hwake {wake : Directive} (hwake : wake.IsWakeFor d) :
      Marked Mark.after [.directive wake] :=
    ⟨[(.next, d.id)], by simp [Mark.after], by simp [Record.msgID?, hwake.id, Mark.id]⟩
  obtain ⟨-, -, -, -, hwake'⟩ := hs
  split_ifs
  · exact ⟨⟨_, rfl⟩, by simp, ((Marked.nil (by simp [Record.msgID?])).append (hwake hwake'))⟩
  · exact ⟨⟨_, rfl⟩, by simp, (Marked.nil (by simp [Record.msgID?])).mono (List.nil_sublist _)⟩

/-- An event next to a run state. -/
theorem advances_of_receipt {e : HistoryEvent} :
    Advances Mark.after sn [.history e, .runState s sn.runState.seqID] :=
  ⟨⟨s, rfl⟩, by simp, (Marked.nil (by simp [Record.msgID?])).mono (List.nil_sublist _)⟩

/-- Notes in front of a batch change nothing but its identifiers. -/
theorem Advances.prepend {allowed allowed' : List Mark} (h : Advances allowed' sn body)
    (hnotes : AllNotes notes) (hmarked : Marked allowed notes) :
    Advances (allowed ++ allowed') sn (notes ++ body) := by
  refine ⟨?_, fun info n hinfo => ?_, hmarked.append h.marked⟩
  · rw [List.filterMap_append, hnotes.runStates, List.nil_append]
    exact h.state
  · rcases List.mem_append.1 hinfo with hinfo | hinfo
    · cases hnotes _ hinfo
    · exact h.infos info n hinfo

theorem Advances.cons_history {allowed : List Mark} {e : HistoryEvent} {k : HistoryKind}
    (h : Advances allowed sn body) (he : History.About nd k e)
    (hk : k ≠ .runStarted ∧ k ≠ .eventReceived) : Advances allowed sn (.history e :: body) := by
  have hnotes : AllNotes [.history e] := by simp [he.isNote hk]
  have hmarked : Marked [] [.history e] := .nil (by simp [Record.msgID?])
  exact h.prepend hnotes hmarked

theorem advances_of_stepTimeout (h : Records.stepTimeout env nd sn.runState = .ok records) :
    Advances Mark.after sn records := by
  obtain ⟨_, _, e, body, -, -, he, hbody, rfl⟩ := Records.stepTimeout_eq_ok h
  exact (advances_of_failRun hbody).cons_history (History.about_of_stepTimedout he) (by decide)

theorem advances_of_waitTimeout {timeoutMS : UInt32}
    (h : Records.waitTimeout env nd sn.runState timeoutMS = .ok records) :
    Advances Mark.after sn records := by
  obtain ⟨_, e, body, -, -, he, rfl, hbody⟩ := Records.waitTimeout_eq_ok h
  refine Advances.cons_history ?_ (History.about_of_waitTimedOut he) (by decide)
  rcases hbody with hbody | ⟨error, hbody⟩
  · obtain ⟨s, hs, -⟩ := Records.dispatch_of_stepStart hbody
    exact hs.advances
  · exact advances_of_failRun hbody

theorem advances_of_planTransition (h : planTransition cfg env nd sn = .ok records) :
    Advances Mark.after sn records := by
  rw [planTransition] at h
  split at h <;> rename_i hnd
  · obtain ⟨s, hs, -⟩ := Records.dispatch_of_stepStart h
    exact hs.advances
  · obtain ⟨workerID, e, -, rfl⟩ := Records.stepPickedUp_eq_ok h
    exact advances_of_receipt
  · obtain ⟨s, hs, -⟩ := Records.dispatch_of_eventStart hnd h
    exact hs.advances
  · exact advances_of_stepTimeout h
  · exact advances_of_completeRun h
  · exact advances_of_failRun h
  · exact advances_of_terminateRun h
  · exact advances_of_wait h
  · exact advances_of_waitTimeout h
  · simp at h

/-- The end of a step asks for its timer to be deleted. -/
theorem marked_of_step (d : Directive) (kv : Option KVUpdates) (e : HistoryEvent) (cur : RunState) :
    Marked [.task .deleteTimer]
      (Records.kvRecords d kv ++ [.history e] ++ Records.deleteStepTimeoutTimer d cur) := by
  have hfront : ∀ r ∈ Records.kvRecords d kv ++ [.history e], r.msgID? = none := by
    cases kv <;> simp [Records.kvRecords, Record.msgID?]
  exact (Marked.nil hfront).append ⟨[(.task .deleteTimer, d.id)], .refl _, rfl⟩

theorem marked_of_stepComplete (h : Records.stepComplete env d cur = .ok records) :
    Marked [.task .deleteTimer] records := by
  obtain ⟨_, _, _, _, _, _, _, e, -, -, rfl⟩ := Records.stepComplete_eq_ok h
  exact marked_of_step ..

theorem marked_of_stepFail (h : Records.stepFail env d cur = .ok records) :
    Marked [.task .deleteTimer] records := by
  obtain ⟨_, _, _, _, _, _, _, e, -, -, rfl⟩ := Records.stepFail_eq_ok h
  exact marked_of_step ..

theorem advances_of_planFromStepResult (hkind : d.kind = .stepResult)
    (h : planFromStepResult cfg env d sn = .ok records) : Advances Mark.all sn records := by
  obtain ⟨notes, body, hparts, rfl⟩ := planFromStepResult_eq_ok h
  cases hparts with
  | fail hnotes hbody =>
    exact (advances_of_failRun hbody).prepend (notes_of_stepFail hkind hnotes).1.allNotes
      (marked_of_stepFail hnotes)
  | cancel _ hnotes hbody =>
    exact (advances_of_cancelRun hbody).prepend (notes_of_stepComplete hkind hnotes).1.allNotes
      (marked_of_stepComplete hnotes)
  | next _ _ hnotes hbody =>
    exact (advances_of_planTransition hbody).prepend
      (notes_of_stepComplete hkind hnotes).1.allNotes (marked_of_stepComplete hnotes)

/-- A record without an identifier that expects nothing. -/
def Record.isUnchecked : Record → Bool
  | .runInfo _ n | .runState _ n => n = 0
  | .directive _ | .backgroundTask _ => false
  | _ => true

theorem Record.isUnchecked_input {input : List Record} {wfID : WFID} {runID : RunID}
    (h : ∀ r ∈ input, ∃ v, r = .runInput wfID runID v) : ∀ r ∈ input, r.isUnchecked = true := by
  intro r hr
  obtain ⟨v, rfl⟩ := h r hr
  rfl

theorem checks_of_isUnchecked (h : ∀ r ∈ records, r.isUnchecked = true) :
    SingleGuard sn (records.flatMap Record.messages) ∧ Marked Mark.all records := by
  refine ⟨singleGuard_of_zero (fun info n hr => of_decide_eq_true (h _ hr))
    (fun s n hr => of_decide_eq_true (h _ hr)), (Marked.nil fun r hr => ?_).mono
    (List.nil_sublist _)⟩
  have hr := h r hr
  cases r <;> first | rfl | cases hr

/-- The batch of a start expects nothing. -/
theorem checks_of_planFromRunStart (h : planFromRunStart cfg env d = .ok records) :
    SingleGuard sn (records.flatMap Record.messages) ∧ Marked Mark.all records ∧
      ∃ s n, Record.runState s n ∈ records := by
  obtain ⟨ri, e, input, step, -, -, hinput, hstep, rfl⟩ := parts_of_planFromRunStart h
  obtain ⟨s, hs, -⟩ := Records.dispatch_of_stepStart hstep
  have hstep : ∀ r ∈ step, r.isUnchecked = true := by
    cases hs
    simp [Record.isUnchecked, startState, newRunState]
  refine and_assoc.1 ⟨checks_of_isUnchecked ?_, _, _,
    List.mem_append_right _ List.mem_cons_self⟩
  simp only [List.forall_mem_append, List.forall_mem_cons]
  exact ⟨⟨by simp [Record.isUnchecked], Record.isUnchecked_input hinput⟩, rfl, hstep⟩

/-- The batch of an event has no run state, and it has at most the wake-up of the run. -/
theorem checks_of_eventReceived (h : Records.eventReceived env d sn = .ok records) :
    SingleGuard sn (records.flatMap Record.messages) ∧ Marked Mark.all records ∧
      ∀ s n, Record.runState s n ∉ records := by
  obtain ⟨e, -, rfl⟩ := Records.eventReceived_eq_ok h
  have hwake : Marked [.next] (if sn.runState.kind = .wait ∧ sn.event.id = "" then
      [Record.directive (Records.wakeDirective env d)] else []) := by
    split_ifs
    · exact ⟨[(.next, d.id)], .refl _, rfl⟩
    · exact ⟨[], List.nil_sublist _, rfl⟩
  have hfront : Marked [] [.inbox d, .history e] := .nil (by simp [Record.msgID?])
  refine ⟨singleGuard_of_zero ?_ ?_, (hfront.append hwake).mono (by simp [Mark.all, Mark.after]),
    ?_⟩
  all_goals split_ifs <;> simp

end Builders

/-- What a batch asks the stream to check, and whether it has a run state. -/
theorem checks_of_handleRecords {cfg : Defaults} {env failEnv : Readings} {d : Directive}
    {sn : StateSnapshot} {records : List Record} (hne : records ≠ [])
    (h : handleRecords cfg env failEnv d sn = .ok records) :
    SingleGuard sn (records.flatMap Record.messages) ∧ Marked Mark.all records ∧
      ((∃ s n, Record.runState s n ∈ records) ↔
        ¬ (d.kind = .event ∧ Records.eventReceived env d sn = .ok records)) := by
  -- a batch with a run state is not that of a received event
  have hnot {s : RunState} {n : ℕ} (hs : Record.runState s n ∈ records) :
      ¬ (d.kind = .event ∧ Records.eventReceived env d sn = .ok records) :=
    fun hevent => (checks_of_eventReceived hevent.2).2.2 s n hs
  have hadvances {allowed : List Mark} (ha : Advances allowed sn records)
      (hsub : allowed.Sublist Mark.all) :
      SingleGuard sn (records.flatMap Record.messages) ∧ Marked Mark.all records ∧
        ((∃ s n, Record.runState s n ∈ records) ↔
          ¬ (d.kind = .event ∧ Records.eventReceived env d sn = .ok records)) := by
    obtain ⟨s, n, hs⟩ := ha.exists_runState
    exact ⟨ha.singleGuard, ha.marked.mono hsub, fun _ => hnot hs, fun _ => ⟨s, n, hs⟩⟩
  have hafter : Mark.after.Sublist Mark.all := List.sublist_cons_self _ _
  rw [handleRecords] at h
  split at h
  · exact hadvances (advances_of_failRun h) hafter
  rw [plan] at h
  split_ifs at h
  · cases h
    exact absurd rfl hne
  split at h <;> rename_i hkind
  · obtain ⟨hguard, hmarked, s, n, hs⟩ := checks_of_planFromRunStart h
    exact ⟨hguard, hmarked, fun _ => hnot hs, fun _ => ⟨s, n, hs⟩⟩
  · exact hadvances (advances_of_planFromStepResult hkind h) (.refl _)
  · rw [planCancel] at h
    split_ifs at h
    · obtain ⟨e, -, rfl⟩ := Records.cancelReceived_eq_ok h
      exact hadvances advances_of_receipt hafter
    · exact hadvances (advances_of_cancelRun h) hafter
  · obtain ⟨hguard, hmarked, hstates⟩ := checks_of_eventReceived h
    refine ⟨hguard, hmarked, ?_, fun hnot => absurd ⟨hkind, h⟩ hnot⟩
    rintro ⟨s, n, hs⟩
    exact absurd hs (hstates s n)
  · rw [planWakeFromInbox] at h
    split_ifs at h
    · cases h
      exact absurd rfl hne
    · exact hadvances (advances_of_planTransition h) hafter
  · exact hadvances (advances_of_planTransition h) hafter

/-- **Admissible batches.** The messages of a batch have different identifiers. At most one of them
expects a sequence, which is that of the run state in the snapshot, and none of the others is on its
subject. A batch has a run state if and only if it is not that of a received event. -/
theorem batch_admissible (cfg : Defaults) (env failEnv : Readings) (d : Directive)
    (sn : StateSnapshot) (records : List Record)
    (h : handleRecords cfg env failEnv d sn = .ok records) (hne : records ≠ []) :
    (∀ msgs, encode records = .ok msgs →
      (msgs.filterMap fun m => m.msgId).Nodup ∧ SingleGuard sn msgs) ∧
    ((∃ s n, Record.runState s n ∈ records) ↔
      ¬ (d.kind = .event ∧ Records.eventReceived env d sn = .ok records)) := by
  obtain ⟨hguard, hmarked, hstate⟩ := checks_of_handleRecords hne h
  refine ⟨fun msgs hmsgs => ?_, hstate⟩
  obtain ⟨rfl, -⟩ := encode_eq_ok hmsgs
  rw [filterMap_msgId]
  exact ⟨hmarked.nodup, hguard⟩

/-- The step of a run goes on to a wait. -/
def waitingResult : Directive where
  id := "d1"
  kind := .stepResult
  runInfo := { id := "r1", wfID := "wf", wfType := "Order", startedAt := some 1000000 }
  msg := .stepResult .step (.step "pay" 0) (some "w1") 12 none .wait (.wait 0 "")

/-- The run while its step is in progress, with an event in its inbox. -/
def eventInInbox : StateSnapshot where
  runState := { wfID := "wf", runID := "r1", kind := .step, activeDirectiveID := "t1", seqID := 7 }
  event :=
    { id := "e1", kind := .event
      runInfo := { id := "r1", wfID := "wf", wfType := "Order" }
      msg := .event { eventName := "paid", payload := .nil } }

/-- The task that deletes the timer of the step, the wake-up and one guarded run state. -/
theorem batch_admissible_wait : ∃ records msgs,
    handleRecords ⟨1000, 1000⟩ ⟨9000000, "n1"⟩ ⟨9000000, "n2"⟩ waitingResult eventInInbox =
      .ok records ∧ encode records = .ok msgs ∧
    (msgs.filterMap fun m => m.msgId) = ["bg.delete_timer.d1", "next.next.d1"] ∧
    (msgs.filterMap fun m => m.expectedLast) = [7] ∧
    (msgs.filterMap fun m => m.msgId).Nodup ∧ SingleGuard eventInInbox msgs := by
  have hrecords : handleRecords ⟨1000, 1000⟩ ⟨9000000, "n1"⟩ ⟨9000000, "n2"⟩ waitingResult
      eventInInbox = .ok _ := rfl
  refine ⟨_, _, hrecords, rfl, by decide, by decide, ?_⟩
  exact (batch_admissible _ _ _ _ _ _ hrecords (by simp)).1 _ rfl

end Grctl
