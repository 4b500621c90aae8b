import Grctl.Log.Cursor
import Grctl.System.Progress

/-!
# The inbox as a queue

The events of a workflow lie in its inbox in the order in which their batches committed. A
wake-up hands the first event after the cursor of the run to a worker and moves the cursor to it.
The cursor and the event are read in separate steps, several wake-ups can be pending for one
event, and events arrive at any time in between.

This file shows that the inbox is nevertheless a queue: what has been dispatched are the events up
to the cursor, in order. The comparison of sequence numbers in the stream makes the cursor that a
committed wake-up was planned with the current one; events that have arrived since come later.

## Main definitions

* `inboxEvents`: the events of an inbox, in order.
* `dispatchedIn`: the events that wake-ups have handed to workers, in order.
* `InboxGuard`: calls of the run manager for one run whose step results do not name an event next.

## Main results

* `Batch.cursor_cases`: a batch leaves the cursor alone or moves it to the next event.
* `inbox_fifo`: the dispatched events are the first ones of the inbox.
-/

namespace Grctl

open SubjectLog Lts

/-- What identifies an event: the identifier of its directive, and its message, which knows its
place in the inbox once it has been read from there. -/
def Directive.content (d : Directive) : DirectiveID × DirectiveMessage := (d.id, d.msg)

/-- The place in the inbox that an event knows. -/
def eventSeq? (content : DirectiveID × DirectiveMessage) : Option ℕ :=
  match content.2 with
  | .event e => e.eventSeqID
  | _ => none

/-- An event as it is read from the inbox. -/
def readContent (e : StreamEntry) : Option (DirectiveID × DirectiveMessage) :=
  (readInboxEntry e).toOption.map Directive.content

/-- The events of an inbox in the order of arrival. -/
def inboxEvents (wf : WFID) (l : Stream) : List (DirectiveID × DirectiveMessage) :=
  (l.storedOn (.inbox wf)).filterMap readContent

/-- The events that a batch hands to a worker, when it is the one of a wake-up. -/
def Commit.dispatched (wf : WFID) (c : Commit) : List (DirectiveID × DirectiveMessage) :=
  if c.directive.kind = .wakeFromInbox ∧ c.directive.runInfo.wfID = wf then
    (c.records.filterMap Record.workerTask?).map Directive.content
  else []

/-- The events that a history of batches hands to workers. -/
def dispatchedIn (wf : WFID) (journal : List Commit) : List (DirectiveID × DirectiveMessage) :=
  journal.flatMap (Commit.dispatched wf)

/-- The step results of the workflow name a step, a wait or the end of the run next. -/
def Label.NoEventNext (wf : WFID) (a : Label) : Prop :=
  ∀ d ∈ a.published?, d.kind = .stepResult → d.runInfo.wfID = wf → ∀ k ∈ d.nextKind?,
    k ∈ [DirectiveKind.step, .wait, .complete, .fail, .failStep]
  deriving Decidable

/-- Calls of the run manager for the one run of a workflow, whose step results do not name an
event next. -/
def InboxGuard (wf : WFID) (run : RunID) (_ : World) (a : Label) : Prop :=
  a.ForOneRun wf run ∧ a.Handling ∧ a.NoEventNext wf

instance (wf : WFID) (run : RunID) (w : World) (a : Label) : Decidable (InboxGuard wf run w a) :=
  inferInstanceAs (Decidable (_ ∧ _ ∧ _))

/-! ### Reading the inbox -/

theorem readContent_eq_some {e : StreamEntry} {d : Directive} (h : readInboxEntry e = .ok d) :
    readContent e = some d.content := by
  rw [readContent, h]
  rfl

theorem eventSeq?_of_readContent {e : StreamEntry} {x : DirectiveID × DirectiveMessage}
    (h : readContent e = some x) : eventSeq? x = some e.seq := by
  cases hread : readInboxEntry e with
  | error f => simp [readContent, hread, Except.toOption] at h
  | ok d =>
    cases (readContent_eq_some hread).symm.trans h
    obtain ⟨d₀, ev, -, -, rfl⟩ := readInboxEntry_eq_ok hread
    rfl

/-- Everything in an inbox can be read. -/
theorem Sound.exists_readContent {w : World} (hw : Sound w) {wf : WFID} {e : StreamEntry}
    (he : e ∈ w.stream.entries) (hs : e.subject = .inbox wf) : ∃ x, readContent e = some x := by
  obtain ⟨d, hdata, ⟨-, -, ev, hmsg⟩, -⟩ := (hw.messages e he).inbox wf hs
  have hread : readInboxEntry e =
      .ok { d with msg := .event { ev with eventSeqID := some e.seq } } := by
    simp only [readInboxEntry, hdata, hmsg]
  exact ⟨_, readContent_eq_some hread⟩

/-- The events of an inbox are all of its messages, in the order of arrival. -/
theorem Sound.map_eventSeq?_inboxEvents {w : World} (hw : Sound w) (wf : WFID) :
    (inboxEvents wf w.stream).map eventSeq? =
      (w.stream.storedOn (.inbox wf)).map fun e => some e.seq := by
  have hread : ∀ e ∈ w.stream.storedOn (.inbox wf), ∃ x, readContent e = some x := fun e he =>
    hw.exists_readContent (Log.mem_storedOn.mp he).1 (Log.mem_storedOn.mp he).2
  rw [inboxEvents]
  generalize w.stream.storedOn (.inbox wf) = entries at hread
  induction entries with
  | nil => rfl
  | cons e es ih =>
    obtain ⟨x, hx⟩ := hread e List.mem_cons_self
    rw [List.filterMap_cons_some hx, List.map_cons, List.map_cons, eventSeq?_of_readContent hx,
      ih fun e' he' => hread e' (List.mem_cons_of_mem _ he')]

/-! ### Consumed events -/

/-- The events `xs` are those of the inbox up to the cursor `n`, which stands on an event unless
it is `0`. -/
structure ConsumedTo (wf : WFID) (n : ℕ) (l : Stream) (xs : List (DirectiveID × DirectiveMessage)) :
    Prop where
  events : xs = (l.upTo (.inbox wf) n).filterMap readContent
  cursor : n = 0 ∨ ∃ e ∈ l.entries, e.subject = .inbox wf ∧ e.seq = n

namespace ConsumedTo

variable {wf : WFID} {n : ℕ} {l : Stream} {xs : List (DirectiveID × DirectiveMessage)}

theorem le_length (h : ConsumedTo wf n l xs) : n ≤ l.length := by
  rcases h.cursor with rfl | ⟨e, he, -, rfl⟩
  · exact Nat.zero_le _
  · exact (Log.seq_mem_range he).2

theorem zero : ConsumedTo wf 0 l [] := ⟨by simp, .inl rfl⟩

theorem appendAll (h : ConsumedTo wf n l xs) (ms : List Msg) :
    ConsumedTo wf n (l.appendAll ms) xs where
  events := by rw [Log.upTo_appendAll ms h.le_length, h.events]
  cursor := h.cursor.imp_right fun ⟨e, he, hs, hn⟩ => ⟨e, List.mem_append_left _ he, hs, hn⟩

/-- A removal that does not touch the inbox. -/
theorem purge (h : ConsumedTo wf n l xs) {p : Subject → Bool} (hp : p (.inbox wf) = false) :
    ConsumedTo wf n (l.purge p) xs where
  events := by rw [Log.upTo_purge hp, h.events]
  cursor := h.cursor.imp_right fun ⟨e, he, hs, hn⟩ =>
    ⟨e, Log.mem_purge.mpr ⟨e, he, by rw [hs, hp]; rfl⟩, hs, hn⟩

theorem next (h : ConsumedTo wf n l xs) {e : StreamEntry} (he : e ∈ l.entries)
    (hs : e.subject = .inbox wf) (hn : n < e.seq)
    (hfirst : ∀ e' ∈ l.entries, e'.subject = .inbox wf → n < e'.seq → e.seq ≤ e'.seq)
    {x : DirectiveID × DirectiveMessage} (hx : readContent e = some x) :
    ConsumedTo wf e.seq l (xs ++ [x]) where
  events := by
    rw [Log.upTo_next he hs hn hfirst, List.filterMap_append, ← h.events]
    simp [hx]
  cursor := .inr ⟨e, he, hs, rfl⟩

theorem events_prefix (h : ConsumedTo wf n l xs) : xs <+: inboxEvents wf l := by
  rw [h.events]
  exact (l.upTo_prefix (.inbox wf) n).filterMap _

theorem nodup (h : ConsumedTo wf n l xs) : xs.Nodup := by
  rw [h.events, List.Nodup, List.pairwise_filterMap]
  refine ((l.pairwise_storedOn (.inbox wf)).filter _).imp fun hlt x hx y hy hxy => ?_
  have hseq := (eventSeq?_of_readContent hx).symm.trans (hxy ▸ eventSeq?_of_readContent hy)
  simp only [Option.some.injEq] at hseq
  omega

/-- The cursor stands on the last consumed event. -/
theorem cursor_eq {w : World} (hw : Sound w) (h : ConsumedTo wf n w.stream xs) :
    n = (xs.getLast?.bind eventSeq?).getD 0 := by
  rcases h.cursor with rfl | ⟨e, he, hs, rfl⟩
  · simp [h.events]
  · obtain ⟨before, hbefore⟩ := Log.exists_upTo_eq_concat he hs
    obtain ⟨x, hx⟩ := hw.exists_readContent he hs
    have hlast : xs.getLast? = some x := by
      rw [h.events, hbefore, List.filterMap_append]
      simp [hx]
    rw [hlast]
    simp [eventSeq?_of_readContent hx]

end ConsumedTo

/-! ### What a batch does to the cursor -/

/-- A transition keeps the cursor, unless it dispatches an event. -/
theorem Transition.cursor_cases {d : Directive} {sn : StateSnapshot} {s : RunState}
    {body : List Record} (h : Transition d sn s body) :
    d.kind = .wakeFromInbox ∧ sn.event.IsEvent ∧ Dispatch sn.event sn.runState s body ∨
    d.kind ≠ .wakeFromInbox ∧ (s.lastEventSeqID = sn.runState.lastEventSeqID ∨
      d.kind = .stepResult ∧ d.nextKind? = some .event) := by
  have keeps {src : Directive} {cur : RunState} (hkind : src.kind = .step) :
      Records.cursorAfter src cur = cur.lastEventSeqID := by
    simp [Records.cursorAfter, hkind]
  cases h with
  | finish h _ _ hd =>
    cases h
    exact .inr ⟨hd.2.2, .inl rfl⟩
  | dispatch h hsrc =>
    cases hsrc with
    | step hd =>
      cases h
      exact .inr ⟨by simp [hd], .inl (keeps hd)⟩
    | next hd hnext hkind =>
      right
      refine ⟨by simp [hd], ?_⟩
      rcases hkind with hkind | hkind
      · cases h
        exact .inl (keeps hkind)
      · exact .inr ⟨hd, hkind ▸ hnext⟩
    | timeout hd _ hkind =>
      cases h
      exact .inr ⟨hd.kind_ne (by decide), .inl (keeps hkind)⟩
    | inbox hd _ hevent => exact .inl ⟨hd, hevent, h⟩
  | suspend h hd =>
    cases h
    exact .inr ⟨hd.kind_ne (by decide), .inl rfl⟩
  | pickUp hd => exact .inr ⟨hd.kind_ne (by decide), .inl rfl⟩
  | park hd => exact .inr ⟨by simp [hd], .inl rfl⟩

section Batch

variable {cfg : Manager.Config} {w : World} {c : Call} {sn : StateSnapshot}
  {records notes body : List Record} {l : Stream} {wf : WFID} {run : RunID} {s : RunState}

/-- A dispatched event is handed to a worker as it was read. -/
theorem Dispatch.dispatched_commitOf (h : Dispatch sn.event sn.runState s body)
    (hrecords : records = notes ++ body) (hnotes : AllNotes notes)
    (hkind : c.directive.kind = .wakeFromInbox) (hwf : c.directive.runInfo.wfID = wf) :
    (w.commitOf c sn records).dispatched wf = [sn.event.content] := by
  cases h
  rw [Commit.dispatched, if_pos ⟨hkind, hwf⟩]
  simp only [World.commitOf, hrecords, List.filterMap_append, hnotes.workerTasks]
  rfl

theorem dispatched_commitOf_of_ne
    (h : c.directive.kind = .wakeFromInbox → c.directive.runInfo.wfID = wf → False) :
    (w.commitOf c sn records).dispatched wf = [] :=
  if_neg fun hwake => h hwake.1 hwake.2

theorem cursorAfter_of_readInboxEntry {e : StreamEntry} {d : Directive} {cur : RunState}
    (hkind : d.kind = .event) (hread : readInboxEntry e = .ok d) :
    Records.cursorAfter d cur = e.seq := by
  obtain ⟨d₀, ev, -, -, rfl⟩ := readInboxEntry_eq_ok hread
  change d₀.kind = .event at hkind
  simp only [Records.cursorAfter, hkind, Option.getD_some]

/-- A step result that is handled names what its publisher was allowed to name. -/
theorem namesNext_of_call {ok : World → Label → Prop} (h : ReachableBy cfg ok w)
    (hnext : ∀ w a, ok w a → a.NoEventNext wf) (hc : c ∈ w.calls)
    (hresult : c.directive.kind = .stepResult) (hwf : c.directive.runInfo.wfID = wf) :
    c.directive.NamesNext :=
  directive_of_published (P := fun d => d.kind = .stepResult → d.runInfo.wfID = wf → d.NamesNext) h
    (fun w d hok => hnext w _ hok d rfl)
    (fun d hd _ hresult => absurd (hd.symm.trans hresult) (by decide)) c hc hresult hwf

/-- A batch leaves the cursor of the run alone, or it is the one of a wake-up: then it dispatches
the first event after the cursor and moves the cursor to it. -/
theorem Batch.cursor_cases {ok : World → Label → Prop} (h : ReachableBy cfg ok w)
    (hone : ∀ w a, ok w a → a.ForOneRun wf run) (hnext : ∀ w a, ok w a → a.NoEventNext wf)
    (hb : Batch cfg w c sn records l)
    (hstart : (w.journal ++ [w.commitOf c sn records]).countP (Commit.starts wf run) ≤ 1) :
    ((currentState l wf run).lastEventSeqID = (currentState w.stream wf run).lastEventSeqID ∧
      (w.commitOf c sn records).dispatched wf = []) ∨
    ∃ d, FirstEvent w.stream wf (currentState w.stream wf run).lastEventSeqID d ∧
      eventSeq? d.content = some (currentState l wf run).lastEventSeqID ∧
      (w.commitOf c sn records).dispatched wf = [d.content] := by
  have hw := sound_of_reachableBy h
  cases hb.advance hw wf run with
  | other hrun hsame =>
    refine .inl ⟨by rw [currentState_congr hsame], dispatched_commitOf_of_ne fun _ hwf => ?_⟩
    exact hrun ((oneRun_of_reachableBy h hone).call hw hb.call hwf)
  | start hrun hkind hs _ hnew =>
    have hnone := getRunState_of_starts h (decide_eq_true ⟨hkind, hrun⟩) hstart
    refine .inl ⟨?_, dispatched_commitOf_of_ne fun hwake _ => ?_⟩
    · rw [currentState_eq hnew, currentState_eq_getD hnone]
      exact hs.lastEventSeqID
    · exact absurd (hkind.symm.trans hwake) (by decide)
  | event _ hkind _ _ _ hsame =>
    refine .inl ⟨by rw [currentState_congr hsame], dispatched_commitOf_of_ne fun hwake _ => ?_⟩
    exact absurd (hkind.symm.trans hwake) (by decide)
  | turn hrun _ _ hturn hrecords hold hnew =>
    have hnotes := hturn.noted.allNotes
    rw [currentState_eq hold, currentState_eq hnew]
    rcases hturn.transition.cursor_cases with ⟨hkind, hevent, hdispatch⟩ | ⟨hkind, hcursor⟩
    · right
      have hfirst := hb.firstEvent hw hrun.1 hevent
      refine ⟨sn.event, hfirst, ?_, hdispatch.dispatched_commitOf hrecords hnotes hkind hrun.1⟩
      obtain ⟨e, -, -, hread, -⟩ := hfirst
      cases hdispatch
      rw [cursorAfter_of_readInboxEntry hevent.2.1 hread]
      exact eventSeq?_of_readContent (readContent_eq_some hread)
    · refine .inl ⟨hcursor.resolve_right fun ⟨hresult, hevent⟩ => ?_,
        dispatched_commitOf_of_ne fun hwake _ => hkind hwake⟩
      simpa using namesNext_of_call h hnext hb.call hresult hrun.1 .event hevent

end Batch

/-! ### The queue -/

section Queue

variable {cfg : Manager.Config} {w w' : World} {wf : WFID} {run : RunID}

/-- What has been dispatched are the events up to the cursor of the run. -/
theorem consumedTo_of_reachableBy (h : ReachableBy cfg (InboxGuard wf run) w)
    (hstart : w.journal.countP (Commit.starts wf run) ≤ 1) :
    ConsumedTo wf (currentState w.stream wf run).lastEventSeqID w.stream
      (dispatchedIn wf w.journal) := by
  refine Reach.invariant (P := fun w => w.journal.countP (Commit.starts wf run) ≤ 1 →
    ConsumedTo wf (currentState w.stream wf run).lastEventSeqID w.stream
      (dispatchedIn wf w.journal)) h (fun _ => .zero)
    (fun w a w' hr ih hok hstep hstart => ?_) hstart
  have outside {m : Msg} (hm : Outside m) (hstart : w.journal.countP (Commit.starts wf run) ≤ 1) :
      ConsumedTo wf (currentState (w.stream.append m) wf run).lastEventSeqID (w.stream.append m)
        (dispatchedIn wf w.journal) := by
    rw [currentState_congr (getRunState_append_outside hm)]
    exact (ih hstart).appendAll _
  have heffect := effect_of_step hstep
  cases heffect with
  | publish hd htaken => exact outside (.directive hd htaken) hstart
  | saveRun _ htaken => exact outside (.runInfo htaken) hstart
  | recordHistory hh htaken => exact outside (.history hh htaken) hstart
  | @commit _ c sn _ _ _ records l _ hb =>
    have hconsumed := ih (countP_starts_of_concat hstart)
    change ConsumedTo wf (currentState l wf run).lastEventSeqID l
      (dispatchedIn wf (w.journal ++ [w.commitOf c sn records]))
    rw [dispatchedIn, List.flatMap_append, List.flatMap_singleton, ← dispatchedIn]
    rcases hb.cursor_cases hr (fun _ _ hok => hok.1) (fun _ _ hok => hok.2.2) hstart with
      ⟨hsame, hnil⟩ | ⟨d, hd, hseq, hdispatched⟩
    · rw [hsame, hnil, List.append_nil, eq_appendAll_of_commit hb.commit]
      exact hconsumed.appendAll _
    · obtain ⟨e, he, hs, hread, hlt, hfirst⟩ := hd
      have hlive : ∀ e ∈ w.stream.entries, e.subject = .inbox wf → e.live = true :=
        inbox_live_of_reachableBy hr fun _ _ hok => hok.2.1
      have hx := readContent_eq_some hread
      rw [eventSeq?_of_readContent hx, Option.some.injEq] at hseq
      rw [← hseq, hdispatched, eq_appendAll_of_commit hb.commit]
      refine (hconsumed.next he hs hlt (fun e' he' hs' => ?_) hx).appendAll _
      exact hfirst e' he' hs' (hlive e' he' hs')
  | @fire _ wf' kind id =>
    have hp : (Subject.inbox wf == .timer wf' kind id) = false := by simp
    rw [currentState_congr (getRunState_purge_residue Subject.isResidue_of_beq_timer)]
    exact (ih hstart).purge (p := (· == .timer wf' kind id)) hp
  | cancelTimer => cases hok.2.1
  | purgeNext => cases hok.2.1
  | _ => exact ih hstart

/-- The cursor never moves back. -/
theorem cursor_le_of_step {ok : World → Label → Prop} (h : ReachableBy cfg ok w)
    (hone : ∀ w a, ok w a → a.ForOneRun wf run) (hnext : ∀ w a, ok w a → a.NoEventNext wf)
    {a : Label} (hstep : step cfg w a = some w')
    (hstart : w'.journal.countP (Commit.starts wf run) ≤ 1) :
    (currentState w.stream wf run).lastEventSeqID ≤
      (currentState w'.stream wf run).lastEventSeqID := by
  have hchange := (effect_of_step hstep).change
  generalize w'.stream = l', w'.journal = j' at hchange hstart
  rcases hchange.runState_cases wf run with ⟨hsame, -⟩ | ⟨c, sn, records, hb, rfl⟩
  · rw [currentState_congr hsame]
  · rcases hb.cursor_cases h hone hnext hstart with
      ⟨hsame, -⟩ | ⟨d, ⟨e, -, -, hread, hlt, -⟩, hseq, -⟩
    · rw [hsame]
    · rw [eventSeq?_of_readContent (readContent_eq_some hread), Option.some.injEq] at hseq
      exact hseq ▸ hlt.le

/-- The inbox is a queue. Let calls of the run manager for the one run of a workflow be interleaved
in any way, let the run be started once, and let its step results name a step, a wait or the end
of the run next. Then every message of the inbox is an event, and the events that wake-ups have
dispatched are the first ones of the inbox, in the order of arrival and each of them once; the
cursor of the run is the place of the last of them, or `0`; and no step moves it back. -/
theorem inbox_fifo (h : ReachableBy cfg (InboxGuard wf run) w)
    (hstart : w.journal.countP (Commit.starts wf run) ≤ 1) :
    (inboxEvents wf w.stream).map eventSeq? =
      (w.stream.storedOn (.inbox wf)).map (fun e => some e.seq) ∧
    dispatchedIn wf w.journal <+: inboxEvents wf w.stream ∧
    (dispatchedIn wf w.journal).Nodup ∧
    (currentState w.stream wf run).lastEventSeqID =
      ((dispatchedIn wf w.journal).getLast?.bind eventSeq?).getD 0 ∧
    ∀ a w', InboxGuard wf run w a → step cfg w a = some w' →
      w'.journal.countP (Commit.starts wf run) ≤ 1 →
        (currentState w.stream wf run).lastEventSeqID ≤
          (currentState w'.stream wf run).lastEventSeqID := by
  have hw := sound_of_reachableBy h
  have hconsumed := consumedTo_of_reachableBy h hstart
  exact ⟨hw.map_eventSeq?_inboxEvents wf, hconsumed.events_prefix, hconsumed.nodup,
    hconsumed.cursor_eq hw, fun _ _ _ hstep =>
      cursor_le_of_step h (fun _ _ hok => hok.1) (fun _ _ hok => hok.2.2) hstep⟩

theorem inbox_fifo_woken :
    (dispatchedIn "wf" (Sample.worldBy (InboxGuard "wf" "r1") Sample.woken).journal).length = 1 ∧
    dispatchedIn "wf" (Sample.worldBy (InboxGuard "wf" "r1") Sample.woken).journal <+:
      inboxEvents "wf" (Sample.worldBy (InboxGuard "wf" "r1") Sample.woken).stream := by
  obtain ⟨hlength, hstarts⟩ :
      (dispatchedIn "wf" (Sample.worldBy (InboxGuard "wf" "r1") Sample.woken).journal).length = 1 ∧
      (Sample.worldBy (InboxGuard "wf" "r1") Sample.woken).journal.countP
        (Commit.starts "wf" "r1") ≤ 1 := by decide +kernel
  exact ⟨hlength,
    (inbox_fifo (Sample.reachableBy_worldBy (InboxGuard "wf" "r1") Sample.woken) hstarts).2.1⟩

end Queue

end Grctl
