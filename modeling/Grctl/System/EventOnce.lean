import Grctl.System.Inbox

/-!
# Events that are delivered more than once

The batch of an event stores it in the inbox and in the history. Neither message has an
identifier that the stream could compare; only the wake-up has one, and it is part of the batch
only when the snapshot shows a run that waits with an empty inbox. So an event whose
acknowledgement is lost, or that is handled by two servers at once, is stored again in any other
state of the run.

It is stored once if a delivery that comes after a committed one was planned, like that one, from
a snapshot with a waiting run and an empty inbox: then the stream recognises the wake-up. It is
assumed here that the stream never forgets an identifier.

## Main definitions

* `StateSnapshot.Idle`: the snapshot shows a run that waits with an empty inbox.
* `Commit.isEvent`: the batch of an event with a given identifier.
* `EventGuard`: when the batches of an event are planned.

## Main results

* `event_enters_once`: an event is stored, recorded and dispatched at most once.
-/

namespace Grctl

open SubjectLog Lts

/-- The snapshot shows a run that waits with an empty inbox. -/
def StateSnapshot.Idle (sn : StateSnapshot) : Prop := sn.runState.kind = .wait ∧ sn.event.id = ""

instance (sn : StateSnapshot) : Decidable sn.Idle := inferInstanceAs (Decidable (_ ∧ _))

/-- The batch of the event directive `id`. -/
def Commit.isEvent (id : DirectiveID) (c : Commit) : Bool :=
  decide (c.directive.kind = .event ∧ c.directive.id = id)

/-- A call that plans the event `id` sees that the run has ended; or, if the event has been
committed before, both calls have seen a run that waits with an empty inbox. -/
def Recognised (id : DirectiveID) (journal : List Commit) (d : Directive) (sn : StateSnapshot) :
    Prop :=
  d.kind = .event ∧ d.id = id → sn.runState.isTerminal = true ∨
    ∀ c ∈ journal, c.isEvent id = true → c.snapshot.Idle ∧ sn.Idle

instance (id : DirectiveID) (journal : List Commit) (d : Directive) (sn : StateSnapshot) :
    Decidable (Recognised id journal d sn) :=
  inferInstanceAs (Decidable (_ → _ ∨ _))

/-- Every call that comes to its commit is recognised if it handles the event `id` once more. -/
def EventGuard (id : DirectiveID) (w : World) (a : Label) : Prop :=
  ∀ k ∈ a.finished?, ∀ p ∈ w.ready? k, Recognised id w.journal p.1 p.2

instance (id : DirectiveID) (w : World) (a : Label) : Decidable (EventGuard id w a) :=
  inferInstanceAs (Decidable (∀ k ∈ a.finished?, _))

/-- The message stores the event directive `id` in an inbox. -/
def isInboxOf (id : DirectiveID) (m : Msg) : Bool :=
  match m.subject, m.data with
  | .inbox _, .directive d => d.id == id
  | _, _ => false

/-- The entry of a history that says that an event was received. -/
def Record.eventReceived? : Record → Option HistoryEvent
  | .history h => if h.kind = .eventReceived then some h else none
  | _ => none

/-- The entries that batches of the event `id` have written into histories. -/
def receivedIn (id : DirectiveID) (journal : List Commit) : List HistoryEvent :=
  (journal.filter (Commit.isEvent id)).flatMap fun c => c.records.filterMap Record.eventReceived?

/-! ### The batch of an event -/

section Planned

variable {d : Directive} {sn : StateSnapshot} {records : List Record} {id : DirectiveID}

/-- An event that is planned for an idle run comes with a wake-up. -/
theorem Planned.exists_wake (h : Planned d sn records) (hne : records ≠ [])
    (hkind : d.kind = .event) (hidle : sn.Idle) :
    ∃ wake, Record.directive wake ∈ records ∧ wake.id = deriveNextDirectiveID d.id := by
  cases h with
  | nothing => exact absurd rfl hne
  | start _ hd => exact absurd (hkind.symm.trans hd) (by decide)
  | @event _ wake _ _ _ hwake =>
    exact ⟨wake, by simp [show sn.runState.kind = .wait ∧ sn.event.id = "" from hidle], hwake.id⟩
  | transition _ _ ht => exact absurd hkind ht.kind_ne.2

theorem Planned.countP_isInboxOf (h : Planned d sn records) :
    (records.flatMap Record.messages).countP (isInboxOf id) ≤
      if decide (d.kind = .event ∧ d.id = id) = true then 1 else 0 := by
  by_cases hkind : d.kind = .event
  · cases h with
    | nothing => simp
    | start _ hd => exact absurd (hkind.symm.trans hd) (by decide)
    | event =>
      split_ifs <;>
        simp_all [Record.messages, isInboxOf, Directive.message, Directive.subject]
    | transition _ _ ht => exact absurd hkind ht.kind_ne.2
  · refine (countP_messages_eq_zero fun r hr m hm hp => ?_).le.trans (Nat.zero_le _)
    obtain ⟨wf, hs⟩ : ∃ wf, m.subject = .inbox wf := by
      cases hs : m.subject <;> simp_all [isInboxOf]
    obtain ⟨d', rfl, -⟩ := Record.eq_of_mem_messages_inbox hm hs
    exact hkind (h.inbox_cases hr).1

theorem Planned.length_eventReceived (h : Planned d sn records) :
    (records.filterMap Record.eventReceived?).length ≤ 1 := by
  by_cases hkind : d.kind = .event
  · cases h with
    | nothing => simp
    | start _ hd => exact absurd (hkind.symm.trans hd) (by decide)
    | event _ _ hh =>
      split_ifs <;> simp [List.filterMap_cons, Record.eventReceived?, hh.kind]
    | transition _ _ ht => exact absurd hkind ht.kind_ne.2
  · rw [List.filterMap_eq_nil_iff.mpr]
    · exact Nat.zero_le 1
    · intro r hr
      cases r with
      | history e =>
        rcases h.history_cases hr with hnote | ⟨-, hh⟩ | ⟨hd, -⟩
        · simp_all [Record.isNote, Record.eventReceived?]
        · simp [Record.eventReceived?, hh.kind]
        · exact absurd hd hkind
      | _ => rfl

end Planned

/-! ### Batches of one event -/

section Journal

variable {cfg : Manager.Config} {ok : World → Label → Prop} {w : World} {id : DirectiveID}

theorem Batch.exists_wake {c : Call} {sn : StateSnapshot} {records : List Record} {l : Stream}
    (hb : Batch cfg w c sn records l) (hw : Sound w) (hkind : c.directive.kind = .event)
    (hidle : sn.Idle) :
    ∃ wake, Record.directive wake ∈ records ∧ wake.id = deriveNextDirectiveID c.directive.id :=
  (hw.planned hb).exists_wake (commit_eq_ok hb.commit).2.1 hkind hidle

/-- The wake-up of a batch that was planned for an idle run has been stored. -/
theorem seen_of_idle_event (h : ReachableBy cfg ok w) {c : Commit} (hc : c ∈ w.journal)
    (hevent : c.isEvent id = true) (hidle : c.snapshot.Idle) :
    w.stream.seen (deriveNextDirectiveID id) = true := by
  have hwake : ∀ c ∈ w.journal, c.isEvent id = true → c.snapshot.Idle →
      ∃ wake, Record.directive wake ∈ c.records ∧ wake.id = deriveNextDirectiveID id := by
    refine forall_mem_journal h fun _ _ _ _ _ hr hb hevent hidle => ?_
    obtain ⟨hkind, rfl⟩ := of_decide_eq_true hevent
    exact hb.exists_wake (sound_of_reachableBy hr) hkind hidle
  obtain ⟨wake, hmem, hid⟩ := hwake c hc hevent hidle
  refine Log.seen_of_mem_messages (mem_messages_of_mem_journal h c hc wake.message
    (List.mem_flatMap.mpr ⟨_, hmem, List.mem_singleton_self _⟩)) ?_
  rw [← hid]
  rfl

/-- Batches of one event under the guard. -/
theorem event_commits_once (h : ReachableBy cfg ok w) (hdup : cfg.dup = Log.seen)
    (hok : ∀ w a, ok w a → EventGuard id w a) : w.journal.countP (Commit.isEvent id) ≤ 1 := by
  refine Reach.invariant (P := fun w => w.journal.countP (Commit.isEvent id) ≤ 1) h (Nat.zero_le 1)
    fun w a w' hr ih hguard hstep => ?_
  have heffect := effect_of_step hstep
  cases heffect with
  | @commit k c sn _ _ _ records l hc hb =>
    change (w.journal ++ [w.commitOf c sn records]).countP (Commit.isEvent id) ≤ 1
    rw [List.countP_append, List.countP_singleton]
    split_ifs with hevent
    · -- an earlier batch has published the wake-up that this one publishes
      have hw := sound_of_reachableBy hr
      obtain ⟨hkind, hid⟩ := of_decide_eq_true hevent
      suffices hnone : w.journal.countP (Commit.isEvent id) = 0 by omega
      refine List.countP_eq_zero.mpr fun c' hc' hevent' => ?_
      have hready := World.ready?_eq_some hc hb.phase
      rcases hok w _ hguard k rfl _ hready ⟨hkind, hid⟩ with hterm | hidle
      · rw [hb.live hw] at hterm
        cases hterm
      · obtain ⟨hidle', hidle⟩ := hidle c' hc' hevent'
        have hseen := seen_of_idle_event hr hc' hevent' hidle'
        obtain ⟨wake, hmem, hwake⟩ := hb.exists_wake hw hkind hidle
        have hlog := (commit_eq_ok hb.commit).1
        rw [hdup] at hlog
        have hfresh := Log.seen_eq_false_of_commit hlog
          (List.mem_flatMap.mpr ⟨_, hmem, List.mem_singleton_self wake.message⟩) rfl
        rw [hwake, show c.directive.id = id from hid, hseen] at hfresh
        cases hfresh
    · exact ih
  | _ => exact ih

/-- The history has one entry for each batch. -/
theorem length_receivedIn_le (h : ReachableBy cfg ok w)
    (hcount : w.journal.countP (Commit.isEvent id) ≤ 1) :
    (receivedIn id w.journal).length ≤ 1 := by
  have hlength : ∀ c ∈ w.journal, (c.records.filterMap Record.eventReceived?).length ≤ 1 :=
    forall_mem_journal h fun _ _ _ _ _ hr hb =>
      ((sound_of_reachableBy hr).planned hb).length_eventReceived
  rw [List.countP_eq_length_filter] at hcount
  rw [receivedIn]
  cases hevents : w.journal.filter (Commit.isEvent id) with
  | nil => exact Nat.zero_le 1
  | cons c cs =>
    rw [hevents, List.length_cons] at hcount
    have hnil : cs = [] := List.length_eq_zero_iff.mp (by omega)
    have hc : c ∈ w.journal := List.mem_of_mem_filter (hevents ▸ List.mem_cons_self)
    rw [hnil, List.flatMap_singleton]
    exact hlength c hc

/-- Every event of an inbox is a message of it. -/
theorem countP_inboxEvents_le (wf : WFID) (l : Stream) (id : DirectiveID) :
    (inboxEvents wf l).countP (fun x => decide (x.1 = id)) ≤ l.messages.countP (isInboxOf id) := by
  rw [inboxEvents, List.countP_filterMap, Log.storedOn, List.countP_filter, Log.messages,
    List.countP_map]
  refine List.countP_mono_left fun e _ he => ?_
  obtain ⟨hread, hs⟩ := Bool.and_eq_true_iff.mp he
  cases hd : readInboxEntry e with
  | error f => simp [readContent, hd, Except.toOption] at hread
  | ok d =>
    obtain ⟨d₀, ev, hdata, -, rfl⟩ := readInboxEntry_eq_ok hd
    simpa [isInboxOf, of_decide_eq_true hs, hdata, readContent_eq_some hd, Directive.content]
      using hread

/-- An event enters the inbox at most once. Let the stream remember every identifier, and consider
the runs of the system in which a call that handles an event after a batch of it has committed
sees that the run has ended, or sees, like the call of that batch, a run that waits with an empty
inbox. Then at most one batch of the event commits; at most one inbox message and one entry of the
history come from it; and if moreover the inbox is a queue, the event is dispatched at most
once. -/
theorem event_enters_once (hdup : cfg.dup = Log.seen) (h : ReachableBy cfg ok w)
    (hok : ∀ w a, ok w a → EventGuard id w a) :
    w.journal.countP (Commit.isEvent id) ≤ 1 ∧
    w.stream.messages.countP (isInboxOf id) ≤ 1 ∧
    (receivedIn id w.journal).length ≤ 1 ∧
    ∀ wf run, (∀ w a, ok w a → InboxGuard wf run w a) →
      w.journal.countP (Commit.starts wf run) ≤ 1 →
        (dispatchedIn wf w.journal).countP (fun x => decide (x.1 = id)) ≤ 1 := by
  have hcount := event_commits_once h hdup hok
  have hinbox : w.stream.messages.countP (isInboxOf id) ≤ 1 := by
    refine (countP_messages_le h (fun m hm => ?_) fun w c sn records l hw hb => ?_).trans hcount
    · cases hm <;> rfl
    · exact (hw.planned hb).countP_isInboxOf
  refine ⟨hcount, hinbox, length_receivedIn_le h hcount, fun wf run hqueue hstart => ?_⟩
  have hconsumed := consumedTo_of_reachableBy (h.mono hqueue) hstart
  exact (hconsumed.events_prefix.sublist.countP_le.trans
    (countP_inboxEvents_le wf w.stream id)).trans hinbox

end Journal

namespace Sample

/-- An event is handled twice at the same time while the run waits. -/
def doubled : List Label :=
  waiting ++ [.publish (event "pay"), .deliver 16, .readState 0, .readHistory 0, .readEvent 0,
    .deliver 16, .readState 1, .readHistory 1, .readEvent 1,
    .finish 0 env env false, .finish 0 env env true]

/-- An event is handled during a step, and once more because its acknowledgement was lost; then
the run waits, works on an event, and waits again. -/
def repeated : List Label :=
  .publish start :: handled 1 ++ .publish (event "pay") :: unacked 9 ++ handled 9 ++
    .publish (stepResult "done" .wait (.wait 0 "")) :: handled 14 ++ handled 21 ++
    .publish (stepResult "done-again" .wait (.wait 0 "")) :: handled 26 ++ handled 33

/-- The steps that both results about the inbox speak of. -/
def onceGuard (w : World) (a : Label) : Prop := EventGuard "pay" w a ∧ InboxGuard "wf" "r1" w a

instance (w : World) (a : Label) : Decidable (onceGuard w a) := inferInstanceAs (Decidable (_ ∧ _))

end Sample

theorem event_enters_once_doubled :
    (Sample.worldBy Sample.onceGuard Sample.doubled).calls = [] ∧
    (Sample.worldBy Sample.onceGuard Sample.doubled).stream.messages.countP (isInboxOf "pay") ≤ 1 ∧
    (dispatchedIn "wf" (Sample.worldBy Sample.onceGuard Sample.doubled).journal).countP
      (fun x => decide (x.1 = "pay")) ≤ 1 := by
  obtain ⟨-, hinbox, -, hdispatched⟩ := event_enters_once rfl
    (Sample.reachableBy_worldBy Sample.onceGuard Sample.doubled) fun _ _ hok => hok.1
  obtain ⟨hcalls, hstarts⟩ : (Sample.worldBy Sample.onceGuard Sample.doubled).calls = [] ∧
      (Sample.worldBy Sample.onceGuard Sample.doubled).journal.countP (Commit.starts "wf" "r1") ≤
        1 := by decide +kernel
  exact ⟨hcalls, hinbox, hdispatched "wf" "r1" (fun _ _ hok => hok.2) hstarts⟩

/-- One event is stored twice, recorded twice, and dispatched twice. -/
theorem event_enters_twice :
    (Sample.world Sample.repeated).stream.messages.countP (isInboxOf "pay") = 2 ∧
    (receivedIn "pay" (Sample.world Sample.repeated).journal).length = 2 ∧
    (dispatchedIn "wf" (Sample.world Sample.repeated).journal).countP
      (fun x => decide (x.1 = "pay")) = 2 := by
  decide +kernel

end Grctl
