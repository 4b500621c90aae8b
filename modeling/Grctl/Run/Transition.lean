import Grctl.Run.Inversion

/-!
# The batches a directive can lead to

`handleRecords` reaches about fifteen record builders, some of them composed. This file says once
what all of their batches look like, and later results only use these shapes.

A batch that changes a run carries exactly one run state, derived from the one in the snapshot
and expected to replace it; around it stand records that no other transition depends on (`notes`).
There are two exceptions: the batch of a start, which writes two states without looking at the
snapshot, and the batch of an event, which writes none.

## Main definitions

* `Record.isNote`: the records that merely accompany a transition.
* `Transition d sn s body`: the records `body` of a transition to the state `s`.
* `Planned d sn records`: what handling `d` with the snapshot `sn` can hand to the store.

That the record builders keep to these shapes is shown in `Grctl.Run.Turn`.
-/

namespace Grctl

/-- Records that accompany a transition: nothing about a run is decided by them. -/
def Record.isNote : Record → Bool
  | .history h => h.kind != .runStarted && h.kind != .eventReceived
  | .kv .. | .backgroundTask _ | .runOutput .. | .runError .. => true
  | _ => false

/-- Only accompanying records. -/
def AllNotes (records : List Record) : Prop := ∀ r ∈ records, r.isNote = true

@[simp] theorem allNotes_nil : AllNotes [] := by simp [AllNotes]

@[simp] theorem allNotes_cons {r : Record} {records : List Record} :
    AllNotes (r :: records) ↔ r.isNote = true ∧ AllNotes records := List.forall_mem_cons

@[simp] theorem allNotes_append {records records' : List Record} :
    AllNotes (records ++ records') ↔ AllNotes records ∧ AllNotes records' :=
  List.forall_mem_append

/-- The kinds of state a run ends in. -/
def RunStateKind.isTerminal (k : RunStateKind) : Bool :=
  k == .complete || k == .fail || k == .cancel || k == .terminate

/-- An event directive as it lies in an inbox. -/
def Directive.IsEvent (d : Directive) : Prop := d.id ≠ "" ∧ d.kind = .event ∧ ∃ e, d.msg = .event e

/-- The pending event of a snapshot is absent or an event. -/
def StateSnapshot.EventSound (sn : StateSnapshot) : Prop := sn.event.id = "" ∨ sn.event.IsEvent

/-- The wake-up that handling `d` publishes. -/
structure Directive.IsWakeFor (wake d : Directive) : Prop where
  kind : wake.kind = .wakeFromInbox
  runInfo : wake.runInfo = d.runInfo
  msg : wake.msg = .wakeFromInbox
  id : wake.id = deriveNextDirectiveID d.id

/-- An event of a given kind in the history of the run that a directive names. -/
structure History.About (d : Directive) (kind : HistoryKind) (e : HistoryEvent) : Prop where
  kind : e.kind = kind
  wfID : e.wfID = d.runInfo.wfID
  runID : e.runID = d.runInfo.id

/-! ### Shapes -/

/-- A batch that ends a run, on behalf of the directive `src`. -/
inductive Finish (src : Directive) (cur : RunState) (kind : RunStateKind) :
    RunState → List Record → Prop
  | mk {now : Time} {ri : RunInfo} {h : HistoryEvent} {rest : List Record}
      (hri : ri.SameRun src.runInfo) (hh : (Record.history h).isNote = true)
      (hrest : AllNotes rest) :
      Finish src cur kind (Records.finished now cur kind)
        (.runInfo ri 0 :: .history h :: .runState (Records.finished now cur kind) cur.seqID :: rest)

/-- A batch that hands the directive `src` to a worker. -/
inductive Dispatch (src : Directive) (cur : RunState) : RunState → List Record → Prop
  | mk {now : Time} {timer : Timer} {ri : RunInfo}
      (htimer : timer.directive = Records.repairRunInfo src cur)
      (hwf : timer.wfID = src.runInfo.wfID) (hri : ri.SameRun src.runInfo) :
      Dispatch src cur
        { cur with
          kind := .step
          enteredAt := now
          activeDirectiveID := src.id
          lastEventSeqID := Records.cursorAfter src cur }
        [.timer timer, .runInfo ri 0,
          .workerTask { Records.repairRunInfo src cur with runInfo := ri },
          .runState
            { cur with
              kind := .step
              enteredAt := now
              activeDirectiveID := src.id
              lastEventSeqID := Records.cursorAfter src cur } cur.seqID]

/-- A batch that suspends a run; a pending event comes with a wake-up. -/
inductive Suspend (src : Directive) (sn : StateSnapshot) : RunState → List Record → Prop
  | mk {now : Time} {ri : RunInfo} {h : HistoryEvent} {timer : Timer} {wake : Directive}
      (hri : ri.SameRun src.runInfo) (hh : (Record.history h).isNote = true)
      (htimer : timer.directive = src) (hwf : timer.wfID = src.runInfo.wfID)
      (hwake : wake.IsWakeFor src) :
      Suspend src sn
        { sn.runState with kind := .wait, enteredAt := now, activeDirectiveID := src.id }
        ([.runInfo ri 0, .history h, .timer timer,
          .runState
            { sn.runState with kind := .wait, enteredAt := now, activeDirectiveID := src.id }
            sn.runState.seqID] ++ if sn.event.id ≠ "" then [.directive wake] else [])

/-- The kind of the message a step result names next. -/
def Directive.nextKind? (d : Directive) : Option DirectiveKind :=
  match d.msg with
  | .stepResult _ _ _ _ _ nextMsgKind _ => some nextMsgKind
  | _ => none

theorem Directive.nextKind?_of_msg {d : Directive} {processedKind nextMsgKind : DirectiveKind}
    {processedMsg nextMsg : DirectiveMessage} {workerID : Option WorkerID} {durationMS : ℤ}
    {kvUpdates : Option KVUpdates}
    (h : d.msg = .stepResult processedKind processedMsg workerID durationMS kvUpdates nextMsgKind
      nextMsg) : d.nextKind? = some nextMsgKind := by
  rw [nextKind?, h]

/-- The message that the step result names next is a step, a wait or the end of the run. -/
def Directive.NamesNext (d : Directive) : Prop :=
  ∀ k ∈ d.nextKind?, k ∈ [DirectiveKind.step, .wait, .complete, .fail, .failStep]

instance (d : Directive) : Decidable d.NamesNext :=
  inferInstanceAs (Decidable (∀ k ∈ d.nextKind?, _))

/-- The directive asks for `kind` itself or is a step result that names it next. -/
def Directive.AsksFor (d : Directive) (kind : DirectiveKind) : Prop :=
  d.kind = kind ∨ d.kind = .stepResult ∧ d.nextKind? = some kind

instance (d : Directive) (kind : DirectiveKind) : Decidable (d.AsksFor kind) :=
  inferInstanceAs (Decidable (_ ∨ _))

theorem Directive.AsksFor.kind_ne {d : Directive} {k k' : DirectiveKind} (h : d.AsksFor k)
    (hk : k ≠ k' ∧ .stepResult ≠ k') : d.kind ≠ k' := by
  rcases h with h | ⟨h, -⟩ <;> rw [h]
  · exact hk.1
  · exact hk.2

/-- Where a dispatched directive comes from: a step that was asked for, the message a step result
names next, the step of a wait that timed out, or the inbox. -/
inductive Dispatches (d : Directive) (sn : StateSnapshot) : Directive → Prop
  | step (hd : d.kind = .step) : Dispatches d sn d
  | next {src : Directive} (hd : d.kind = .stepResult) (hnext : d.nextKind? = some src.kind)
      (hkind : src.kind = .step ∨ src.kind = .event) (hid : src.id = deriveNextDirectiveID d.id)
      (hrun : src.runInfo.SameRun d.runInfo) : Dispatches d sn src
  | timeout {src : Directive} (hd : d.AsksFor .waitTimeout) (hwait : sn.runState.kind = .wait)
      (hkind : src.kind = .step) (hrun : src.runInfo.SameRun d.runInfo) : Dispatches d sn src
  | inbox (hd : d.kind = .wakeFromInbox) (hwait : sn.runState.kind = .wait)
      (hevent : sn.event.IsEvent) : Dispatches d sn sn.event

theorem Dispatches.kind_ne_start {d : Directive} {sn : StateSnapshot} {src : Directive}
    (h : Dispatches d sn src) : src.kind ≠ .start := by
  cases h with
  | step hd => simp [hd]
  | next _ _ hkind => rcases hkind with hkind | hkind <;> simp [hkind]
  | timeout _ _ hkind => simp [hkind]
  | inbox _ _ hevent => simp [hevent.2.1]

/-- The records of a transition to the state `s`. -/
inductive Transition (d : Directive) (sn : StateSnapshot) : RunState → List Record → Prop
  | finish {src : Directive} {kind : RunStateKind} {s : RunState} {body : List Record}
      (h : Finish src sn.runState kind s body) (hkind : kind.isTerminal = true)
      (hsrc : src.runInfo.SameRun d.runInfo ∨ sn.runState.pendingCancel = some src)
      (hd : d.kind ≠ .start ∧ d.kind ≠ .event ∧ d.kind ≠ .wakeFromInbox) : Transition d sn s body
  | dispatch {src : Directive} {s : RunState} {body : List Record}
      (h : Dispatch src sn.runState s body) (hsrc : Dispatches d sn src) : Transition d sn s body
  | suspend {src : Directive} {s : RunState} {body : List Record}
      (h : Suspend src sn s body) (hd : d.AsksFor .wait)
      (hrun : src.runInfo.SameRun d.runInfo) : Transition d sn s body
  | pickUp {h : HistoryEvent} {workerID : WorkerID} (hd : d.AsksFor .stepPickedUp)
      (hh : (Record.history h).isNote = true) :
      Transition d sn { sn.runState with workerID := some workerID }
        [.history h, .runState { sn.runState with workerID := some workerID } sn.runState.seqID]
  | park {h : HistoryEvent} (hd : d.kind = .cancel) (hstep : sn.runState.kind = .step)
      (hh : (Record.history h).isNote = true) :
      Transition d sn { sn.runState with pendingCancel := some d }
        [.history h, .runState { sn.runState with pendingCancel := some d } sn.runState.seqID]

/-- The first state of a run, before its start step is dispatched. -/
def startState (now : Time) (d : Directive) : RunState :=
  { newRunState now d .start with startedAt := some now }

/-- What the two states of a start have in common: nothing of an earlier state is left. -/
structure StartStateOf (d : Directive) (s : RunState) : Prop where
  wfID : s.wfID = d.runInfo.wfID
  runID : s.runID = d.runInfo.id
  kind : s.kind = .start ∨ s.kind = .step
  lastEventSeqID : s.lastEventSeqID = 0
  pendingCancel : s.pendingCancel = none

theorem StartStateOf.isTerminal {d : Directive} {s : RunState} (h : StartStateOf d s) :
    s.isTerminal = false := by
  rcases h.kind with hk | hk <;> simp [RunState.isTerminal, hk]

/-- What handling `d` with the snapshot `sn` can hand to the store. -/
inductive Planned (d : Directive) (sn : StateSnapshot) : List Record → Prop
  | nothing : Planned d sn []
  | start {now : Time} {h : HistoryEvent} {ri : RunInfo} {s : RunState} {input body : List Record}
      (hlive : sn.runState.isTerminal = false) (hd : d.kind = .start)
      (hh : History.About d .runStarted h) (hri : ri.SameRun d.runInfo)
      (hinput : ∀ r ∈ input, ∃ v, r = .runInput ri.wfID ri.id v)
      (hbody : Dispatch { d with runInfo := ri } (startState now d) s body) :
      Planned d sn ([.history h, .runInfo ri 0] ++ input ++ .runState (startState now d) 0 :: body)
  | event {h : HistoryEvent} {wake : Directive} (hlive : sn.runState.isTerminal = false)
      (hd : d.kind = .event)
      (hh : History.About d .eventReceived h) (hwake : wake.IsWakeFor d) :
      Planned d sn ([.inbox d, .history h] ++
        if sn.runState.kind = .wait ∧ sn.event.id = "" then [.directive wake] else [])
  | transition {s : RunState} {notes body : List Record} (hlive : sn.runState.isTerminal = false)
      (hnotes : AllNotes notes) (h : Transition d sn s body) :
      Planned d sn (notes ++ body)

/-! ### Parts of a batch -/

theorem AllNotes.filterMap_eq_nil {β : Type} {f : Record → Option β} {records : List Record}
    (h : AllNotes records) (hf : ∀ r : Record, r.isNote = true → f r = none) :
    records.filterMap f = [] :=
  List.filterMap_eq_nil_iff.mpr fun r hr => hf r (h r hr)

theorem AllNotes.runStates {records : List Record} (h : AllNotes records) :
    records.filterMap Record.runState? = [] :=
  h.filterMap_eq_nil fun r hr => by cases r <;> simp_all [Record.isNote, Record.runState?]

theorem AllNotes.workerTasks {records : List Record} (h : AllNotes records) :
    records.filterMap Record.workerTask? = [] :=
  h.filterMap_eq_nil fun r hr => by cases r <;> simp_all [Record.isNote, Record.workerTask?]

theorem AllNotes.inboxes {records : List Record} (h : AllNotes records) :
    records.filterMap Record.inbox? = [] :=
  h.filterMap_eq_nil fun r hr => by cases r <;> simp_all [Record.isNote, Record.inbox?]

theorem AllNotes.directives {records : List Record} (h : AllNotes records) :
    records.filterMap Record.directive? = [] :=
  h.filterMap_eq_nil fun r hr => by cases r <;> simp_all [Record.isNote, Record.directive?]

/-- The input of a run is stored by itself. -/
theorem filterMap_input_eq_nil {β : Type} {f : Record → Option β} {ri : RunInfo}
    {input : List Record} (h : ∀ r ∈ input, ∃ v, r = .runInput ri.wfID ri.id v)
    (hf : ∀ v, f (.runInput ri.wfID ri.id v) = none) : input.filterMap f = [] := by
  refine List.filterMap_eq_nil_iff.mpr fun r hr => ?_
  obtain ⟨v, rfl⟩ := h r hr
  exact hf v

theorem Finish.runStates {src : Directive} {cur s : RunState} {kind : RunStateKind}
    {body : List Record} (h : Finish src cur kind s body) :
    body.filterMap Record.runState? = [(s, cur.seqID)] := by
  obtain ⟨-, -, hrest⟩ := h
  simp only [List.filterMap_cons, Record.runState?, hrest.runStates]

theorem Dispatch.runStates {src : Directive} {cur s : RunState} {body : List Record}
    (h : Dispatch src cur s body) : body.filterMap Record.runState? = [(s, cur.seqID)] := by
  cases h; rfl

namespace Transition

variable {d : Directive} {sn : StateSnapshot} {s : RunState} {body : List Record}

/-- A transition writes one run state, and expects it to follow the one of the snapshot. -/
theorem runStates (h : Transition d sn s body) :
    body.filterMap Record.runState? = [(s, sn.runState.seqID)] := by
  cases h with
  | finish h => exact h.runStates
  | dispatch h => exact h.runStates
  | suspend h => cases h; split_ifs <;> rfl
  | pickUp => rfl
  | park => rfl

theorem inboxes (h : Transition d sn s body) : body.filterMap Record.inbox? = [] := by
  cases h with
  | finish h =>
    obtain ⟨-, -, hrest⟩ := h
    simp only [List.filterMap_cons, Record.inbox?, hrest.inboxes]
  | dispatch h => cases h; rfl
  | suspend h => cases h; split_ifs <;> rfl
  | pickUp => rfl
  | park => rfl

/-- The new state belongs to the run of the old one. -/
theorem sameRun (h : Transition d sn s body) :
    s.wfID = sn.runState.wfID ∧ s.runID = sn.runState.runID := by
  cases h with
  | finish h => cases h; exact ⟨rfl, rfl⟩
  | dispatch h => cases h; exact ⟨rfl, rfl⟩
  | suspend h => cases h; exact ⟨rfl, rfl⟩
  | pickUp => exact ⟨rfl, rfl⟩
  | park => exact ⟨rfl, rfl⟩

/-- Only a cancel that arrives during a step is parked. -/
theorem pendingCancel (h : Transition d sn s body) :
    s.pendingCancel = sn.runState.pendingCancel ∨ d.kind = .cancel ∧ s.pendingCancel = some d := by
  cases h with
  | finish h => cases h; exact .inl rfl
  | dispatch h => cases h; exact .inl rfl
  | suspend h => cases h; exact .inl rfl
  | pickUp => exact .inl rfl
  | park hd => exact .inr ⟨hd, rfl⟩

/-- Starts and events are not transitions. -/
theorem kind_ne (h : Transition d sn s body) : d.kind ≠ .start ∧ d.kind ≠ .event := by
  cases h with
  | finish _ _ _ hd => exact ⟨hd.1, hd.2.1⟩
  | dispatch _ hsrc =>
    cases hsrc with
    | step hd => simp [hd]
    | next hd => simp [hd]
    | timeout hd => exact ⟨hd.kind_ne (by decide), hd.kind_ne (by decide)⟩
    | inbox hd => simp [hd]
  | suspend _ hd => exact ⟨hd.kind_ne (by decide), hd.kind_ne (by decide)⟩
  | pickUp hd => exact ⟨hd.kind_ne (by decide), hd.kind_ne (by decide)⟩
  | park hd => simp [hd]

/-- The wake-up is the only directive a transition publishes. -/
theorem directives (h : Transition d sn s body) {wake : Directive}
    (hw : wake ∈ body.filterMap Record.directive?) :
    s.kind = .wait ∧ ∃ src, src.runInfo.SameRun d.runInfo ∧ wake.IsWakeFor src := by
  cases h with
  | finish h =>
    obtain ⟨-, -, hrest⟩ := h
    simp [List.filterMap_cons, Record.directive?, hrest.directives] at hw
  | dispatch h => cases h; simp [List.filterMap_cons, Record.directive?] at hw
  | suspend h _ hrun =>
    obtain ⟨-, -, -, -, hwake⟩ := h
    refine ⟨rfl, _, hrun, ?_⟩
    split_ifs at hw <;> simp_all [List.filterMap_cons, Record.directive?]
  | pickUp => simp [List.filterMap_cons, Record.directive?] at hw
  | park => simp [List.filterMap_cons, Record.directive?] at hw

end Transition

namespace Planned

variable {d : Directive} {sn : StateSnapshot} {records : List Record}

/-- A run state in a batch belongs to a start or to a transition. -/
theorem runState_cases (h : Planned d sn records) {s : RunState} {n : ℕ}
    (hs : Record.runState s n ∈ records) :
    (d.kind = .start ∧ n = 0 ∧ StartStateOf d s) ∨
    (n = sn.runState.seqID ∧ ∃ notes body, records = notes ++ body ∧ AllNotes notes ∧
      Transition d sn s body) := by
  have hmem : (s, n) ∈ records.filterMap Record.runState? :=
    List.mem_filterMap.mpr ⟨_, hs, rfl⟩
  cases h with
  | nothing => simp at hs
  | start _ hd _ _ hinput hbody =>
    left
    cases hbody
    simp only [List.mem_append, List.mem_cons, reduceCtorEq, List.not_mem_nil, or_false, false_or,
      Record.runState.injEq] at hs
    rcases hs with hs | ⟨rfl, rfl⟩ | ⟨rfl, rfl⟩
    · obtain ⟨v, hv⟩ := hinput _ hs
      cases hv
    · exact ⟨hd, rfl, rfl, rfl, .inl rfl, rfl, rfl⟩
    · exact ⟨hd, rfl, rfl, rfl, .inr rfl,
        by simp [Records.cursorAfter, hd, startState, newRunState], rfl⟩
  | event => split_ifs at hs <;> simp at hs
  | transition _ hnotes h =>
    right
    rw [List.filterMap_append, hnotes.runStates, h.runStates] at hmem
    simp only [List.nil_append, List.mem_singleton, Prod.mk.injEq] at hmem
    obtain ⟨rfl, rfl⟩ := hmem
    exact ⟨rfl, _, _, rfl, hnotes, h⟩

/-- Only an event enters the inbox. -/
theorem inbox_cases (h : Planned d sn records) {d' : Directive} (hs : Record.inbox d' ∈ records) :
    d.kind = .event ∧ d' = d := by
  have hmem : d' ∈ records.filterMap Record.inbox? := List.mem_filterMap.mpr ⟨_, hs, rfl⟩
  cases h with
  | nothing => simp at hs
  | start _ _ _ _ hinput hbody =>
    cases hbody
    simp at hs
    obtain ⟨v, hv⟩ := hinput _ hs
    cases hv
  | event _ hd => split_ifs at hs <;> simp at hs <;> exact ⟨hd, hs⟩
  | transition _ hnotes h =>
    rw [List.filterMap_append, hnotes.inboxes, h.inboxes] at hmem
    simp at hmem

/-- Apart from notes, a batch records that a run was started or that an event was received. -/
theorem history_cases (h : Planned d sn records) {e : HistoryEvent}
    (hs : Record.history e ∈ records) :
    (Record.history e).isNote = true ∨ d.kind = .start ∧ History.About d .runStarted e ∨
      d.kind = .event ∧ History.About d .eventReceived e := by
  cases h with
  | nothing => simp at hs
  | start _ hd hh _ hinput hbody =>
    cases hbody
    simp at hs
    rcases hs with rfl | hs
    · exact .inr (.inl ⟨hd, hh⟩)
    · obtain ⟨v, hv⟩ := hinput _ hs
      cases hv
  | event _ hd hh => split_ifs at hs <;> simp at hs <;> exact .inr (.inr ⟨hd, hs ▸ hh⟩)
  | transition _ hnotes ht =>
    left
    rcases List.mem_append.mp hs with hs | hs
    · exact hnotes _ hs
    · cases ht with
      | finish h =>
        obtain ⟨-, hh, hrest⟩ := h
        simp only [List.mem_cons, reduceCtorEq, Record.history.injEq, false_or] at hs
        rcases hs with rfl | hs
        · exact hh
        · exact hrest _ hs
      | dispatch h =>
        cases h
        simp at hs
      | suspend h =>
        obtain ⟨-, hh, -, -, -⟩ := h
        split_ifs at hs <;> simp at hs <;> exact hs ▸ hh
      | pickUp _ hh =>
        simp at hs
        exact hs ▸ hh
      | park _ _ hh =>
        simp at hs
        exact hs ▸ hh

/-- A worker is handed the step a run starts with, or what the directive dispatches. -/
theorem workerTask_cases (h : Planned d sn records) {t : Directive}
    (hs : Record.workerTask t ∈ records) :
    ∃ src, (d.kind = .start ∧ src = d ∨ Dispatches d sn src) ∧ t.kind = src.kind := by
  cases h with
  | nothing => simp at hs
  | start _ hd _ _ hinput hbody =>
    cases hbody
    simp at hs
    rcases hs with hs | rfl
    · obtain ⟨v, hv⟩ := hinput _ hs
      cases hv
    · exact ⟨d, .inl ⟨hd, rfl⟩, rfl⟩
  | event => split_ifs at hs <;> simp at hs
  | transition _ hnotes ht =>
    have hmem : t ∈ List.filterMap Record.workerTask? _ := List.mem_filterMap.mpr ⟨_, hs, rfl⟩
    rw [List.filterMap_append, hnotes.workerTasks, List.nil_append] at hmem
    cases ht with
    | finish h =>
      obtain ⟨-, -, hrest⟩ := h
      simp [List.filterMap_cons, Record.workerTask?, hrest.workerTasks] at hmem
    | dispatch h hsrc =>
      cases h
      simp [List.filterMap_cons, Record.workerTask?] at hmem
      exact ⟨_, .inr hsrc, by rw [hmem]; rfl⟩
    | suspend h =>
      cases h
      split_ifs at hmem <;> simp [List.filterMap_cons, Record.workerTask?] at hmem
    | pickUp => simp [List.filterMap_cons, Record.workerTask?] at hmem
    | park => simp [List.filterMap_cons, Record.workerTask?] at hmem

/-- The only directives in batches are wake-ups. -/
theorem directive_cases (h : Planned d sn records) {wake : Directive}
    (hs : Record.directive wake ∈ records) :
    ∃ src, src.runInfo.SameRun d.runInfo ∧ wake.IsWakeFor src := by
  cases h with
  | nothing => simp at hs
  | start _ _ _ _ hinput hbody =>
    cases hbody
    simp at hs
    obtain ⟨v, hv⟩ := hinput _ hs
    cases hv
  | event _ _ _ hwake =>
    split_ifs at hs <;> simp at hs
    exact ⟨d, .refl _, hs ▸ hwake⟩
  | transition _ hnotes h =>
    have hmem := List.mem_filterMap.mpr ⟨_, hs, (rfl : Record.directive? (.directive wake) = _)⟩
    rw [List.filterMap_append, hnotes.directives, List.nil_append] at hmem
    exact (h.directives hmem).2

end Planned

end Grctl
