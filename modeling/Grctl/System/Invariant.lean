import Grctl.System.Effect

/-!
# What every reachable world looks like

Three facts hold in all runs. What is stored under a subject has the type of that subject and
belongs to the run it names. A call handles a directive that is stored in the stream. And what a
call has read so far is still in the stream: the run state it goes by is one that was stored, and
the event it will dispatch was the first one after the cursor of that state.

From these follows the main lemma, `Batch.current`: when a transition commits, the run state it
was planned from is the current one, because the stream compared their sequence numbers.

## Main definitions

* `MsgSound`, `StoredState`, `CallSound`, `Sound`.

## Main results

* `sound_of_reachableBy`: every reachable world is sound.
* `Batch.current`: a committed transition starts from the current run state.
-/

namespace Grctl

open SubjectLog Lts

/-- A state of the run `run` of `wf`: a parked cancel is one of the same run. -/
structure StateOf (wf : WFID) (run : RunID) (s : RunState) : Prop where
  wfID : s.wfID = wf
  runID : s.runID = run
  cancel : ∀ c, s.pendingCancel = some c → c.Decoded ∧ c.kind = .cancel ∧ c.OfRun wf run

/-- What is stored under a subject fits it. -/
structure MsgSound (m : Msg) : Prop where
  runState : ∀ wf run, m.subject = .runState wf run → wf ≠ "" ∧ run ≠ "" ∧
    ∃ s, m.data = .runState s ∧ StateOf wf run s
  inbox : ∀ wf, m.subject = .inbox wf →
    ∃ d, m.data = .directive d ∧ d.IsEvent ∧ d.runInfo.wfID = wf
  directive : ∀ ty wf run, m.subject = .directive ty wf run →
    ∃ d : Directive, m = d.message ∧ d.Decoded

/-- A run state as it is read from a stored message. -/
def StoredState (l : Stream) (wf : WFID) (run : RunID) (s : RunState) : Prop :=
  ∃ e ∈ l.entries, e.subject = .runState wf run ∧
    ∃ s₀, e.data = .runState s₀ ∧ s = { s₀ with seqID := e.seq }

/-- The run state that a call has read, if it has come that far. -/
def Phase.runState? : Phase → Option RunState
  | .delivered => none
  | .gotState s => some s
  | .gotHistory s _ => some s
  | .ready sn => some sn.runState

/-- An event that was read as the first one of an inbox after a cursor. -/
def FirstEvent (l : Stream) (wf : WFID) (cursor : ℕ) (d : Directive) : Prop :=
  ∃ e ∈ l.entries, e.subject = .inbox wf ∧ readInboxEntry e = .ok d ∧ cursor < e.seq ∧
    ∀ e' ∈ l.entries, e'.subject = .inbox wf → e'.live = true → cursor < e'.seq → e.seq ≤ e'.seq

/-- What a call has read is in the stream. -/
structure CallSound (l : Stream) (c : Call) : Prop where
  decoded : c.directive.Decoded
  entry : ∃ e ∈ l.entries, e.toMessage = c.directive.message ∧ e.seq = c.seq
  state : ∀ s, c.phase.runState? = some s →
    s = .zero ∨ StoredState l c.directive.runInfo.wfID c.directive.runInfo.id s
  event : ∀ sn, c.phase = .ready sn →
    sn.event = .zero ∨ FirstEvent l c.directive.runInfo.wfID sn.runState.lastEventSeqID sn.event

/-- The invariant of all runs. -/
structure Sound (w : World) : Prop where
  messages : ∀ e ∈ w.stream.entries, MsgSound e.toMessage
  live : ∀ e ∈ w.stream.entries, ∀ wf run, e.subject = .runState wf run → e.live = true
  calls : ∀ c ∈ w.calls, CallSound w.stream c

/-! ### Growth of the stream -/

theorem readInboxEntry_congr {e e' : StreamEntry} (hm : e'.toMessage = e.toMessage)
    (hseq : e'.seq = e.seq) : readInboxEntry e' = readInboxEntry e := by
  simp only [readInboxEntry, hm, hseq]

section Growth

variable {l l' : Stream} {wf : WFID} {run : RunID}

theorem StoredState.mono {s : RunState} (h : StoredState l wf run s) (hl : l.Extends l') :
    StoredState l' wf run s := by
  obtain ⟨e, he, hsubject, s₀, hdata, rfl⟩ := h
  obtain ⟨e', he', hm, hseq⟩ := hl.kept e he
  exact ⟨e', he', hm ▸ hsubject, s₀, hm ▸ hdata, by rw [hseq]⟩

theorem FirstEvent.mono {n : ℕ} {d : Directive} (h : FirstEvent l wf n d) (hl : l.Extends l') :
    FirstEvent l' wf n d := by
  obtain ⟨e, he, hsubject, hread, hlt, hmin⟩ := h
  obtain ⟨e', he', hm, hseq⟩ := hl.kept e he
  refine ⟨e', he', hm ▸ hsubject, readInboxEntry_congr hm hseq ▸ hread, hseq ▸ hlt, ?_⟩
  intro e₁ he₁ hsubject₁ hlive₁ hlt₁
  rcases hl.back e₁ he₁ with hnew | ⟨e₀, he₀, hm₀, hseq₀, hlive₀⟩
  · have := (Log.seq_mem_range he).2
    omega
  · have := hmin e₀ he₀ (hm₀ ▸ hsubject₁) (hlive₀ hlive₁) (hseq₀ ▸ hlt₁)
    omega

theorem CallSound.mono {c : Call} (h : CallSound l c) (hl : l.Extends l') : CallSound l' c where
  decoded := h.decoded
  entry := by
    obtain ⟨e, he, hm, hseq⟩ := h.entry
    obtain ⟨e', he', hm', hseq'⟩ := hl.kept e he
    exact ⟨e', he', hm'.trans hm, hseq'.trans hseq⟩
  state s hs := (h.state s hs).imp_right (·.mono hl)
  event sn hsn := (h.event sn hsn).imp_right (·.mono hl)

end Growth

/-! ### Reads -/

section Reads

variable {l : Stream} {wf : WFID} {run : RunID}

theorem storedState_of_getRunState {s : RunState} (h : getRunState l wf run = .ok (some s)) :
    StoredState l wf run s := by
  rw [getRunState] at h
  split at h
  · cases h
  · rename_i e he
    split at h
    · rename_i s₀ hdata
      cases h
      obtain ⟨hmem, -, hsubject⟩ := Log.mem_of_lastOn he
      exact ⟨e, hmem, hsubject, s₀, hdata, rfl⟩
    · simp at h

theorem firstEvent_of_getNextEvent {n : ℕ} {d : Directive}
    (h : getNextEvent l wf n = .ok (some d)) : FirstEvent l wf n d := by
  rw [getNextEvent] at h
  split at h
  · cases h
  · rename_i e he
    obtain ⟨hmem, -, hsubject, hfrom⟩ := Log.mem_of_firstFrom he
    have hread : readInboxEntry e = .ok d := by
      cases hr : readInboxEntry e with
      | error f => simp [hr, Except.map] at h
      | ok d' => simpa [hr, Except.map] using h
    refine ⟨e, hmem, hsubject, hread, ?_, fun e' he' hs' hl' hlt => ?_⟩
    · have := (Log.seq_mem_range hmem).1
      simp only [startSeq] at hfrom
      split_ifs at hfrom <;> omega
    · refine Log.firstFrom_le he he' hl' hs' ?_
      simp only [startSeq]
      split_ifs <;> omega

/-- A snapshot of a sound call carries an event or none. -/
theorem isEvent_of_readInboxEntry {e : StreamEntry} {d : Directive} (hm : MsgSound e.toMessage)
    (hs : e.subject = .inbox wf) (hread : readInboxEntry e = .ok d) :
    d.IsEvent ∧ d.runInfo.wfID = wf := by
  obtain ⟨d₀, hdata, ⟨hid, hkind, ev, hmsg⟩, hwf⟩ := hm.inbox wf hs
  simp only [readInboxEntry, hdata, hmsg, Except.ok.injEq] at hread
  subst hread
  exact ⟨⟨hid, hkind, _, rfl⟩, hwf⟩

end Reads

namespace Sound

variable {w : World} {c : Call} {sn : StateSnapshot}

theorem eventSound (h : Sound w) (hc : c ∈ w.calls) (hphase : c.phase = .ready sn) :
    sn.EventSound := by
  rcases (h.calls c hc).event sn hphase with hz | ⟨e, he, hs, hread, -⟩
  · exact .inl (by rw [hz]; rfl)
  · exact .inr (isEvent_of_readInboxEntry (h.messages e he) hs hread).1

/-- A stored state belongs to the run it is stored for. -/
theorem stateOf (h : Sound w) {wf : WFID} {run : RunID} {s : RunState}
    (hs : StoredState w.stream wf run s) : StateOf wf run s ∧ wf ≠ "" ∧ run ≠ "" := by
  obtain ⟨e, he, hsubject, s₀, hdata, rfl⟩ := hs
  obtain ⟨hwf, hrun, s₁, hdata₁, hof⟩ := (h.messages e he).runState wf run hsubject
  cases hdata.symm.trans hdata₁
  exact ⟨⟨hof.wfID, hof.runID, hof.cancel⟩, hwf, hrun⟩

/-- The batch of a call has one of the known shapes. -/
theorem planned (h : Sound w) {cfg : Manager.Config} {records : List Record} {l : Stream}
    (hb : Batch cfg w c sn records l) : Planned c.directive sn records := by
  obtain ⟨env, failEnv, hrec⟩ := hb.planned
  exact planned_of_handleRecords (h.calls c hb.call).decoded (h.eventSound hb.call hb.phase) hrec

end Sound

/-! ### Preservation -/

section Batch

variable {cfg : Manager.Config} {w : World} {c : Call} {sn : StateSnapshot}
  {records notes body : List Record} {l : Stream} {s : RunState}

/-- Nothing is planned for a run that has ended. -/
theorem Batch.live (hw : Sound w) (hb : Batch cfg w c sn records l) :
    sn.runState.isTerminal = false := by
  have hplanned := hw.planned hb
  cases hplanned with
  | nothing => exact absurd rfl (commit_eq_ok hb.commit).2.1
  | start hlive => exact hlive
  | event hlive => exact hlive
  | transition hlive => exact hlive

/-- A transition that commits was planned from a stored state: the zero state has no identifiers,
and the encoder refuses what is derived from it. -/
theorem Batch.stored (hw : Sound w) (hb : Batch cfg w c sn records l)
    (hrecords : records = notes ++ body) (ht : Transition c.directive sn s body) :
    StoredState w.stream c.directive.runInfo.wfID c.directive.runInfo.id sn.runState := by
  refine ((hw.calls c hb.call).state sn.runState (by rw [hb.phase]; rfl)).resolve_left ?_
  intro hz
  have hmem : (s, sn.runState.seqID) ∈ records.filterMap Record.runState? := by
    rw [hrecords, List.filterMap_append, ht.runStates]
    exact List.mem_append_right _ (List.mem_singleton_self _)
  obtain ⟨r, hr, hs⟩ := List.mem_filterMap.mp hmem
  obtain rfl := Record.runState?_eq_some.mp hs
  refine ((commit_eq_ok hb.commit).2.2 _ _ hr).1 ?_
  rw [ht.sameRun.1, hz]
  rfl

/-- A transition that commits was planned from the current state of its run. -/
theorem Batch.current (hw : Sound w) (hb : Batch cfg w c sn records l)
    (hrecords : records = notes ++ body) (hnotes : AllNotes notes)
    (ht : Transition c.directive sn s body) :
    getRunState w.stream c.directive.runInfo.wfID c.directive.runInfo.id =
      .ok (some sn.runState) := by
  have hstored := hb.stored hw hrecords ht
  obtain ⟨hof, -⟩ := hw.stateOf hstored
  obtain ⟨e, he, -, s₀, hdata, hsn⟩ := hstored
  have hseq : sn.runState.seqID = e.seq := by rw [hsn]
  have hstates : records.filterMap Record.runState? = [(s, e.seq)] := by
    rw [hrecords, List.filterMap_append, hnotes.runStates, ht.runStates, hseq]
    rfl
  -- the stream has compared the sequence number of the snapshot with the last one
  have hlast := lastSeq_of_commit hstates (Log.seq_mem_range he).1 hb.commit
  rw [ht.sameRun.1, ht.sameRun.2, hof.wfID, hof.runID] at hlast
  rw [getRunState, Log.lastOn_eq_of_seq he hlast.symm]
  simp only [hdata, hsn]

/-- The event of a snapshot is the first one after the cursor that the snapshot shows. -/
theorem Batch.firstEvent (hw : Sound w) (hb : Batch cfg w c sn records l) {wf : WFID}
    (hwf : c.directive.runInfo.wfID = wf) (hevent : sn.event.IsEvent) :
    FirstEvent w.stream wf sn.runState.lastEventSeqID sn.event := by
  rcases (hw.calls c hb.call).event sn hb.phase with hz | hfirst
  · exact absurd (by rw [hz]; rfl) hevent.1
  · exact hwf ▸ hfirst

/-- The event of a snapshot is one for the workflow of the directive. -/
theorem Batch.event_wfID (hw : Sound w) (hb : Batch cfg w c sn records l)
    (hevent : sn.event.IsEvent) : sn.event.runInfo.wfID = c.directive.runInfo.wfID := by
  obtain ⟨e, he, hs, hread, -⟩ := hb.firstEvent hw rfl hevent
  exact (isEvent_of_readInboxEntry (hw.messages e he) hs hread).2

/-- The states a batch stores are states of the run they are stored for. -/
theorem Batch.stateOf (hw : Sound w) (hb : Batch cfg w c sn records l) {n : ℕ}
    (hs : Record.runState s n ∈ records) : StateOf s.wfID s.runID s := by
  refine ⟨rfl, rfl, fun cancel hcancel => ?_⟩
  rcases (hw.planned hb).runState_cases hs with ⟨-, -, hstart⟩ | ⟨-, _, _, hrecords, -, ht⟩
  · simp [hstart.pendingCancel] at hcancel
  · obtain ⟨hof, -⟩ := hw.stateOf (hb.stored hw hrecords ht)
    rw [ht.sameRun.1, ht.sameRun.2, hof.wfID, hof.runID]
    rcases ht.pendingCancel with hold | ⟨hkind, hnew⟩
    · exact hof.cancel cancel (hold ▸ hcancel)
    · cases hnew.symm.trans hcancel
      exact ⟨(hw.calls c hb.call).decoded, hkind, rfl, rfl⟩

end Batch

theorem msgSound_of_batch {cfg : Manager.Config} {w : World} {c : Call} {sn : StateSnapshot}
    {records : List Record} {l : Stream} (hw : Sound w) (hb : Batch cfg w c sn records l)
    {r : Record} {m : Msg} (hr : r ∈ records) (hm : m ∈ r.messages) : MsgSound m := by
  have hplanned := hw.planned hb
  have hdecoded := (hw.calls c hb.call).decoded
  refine ⟨fun wf run h => ?_, fun wf h => ?_, fun ty wf run h => ?_⟩
  · obtain ⟨s, n, rfl, rfl, rfl, hdata⟩ := Record.eq_of_mem_messages_runState hm h
    obtain ⟨hwf, hrun⟩ := (commit_eq_ok hb.commit).2.2 s n hr
    obtain ⟨h₁, h₂, h₃⟩ := hb.stateOf hw hr
    exact ⟨hwf, hrun, _, hdata, h₁, h₂, h₃⟩
  · obtain ⟨d, rfl, hwf, hdata⟩ := Record.eq_of_mem_messages_inbox hm h
    obtain ⟨hkind, rfl⟩ := hplanned.inbox_cases hr
    have hagrees := hdecoded.2
    rw [hkind] at hagrees
    refine ⟨_, hdata, ⟨hdecoded.1, hkind, ?_⟩, hwf⟩
    cases hmsg : c.directive.msg <;> simp_all [DirectiveMessage.agrees]
  · obtain ⟨d, rfl, rfl⟩ := Record.eq_of_mem_messages_directive hm h
    obtain ⟨src, -, hwake⟩ := hplanned.directive_cases hr
    refine ⟨d, rfl, ?_, ?_⟩
    · rw [hwake.id]
      exact deriveNextDirectiveID_ne_empty src.id
    · rw [hwake.kind, hwake.msg]
      rfl

theorem Origin.msgSound {cfg : Manager.Config} {w : World} {j : List Commit} {a : Label} {m : Msg}
    (h : Origin cfg w j a m) (hw : Sound w) : MsgSound m := by
  cases h with
  | @publish d hd =>
    exact ⟨fun _ _ h => (by cases h), fun _ h => (by cases h), fun _ _ _ _ => ⟨d, rfl, hd⟩⟩
  | runInfo =>
    exact ⟨fun _ _ h => (by cases h), fun _ h => (by cases h), fun _ _ _ h => (by cases h)⟩
  | history =>
    exact ⟨fun _ _ h => (by cases h), fun _ h => (by cases h), fun _ _ _ h => (by cases h)⟩
  | batch _ hb hr hm => exact msgSound_of_batch hw hb hr hm

section Step

variable {cfg : Manager.Config} {w w' : World} {a : Label}

theorem EntryChange.msgSound {j : List Commit} {e : StreamEntry} (h : EntryChange cfg w j a e)
    (hw : Sound w) : MsgSound e.toMessage := by
  cases h with
  | old he hm => exact hm ▸ hw.messages _ he
  | new ho => exact ho.msgSound hw

theorem Change.live {l : Stream} {j : List Commit} (h : Change cfg w l j) (hw : Sound w) :
    ∀ e ∈ l.entries, ∀ wf run, e.subject = .runState wf run → e.live = true := by
  intro e he wf run hs
  cases h with
  | same => exact hw.live e he wf run hs
  | outside =>
    rcases List.mem_append.mp he with he | he
    · exact hw.live e he wf run hs
    · exact (mem_stamp he).2.1
  | purge hp =>
    obtain ⟨e₀, he₀, rfl⟩ := Log.mem_purge.mp he
    split_ifs at hs ⊢ with hpe
    · rw [show e₀.subject = .runState wf run from hs] at hpe
      exact absurd (hp _ hpe) (by simp [Subject.isResidue])
    · exact hw.live e₀ he₀ wf run hs
  | commit hb =>
    rw [eq_appendAll_of_commit hb.commit] at he
    rcases List.mem_append.mp he with he | he
    · exact hw.live e he wf run hs
    · exact (mem_stamp he).2.1

theorem CallChange.sound {c : Call} (h : CallChange w a c) (hw : Sound w) :
    CallSound w.stream c := by
  cases h with
  | old hc => exact hw.calls c hc
  | @deliver e ty wf run d he hsubject hdata =>
    obtain ⟨d', hm, hd'⟩ := (hw.messages e he).directive ty wf run hsubject
    have : d = d' := by
      rw [hm] at hdata
      exact (Data.directive.inj hdata).symm
    subst this
    exact ⟨hd', ⟨e, he, hm, rfl⟩, fun s hs => (by cases hs), fun sn hsn => (by cases hsn)⟩
  | @readState _ c s hk _ hs =>
    have hsound := hw.calls c (List.mem_of_getElem? hk)
    refine ⟨hsound.decoded, hsound.entry, fun s' hs' => ?_, fun sn hsn => (by cases hsn)⟩
    cases hs'
    cases s with
    | none => exact .inl rfl
    | some s => exact .inr (storedState_of_getRunState hs)
  | @readHistory _ c s n hk hphase =>
    have hsound := hw.calls c (List.mem_of_getElem? hk)
    refine ⟨hsound.decoded, hsound.entry, fun s' hs' => ?_, fun sn hsn => (by cases hsn)⟩
    cases hs'
    exact hsound.state s (by rw [hphase]; rfl)
  | @readEvent _ c s n e hk hphase he =>
    have hsound := hw.calls c (List.mem_of_getElem? hk)
    refine ⟨hsound.decoded, hsound.entry, fun s' hs' => ?_, fun sn hsn => ?_⟩
    · cases hs'
      exact hsound.state s (by rw [hphase]; rfl)
    · cases hsn
      cases e with
      | none => exact .inl rfl
      | some d => exact .inr (firstEvent_of_getNextEvent he)

/-- The step lemma. -/
theorem Sound.step (hw : Sound w) (h : Effect cfg w a w') : Sound w' where
  messages _ he := (h.entryChange he).msgSound hw
  live := h.change.live hw
  calls _ hc := ((h.callChange hc).sound hw).mono h.change.extends

end Step

/-- Every reachable world is sound. -/
theorem sound_of_reachableBy {cfg : Manager.Config} {ok : World → Label → Prop} {w : World}
    (h : ReachableBy cfg ok w) : Sound w := by
  refine Reach.invariant h ?_ fun s a s' _ hs _ hstep => hs.step (effect_of_step hstep)
  exact ⟨fun e he => (by cases he), fun e he => (by cases he), fun c hc => (by cases hc)⟩

/-- The rule for stored directives: what holds of every directive that is published, passes from a
handled directive to the wake-ups of its run and is not lost again holds of every directive in the
stream. -/
theorem stored_of_published {cfg : Manager.Config} {ok : World → Label → Prop} {w : World}
    {P : World → Directive → Prop} (h : ReachableBy cfg ok w)
    (hmono : ∀ w a w' d, step cfg w a = some w' → P w d → P w' d)
    (hpublish : ∀ w d, ok w (.publish d) → P w d)
    (hwake : ∀ w c d, c ∈ w.calls → P w c.directive → d.kind = .wakeFromInbox →
      d.msg = .wakeFromInbox → d.runInfo.SameRun c.directive.runInfo → P w d) :
    ∀ e ∈ w.stream.entries, ∀ d : Directive, e.toMessage = d.message → P w d := by
  refine Reach.invariant (P := fun w => ∀ e ∈ w.stream.entries, ∀ d : Directive,
    e.toMessage = d.message → P w d) h (fun e he => by cases he)
    fun w a w' hr ih hok hstep e he d hm => hmono w a w' d hstep ?_
  cases (effect_of_step hstep).entryChange he with
  | old he₀ hm₀ => exact ih _ he₀ d (hm₀.trans hm)
  | new ho =>
    rw [hm] at ho
    generalize hm' : d.message = m at ho
    cases ho with
    | publish _ =>
      cases congrArg Message.data hm'
      exact hpublish _ _ hok
    | runInfo => cases congrArg Message.data hm'
    | history => cases congrArg Message.data hm'
    | batch _ hb hr' hmem =>
      have hw := sound_of_reachableBy hr
      obtain ⟨d', rfl, hd'⟩ := Record.eq_of_mem_messages_directive hmem (by rw [← hm']; rfl)
      obtain ⟨src, hsrc, hwake'⟩ := (hw.planned hb).directive_cases hr'
      cases congrArg Message.data (hm'.trans hd')
      obtain ⟨e₀, he₀, hm₀, -⟩ := (hw.calls _ hb.call).entry
      exact hwake w _ d hb.call (ih e₀ he₀ _ hm₀) hwake'.kind hwake'.msg (hwake'.runInfo ▸ hsrc)

/-- The rule for directives: what holds of every directive that is published and of every wake-up
holds of every directive that is handled. -/
theorem directive_of_published {cfg : Manager.Config} {ok : World → Label → Prop} {w : World}
    {P : Directive → Prop} (h : ReachableBy cfg ok w) (hpublish : ∀ w d, ok w (.publish d) → P d)
    (hwake : ∀ d, d.kind = .wakeFromInbox → d.msg = .wakeFromInbox → P d) :
    ∀ c ∈ w.calls, P c.directive := by
  intro c hc
  obtain ⟨e, he, hm, -⟩ := ((sound_of_reachableBy h).calls c hc).entry
  exact stored_of_published (P := fun _ d => P d) h (fun _ _ _ _ _ hd => hd) hpublish
    (fun _ _ d _ _ hkind hmsg _ => hwake d hkind hmsg) e he _ hm

/-- The rule for snapshots: what every guarded read of a run state establishes holds of the state
that a call goes by. -/
theorem runState_of_read {cfg : Manager.Config} {ok : World → Label → Prop} {w : World}
    {P : Directive → RunState → Prop} (h : ReachableBy cfg ok w)
    (hread : ∀ w k c s, ok w (.readState k) → w.calls[k]? = some c →
      getRunState w.stream c.directive.runInfo.wfID c.directive.runInfo.id = .ok s →
        P c.directive (s.getD .zero)) :
    ∀ c ∈ w.calls, ∀ s, c.phase.runState? = some s → P c.directive s := by
  refine Reach.invariant (P := fun w => ∀ c ∈ w.calls, ∀ s, c.phase.runState? = some s →
    P c.directive s) h (fun c hc => by cases hc) fun w a w' _ ih hok hstep c hc s hs => ?_
  cases (effect_of_step hstep).callChange hc with
  | old hc => exact ih c hc s hs
  | deliver => cases hs
  | @readState k c s₀ hk _ hstate =>
    cases hs
    exact hread w k c s₀ hok hk hstate
  | readHistory hk hphase =>
    cases hs
    exact ih _ (List.mem_of_getElem? hk) _ (by rw [hphase]; rfl)
  | readEvent hk hphase =>
    cases hs
    exact ih _ (List.mem_of_getElem? hk) _ (by rw [hphase]; rfl)

/-- The rule for the journal: what every guarded commit establishes of its batch and the journal
before it holds along the journal. -/
theorem along_journal {cfg : Manager.Config} {ok : World → Label → Prop} {w : World}
    {Q : List Commit → Commit → Prop} (h : ReachableBy cfg ok w)
    (hcommit : ∀ w k c sn records l env failEnv ack, ReachableBy cfg ok w → Along Q w.journal →
      ok w (.finish k env failEnv ack) → w.calls[k]? = some c → Batch cfg w c sn records l →
        Q w.journal (w.commitOf c sn records)) : Along Q w.journal := by
  refine Reach.invariant (P := fun w => Along Q w.journal) h along_nil
    fun w a w' hr ha hok hstep => ?_
  have heffect := effect_of_step hstep
  cases heffect with
  | commit hc hb => exact along_concat ha (hcommit _ _ _ _ _ _ _ _ _ hr ha hok hc hb)
  | _ => exact ha

/-- The rule for single batches: what every commit establishes of its batch holds of every batch in
the journal. -/
theorem forall_mem_journal {cfg : Manager.Config} {ok : World → Label → Prop} {w : World}
    {Q : Commit → Prop} (h : ReachableBy cfg ok w)
    (hcommit : ∀ w c sn records l, ReachableBy cfg ok w → Batch cfg w c sn records l →
      Q (w.commitOf c sn records)) : ∀ c ∈ w.journal, Q c := by
  intro c hc
  have halong : Along (fun _ c => Q c) w.journal :=
    along_journal h fun w _ c sn records l _ _ _ hr _ _ _ hb => hcommit w c sn records l hr hb
  obtain ⟨_, _, -, hQ⟩ := halong.of_mem hc
  exact hQ

/-- The rule for what is stored: an invariant of the stream and the journal is kept by messages from
outside, by purges, and by every batch that is appended to both. -/
theorem stored_invariant {cfg : Manager.Config} {ok : World → Label → Prop} {w : World}
    {P : Stream → List Commit → Prop} (h : ReachableBy cfg ok w) (hinit : P .empty [])
    (houtside : ∀ l j m, P l j → Outside m → P (l.append m) j)
    (hpurge : ∀ l j p, P l j → (∀ s, p s = true → s.isResidue = true) → P (l.purge p) j)
    (hbatch : ∀ w c sn records l, Sound w → P w.stream w.journal → Batch cfg w c sn records l →
      P (w.stream.appendAll (records.flatMap Record.messages))
        (w.journal ++ [w.commitOf c sn records])) : P w.stream w.journal := by
  refine Reach.invariant (P := fun w => P w.stream w.journal) h hinit
    fun w a w' hr ih _ hstep => ?_
  have hchange := (effect_of_step hstep).change
  generalize w'.stream = l', w'.journal = j' at hchange ⊢
  cases hchange with
  | same => exact ih
  | outside hm => exact houtside _ _ _ ih hm
  | purge hp => exact hpurge _ _ _ ih hp
  | commit hb =>
    rw [eq_appendAll_of_commit hb.commit]
    exact hbatch _ _ _ _ _ (sound_of_reachableBy hr) ih hb

/-- The rule for counts: where only batches store messages that satisfy `p`, and each stores at
most one if it satisfies `q` and none otherwise, the journal bounds their number. -/
theorem countP_messages_le {cfg : Manager.Config} {ok : World → Label → Prop} {w : World}
    {p : Msg → Bool} {q : Commit → Bool} (h : ReachableBy cfg ok w)
    (houtside : ∀ m, Outside m → p m = false)
    (hbatch : ∀ w c sn records l, Sound w → Batch cfg w c sn records l →
      (records.flatMap Record.messages).countP p ≤
        if q (w.commitOf c sn records) = true then 1 else 0) :
    w.stream.messages.countP p ≤ w.journal.countP q := by
  refine stored_invariant (P := fun l j => l.messages.countP p ≤ j.countP q) h le_rfl ?_ ?_ ?_
  · intro l j m ih hm
    simpa [Log.append, List.countP_append, houtside m hm] using ih
  · intro l j p' ih _
    simpa using ih
  · intro w c sn records l hw ih hb
    have hle := hbatch w c sn records l hw hb
    rw [Log.messages_appendAll, List.countP_append, List.countP_append, List.countP_singleton]
    omega

theorem countP_messages_eq_zero {records : List Record} {p : Msg → Bool}
    (h : ∀ r ∈ records, ∀ m ∈ r.messages, p m = true → False) :
    (records.flatMap Record.messages).countP p = 0 := by
  refine List.countP_eq_zero.mpr fun m hm hp => ?_
  obtain ⟨r, hr, hm⟩ := List.mem_flatMap.mp hm
  exact h r hr m hm hp

/-- What a committed batch stored is in the stream. -/
theorem mem_messages_of_mem_journal {cfg : Manager.Config} {ok : World → Label → Prop} {w : World}
    (h : ReachableBy cfg ok w) :
    ∀ c ∈ w.journal, ∀ m ∈ c.records.flatMap Record.messages, m ∈ w.stream.messages := by
  refine stored_invariant (P := fun l j => ∀ c ∈ j, ∀ m ∈ c.records.flatMap Record.messages,
    m ∈ l.messages) h (fun c hc => by cases hc) ?_ ?_ ?_
  · intro l j m' ih _ c hc m hm
    simpa [Log.append] using .inl (ih c hc m hm)
  · intro l j p ih _ c hc m hm
    simpa using ih c hc m hm
  · intro w _ _ records l _ ih _ c hc m hm
    rw [Log.messages_appendAll, List.mem_append]
    rcases List.mem_append.mp hc with hc | hc
    · exact .inl (ih c hc m hm)
    · rw [List.mem_singleton.mp hc] at hm
      exact .inr hm

/-- What is in the stream was stored by a committed batch or outside of one. -/
theorem mem_journal_of_mem_messages {cfg : Manager.Config} {ok : World → Label → Prop} {w : World}
    (h : ReachableBy cfg ok w) :
    ∀ m ∈ w.stream.messages,
      Outside m ∨ ∃ c ∈ w.journal, m ∈ c.records.flatMap Record.messages := by
  refine stored_invariant (P := fun l j => ∀ m ∈ l.messages,
    Outside m ∨ ∃ c ∈ j, m ∈ c.records.flatMap Record.messages) h (fun m hm => by cases hm) ?_ ?_ ?_
  · intro l j m' ih hm' m hm
    rw [Log.append, Log.messages_appendAll, List.mem_append, List.mem_singleton] at hm
    rcases hm with hm | rfl
    · exact ih m hm
    · exact .inl hm'
  · intro l j p ih _ m hm
    exact ih m (by simpa using hm)
  · intro w _ _ records l _ ih _ m hm
    rw [Log.messages_appendAll, List.mem_append] at hm
    rcases hm with hm | hm
    · refine (ih m hm).imp_right ?_
      rintro ⟨c, hc, hm⟩
      exact ⟨c, List.mem_append_left _ hc, hm⟩
    · exact .inr ⟨_, List.mem_append_right _ (List.mem_singleton_self _), hm⟩

end Grctl
