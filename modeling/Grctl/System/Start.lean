import Grctl.System.Progress
import Mathlib.Data.List.Perm.Basic

/-!
# Starting a run

The batch of a start is planned without looking at the snapshot, replaces whatever state the run
has, and carries nothing that the stream could recognise as a duplicate. That a directive is
delivered at least once therefore makes the server start a run more than once, from the beginning
and in any later state of it.

What does protect a run is that it has ended. So a run is started at most once if its start is
delivered only while the run has no state and no other delivery of a start is being handled, or
after the run has ended. The invariant counts the starts that have committed and the calls that
still can: there is at most one of both.

## Main definitions

* `StartGuard`: when a start is delivered.
* `Call.view`: the run state that a call goes by.

## Main results

* `started_at_most_once`: a run is started at most once.
-/

namespace Grctl

open SubjectLog Lts

/-- The directive that is stored in a message. -/
def Data.directive? : Data → Option Directive
  | .directive d => some d
  | _ => none

/-- A start of the run is delivered only when the run has ended, or when it has no state and no
other start of it is being handled. -/
def StartGuard (wf : WFID) (run : RunID) (w : World) (a : Label) : Prop :=
  ∀ seq ∈ a.delivered?, ∀ e ∈ w.entryAt seq, ∀ d ∈ e.data.directive?, d.Starts wf run →
    (currentState w.stream wf run).isTerminal = true ∨
      getRunState w.stream wf run = .ok none ∧ ∀ c ∈ w.calls, ¬ c.directive.Starts wf run
  deriving Decidable

/-! ### The calls that can still start the run -/

/-- The run state that a call goes by: the one it has read, or else the current one. -/
def Call.view (l : Stream) (c : Call) : RunState :=
  c.phase.runState?.getD (currentState l c.directive.runInfo.wfID c.directive.runInfo.id)

/-- The call can still start the run. -/
def Call.canStart (wf : WFID) (run : RunID) (l : Stream) (c : Call) : Bool :=
  decide (c.directive.Starts wf run) && !(c.view l).isTerminal

/-- The starts that have committed and the calls that can still start the run. -/
def StartsOnce (wf : WFID) (run : RunID) (w : World) : Prop :=
  w.journal.countP (Commit.starts wf run) + w.calls.countP (Call.canStart wf run w.stream) ≤ 1

private theorem countP_set_le {α : Type} {p : α → Bool} {l : List α} {k : ℕ} {a b : α}
    (hk : l[k]? = some a) (hp : p b = true → p a = true) : (l.set k b).countP p ≤ l.countP p := by
  obtain ⟨hlt, rfl⟩ := List.getElem?_eq_some_iff.mp hk
  have hpos : p l[k] = true → 0 < l.countP p :=
    fun h => List.countP_pos_iff.mpr ⟨_, List.getElem_mem hlt, h⟩
  rw [List.countP_set hlt]
  split_ifs <;> simp_all

private theorem countP_eraseIdx {α : Type} {p : α → Bool} {l : List α} {k : ℕ} {a : α}
    (hk : l[k]? = some a) (hp : p a = true) : (l.eraseIdx k).countP p + 1 = l.countP p := by
  obtain ⟨hlt, rfl⟩ := List.getElem?_eq_some_iff.mp hk
  rw [← (List.getElem_cons_eraseIdx_perm hlt).countP_eq p, List.countP_cons_of_pos hp]

section Step

variable {cfg : Manager.Config} {ok : World → Label → Prop} {w w' : World} {wf : WFID}
  {run : RunID}

/-- The batch of a start writes a state. -/
theorem Batch.states_of_starts {c : Call} {sn : StateSnapshot} {records : List Record} {l : Stream}
    (hw : Sound w) (hb : Batch cfg w c sn records l)
    (hstart : (w.commitOf c sn records).starts wf run = true) :
    (w.commitOf c sn records).states wf run ≠ [] := by
  obtain ⟨hkind, hwf, hid⟩ := of_decide_eq_true hstart
  have hplanned := hw.planned hb
  cases hplanned with
  | nothing => exact absurd rfl (commit_eq_ok hb.commit).2.1
  | @start now _ _ _ _ _ _ _ _ _ _ hbody =>
    refine List.ne_nil_of_mem (Commit.mem_states.mpr
      ⟨startState now c.directive, 0, ?_, hwf, hid, rfl⟩)
    exact List.mem_append_right _ (.head _)
  | event _ hd => exact absurd (hkind.symm.trans hd) (by decide)
  | transition _ _ ht => exact absurd hkind ht.kind_ne.1

/-- A run without a state has not been started. -/
theorem not_started_of_getRunState (h : ReachableBy cfg ok w)
    (hnone : getRunState w.stream wf run = .ok none) :
    w.journal.countP (Commit.starts wf run) = 0 := by
  have hstates : ∀ c ∈ w.journal, c.starts wf run = true → c.states wf run ≠ [] :=
    forall_mem_journal h fun _ _ _ _ _ hr hb => hb.states_of_starts (sound_of_reachableBy hr)
  obtain ⟨s, hs, hlast⟩ := journaled_of_reachableBy h wf run
  cases hnone.symm.trans hs
  have hnil := List.getLast?_eq_none_iff.mp hlast.symm
  exact List.countP_eq_zero.mpr fun c hc hstart =>
    hstates c hc hstart (List.flatMap_eq_nil_iff.mp hnil c hc)

theorem Batch.canStart {c : Call} {sn : StateSnapshot} {records : List Record} {l : Stream}
    (hw : Sound w) (hb : Batch cfg w c sn records l) (hstarts : c.directive.Starts wf run) :
    c.canStart wf run w.stream = true := by
  simp [Call.canStart, Call.view, hb.phase, Phase.runState?, hb.live hw, hstarts]

/-- Only a start can revive a run that has ended, and no call can still start it. -/
theorem StartsOnce.isTerminal_step (hinv : StartsOnce wf run w) (h : ReachableBy cfg ok w)
    {l : Stream} {j : List Commit} (hchange : Change cfg w l j)
    (hend : (currentState w.stream wf run).isTerminal = true) :
    (currentState l wf run).isTerminal = true := by
  rcases hchange.runState_cases wf run with ⟨hsame, -⟩ | ⟨c, sn, records, hb, -⟩
  · rwa [currentState_congr hsame]
  · have hw := sound_of_reachableBy h
    cases hb.advance hw wf run with
    | other _ hsame => rwa [currentState_congr hsame]
    | event _ _ _ _ _ hsame => rwa [currentState_congr hsame]
    | start hrun hkind =>
      -- the call that starts the run is the one that may: so it has not been started before
      have hcan := hb.canStart hw ⟨hkind, hrun⟩
      have hpos : 0 < w.calls.countP (Call.canStart wf run w.stream) :=
        List.countP_pos_iff.mpr ⟨c, hb.call, hcan⟩
      have hcount : w.journal.countP (Commit.starts wf run) = 0 := by
        rw [StartsOnce] at hinv
        omega
      rw [currentState_eq_getD (getRunState_of_not_started h hcount)] at hend
      cases hend
    | turn _ _ hlive _ _ hold =>
      rw [currentState_eq hold, hlive] at hend
      cases hend

/-- As long as the run stays ended once it has ended, no further call can start it. -/
theorem Call.canStart_of_later {l l' : Stream} {c : Call}
    (hend : (currentState l wf run).isTerminal = true → (currentState l' wf run).isTerminal = true)
    (hc : c.canStart wf run l' = true) : c.canStart wf run l = true := by
  simp only [Call.canStart, Call.view, Bool.and_eq_true, decide_eq_true_eq,
    Bool.not_eq_true'] at hc ⊢
  refine ⟨hc.1, ?_⟩
  cases hread : c.phase.runState? with
  | some s => simpa [hread] using hc.2
  | none =>
    obtain ⟨⟨-, rfl, rfl⟩, hlive⟩ := hc
    simp only [hread, Option.getD_none] at hlive ⊢
    by_contra hterm
    rw [hend (by simpa using hterm)] at hlive
    cases hlive

/-- A delivered start that can start the run is the first one. -/
theorem StartGuard.first (h : ReachableBy cfg ok w) {e : StreamEntry} {d : Directive}
    (hguard : StartGuard wf run w (.deliver e.seq)) (hat : w.entryAt e.seq = some e)
    (hdata : e.data = .directive d)
    (hcan : Call.canStart wf run w.stream { seq := e.seq, directive := d } = true) :
    w.journal.countP (Commit.starts wf run) = 0 ∧
      w.calls.countP (Call.canStart wf run w.stream) = 0 := by
  simp only [Call.canStart, Call.view, Bool.and_eq_true, decide_eq_true_eq,
    Bool.not_eq_true'] at hcan
  obtain ⟨⟨hkind, rfl, rfl⟩, hlive⟩ := hcan
  rcases hguard e.seq rfl e hat d (by rw [hdata]; rfl) ⟨hkind, rfl, rfl⟩ with
    hterm | ⟨hnone, hcalls⟩
  · change (currentState w.stream _ _).isTerminal = false at hlive
    rw [hlive] at hterm
    cases hterm
  · refine ⟨not_started_of_getRunState h hnone, List.countP_eq_zero.mpr fun c hc hcan => ?_⟩
    exact hcalls c hc (by simp_all [Call.canStart])

theorem StartsOnce.step (hinv : StartsOnce wf run w) (h : ReachableBy cfg ok w) {a : Label}
    (hguard : StartGuard wf run w a) (heffect : Effect cfg w a w') : StartsOnce wf run w' := by
  have hend := hinv.isTerminal_step h heffect.change
  rw [StartsOnce] at hinv ⊢
  have less (calls : List Call) : calls.countP (Call.canStart wf run w'.stream) ≤
      calls.countP (Call.canStart wf run w.stream) :=
    List.countP_mono_left fun _ _ => Call.canStart_of_later hend
  have erased (k : ℕ) : (w.calls.eraseIdx k).countP (Call.canStart wf run w.stream) ≤
      w.calls.countP (Call.canStart wf run w.stream) := (List.eraseIdx_sublist ..).countP_le
  -- a call that moves on sees the same run state as before
  have moved {k : ℕ} {c : Call} {phase : Phase} (hk : w.calls[k]? = some c)
      (hview : { c with phase := phase }.view w.stream = c.view w.stream) :
      (w.calls.set k { c with phase := phase }).countP (Call.canStart wf run w.stream) ≤
        w.calls.countP (Call.canStart wf run w.stream) :=
    countP_set_le hk fun hc => by rwa [Call.canStart, hview] at hc
  cases heffect with
  | @deliver e _ _ _ d _ _ _ hdata _ hat =>
    rw [List.countP_append, List.countP_singleton]
    split_ifs with hcan
    · obtain ⟨hjournal, hcalls⟩ := StartGuard.first h hguard hat hdata hcan
      rw [hjournal, hcalls]
    · exact hinv
  | readState hk hphase hs =>
    refine (Nat.add_le_add_left (moved hk ?_) _).trans hinv
    simp [Call.view, hphase, Phase.runState?, currentState_eq_getD hs]
  | readHistory hk hphase =>
    refine (Nat.add_le_add_left (moved hk ?_) _).trans hinv
    simp [Call.view, hphase, Phase.runState?]
  | readEvent hk hphase =>
    refine (Nat.add_le_add_left (moved hk ?_) _).trans hinv
    simp [Call.view, hphase, Phase.runState?]
  | crash => simp only [World.calls_crash, List.countP_nil, World.journal_crash]; omega
  | drop => exact (Nat.add_le_add_left (erased _) _).trans hinv
  | reject => exact (Nat.add_le_add_left (erased _) _).trans hinv
  | @commit k c sn _ _ _ records l hc hb =>
    have hless : (w.calls.eraseIdx k).countP (Call.canStart wf run l) ≤ _ := less _
    change (w.journal ++ [w.commitOf c sn records]).countP (Commit.starts wf run) +
      (w.calls.eraseIdx k).countP (Call.canStart wf run l) ≤ 1
    rw [List.countP_append, List.countP_singleton]
    split_ifs with hstart
    · have hcan := hb.canStart (sound_of_reachableBy h) (of_decide_eq_true hstart)
      have herased := countP_eraseIdx hc hcan
      omega
    · exact (Nat.add_le_add_left (hless.trans (erased k)) _).trans hinv
  | _ => exact (Nat.add_le_add_left (less _) _).trans hinv

end Step

theorem startsOnce_of_reachableBy {cfg : Manager.Config} {w : World} {wf : WFID} {run : RunID}
    (h : ReachableBy cfg (StartGuard wf run) w) : StartsOnce wf run w :=
  Reach.invariant h (Nat.zero_le 1) fun _ _ _ hr ih hok hstep =>
    ih.step hr hok (effect_of_step hstep)

/-! ### What a start leaves in the stream -/

/-- The entry that opens the history of the run. -/
def isRunStarted (wf : WFID) (run : RunID) (m : Msg) : Bool :=
  match m.subject, m.data with
  | .history wf' run', .history h => wf' == wf && run' == run && h.kind == .runStarted
  | _, _ => false

/-- The worker task of the step that a run starts with. -/
def isStartTask (wf : WFID) (run : RunID) (m : Msg) : Bool :=
  match m.subject, m.data with
  | .workerTask _ wf' run', .directive d => wf' == wf && run' == run && d.kind == .start
  | _, _ => false

section Batch

variable {cfg : Manager.Config} {w : World} {c : Call} {sn : StateSnapshot}
  {records : List Record} {l : Stream} {wf : WFID} {run : RunID}

theorem Record.eq_of_isRunStarted {r : Record} {m : Msg} (hm : m ∈ r.messages)
    (h : isRunStarted wf run m = true) :
    ∃ e, r = .history e ∧ e.kind = .runStarted ∧ e.wfID = wf ∧ e.runID = run := by
  cases r <;> grind [messages, isRunStarted, Directive.message, Directive.subject]

theorem Record.eq_of_isStartTask {r : Record} {m : Msg} (hm : m ∈ r.messages)
    (h : isStartTask wf run m = true) :
    ∃ d, r = .workerTask d ∧ d.kind = .start ∧ d.OfRun wf run := by
  cases r <;> grind [messages, isStartTask, Directive.message, Directive.subject, Directive.OfRun]

theorem countP_input_eq_zero {p : Msg → Bool} {ri : RunInfo} {input : List Record}
    (h : ∀ r ∈ input, ∃ v, r = .runInput ri.wfID ri.id v)
    (hp : ∀ v, ∀ m ∈ (Record.runInput ri.wfID ri.id v).messages, ¬ p m = true) :
    (input.flatMap Record.messages).countP p = 0 := by
  refine countP_messages_eq_zero fun r hr m hm => ?_
  obtain ⟨v, rfl⟩ := h r hr
  exact hp v m hm

theorem Planned.countP_isRunStarted {d : Directive} (h : Planned d sn records) :
    (records.flatMap Record.messages).countP (isRunStarted wf run) ≤
      if decide (d.Starts wf run) = true then 1 else 0 := by
  by_cases hkind : d.kind = .start
  · cases h with
    | nothing => simp
    | @start now h ri s input body _ _ hh _ hinput hbody =>
      cases hbody
      have hnil : (input.flatMap Record.messages).countP (isRunStarted wf run) = 0 :=
        countP_input_eq_zero hinput (by simp [Record.messages, isRunStarted])
      simp [Record.messages, List.countP_cons, isRunStarted, hnil, Directive.Starts, hkind,
        Directive.OfRun, hh.kind, hh.wfID, hh.runID]
    | event _ hd => exact absurd (hkind.symm.trans hd) (by decide)
    | transition _ _ ht => exact absurd hkind ht.kind_ne.1
  · refine (countP_messages_eq_zero fun r hr m hm hp => ?_).le.trans (Nat.zero_le _)
    obtain ⟨e, rfl, he, -⟩ := Record.eq_of_isRunStarted hm hp
    rcases h.history_cases hr with hnote | ⟨hd, -⟩ | ⟨-, hh⟩
    · simp [Record.isNote, he] at hnote
    · exact hkind hd
    · simp [hh.kind] at he

theorem Planned.countP_isStartTask {d : Directive} (h : Planned d sn records) :
    (records.flatMap Record.messages).countP (isStartTask wf run) ≤
      if decide (d.Starts wf run) = true then 1 else 0 := by
  by_cases hkind : d.kind = .start
  · cases h with
    | nothing => simp
    | @start now h ri s input body _ _ _ hri hinput hbody =>
      obtain ⟨-, -, hri'⟩ := hbody
      have hnil : (input.flatMap Record.messages).countP (isStartTask wf run) = 0 :=
        countP_input_eq_zero hinput (by simp [Record.messages, isStartTask])
      simp [Record.messages, List.countP_cons, isStartTask, hnil, Directive.Starts, hkind,
        Directive.OfRun, hri.id, hri.wfID, hri'.id, hri'.wfID, Records.repairRunInfo]
    | event _ hd => exact absurd (hkind.symm.trans hd) (by decide)
    | transition _ _ ht => exact absurd hkind ht.kind_ne.1
  · refine (countP_messages_eq_zero fun r hr m hm hp => ?_).le.trans (Nat.zero_le _)
    obtain ⟨t, rfl, ht, -⟩ := Record.eq_of_isStartTask hm hp
    obtain ⟨src, hsrc | hsrc, hsame⟩ := h.workerTask_cases hr
    · exact hkind hsrc.1
    · exact hsrc.kind_ne_start (hsame.symm.trans ht)

end Batch

/-- A run is started at most once. In any run of the system in which each start of the run is
delivered while the run has no state and no other start of it is being handled, or after it has
ended: at most one start commits, the history of the run is opened at most once, at most one
worker task for its first step is stored, and no start replaces a state of the run. -/
theorem started_at_most_once {cfg : Manager.Config} {w : World} {wf : WFID} {run : RunID}
    (h : ReachableBy cfg (StartGuard wf run) w) :
    w.journal.countP (Commit.starts wf run) ≤ 1 ∧
    w.stream.messages.countP (isRunStarted wf run) ≤ 1 ∧
    w.stream.messages.countP (isStartTask wf run) ≤ 1 ∧
    ∀ pre c post, w.journal = pre ++ c :: post → c.starts wf run = true →
      statesIn wf run pre = [] := by
  have hcount : w.journal.countP (Commit.starts wf run) ≤ 1 :=
    (Nat.le_add_right _ _).trans (startsOnce_of_reachableBy h)
  refine ⟨hcount, ?_, ?_, fun pre c post hsplit hstart => ?_⟩
  · refine (countP_messages_le h (fun m hm => ?_) fun w c sn records l hw hb => ?_).trans hcount
    · cases hm <;> simp_all [isRunStarted, Directive.message, Directive.subject, runInfoMessage]
    · exact (hw.planned hb).countP_isRunStarted
  · refine (countP_messages_le h (fun m hm => ?_) fun w c sn records l hw hb => ?_).trans hcount
    · cases hm <;> simp_all [isStartTask, Directive.message, Directive.subject, runInfoMessage]
    · exact (hw.planned hb).countP_isStartTask
  · by_contra hne
    have hserial := serial_of_reachableBy h wf run
    rw [hsplit] at hcount hserial
    obtain ⟨c', hc', hstart'⟩ := exists_start_of_states hserial.of_append hne
    have hpos : 0 < pre.countP (Commit.starts wf run) := List.countP_pos_iff.mpr ⟨c', hc', hstart'⟩
    rw [List.countP_append, List.countP_cons_of_pos hstart] at hcount
    omega

namespace Sample

/-- The start is delivered again after the run has been terminated. -/
def redelivered : List Label :=
  .publish start :: unacked 1 ++
    .publish (directive "stop" .terminate (.terminate "no longer needed")) :: handled 9 ++ handled 1

/-- An event has been dispatched to the run, and its start has not been acknowledged. -/
def progressed : List Label :=
  .publish start :: unacked 1 ++ .publish (stepResult "done" .wait (.wait 0 "")) :: handled 9 ++
    .publish (event "pay") :: handled 16 ++ handled 19

end Sample

theorem started_at_most_once_redelivered :
    (Sample.worldBy (StartGuard "wf" "r1") Sample.redelivered).journal.length = 2 ∧
    (Sample.worldBy (StartGuard "wf" "r1") Sample.redelivered).journal.countP
      (Commit.starts "wf" "r1") ≤ 1 :=
  ⟨by decide +kernel, (started_at_most_once
    (Sample.reachableBy_worldBy (StartGuard "wf" "r1") Sample.redelivered)).1⟩

/-- The start is delivered again during the step of the event: the run starts from the beginning,
and forgets that it has seen the event. -/
theorem started_again :
    (currentState (Sample.world Sample.progressed).stream "wf" "r1").lastEventSeqID = 17 ∧
    (currentState (Sample.world (Sample.progressed ++ Sample.handled 1)).stream "wf"
      "r1").lastEventSeqID = 0 ∧
    (Sample.world (Sample.progressed ++ Sample.handled 1)).stream.messages.countP
      (isRunStarted "wf" "r1") = 2 ∧
    (Sample.world (Sample.progressed ++ Sample.handled 1)).journal.countP
      (Commit.starts "wf" "r1") = 2 := by
  decide +kernel

end Grctl
