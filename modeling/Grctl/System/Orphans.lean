import Grctl.System.CrossRun
import Grctl.System.Timers

/-!
# Timers that are left behind

A timer that outlives its step or wait fires in a state it was not set for. The result of a step
comes with a task that deletes the timer of the step. But a wait that ends with an event keeps its
timer, and so does a wait in which the result of a step is handled.

This file shows that these are the only batches that leave a timer behind. Without them every
timer of a run that goes on is the timer of its activity, has been deleted, or has fired.

## Main definitions

* `Timer.Fired`: the stream holds the timeout that a timer is turned into.
* `Timer.Retired`, `Accounted`: a timer has been deleted or has fired; it is not left behind.
* `TimerGuard`: the activities of a run end by step results or by their timers.

## Main results

* `timer_retired_iff`: which batches delete the timer of the activity that they end, and that no
  timer is left behind without the others.
-/

namespace Grctl

open SubjectLog Lts

/-- The timer that a message stores. -/
def timer? (m : Msg) : Option Timer :=
  match m.subject, m.data with
  | .timer .., .timer t => some t
  | _, _ => none

/-- The timers that have been stored, those included that have been removed since. -/
def timers (l : Stream) : List Timer := l.messages.filterMap timer?

/-- The message is the timeout of the step or wait that the timer was set for. -/
def isTimeoutOf (t : Timer) (m : Msg) : Bool :=
  match m.subject, m.data with
  | .directive .., .directive d =>
    decide (d.OfRun t.directive.runInfo.wfID t.directive.runInfo.id) &&
      match t.kind, d.kind, d.msg with
      | .stepTimeout, .stepTimeout, .stepTimeout _ id => id == t.directive.id
      | .waitTimeout, .waitTimeout, .waitTimeout _ id => id == t.directive.id
      | _, _, _ => false
  | _, _ => false

/-- The timer has fired: its timeout has been published. -/
def Timer.Fired (l : Stream) (t : Timer) : Prop := ∃ m ∈ l.messages, isTimeoutOf t m = true

instance (l : Stream) (t : Timer) : Decidable (t.Fired l) :=
  inferInstanceAs (Decidable (∃ m ∈ l.messages, _))

instance (t : Timer) (s : RunState) : Decidable (t.Guards s) :=
  decidable_of_iff (t.kind = s.timerKind ∧ t.id = deriveTimerID s.activeDirectiveID s.timerKind ∧
    t.directive.id = s.activeDirectiveID)
    ⟨fun ⟨h₁, h₂, h₃⟩ => ⟨h₁, h₂, h₃⟩, fun ⟨h₁, h₂, h₃⟩ => ⟨h₁, h₂, h₃⟩⟩

/-- The timer was set for the run `run` of `wf`. -/
def Timer.OfRun (wf : WFID) (run : RunID) (t : Timer) : Prop :=
  t.wfID = wf ∧ t.directive.OfRun wf run

instance (wf : WFID) (run : RunID) (t : Timer) : Decidable (t.OfRun wf run) :=
  inferInstanceAs (Decidable (_ ∧ _))

/-- The timer has been deleted or has fired. -/
def Timer.Retired (l : Stream) (journal : List Commit) (t : Timer) : Prop :=
  (∃ c ∈ journal, t.key ∈ c.deletions) ∨ t.Fired l

/-- The run has a state, and while it goes on the timer guards its activity or is retired. -/
def Accounted (wf : WFID) (run : RunID) (l : Stream) (journal : List Commit) (t : Timer) : Prop :=
  ∃ s, getRunState l wf run = .ok (some s) ∧
    (s.isTerminal = false → t.Guards s ∨ t.Retired l journal)

theorem Timer.Retired.mono {l l' : Stream} {journal journal' : List Commit} {t : Timer}
    (h : t.Retired l journal) (hl : l.messages ⊆ l'.messages) (hj : journal ⊆ journal') :
    t.Retired l' journal' :=
  h.imp (fun ⟨c, hc, hkey⟩ => ⟨c, hj hc, hkey⟩) fun ⟨m, hm, htimeout⟩ => ⟨m, hl hm, htimeout⟩

/-- What a call may find when it commits: a start finds no state of the run, a step result does not
find it waiting, a wake-up for the workflow finds nothing to dispatch, and steps and waits are not
asked for from outside. -/
structure Retiring (wf : WFID) (run : RunID) (l : Stream) (d : Directive) (sn : StateSnapshot) :
    Prop where
  wake : d.runInfo.wfID = wf → d.kind = .wakeFromInbox → sn.runState.kind ≠ .wait ∨ sn.event.id = ""
  asked : d.OfRun wf run → d.kind ≠ .step ∧ d.kind ≠ .wait
  result : d.OfRun wf run → d.kind = .stepResult → sn.runState.kind ≠ .wait
  start : d.OfRun wf run → d.kind = .start → getRunState l wf run = .ok none

instance (wf : WFID) (run : RunID) (l : Stream) (d : Directive) (sn : StateSnapshot) :
    Decidable (Retiring wf run l d sn) :=
  decidable_of_iff
    ((d.runInfo.wfID = wf → d.kind = .wakeFromInbox →
        sn.runState.kind ≠ .wait ∨ sn.event.id = "") ∧
      (d.OfRun wf run → d.kind ≠ .step ∧ d.kind ≠ .wait) ∧
      (d.OfRun wf run → d.kind = .stepResult → sn.runState.kind ≠ .wait) ∧
      (d.OfRun wf run → d.kind = .start → getRunState l wf run = .ok none))
    ⟨fun ⟨h₁, h₂, h₃, h₄⟩ => ⟨h₁, h₂, h₃, h₄⟩, fun ⟨h₁, h₂, h₃, h₄⟩ => ⟨h₁, h₂, h₃, h₄⟩⟩

/-- Every call that comes to its commit finds what it may find. -/
def TimerGuard (wf : WFID) (run : RunID) (w : World) (a : Label) : Prop :=
  ∀ k ∈ a.finished?, ∀ p ∈ w.ready? k, Retiring wf run w.stream p.1 p.2

instance (wf : WFID) (run : RunID) (w : World) (a : Label) : Decidable (TimerGuard wf run w a) :=
  inferInstanceAs (Decidable (∀ k ∈ a.finished?, _))

/-! ### The timers of a batch -/

theorem mem_timers_batch {records : List Record} {t : Timer}
    (h : t ∈ (records.flatMap Record.messages).filterMap timer?) : Record.timer t ∈ records := by
  obtain ⟨m, hm, ht⟩ := List.mem_filterMap.mp h
  obtain ⟨r, hr, hm⟩ := List.mem_flatMap.mp hm
  cases r with
  | timer t' =>
    rw [Record.messages, List.mem_singleton] at hm
    rw [hm] at ht
    cases ht
    exact hr
  | kv wf run kvMap =>
    obtain ⟨u, -, rfl⟩ := List.mem_map.mp hm
    cases ht
  | _ =>
    rw [Record.messages, List.mem_singleton] at hm
    rw [hm] at ht
    cases ht

/-- A wake-up dispatches an event that ends a wait. -/
theorem Transition.wait_of_wake {d : Directive} {sn : StateSnapshot} {s : RunState}
    {body : List Record} (h : Transition d sn s body) (hkind : d.kind = .wakeFromInbox) :
    sn.runState.kind = .wait ∧ sn.event.IsEvent := by
  cases h with
  | finish _ _ _ hd => exact absurd hkind hd.2.2
  | dispatch _ hsrc =>
    cases hsrc with
    | step hd => exact absurd (hkind.symm.trans hd) (by decide)
    | next hd => exact absurd (hkind.symm.trans hd) (by decide)
    | timeout hd => exact absurd hkind (hd.kind_ne (by decide))
    | inbox _ hwait hevent => exact ⟨hwait, hevent⟩
  | suspend _ hd => exact absurd hkind (hd.kind_ne (by decide))
  | pickUp hd => exact absurd hkind (hd.kind_ne (by decide))
  | park hd => exact absurd (hkind.symm.trans hd) (by decide)

section Batch

variable {cfg : Manager.Config} {w : World} {c : Call} {sn : StateSnapshot}
  {records : List Record} {l : Stream} {wf : WFID} {run : RunID} {s : RunState} {t : Timer}

/-- The timers of a batch guard the state that it writes. -/
theorem Batch.guards_of_timer (hw : Sound w) (hb : Batch cfg w c sn records l)
    (hrun : c.directive.OfRun wf run) (ht : Record.timer t ∈ records) :
    ∃ s, getRunState l wf run = .ok (some s) ∧ t.Guards s := by
  cases hb.advance hw wf run with
  | other hrun' => exact absurd hrun hrun'
  | start _ _ _ hbegun hnew =>
    have hguards : t.Guards _ := hbegun.told.fits _ ht
    exact ⟨_, hnew, hguards.congr rfl rfl⟩
  | event _ _ _ _ hrecords =>
    rw [hrecords] at ht
    split_ifs at ht <;> simp at ht
  | turn _ _ _ hturn hrecords _ hnew =>
    rw [hrecords] at ht
    rcases List.mem_append.mp ht with ht | ht
    · cases hturn.noted.allNotes _ ht
    · obtain ⟨ri, hbody, -⟩ := hturn.told
      have hguards : t.Guards _ := hbody.fits _ ht
      exact ⟨_, hnew, hguards.congr rfl rfl⟩

theorem Retiring.not_wake (hok : Retiring wf run w.stream c.directive sn) (hw : Sound w)
    (hb : Batch cfg w c sn records l) (hwf : c.directive.runInfo.wfID = wf) :
    c.directive.kind ≠ .wakeFromInbox := by
  intro hkind
  obtain ⟨s, notes, body, -, hturn⟩ := hb.turn hw (by simp [hkind])
  obtain ⟨hwait, hevent⟩ := hturn.transition.wait_of_wake hkind
  exact (hok.wake hwf hkind).elim (fun h => h hwait) hevent.1

/-- The timers that a batch stores for a run are those of a batch of the run. -/
theorem Retiring.ofRun (hok : Retiring wf run w.stream c.directive sn) (hw : Sound w)
    (hb : Batch cfg w c sn records l) (ht : Record.timer t ∈ records) (hof : t.OfRun wf run) :
    c.directive.OfRun wf run := by
  rcases hb.target hw ht rfl with ⟨hwf, hid⟩ | ⟨hkind, hevent, hri⟩
  · exact ⟨hwf.symm.trans hof.2.1, hid.symm.trans hof.2.2⟩
  · have hwf : c.directive.runInfo.wfID = wf :=
      (hb.event_wfID hw hevent).symm.trans (hri.wfID.symm.trans hof.2.1)
    exact absurd hkind (hok.not_wake hw hb hwf)

/-- A batch does not leave a timer of the run behind. -/
theorem Retiring.accounted (hok : Retiring wf run w.stream c.directive sn) (hw : Sound w)
    (hb : Batch cfg w c sn records l) (hof : t.OfRun wf run)
    (h : Accounted wf run w.stream w.journal t) :
    Accounted wf run l (w.journal ++ [w.commitOf c sn records]) t := by
  obtain ⟨s, hs, h⟩ := h
  have hsub : w.stream.messages ⊆ l.messages := by
    rw [eq_appendAll_of_commit hb.commit, Log.messages_appendAll]
    exact List.subset_append_left ..
  have retired (h : t.Retired w.stream w.journal) :
      t.Retired l (w.journal ++ [w.commitOf c sn records]) :=
    h.mono hsub (List.subset_append_left ..)
  cases hb.advance hw wf run with
  | other _ hsame => exact ⟨s, hsame.trans hs, fun hlive => (h hlive).imp_right retired⟩
  | event _ _ _ _ _ hsame => exact ⟨s, hsame.trans hs, fun hlive => (h hlive).imp_right retired⟩
  | start hrun hkind => cases hs.symm.trans (hok.start hrun hkind)
  | @turn s' k notes body hrun _ hlive hturn hrecords hold hnew =>
    cases hs.symm.trans hold
    refine ⟨_, hnew, fun hlive' => ?_⟩
    rcases h hlive with hguards | hretired
    swap
    · exact .inr (retired hretired)
    by_cases hresult : c.directive.kind = .stepResult
    · -- the result of a step deletes the timer that guards it
      have hkey : t.key = (c.directive.runInfo.wfID, TimerKind.stepTimeout,
          deriveTimerID sn.runState.activeDirectiveID .stepTimeout) := by
        rw [Timer.key, hguards.kind, hguards.id, RunState.timerKind,
          if_neg (hok.result hrun hresult), hof.1, hrun.1]
      refine .inr (.inl ⟨w.commitOf c sn records, ?_, ?_⟩)
      · exact List.mem_append_right _ (List.mem_singleton_self _)
      · exact hkey ▸ hturn.mem_deletions hrecords hresult hlive'
    cases hturn.activity with
    | ended hs' => exact absurd (hlive'.symm.trans hs') (by decide)
    | kept _ hkind hid => exact .inl (hguards.congr hkind hid)
    | asked hd =>
      obtain ⟨hstep, hwait⟩ := hok.asked hrun
      exact (hd.elim hstep hwait).elim
    | next hd => exact absurd hd hresult
    | nextTimeout hd => exact absurd hd hresult
    | event hd => exact absurd hd (hok.not_wake hw hb hrun.1)
    | timeout hd hmsg hwait _ =>
      -- only its own timer ends a wait in this way
      obtain ⟨name, hmsg⟩ := hmsg
      obtain ⟨e, he, hm, -⟩ := (hw.calls c hb.call).entry
      refine .inr (.inr ⟨c.directive.message, hsub (hm ▸ List.mem_map_of_mem he), ?_⟩)
      simp [isTimeoutOf, Directive.message, Directive.subject, hof.2.1, hof.2.2, hrun, hd, hmsg,
        hguards.kind, hguards.directive, RunState.timerKind, hwait]

end Batch

/-! ### No timer is left behind -/

section Runs

variable {cfg : Manager.Config} {w : World} {wf : WFID} {run : RunID}

/-- The timers of a run are accounted for. -/
theorem accounted_of_reachableBy (h : ReachableBy cfg (TimerGuard wf run) w) :
    ∀ t ∈ timers w.stream, t.OfRun wf run → Accounted wf run w.stream w.journal t := by
  refine Reach.invariant (P := fun w => ∀ t ∈ timers w.stream, t.OfRun wf run →
    Accounted wf run w.stream w.journal t) h (fun t ht => by cases ht)
    fun w a w' hr ih hok hstep t ht hof => ?_
  have hw := sound_of_reachableBy hr
  have outside {m : Msg} (hm : Outside m) (ht : t ∈ timers (w.stream.append m)) :
      Accounted wf run (w.stream.append m) w.journal t := by
    have htimers : timers (w.stream.append m) = timers w.stream := by
      rw [timers, Log.append, Log.messages_appendAll, List.filterMap_append]
      cases hm <;> simp [timers, timer?, Directive.message, Directive.subject, runInfoMessage]
    obtain ⟨s, hs, h⟩ := ih t (htimers ▸ ht) hof
    refine ⟨s, (getRunState_append_outside hm).trans hs, fun hlive => (h hlive).imp_right ?_⟩
    exact fun h => h.mono (by simp [Log.append]) (List.Subset.refl _)
  have purged {p : Subject → Bool} (hp : ∀ s, p s = true → s.isResidue = true)
      (ht : t ∈ timers (w.stream.purge p)) : Accounted wf run (w.stream.purge p) w.journal t := by
    rw [timers, Log.messages_purge] at ht
    obtain ⟨s, hs, h⟩ := ih t ht hof
    refine ⟨s, (getRunState_purge_residue hp).trans hs, fun hlive => (h hlive).imp_right ?_⟩
    exact fun h => h.mono (by simp) (List.Subset.refl _)
  have heffect := effect_of_step hstep
  cases heffect with
  | publish hd htaken => exact outside (.directive hd htaken) ht
  | saveRun _ htaken => exact outside (.runInfo htaken) ht
  | recordHistory hh htaken => exact outside (.history hh htaken) ht
  | @commit k c sn _ _ _ records l hc hb =>
    have hretiring : Retiring wf run w.stream c.directive sn :=
      hok k rfl _ (World.ready?_eq_some hc hb.phase)
    change Accounted wf run l (w.journal ++ [w.commitOf c sn records]) t
    change t ∈ timers l at ht
    rw [timers, eq_appendAll_of_commit hb.commit, Log.messages_appendAll, List.filterMap_append,
      List.mem_append] at ht
    rcases ht with ht | ht
    · exact hretiring.accounted hw hb hof (ih t ht hof)
    · have ht := mem_timers_batch ht
      obtain ⟨s, hs, hguards⟩ := hb.guards_of_timer hw (hretiring.ofRun hw hb ht hof) ht
      exact ⟨s, hs, fun _ => .inl hguards⟩
  | cancelTimer => exact purged Subject.isResidue_of_beq_timer ht
  | fire => exact purged Subject.isResidue_of_beq_timer ht
  | purgeNext => exact purged (fun s => PurgePattern.isResidue_of_covers) ht
  | _ => exact ih t ht hof

/-- The batches that delete the timer of the activity that they end. -/
theorem deletions_eq_timerKey_iff {ok : World → Label → Prop} (h : ReachableBy cfg ok w) :
    ∀ c ∈ w.journal, c.directive.OfRun wf run →
      (c.directive.kind = .stepResult ∨ c.directive.kind = .wakeFromInbox) →
      (c.snapshot.runState.kind = .step ∨ c.snapshot.runState.kind = .wait) →
      (∃ s ∈ c.states wf run, s.isTerminal = false) →
      ((∀ x, x ∈ c.deletions ↔ x = c.snapshot.runState.timerKey) ↔
        c.snapshot.runState.kind = .step) := by
  refine forall_mem_journal h fun w c sn records l hr hb hrun hkind hstate hlive => ?_
  have hw := sound_of_reachableBy hr
  change c.directive.OfRun wf run at hrun
  change c.directive.kind = _ ∨ c.directive.kind = _ at hkind
  change sn.runState.kind = _ ∨ sn.runState.kind = _ at hstate
  change (∀ x, _ ↔ x = sn.runState.timerKey) ↔ sn.runState.kind = _
  obtain ⟨s, notes, body, hrecords, hturn⟩ := hb.turn hw (by rcases hkind with h | h <;> simp [h])
  obtain ⟨s', hs', hlive⟩ := hlive
  rw [hb.states_of_turn hw hrun hturn hrecords, List.mem_singleton] at hs'
  rw [hs', RunState.isTerminal_stored] at hlive
  have hwf : sn.runState.wfID = c.directive.runInfo.wfID :=
    (hw.stateOf (hb.stored hw hrecords hturn.transition)).1.wfID
  constructor
  · intro hall
    refine hstate.resolve_right fun hwait => ?_
    obtain ⟨-, hkey⟩ := hb.deletions_cases hw ((hall _).mpr rfl)
    simp [RunState.timerKey, RunState.timerKind, hwait] at hkey
  · intro hstep x
    have hresult : c.directive.kind = .stepResult := hkind.resolve_right fun hwake => by
      simp [hturn.transition.wait_of_wake hwake] at hstep
    have hkey : sn.runState.timerKey = (c.directive.runInfo.wfID, TimerKind.stepTimeout,
        deriveTimerID sn.runState.activeDirectiveID .stepTimeout) := by
      simp [RunState.timerKey, RunState.timerKind, hstep, hwf]
    rw [hkey]
    refine ⟨fun hx => (hb.deletions_cases hw hx).2, ?_⟩
    rintro rfl
    exact hturn.mem_deletions hrecords hresult hlive

/-- Which timers are left behind. In any interleaving, a step result or a wake-up that takes a run
out of a step or a wait and does not end it deletes the timer of this activity, and only this one,
exactly if the activity was a step. And consider the runs of the system in which the activities of
a run end only by step results in a step or by their own timers. Then while the run goes on, each
of its timers guards its activity, or has been deleted by a batch, or has fired. -/
theorem timer_retired_iff :
    (Reachable cfg w → ∀ c ∈ w.journal, c.directive.OfRun wf run →
      (c.directive.kind = .stepResult ∨ c.directive.kind = .wakeFromInbox) →
      (c.snapshot.runState.kind = .step ∨ c.snapshot.runState.kind = .wait) →
      (∃ s ∈ c.states wf run, s.isTerminal = false) →
      ((∀ x, x ∈ c.deletions ↔ x = c.snapshot.runState.timerKey) ↔
        c.snapshot.runState.kind = .step)) ∧
    (ReachableBy cfg (TimerGuard wf run) w → ∀ s, getRunState w.stream wf run = .ok (some s) →
      s.isTerminal = false → ∀ t ∈ timers w.stream, t.OfRun wf run →
        t.Guards s ∨ (∃ c ∈ w.journal, t.key ∈ c.deletions) ∨ t.Fired w.stream) := by
  refine ⟨fun h => deletions_eq_timerKey_iff h, fun h s hs hlive t ht hof => ?_⟩
  obtain ⟨s', hs', haccounted⟩ := accounted_of_reachableBy h t ht hof
  cases hs.symm.trans hs'
  exact haccounted hlive

end Runs

theorem timer_retired_iff_waiting :
    (timers (Sample.worldBy (TimerGuard "wf" "r1") Sample.waiting).stream).length = 2 ∧
    (∃ c ∈ (Sample.worldBy (TimerGuard "wf" "r1") Sample.waiting).journal,
      c.directive.kind = .stepResult ∧
        ∀ x, x ∈ c.deletions ↔ x = c.snapshot.runState.timerKey) ∧
    ∃ s, getRunState (Sample.worldBy (TimerGuard "wf" "r1") Sample.waiting).stream "wf" "r1" =
        .ok (some s) ∧
      ∀ t ∈ timers (Sample.worldBy (TimerGuard "wf" "r1") Sample.waiting).stream,
        t.OfRun "wf" "r1" → t.Guards s ∨
          (∃ c ∈ (Sample.worldBy (TimerGuard "wf" "r1") Sample.waiting).journal,
            t.key ∈ c.deletions) ∨
          t.Fired (Sample.worldBy (TimerGuard "wf" "r1") Sample.waiting).stream := by
  have hreach : ReachableBy Sample.config (TimerGuard "wf" "r1")
      (Sample.worldBy (TimerGuard "wf" "r1") Sample.waiting) := Sample.reachableBy_worldBy ..
  obtain ⟨htimers, hlive, c, hc, hrun, hkind, hstep, hnext⟩ :
      (timers (Sample.worldBy (TimerGuard "wf" "r1") Sample.waiting).stream).length = 2 ∧
      (currentState (Sample.worldBy (TimerGuard "wf" "r1") Sample.waiting).stream
        "wf" "r1").kind = .wait ∧
      ∃ c ∈ (Sample.worldBy (TimerGuard "wf" "r1") Sample.waiting).journal,
        c.directive.OfRun "wf" "r1" ∧ c.directive.kind = .stepResult ∧
          c.snapshot.runState.kind = .step ∧ ∃ s ∈ c.states "wf" "r1", s.isTerminal = false := by
    decide +kernel
  obtain ⟨s, hs, -⟩ := journaled_of_reachableBy hreach "wf" "r1"
  rw [currentState_eq_getD hs] at hlive
  cases s with
  | none => cases hlive
  | some s =>
    change s.kind = .wait at hlive
    refine ⟨htimers, ⟨c, hc, hkind, ?_⟩, s, hs, ?_⟩
    · exact (timer_retired_iff.1 (hreach.mono fun _ _ _ => trivial) c hc hrun (.inl hkind)
        (.inl hstep) hnext).mpr hstep
    · exact timer_retired_iff.2 hreach s hs (by simp [RunState.isTerminal, hlive])

/-- An event ends a wait, and the timer of the wait is left behind. -/
theorem wait_timer_orphaned :
    (∃ c ∈ (Sample.world Sample.woken).journal, c.directive.OfRun "wf" "r1" ∧
      c.directive.kind = .wakeFromInbox ∧ c.snapshot.runState.kind = .wait ∧
      (∃ s ∈ c.states "wf" "r1", s.isTerminal = false) ∧ c.deletions = []) ∧
    (currentState (Sample.world Sample.woken).stream "wf" "r1").isTerminal = false ∧
    ∃ t ∈ timers (Sample.world Sample.woken).stream, t.OfRun "wf" "r1" ∧
      ¬ t.Guards (currentState (Sample.world Sample.woken).stream "wf" "r1") ∧
      (∀ c ∈ (Sample.world Sample.woken).journal, t.key ∉ c.deletions) ∧
      ¬ t.Fired (Sample.world Sample.woken).stream := by
  decide +kernel

end Grctl
