import Grctl.Run.StepResult
import Grctl.System.Progress

/-!
# Accepted cancels

A cancel that arrives while a worker is busy is parked in the run state and resolved when the step
ends. Until then many other directives of the run may be handled: pick-ups, further cancels,
events, wake-ups, timeouts, a termination, or a step result whose plan fails. This file shows that
none of them loses the parked cancel. As long as the run has not ended, it stays in the step it
was in, and nothing more is handed to a worker.

Only the kinds of directives that the server and the workers publish are considered: a directive
that asks for a step or a wait directly would be dispatched with the cancel still parked.

## Main definitions

* `Label.Served`: the kinds of directives that are published for a run.
* `StillParked s s'`: the run is in the same step, with a cancel parked.

## Main results

* `accepted_cancel_resolved`: what happens to a run after a cancel has been parked.
-/

namespace Grctl

open SubjectLog Lts

/-- The directives that are published for the run are those of the service, of timers and of
workers. -/
def Label.Served (wf : WFID) (run : RunID) (a : Label) : Prop :=
  ∀ d ∈ a.published?, d.OfRun wf run → d.kind ∈ [DirectiveKind.start, .event, .cancel, .terminate,
    .fail, .stepTimeout, .waitTimeout, .wakeFromInbox, .stepResult, .stepPickedUp]
  deriving Decidable

/-- The run is still in the step in which a cancel was parked. -/
structure StillParked (s s' : RunState) : Prop where
  kind : s'.kind = .step
  active : s'.activeDirectiveID = s.activeDirectiveID
  parked : s'.pendingCancel.isSome = true

/-! ### Plans with a parked cancel -/

section Plan

variable {d : Directive} {sn : StateSnapshot} {s : RunState} {notes body : List Record}

/-- A run with a parked cancel ends or stays in its step. -/
theorem Turn.parked (h : Turn d sn s notes body) (hd : d.kind ≠ .step ∧ d.kind ≠ .wait)
    (hkind : sn.runState.kind = .step) (hcancel : sn.runState.pendingCancel.isSome = true) :
    StillParked sn.runState s ∨ s.isTerminal = true := by
  have hfree : sn.runState.pendingCancel ≠ none := Option.isSome_iff_ne_none.mp hcancel
  cases h.activity with
  | ended hs => exact .inr hs
  | kept _ hk hid =>
    refine .inl ⟨hk.trans hkind, hid, ?_⟩
    rcases h.transition.pendingCancel with hp | ⟨-, hp⟩ <;> rw [hp]
    · exact hcancel
    · rfl
  | asked hk => exact absurd hk (not_or.mpr hd)
  | next _ _ _ hnone => exact absurd hnone hfree
  | timeout _ _ hwait => exact absurd (hkind.symm.trans hwait) (by decide)
  | nextTimeout _ _ hnone => exact absurd hnone hfree
  | event _ hwait => exact absurd (hkind.symm.trans hwait) (by decide)

/-- Nothing is handed to a worker while a cancel is parked. -/
theorem Turn.workerTasks_eq_nil (h : Turn d sn s notes body) (hd : d.kind ≠ .step ∧ d.kind ≠ .wait)
    (hkind : sn.runState.kind = .step) (hcancel : sn.runState.pendingCancel.isSome = true) :
    (notes ++ body).filterMap Record.workerTask? = [] := by
  rw [List.filterMap_append, h.noted.allNotes.workerTasks, List.nil_append]
  have hwait : sn.runState.kind ≠ .wait := by simp [hkind]
  have ht := h.transition
  cases ht with
  | finish hf =>
    obtain ⟨-, -, hrest⟩ := hf
    simp [List.filterMap_cons, Record.workerTask?, hrest.workerTasks]
  | dispatch hs hsrc =>
    cases hsrc with
    | step hk => exact absurd hk hd.1
    | next hk =>
      have hterm := h.intercepted hk hcancel
      cases hs
      simp [RunState.isTerminal] at hterm
    | timeout _ hw => exact absurd hw hwait
    | inbox _ hw => exact absurd hw hwait
  | suspend hs =>
    cases hs
    split_ifs <;> simp [List.filterMap_cons, Record.workerTask?]
  | pickUp => rfl
  | park => rfl

end Plan

/-! ### The run of a parked cancel -/

/-- What holds of the states of a run: a cancel is parked in a step or in a state that has ended,
and after it was parked the run stays in that step or ends. -/
structure Parked (wf : WFID) (run : RunID) (journal : List Commit) : Prop where
  inStep : ∀ s ∈ statesIn wf run journal, s.pendingCancel.isSome = true →
    s.kind = .step ∨ s.isTerminal = true
  later : (statesIn wf run journal).Pairwise fun s s' => s.pendingCancel.isSome = true →
    StillParked s s' ∨ s'.isTerminal = true

/-- What a batch of the run does after a cancel was parked. -/
structure Resolves (wf : WFID) (run : RunID) (pre : List Commit) (c : Commit) : Prop where
  parked : Parked wf run (pre ++ [c])
  workerTasks : (∃ s ∈ statesIn wf run pre, s.pendingCancel.isSome = true) →
    c.directive.OfRun wf run → c.records.filterMap Record.workerTask? = []
  cancelled : (∃ s ∈ statesIn wf run pre, s.pendingCancel.isSome = true) →
    c.directive.OfRun wf run → c.directive.kind = .stepResult →
    c.directive.processedStep?.isSome = true → c.directive.nextKind? ≠ some .failStep →
      ∃ s, c.states wf run = [s] ∧ s.kind = .cancel

section Run

variable {cfg : Manager.Config} {w : World} {c : Call} {sn : StateSnapshot}
  {records : List Record} {l : Stream} {wf : WFID} {run : RunID}

theorem Parked.same (h : Parked wf run w.journal) {c : Commit} (hc : c.states wf run = []) :
    Parked wf run (w.journal ++ [c]) := by
  constructor <;> rw [statesIn_concat, hc, List.append_nil]
  · exact h.inStep
  · exact h.later

/-- The state after a parked cancel, unless the run has ended, is the one of the same step. -/
theorem Parked.last (h : Parked wf run w.journal) {s s' : RunState}
    (hs : s ∈ statesIn wf run w.journal) (hparked : s.pendingCancel.isSome = true)
    (hlast : (statesIn wf run w.journal).getLast? = some s') (hlive : s'.isTerminal = false) :
    StillParked s s' := by
  obtain ⟨init, hinit⟩ := List.getLast?_eq_some_iff.mp hlast
  rw [hinit] at hs
  rcases List.mem_append.mp hs with hs | hs
  · have hlater := h.later
    rw [hinit, List.pairwise_append] at hlater
    exact (hlater.2.2 s hs s' (List.mem_singleton_self _) hparked).resolve_right (by simp [hlive])
  · obtain rfl := List.mem_singleton.mp hs
    refine ⟨(h.inStep s ?_ hparked).resolve_right (by simp [hlive]), rfl, hparked⟩
    rw [hinit]
    exact List.mem_append_right _ hs

/-- A transition of the run, from the state that was written last. -/
theorem Parked.turn {s : RunState} {notes body : List Record} (h : Parked wf run w.journal)
    (hlast : (statesIn wf run w.journal).getLast? = some sn.runState.stored)
    (hlive : sn.runState.isTerminal = false) (hturn : Turn c.directive sn s notes body)
    (hd : c.directive.kind ≠ .step ∧ c.directive.kind ≠ .wait)
    (hstates : (w.commitOf c sn records).states wf run = [s.stored]) :
    Parked wf run (w.journal ++ [w.commitOf c sn records]) := by
  have hmem := List.mem_of_getLast? hlast
  constructor <;> rw [statesIn_concat, hstates]
  · intro s' hs' hparked
    rcases List.mem_append.mp hs' with hs' | hs'
    · exact h.inStep s' hs' hparked
    obtain rfl := List.mem_singleton.mp hs'
    by_cases hold : sn.runState.pendingCancel.isSome = true
    · have hstep := (h.last hmem hold hlast hlive).kind
      exact (hturn.parked hd hstep hold).imp_left fun hs => hs.kind
    · -- the cancel is new
      have ht := hturn.transition
      cases ht with
      | park _ hstep => exact .inl hstep
      | finish hf => cases hf; exact absurd hparked hold
      | dispatch hs => cases hs; exact absurd hparked hold
      | suspend hs => cases hs; exact absurd hparked hold
      | pickUp => exact absurd hparked hold
  · refine List.pairwise_append.mpr
      ⟨h.later, List.pairwise_singleton .., fun s₁ hs₁ s₂ hs₂ hp => ?_⟩
    obtain rfl := List.mem_singleton.mp hs₂
    have hsame := h.last hs₁ hp hlast hlive
    refine (hturn.parked hd hsame.kind hsame.parked).imp_left fun hs => ?_
    exact ⟨hs.kind, hs.active.trans hsame.active, hs.parked⟩

theorem Batch.resolves (hw : Sound w) (hj : Journaled w) (hb : Batch cfg w c sn records l)
    (hserial : Along (Serial wf run) w.journal)
    (hcount : (w.journal ++ [w.commitOf c sn records]).countP (Commit.starts wf run) ≤ 1)
    (hkind : c.directive.OfRun wf run → c.directive.kind ≠ .step ∧ c.directive.kind ≠ .wait)
    (h : Parked wf run w.journal) : Resolves wf run w.journal (w.commitOf c sn records) := by
  cases hb.advance hw wf run with
  | other hrun =>
    exact ⟨h.same (hb.states_eq_nil hw hrun), fun _ hof => absurd hof hrun,
      fun _ hof => absurd hof hrun⟩
  | start hrun hk =>
    have hnil : statesIn wf run w.journal = [] := by
      by_contra hne
      have hstarts := not_starts_of_states hserial hne hcount
      simp [Commit.starts, World.commitOf, Directive.Starts, hk, hrun] at hstarts
    have hfree : ∀ s ∈ (w.commitOf c sn records).states wf run,
        s.pendingCancel = none ∧ s.isTerminal = false := hb.states_of_start hw hk
    refine ⟨?_, ?_, ?_⟩
    · constructor <;> rw [statesIn_concat, hnil, List.nil_append]
      · intro s hs hp
        simp [(hfree s hs).1] at hp
      · refine List.Pairwise.imp_of_mem (fun hs _ _ hp => ?_)
          (List.pairwise_of_forall fun _ _ => trivial)
        simp [(hfree _ hs).1] at hp
    · rintro ⟨s, hs, -⟩
      rw [hnil] at hs
      cases hs
    · rintro ⟨s, hs, -⟩
      rw [hnil] at hs
      cases hs
  | event hrun hk _ _ hrecords =>
    refine ⟨h.same (hb.states_of_event hw hk), fun _ _ => ?_, fun _ _ hresult => ?_⟩
    · change records.filterMap _ = []
      rw [hrecords]
      split_ifs <;> rfl
    · exact absurd (hk.symm.trans hresult) (by decide)
  | @turn s' _ _ _ hrun _ hlive hturn hrecords hold =>
    have hd := hkind hrun
    have hlast := hj.getLast?_statesIn hold
    have hstates := hb.states_of_turn hw hrun hturn hrecords
    refine ⟨h.turn hlast hlive hturn hd hstates, ?_, ?_⟩
    · rintro ⟨s, hs, hp⟩ -
      have hsame := h.last hs hp hlast hlive
      change records.filterMap _ = []
      exact hrecords ▸ hturn.workerTasks_eq_nil hd hsame.kind hsame.parked
    · rintro ⟨s, hs, hp⟩ - hresult hproc hnext
      refine ⟨_, hstates, ?_⟩
      obtain ⟨cancel, hcancel⟩ := Option.isSome_iff_exists.mp (h.last hs hp hlast hlive).parked
      obtain ⟨env, failEnv, hrec⟩ := hb.planned
      obtain ⟨s₁, notes₁, body₁, hrecords₁, hnotes₁, hs₁⟩ :=
        finish_of_stepResult hlive hresult hproc hnext hcancel
          (hw.cancel_msg hb.call hb.phase hcancel) hrec
      have hsame : [(s₁, sn.runState.seqID)] = [(s', sn.runState.seqID)] := by
        rw [← hturn.runStates, ← hrecords, hrecords₁, List.filterMap_append, hnotes₁.runStates,
          hs₁.runStates, List.nil_append]
      cases hsame
      cases hs₁
      rfl

theorem parked_of_along {journal : List Commit}
    (h : Along (fun pre c => (pre ++ [c]).countP (Commit.starts wf run) ≤ 1 →
      Resolves wf run pre c) journal)
    (hcount : journal.countP (Commit.starts wf run) ≤ 1) : Parked wf run journal := by
  rcases List.eq_nil_or_concat journal with rfl | ⟨pre, c, rfl⟩
  · exact ⟨fun s hs => (by cases hs), List.Pairwise.nil⟩
  · rw [List.concat_eq_append] at h hcount ⊢
    exact (h pre c [] rfl hcount).parked

end Run

/-- An accepted cancel is never lost and stops further work. Let the calls that handle the
directives of a run be interleaved in any way, let the run be started at most once, and let its
directives be of the kinds that the service, timers and workers publish. After a state with a
parked cancel, every state of the run is one of the same step with a cancel parked, or the run has
ended. A batch of the run that commits after it hands nothing to a worker; and if it is the batch
of a step result that processed a step and does not report its failure, it ends the run as
cancelled. -/
theorem accepted_cancel_resolved {cfg : Manager.Config} {w : World} {wf : WFID} {run : RunID}
    (h : ReachableBy cfg (fun _ a => a.Served wf run) w)
    (hstart : w.journal.countP (Commit.starts wf run) ≤ 1) :
    (statesIn wf run w.journal).Pairwise (fun s s' => s.pendingCancel.isSome = true →
      StillParked s s' ∨ s'.isTerminal = true) ∧
    ∀ pre c post, w.journal = pre ++ c :: post →
      (∃ s ∈ statesIn wf run pre, s.pendingCancel.isSome = true) → c.directive.OfRun wf run →
        c.records.filterMap Record.workerTask? = [] ∧
        (c.directive.kind = .stepResult → c.directive.processedStep?.isSome = true →
          c.directive.nextKind? ≠ some .failStep →
            ∃ s, c.states wf run = [s] ∧ s.kind = .cancel) := by
  have halong : Along (fun pre c => (pre ++ [c]).countP (Commit.starts wf run) ≤ 1 →
      Resolves wf run pre c) w.journal := by
    refine along_journal h fun w k c sn records l _ _ _ hr ha _ _ hb hcount => ?_
    have hw := sound_of_reachableBy hr
    have hserial := serial_of_reachableBy hr wf run
    refine hb.resolves hw (journaled_of_reachableBy hr) hserial hcount (fun hof => ?_)
      (parked_of_along ha (countP_starts_of_concat hcount))
    have hserved := directive_of_published (P := fun d => d.OfRun wf run →
      d.kind ∈ [DirectiveKind.start, .event, .cancel, .terminate, .fail, .stepTimeout, .waitTimeout,
        .wakeFromInbox, .stepResult, .stepPickedUp]) hr (fun _ d hok => hok d rfl)
      (fun d hd _ _ => by simp [hd]) c hb.call hof
    constructor <;> intro hk <;> simp [hk] at hserved
  refine ⟨(parked_of_along halong hstart).later, fun pre c post hsplit hparked hof => ?_⟩
  have hresolves := halong pre c post hsplit (by
    rw [hsplit, List.append_cons, List.countP_append] at hstart
    omega)
  exact ⟨hresolves.workerTasks hparked hof, hresolves.cancelled hparked hof⟩

/-- A run is cancelled during its first step, whose result names another step. -/
def Sample.cancelled : List Label :=
  .publish start :: handled 1 ++
    .publish (directive "stop" .cancel (.cancel "no longer needed")) :: handled 9 ++
    .publish (stepResult "done" .step (.step "ship" 0)) :: handled 12

theorem accepted_cancel_resolved_sample :
    ∃ c₁ c₂ c₃, (Sample.worldBy (fun _ a => a.Served "wf" "r1") Sample.cancelled).journal =
        [c₁, c₂, c₃] ∧
      c₃.records.filterMap Record.workerTask? = [] ∧
      ∃ s, c₃.states "wf" "r1" = [s] ∧ s.kind = .cancel := by
  obtain ⟨hlength, hstarts, hparked, hresult⟩ :
      (Sample.worldBy (fun _ a => a.Served "wf" "r1") Sample.cancelled).journal.length = 3 ∧
      (Sample.worldBy (fun _ a => a.Served "wf" "r1") Sample.cancelled).journal.countP
        (Commit.starts "wf" "r1") ≤ 1 ∧
      (∃ s ∈ statesIn "wf" "r1" ((Sample.worldBy (fun _ a => a.Served "wf" "r1")
        Sample.cancelled).journal.take 2), s.pendingCancel.isSome = true) ∧
      ∀ c ∈ (Sample.worldBy (fun _ a => a.Served "wf" "r1") Sample.cancelled).journal.drop 2,
        c.directive.OfRun "wf" "r1" ∧ c.directive.kind = .stepResult ∧
          c.directive.processedStep?.isSome = true ∧
          c.directive.nextKind? ≠ some .failStep := by decide +kernel
  obtain ⟨c₁, c₂, c₃, hj⟩ := List.length_eq_three.mp hlength
  rw [hj] at hparked hresult
  obtain ⟨hof, hkind, hproc, hnext⟩ := hresult c₃ (List.mem_singleton_self c₃)
  obtain ⟨htasks, hcancelled⟩ := (accepted_cancel_resolved (Sample.reachableBy_worldBy
    (fun _ a => a.Served "wf" "r1") Sample.cancelled) hstarts).2 [c₁, c₂] c₃ [] hj hparked hof
  exact ⟨c₁, c₂, c₃, hj, htasks, hcancelled hkind hproc hnext⟩

end Grctl
