import Grctl.System.Invariant

/-!
# The states of a run form one chain

The journal of a world lists the committed batches in order. This file shows, for any
interleaving of handler calls, how the run states in it hang together. The first batch that
writes a state of a run is a start of it; every other batch that writes one was planned from the
state written just before; and after a terminal state nothing is written about the run any more,
as long as it is not started again.

The comparison of sequence numbers in the stream is all that is used. Deduplication plays no
role: the window `dup` is arbitrary.

## Main definitions

* `Commit.states`, `statesIn`: the run states of a batch and of a history of batches.
* `Commit.starts`: the batch of a start of a run.
* `Record.changes`: the record changes what is stored about a run.
* `Serial`: what holds of a batch and the batches before it.

## Main results

* `journaled_of_reachableBy`: the current state of a run is the last one in the journal.
* `run_states_serialised`: the chain.
-/

namespace Grctl

open SubjectLog Lts

/-- A run state as it is stored, without the sequence number it is read with. -/
def RunState.stored (s : RunState) : RunState := { s with seqID := 0 }

theorem RunState.isTerminal_stored (s : RunState) : s.stored.isTerminal = s.isTerminal := rfl

namespace Commit

/-- The states a batch writes for a run. -/
def states (wf : WFID) (run : RunID) (c : Commit) : List RunState :=
  ((c.records.filterMap Record.runState?).filter fun p =>
    p.1.wfID = wf ∧ p.1.runID = run).map (·.1.stored)

/-- The batch of a start of the run. -/
def starts (wf : WFID) (run : RunID) (c : Commit) : Bool :=
  decide (c.directive.Starts wf run)

theorem mem_states {wf : WFID} {run : RunID} {c : Commit} {s : RunState} :
    s ∈ c.states wf run ↔
      ∃ s₀ n, Record.runState s₀ n ∈ c.records ∧ s₀.wfID = wf ∧ s₀.runID = run ∧
        s₀.stored = s := by
  simp only [states, List.mem_map, List.mem_filter, List.mem_filterMap, decide_eq_true_eq,
    Prod.exists, Record.runState?_eq_some]
  constructor
  · rintro ⟨s₀, n, ⟨⟨r, hr, rfl⟩, hwf, hrun⟩, hs⟩
    exact ⟨s₀, n, hr, hwf, hrun, hs⟩
  · rintro ⟨s₀, n, hr, hwf, hrun, hs⟩
    exact ⟨s₀, n, ⟨⟨_, hr, rfl⟩, hwf, hrun⟩, hs⟩

end Commit

/-- The states a history of batches writes for a run. -/
def statesIn (wf : WFID) (run : RunID) (journal : List Commit) : List RunState :=
  journal.flatMap (Commit.states wf run)

/-- The record changes the state, the description, the timers, the key-value pairs or the worker
tasks of a run. -/
def Record.changes (wf : WFID) (run : RunID) : Record → Prop
  | .runState s _ => s.wfID = wf ∧ s.runID = run
  | .runInfo info _ => info.wfID = wf ∧ info.id = run
  | .timer t => t.directive.OfRun wf run
  | .kv wf' run' _ => wf' = wf ∧ run' = run
  | .workerTask d => d.OfRun wf run
  | _ => False

/-! ### The journal and the stream -/

/-- The current state of every run is the last one in the journal. -/
def Journaled (w : World) : Prop :=
  ∀ wf run, ∃ s, getRunState w.stream wf run = .ok s ∧
    s.map RunState.stored = (statesIn wf run w.journal).getLast?

section Batch

variable {cfg : Manager.Config} {w : World} {c : Call} {sn : StateSnapshot}
  {records : List Record} {l : Stream} {wf : WFID} {run : RunID}

/-- A batch writes states of the run that its directive names. -/
theorem Batch.ofRun (hw : Sound w) (hb : Batch cfg w c sn records l) {s : RunState} {n : ℕ}
    (hs : Record.runState s n ∈ records) :
    s.wfID = c.directive.runInfo.wfID ∧ s.runID = c.directive.runInfo.id := by
  rcases (hw.planned hb).runState_cases hs with ⟨-, -, hstart⟩ | ⟨-, _, _, hrec, -, ht⟩
  · exact ⟨hstart.wfID, hstart.runID⟩
  · obtain ⟨hof, -⟩ := hw.stateOf (hb.stored hw hrec ht)
    exact ⟨ht.sameRun.1.trans hof.wfID, ht.sameRun.2.trans hof.runID⟩

theorem Batch.journaled (hw : Sound w) (hj : Journaled w) (hb : Batch cfg w c sn records l)
    (wf : WFID) (run : RunID) :
    ∃ s, getRunState l wf run = .ok s ∧ s.map RunState.stored =
      (statesIn wf run (w.journal ++ [w.commitOf c sn records])).getLast? := by
  obtain ⟨s, hs, hlast⟩ := hj wf run
  simp only [statesIn, List.flatMap_append, List.flatMap_cons, List.flatMap_nil, List.append_nil]
  by_cases hany : ∃ s₀ n, Record.runState s₀ n ∈ records ∧ s₀.wfID = wf ∧ s₀.runID = run
  · obtain ⟨s₀, n, hmem, rfl, rfl⟩ := hany
    have hof := hb.ofRun hw hmem
    rcases List.eq_nil_or_concat (records.filterMap Record.runState?) with hnil | ⟨pre, p, hpre⟩
    · have := List.filterMap_eq_nil_iff.mp hnil _ hmem
      simp [Record.runState?] at this
    · obtain ⟨s₁, n₁⟩ := p
      rw [List.concat_eq_append] at hpre
      have hmem₁ : Record.runState s₁ n₁ ∈ records := by
        obtain ⟨r, hr, hs₁⟩ := List.mem_filterMap.mp
          (hpre ▸ List.mem_append_right pre (List.mem_singleton_self (s₁, n₁)))
        exact Record.runState?_eq_some.mp hs₁ ▸ hr
      have hof₁ := hb.ofRun hw hmem₁
      obtain ⟨k, hk⟩ := getRunState_of_commit hpre hb.commit
      refine ⟨_, by rw [hof.1, hof.2, ← hof₁.1, ← hof₁.2]; exact hk, ?_⟩
      simp [Commit.states, World.commitOf, hpre, List.filter_append, hof.1, hof.2, hof₁.1, hof₁.2,
        List.getLast?_append, RunState.stored]
  · have hnone : (w.commitOf c sn records).states wf run = [] := by
      refine List.eq_nil_iff_forall_not_mem.mpr fun s₁ hs₁ => ?_
      obtain ⟨s₀, n, hmem, hwf, hrun, -⟩ := Commit.mem_states.mp hs₁
      exact hany ⟨s₀, n, hmem, hwf, hrun⟩
    refine ⟨s, ?_, by rw [hnone, List.append_nil]; exact hlast⟩
    rw [getRunState_of_commit_of_ne hb.commit fun s₀ n hmem hwf hrun =>
      hany ⟨s₀, n, hmem, hwf, hrun⟩, hs]

theorem getRunState_append_outside {m : Msg} (hm : Outside m) :
    getRunState (l.append m) wf run = getRunState l wf run := by
  refine getRunState_congr (Log.lastOn_appendAll_of_ne l fun m' hm' => ?_)
  rw [List.mem_singleton.mp hm']
  cases hm <;> exact fun h => by cases h

theorem getRunState_purge_residue {p : Subject → Bool}
    (hp : ∀ s, p s = true → s.isResidue = true) :
    getRunState (l.purge p) wf run = getRunState l wf run := by
  refine getRunState_congr (Log.lastOn_purge l (Bool.eq_false_iff.mpr fun h => ?_))
  simpa [Subject.isResidue] using hp _ h

/-- The state of a run changes with a committed batch only. -/
theorem Change.runState_cases {w : World} {j : List Commit} (h : Change cfg w l j) (wf : WFID)
    (run : RunID) :
    (getRunState l wf run = getRunState w.stream wf run ∧ j = w.journal) ∨
      ∃ c sn records, Batch cfg w c sn records l ∧ j = w.journal ++ [w.commitOf c sn records] := by
  cases h with
  | same => exact .inl ⟨rfl, rfl⟩
  | outside hm => exact .inl ⟨getRunState_append_outside hm, rfl⟩
  | purge hp => exact .inl ⟨getRunState_purge_residue hp, rfl⟩
  | commit hb => exact .inr ⟨_, _, _, hb, rfl⟩

theorem Change.journaled {w : World} {j : List Commit} (h : Change cfg w l j) (hw : Sound w)
    (hj : Journaled w) (wf : WFID) (run : RunID) :
    ∃ s, getRunState l wf run = .ok s ∧ s.map RunState.stored = (statesIn wf run j).getLast? := by
  rcases h.runState_cases wf run with ⟨hsame, rfl⟩ | ⟨c, sn, records, hb, rfl⟩
  · exact hsame ▸ hj wf run
  · exact hb.journaled hw hj wf run

end Batch

/-- The rule for the current state: what depends only on the current state of a run and on the
journal, and is kept by every guarded commit, holds throughout. -/
theorem runState_invariant {cfg : Manager.Config} {ok : World → Label → Prop} {w : World}
    {wf : WFID} {run : RunID} {Q : Outcome (Option RunState) → List Commit → Prop}
    (h : ReachableBy cfg ok w) (hinit : Q (.ok none) [])
    (hcommit : ∀ w k c sn records l env failEnv ack, ReachableBy cfg ok w →
      Q (getRunState w.stream wf run) w.journal → ok w (.finish k env failEnv ack) →
      w.calls[k]? = some c → Batch cfg w c sn records l →
        Q (getRunState l wf run) (w.journal ++ [w.commitOf c sn records])) :
    Q (getRunState w.stream wf run) w.journal := by
  refine Reach.invariant (P := fun w : World => Q (getRunState w.stream wf run) w.journal) h hinit
    fun w a w' hr ih hok hstep => ?_
  have heffect := effect_of_step hstep
  cases heffect with
  | publish hd htaken => exact (getRunState_append_outside (.directive hd htaken)).symm ▸ ih
  | saveRun _ htaken => exact (getRunState_append_outside (.runInfo htaken)).symm ▸ ih
  | recordHistory hh htaken => exact (getRunState_append_outside (.history hh htaken)).symm ▸ ih
  | commit hc hb => exact hcommit _ _ _ _ _ _ _ _ _ hr ih hok hc hb
  | cancelTimer => exact (getRunState_purge_residue Subject.isResidue_of_beq_timer).symm ▸ ih
  | fire => exact (getRunState_purge_residue Subject.isResidue_of_beq_timer).symm ▸ ih
  | purgeNext =>
    exact (getRunState_purge_residue fun s => PurgePattern.isResidue_of_covers).symm ▸ ih
  | _ => exact ih

/-- The current state of a run is the last one in the journal. -/
theorem journaled_of_reachableBy {cfg : Manager.Config} {ok : World → Label → Prop} {w : World}
    (h : ReachableBy cfg ok w) : Journaled w :=
  Reach.invariant h (fun _ _ => ⟨none, rfl, rfl⟩) fun _ _ _ hr hs _ hstep =>
    (effect_of_step hstep).change.journaled (sound_of_reachableBy hr) hs

/-! ### The chain of states -/

/-- A run that is started once and has ended stays ended. -/
def Absorbing (wf : WFID) (run : RunID) (journal : List Commit) : Prop :=
  journal.countP (Commit.starts wf run) ≤ 1 → (∃ s ∈ statesIn wf run journal, s.isTerminal = true) →
    ∃ s, (statesIn wf run journal).getLast? = some s ∧ s.isTerminal = true

/-- What holds of a batch `c` and the batches `pre` before it, for the run `run` of `wf`. -/
structure Serial (wf : WFID) (run : RunID) (pre : List Commit) (c : Commit) : Prop where
  started : c.states wf run ≠ [] → c.starts wf run = true ∨ ∃ c' ∈ pre, c'.starts wf run = true
  chained : c.states wf run ≠ [] → c.starts wf run = false →
    (∃ s, c.states wf run = [s]) ∧
      (statesIn wf run pre).getLast? = some c.snapshot.runState.stored
  silent : (pre ++ [c]).countP (Commit.starts wf run) ≤ 1 →
    (∃ s ∈ statesIn wf run pre, s.isTerminal = true) → c.directive.OfRun wf run →
      ∀ r ∈ c.records, ¬ r.changes wf run
  absorbing : Absorbing wf run (pre ++ [c])

theorem countP_starts_of_concat {wf : WFID} {run : RunID} {journal : List Commit} {c : Commit}
    {n : ℕ} (h : (journal ++ [c]).countP (Commit.starts wf run) ≤ n) :
    journal.countP (Commit.starts wf run) ≤ n :=
  (List.sublist_append_left journal [c]).countP_le.trans h

theorem absorbing_of_along {wf : WFID} {run : RunID} {journal : List Commit}
    (h : Along (Serial wf run) journal) : Absorbing wf run journal := by
  rcases List.eq_nil_or_concat journal with rfl | ⟨pre, c, rfl⟩
  · rintro - ⟨s, hs, -⟩
    cases hs
  · rw [List.concat_eq_append] at h ⊢
    exact (h pre c [] rfl).absorbing

section Chain

variable {cfg : Manager.Config} {w : World} {c : Call} {sn : StateSnapshot}
  {records : List Record} {l : Stream} {wf : WFID} {run : RunID}

/-- A transition that commits starts from the last state in the journal. -/
theorem Batch.getLast_states (hw : Sound w) (hj : Journaled w) (hb : Batch cfg w c sn records l)
    {s : RunState} {notes body : List Record} (hrecords : records = notes ++ body)
    (hnotes : AllNotes notes) (ht : Transition c.directive sn s body)
    (hrun : c.directive.OfRun wf run) :
    (statesIn wf run w.journal).getLast? = some sn.runState.stored := by
  obtain ⟨rfl, rfl⟩ := hrun
  obtain ⟨s₁, hs₁, hlast⟩ := hj c.directive.runInfo.wfID c.directive.runInfo.id
  rw [hb.current hw hrecords hnotes ht] at hs₁
  cases hs₁
  exact hlast.symm

/-- A batch that writes a state of a run is a start of it or a transition from its last state. -/
theorem Batch.states_cases (hw : Sound w) (hj : Journaled w) (hb : Batch cfg w c sn records l)
    (hne : (w.commitOf c sn records).states wf run ≠ []) :
    (w.commitOf c sn records).starts wf run = true ∨
    (c.directive.OfRun wf run ∧ sn.runState.isTerminal = false ∧
      (statesIn wf run w.journal).getLast? = some sn.runState.stored ∧
      ∃ s notes body, records = notes ++ body ∧ AllNotes notes ∧ Transition c.directive sn s body ∧
        (w.commitOf c sn records).states wf run = [s.stored]) := by
  obtain ⟨s', hs'⟩ := List.exists_mem_of_ne_nil _ hne
  obtain ⟨s₀, n, hmem, rfl, rfl, -⟩ := Commit.mem_states.mp hs'
  have hof := hb.ofRun hw hmem
  have hplanned := hw.planned hb
  cases hplanned with
  | nothing => cases hmem
  | start _ hd => exact .inl (decide_eq_true ⟨hd, hof.1.symm, hof.2.symm⟩)
  | event =>
    simp only [World.commitOf] at hmem
    split_ifs at hmem <;> simp at hmem
  | @transition s notes body hlive hnotes ht =>
    have hrun : c.directive.OfRun s₀.wfID s₀.runID := ⟨hof.1.symm, hof.2.symm⟩
    obtain ⟨hof', -⟩ := hw.stateOf (hb.stored hw rfl ht)
    refine .inr ⟨hrun, hlive, hb.getLast_states hw hj rfl hnotes ht hrun, s, notes, body, rfl,
      hnotes, ht, ?_⟩
    simp [Commit.states, World.commitOf, hnotes.runStates, ht.runStates, ht.sameRun, hof'.wfID,
      hof'.runID, hof.1, hof.2]

theorem exists_start_of_states {journal : List Commit} (ha : Along (Serial wf run) journal)
    (hne : statesIn wf run journal ≠ []) : ∃ c ∈ journal, c.starts wf run = true := by
  obtain ⟨s, hs⟩ := List.exists_mem_of_ne_nil _ hne
  obtain ⟨c, hc, hs⟩ := List.mem_flatMap.mp hs
  obtain ⟨pre, post, hsplit, hserial⟩ := ha.of_mem hc
  rcases hserial.started (List.ne_nil_of_mem hs) with hstart | ⟨c', hc', hstart⟩
  · exact ⟨c, hc, hstart⟩
  · exact ⟨c', hsplit ▸ List.mem_append_left _ hc', hstart⟩

/-- A run that is started once is not started after it has a state. -/
theorem not_starts_of_states (ha : Along (Serial wf run) w.journal)
    (hne : statesIn wf run w.journal ≠ []) {c : Commit}
    (hcount : (w.journal ++ [c]).countP (Commit.starts wf run) ≤ 1) :
    c.starts wf run = false := by
  obtain ⟨c', hc', hstart⟩ := exists_start_of_states ha hne
  have hpos : 0 < w.journal.countP (Commit.starts wf run) :=
    List.countP_pos_iff.mpr ⟨c', hc', hstart⟩
  by_contra hc
  rw [List.countP_append, List.countP_singleton, if_pos (by simpa using hc)] at hcount
  omega

theorem Batch.absorbing (hw : Sound w) (hj : Journaled w) (hb : Batch cfg w c sn records l)
    (ha : Along (Serial wf run) w.journal) :
    Absorbing wf run (w.journal ++ [w.commitOf c sn records]) := by
  intro hcount hterm
  simp only [statesIn, List.flatMap_append, List.flatMap_cons, List.flatMap_nil, List.append_nil,
    List.mem_append] at hterm ⊢
  by_cases hnil : (w.commitOf c sn records).states wf run = []
  · simp only [hnil, List.not_mem_nil, or_false, List.append_nil] at hterm ⊢
    exact absorbing_of_along ha (countP_starts_of_concat hcount) hterm
  · obtain ⟨s, hs, hsterm⟩ := hterm
    rcases hb.states_cases hw hj hnil with hstart | ⟨-, hlive, hlast, s', _, _, -, -, -, hs'⟩
    · -- the states of a start are not terminal, and it comes before all others
      exfalso
      rcases hs with hs | hs
      · have := not_starts_of_states ha (List.ne_nil_of_mem hs) hcount
        simp [hstart] at this
      · obtain ⟨s₀, n, hmem, -, -, rfl⟩ := Commit.mem_states.mp hs
        rw [RunState.isTerminal_stored] at hsterm
        rcases (hw.planned hb).runState_cases hmem with ⟨-, -, hs₀⟩ | ⟨-, _, _, -, -, ht⟩
        · simp [hs₀.isTerminal] at hsterm
        · exact ht.kind_ne.1 (of_decide_eq_true hstart).1
    · rw [hs', List.getLast?_concat]
      rcases hs with hs | hs
      · obtain ⟨s₁, hlast₁, hterm₁⟩ :=
          absorbing_of_along ha (countP_starts_of_concat hcount) ⟨s, hs, hsterm⟩
        cases hlast₁.symm.trans hlast
        simp [RunState.isTerminal_stored, hlive] at hterm₁
      · rw [hs', List.mem_singleton] at hs
        exact ⟨_, rfl, hs ▸ hsterm⟩

theorem Batch.serial (hw : Sound w) (hj : Journaled w) (hb : Batch cfg w c sn records l)
    (ha : Along (Serial wf run) w.journal) :
    Serial wf run w.journal (w.commitOf c sn records) where
  started hne := by
    rcases hb.states_cases hw hj hne with hstart | ⟨-, -, hlast, -⟩
    · exact .inl hstart
    · exact .inr (exists_start_of_states ha fun hnil => by simp [hnil] at hlast)
  chained hne hstart := by
    rcases hb.states_cases hw hj hne with hstart' | ⟨-, -, hlast, s, _, _, -, -, -, hs⟩
    · simp [hstart] at hstart'
    · exact ⟨⟨s.stored, hs⟩, hlast⟩
  silent hcount hterm hof := by
    have hne : statesIn wf run w.journal ≠ [] :=
      fun hnil => by simp [hnil] at hterm
    have hstart := not_starts_of_states ha hne hcount
    obtain ⟨s, hlast, hterm⟩ := absorbing_of_along ha (countP_starts_of_concat hcount) hterm
    have hrun : c.directive.OfRun wf run := hof
    have hplanned := hw.planned hb
    intro r hr hchange
    cases hplanned with
    | nothing => cases hr
    | start _ hd => simp [Commit.starts, World.commitOf, Directive.Starts, hd, hrun] at hstart
    | event =>
      simp only [World.commitOf] at hr
      split_ifs at hr <;> simp at hr
      · rcases hr with rfl | rfl | rfl <;> exact hchange
      · rcases hr with rfl | rfl <;> exact hchange
    | transition hlive hnotes ht =>
      cases hlast.symm.trans (hb.getLast_states hw hj rfl hnotes ht hrun)
      simp [RunState.isTerminal_stored, hlive] at hterm
  absorbing := hb.absorbing hw hj ha

end Chain

/-- A run that is started once has at most one batch that ends it. -/
theorem eq_of_terminal_states {wf : WFID} {run : RunID} {journal : List Commit}
    (ha : Along (Serial wf run) journal) (hcount : journal.countP (Commit.starts wf run) ≤ 1)
    {c c' : Commit} (hc : c ∈ journal) (hc' : c' ∈ journal) (hof : c.directive.OfRun wf run)
    (hof' : c'.directive.OfRun wf run) (hterm : ∃ s ∈ c.states wf run, s.isTerminal = true)
    (hterm' : ∃ s ∈ c'.states wf run, s.isTerminal = true) : c = c' := by
  -- a batch that comes after a terminal state does not write about the run
  have later {c c' : Commit} (hof : c.directive.OfRun wf run)
      (hterm : ∃ s ∈ c.states wf run, s.isTerminal = true)
      (hterm' : ∃ s ∈ c'.states wf run, s.isTerminal = true)
      (hsplit : ∃ pre post, journal = pre ++ c :: post ∧ c' ∈ pre) : False := by
    obtain ⟨pre, post, hsplit, hc'⟩ := hsplit
    obtain ⟨s, hs, -⟩ := hterm
    obtain ⟨s', hs', hterm'⟩ := hterm'
    obtain ⟨s₀, n, hmem, hwf, hrun, -⟩ := Commit.mem_states.mp hs
    refine (ha pre c post hsplit).silent ?_ ⟨s', List.mem_flatMap.mpr ⟨c', hc', hs'⟩, hterm'⟩ hof _
      hmem ⟨hwf, hrun⟩
    rw [hsplit, List.append_cons, List.countP_append] at hcount
    exact (Nat.le_add_right _ _).trans hcount
  by_contra hne
  rcases mem_before_of_ne hc hc' hne with h | h
  · exact later hof hterm hterm' h
  · exact later hof' hterm' hterm h

/-- The chain, along the journal of every run. -/
theorem serial_of_reachableBy {cfg : Manager.Config} {ok : World → Label → Prop} {w : World}
    (h : ReachableBy cfg ok w) (wf : WFID) (run : RunID) : Along (Serial wf run) w.journal :=
  along_journal h fun _ _ _ _ _ _ _ _ _ hr ha _ _ hb =>
    hb.serial (sound_of_reachableBy hr) (journaled_of_reachableBy hr) ha

/-- A run that has not been started has no state. -/
theorem getRunState_of_not_started {cfg : Manager.Config} {ok : World → Label → Prop} {w : World}
    {wf : WFID} {run : RunID} (h : ReachableBy cfg ok w)
    (hcount : w.journal.countP (Commit.starts wf run) = 0) :
    getRunState w.stream wf run = .ok none := by
  obtain ⟨s, hs, hlast⟩ := journaled_of_reachableBy h wf run
  have hnil : statesIn wf run w.journal = [] := by
    by_contra hne
    obtain ⟨c, hc, hstart⟩ := exists_start_of_states (serial_of_reachableBy h wf run) hne
    simp [List.countP_eq_zero.mp hcount c hc] at hstart
  rw [hnil, List.getLast?_nil, Option.map_eq_none_iff] at hlast
  rw [hs, hlast]

/-- The only start of a run finds no state. -/
theorem getRunState_of_starts {cfg : Manager.Config} {ok : World → Label → Prop} {w : World}
    {wf : WFID} {run : RunID} {c : Commit} (h : ReachableBy cfg ok w) (hc : c.starts wf run = true)
    (hcount : (w.journal ++ [c]).countP (Commit.starts wf run) ≤ 1) :
    getRunState w.stream wf run = .ok none := by
  rw [List.countP_append, List.countP_singleton, if_pos hc] at hcount
  exact getRunState_of_not_started h (by omega)

/-- Serialised run states. Take a run that has been started at most once, in any world that any
interleaving of handler calls leads to, and any committed batch `c` with the batches `pre` before
it. Before the start has committed, `c` writes no state of the run. After it, a state in `c` was
planned from the state written immediately before. And once a terminal state has been written,
a batch of the run changes neither its state nor its description, timers, key-value pairs or
worker tasks. -/
theorem run_states_serialised {cfg : Manager.Config} {w : World} (h : Reachable cfg w) (wf : WFID)
    (run : RunID) (hstart : w.journal.countP (Commit.starts wf run) ≤ 1)
    (pre post : List Commit) (c : Commit) (hsplit : w.journal = pre ++ c :: post) :
    ((∀ c' ∈ pre, c'.starts wf run = false) → c.starts wf run = false → c.states wf run = []) ∧
    (c.states wf run ≠ [] → c.starts wf run = false → (∃ s, c.states wf run = [s]) ∧
      (statesIn wf run pre).getLast? = some c.snapshot.runState.stored) ∧
    ((∃ s ∈ statesIn wf run pre, s.isTerminal = true) → c.directive.OfRun wf run →
      ∀ r ∈ c.records, ¬ r.changes wf run) := by
  have hserial := serial_of_reachableBy h wf run pre c post hsplit
  refine ⟨fun hpre hc => ?_, hserial.chained, hserial.silent ?_⟩
  · by_contra hne
    rcases hserial.started hne with hs | ⟨c', hc', hs⟩
    · simp [hc] at hs
    · simp [hpre c' hc'] at hs
  · rw [hsplit, List.append_cons, List.countP_append] at hstart
    omega

/-- A run that is started and then terminated. -/
def Sample.terminated : List Label :=
  .publish start :: handled 1 ++
    .publish (directive "stop" .terminate (.terminate "no longer needed")) :: handled 9

theorem run_states_serialised_terminated :
    ∃ c₁ c₂, (Sample.world Sample.terminated).journal = [c₁, c₂] ∧
      (∃ s, c₂.states "wf" "r1" = [s]) ∧
      (statesIn "wf" "r1" [c₁]).getLast? = some c₂.snapshot.runState.stored := by
  obtain ⟨hlength, hstarts, hc⟩ : (Sample.world Sample.terminated).journal.length = 2 ∧
      (Sample.world Sample.terminated).journal.countP (Commit.starts "wf" "r1") ≤ 1 ∧
      ∀ c ∈ (Sample.world Sample.terminated).journal.drop 1,
        c.states "wf" "r1" ≠ [] ∧ c.starts "wf" "r1" = false := by decide +kernel
  obtain ⟨c₁, c₂, hj⟩ := List.length_eq_two.mp hlength
  rw [hj] at hc
  have hc₂ := hc c₂ (List.mem_singleton_self c₂)
  have h := run_states_serialised (Sample.reachable_world Sample.terminated) "wf" "r1" hstarts
    [c₁] [] c₂ hj
  exact ⟨c₁, c₂, hj, h.2.1 hc₂.1 hc₂.2⟩

end Grctl
