import Grctl.System.Provenance

/-!
# What the record of a run keeps

The record of a run is overwritten as a whole, from a copy that a directive carries. A copy that was
made before the run was started lacks the start time, and the creation time as well if the client
did not set one. Steps and events that are dispatched are given the start time of the run state; the
builders that end a run have no such repair. Completing and failing refuse a copy without a start
time, but a termination goes through and the start time is lost.

So the record keeps its facts in the runs in which terminations carry a start time, and the events
that are dispatched carry a creation time.

## Main definitions

* `RunInfo.Keeps`: a later description keeps what an earlier one has.
* `FactGuard`: the conditions on terminations, events and the creation of the run.

## Main results

* `run_record_keeps_facts`: the record keeps its facts.
* `terminate_loses_startedAt`: a termination that was accepted before the start loses them.
-/

namespace Grctl

open SubjectLog Lts

namespace RunInfo

/-- What a later description of a run keeps of an earlier one: type and parents, and the times that
are set. -/
structure Keeps (old new : RunInfo) : Prop where
  wfType : new.wfType = old.wfType
  parentWFID : new.parentWFID = old.parentWFID
  parentRunID : new.parentRunID = old.parentRunID
  parentCallbackStep : new.parentCallbackStep = old.parentCallbackStep
  createdAt : old.createdAt.isZero = false → new.createdAt = old.createdAt
  startedAt : old.startedAt.isSome = true → new.startedAt = old.startedAt

/-- A description without what changes in the course of a run. -/
def facts (ri : RunInfo) : RunInfo :=
  { ri with status := .other "", completedAt := none, historySeqID := 0 }

theorem keeps_of_facts_eq {a b : RunInfo} (h : b.facts = a.facts) : Keeps a b := by
  simp only [facts, mk.injEq] at h
  obtain ⟨-, -, htype, -, -, hwf, -, hrun, hstep, -, hcreated, -, hstarted, -⟩ := h
  exact ⟨htype, hwf, hrun, hstep, fun _ => hcreated, fun _ => hstarted⟩

theorem Keeps.trans {a b c : RunInfo} (h : Keeps a b) (h' : Keeps b c) : Keeps a c where
  wfType := h'.wfType.trans h.wfType
  parentWFID := h'.parentWFID.trans h.parentWFID
  parentRunID := h'.parentRunID.trans h.parentRunID
  parentCallbackStep := h'.parentCallbackStep.trans h.parentCallbackStep
  createdAt hset := by
    have hb := h.createdAt hset
    exact (h'.createdAt (hb ▸ hset)).trans hb
  startedAt hset := by
    have hb := h.startedAt hset
    exact (h'.startedAt (hb ▸ hset)).trans hb

theorem createdAt_of_facts_eq {a b : RunInfo} (h : a.facts = b.facts) :
    a.createdAt = b.createdAt := by
  have hcreated : a.facts.createdAt = b.facts.createdAt := by rw [h]
  exact hcreated

theorem startedAt_of_facts_eq {a b : RunInfo} (h : a.facts = b.facts) :
    a.startedAt = b.startedAt := by
  have hstarted : a.facts.startedAt = b.facts.startedAt := by rw [h]
  exact hstarted

section Started

variable {f ri src : RunInfo} {t t' : Time} {cur : RunState}

/-- The facts of a run that has just been started. -/
theorem facts_of_start (h : f.start t = .ok ri) :
    ri.facts = { (f.withCreatedAt t).facts with startedAt := some t } := by
  cases h
  rfl

theorem createdAt_of_start (h : f.start t = .ok ri) (ht : t.isZero = false) :
    ri.createdAt.isZero = false := by
  cases h
  unfold withCreatedAt
  split_ifs with hf
  · exact ht
  · simpa using hf

/-- Starting a run keeps the facts of a description without a start time. -/
theorem keeps_of_start (h : f.start t = .ok ri) (hf : f.startedAt = none) : Keeps f ri := by
  cases h
  unfold withCreatedAt
  split_ifs with hzero
  · exact ⟨rfl, rfl, rfl, rfl, by simp [hzero], by simp [hf]⟩
  · exact ⟨rfl, rfl, rfl, rfl, fun _ => rfl, by simp [hf]⟩

theorem withCreatedAt_eq_self (h : ri.createdAt.isZero = false) : ri.withCreatedAt t = ri := by
  simp [withCreatedAt, h]

theorem facts_repaired (src : RunInfo) (cur : RunState) :
    (src.repaired cur).facts =
      { src.facts with startedAt := src.startedAt <|> cur.startedAt } := rfl

/-- Dispatching keeps the facts of a repaired description that has a creation time. -/
theorem facts_dispatched (h : src.createdAt.isZero = false) :
    (src.dispatched cur t).facts = (src.repaired cur).facts := by
  have hrepaired : (src.repaired cur).createdAt.isZero = false := h
  rw [dispatched, withCreatedAt_eq_self hrepaired]
  rfl

/-- Repairing a description that has a start time changes no fact. -/
theorem facts_repaired_of_startedAt (h : src.startedAt = some t) :
    (src.repaired cur).facts = src.facts := by
  rw [facts_repaired, h]
  exact congrArg (fun s => { src.facts with startedAt := s }) h.symm

/-- Repairing a description from before the start, with its creation time, gives the facts of the
started run. -/
theorem facts_repaired_of_start (h : f.start t = .ok ri) (hf : f.startedAt = none)
    (hcreated : f.createdAt.isZero = false) (hcur : cur.startedAt = some t) :
    (f.repaired cur).facts = ri.facts := by
  rw [facts_of_start h, withCreatedAt_eq_self hcreated, facts_repaired, hf, hcur]
  rfl

end Started

end RunInfo

/-! ### Copies that a batch goes back to -/

/-- A copy that a batch may go back to without losing a fact, where the run was created as `f` and
started as `ri`: it has the facts of the started run, or it is the description of an event from
before the start, with a creation time, or what has to have a start time. -/
inductive Lossless (f ri : RunInfo) : DirectiveKind → RunInfo → Prop
  | started {kind : DirectiveKind} {src : RunInfo} (h : src.facts = ri.facts) :
      Lossless f ri kind src
  | early (hcreated : f.createdAt.isZero = false) : Lossless f ri .event f
  | refused {kind : DirectiveKind} (hkind : kind = .cancel ∨ kind = .fail) : Lossless f ri kind f

section Stems

variable {f ri src x : RunInfo} {t : Time} {kind : DirectiveKind} {cur : RunState} {r : Record}

/-- What a record that goes back to `src` says about the run: the repaired description, or `src`
itself when the run waits or ends. -/
theorem Record.Stems.facts_eq (h : r.Stems kind src cur) (hx : r.target? = some x)
    (hcreated : src.createdAt.isZero = false) (hrepaired : (src.repaired cur).facts = ri.facts)
    (hplain : kind = .wait ∨ src.startedAt.isSome = true ∨ kind = .terminate →
      src.facts = ri.facts) : x.facts = ri.facts := by
  cases h with
  | dispatched =>
    cases hx
    rw [RunInfo.facts_dispatched hcreated, hrepaired]
  | task _ htask =>
    cases hx
    rw [htask, RunInfo.facts_dispatched hcreated, hrepaired]
  | stepTimer _ htimer =>
    cases hx
    rw [htimer, hrepaired]
  | waiting hkind =>
    cases hx
    exact hplain (.inl hkind)
  | waitTimer hkind htimer =>
    cases hx
    rw [htimer, hplain (.inl hkind)]
  | ended hended =>
    cases hx
    exact hplain (.inr hended)
  | other hr => cases (target?_eq_none hr).symm.trans hx

theorem Record.Stems.facts_of_started (h : r.Stems kind src cur) (hx : r.target? = some x)
    (hri : f.start t = .ok ri) (ht : t.isZero = false) (hsrc : src.facts = ri.facts) :
    x.facts = ri.facts := by
  have hcreated : src.createdAt.isZero = false := by
    rw [RunInfo.createdAt_of_facts_eq hsrc]
    exact RunInfo.createdAt_of_start hri ht
  have hstarted : src.startedAt = some t :=
    (RunInfo.startedAt_of_facts_eq hsrc).trans (RunInfo.sameRun_of_start hri).2.1
  exact h.facts_eq hx hcreated ((RunInfo.facts_repaired_of_startedAt hstarted).trans hsrc)
    fun _ => hsrc

/-- What goes back to the description of the run before its start: only events get that far. -/
theorem Record.Stems.facts_of_early (h : r.Stems .event f cur) (hx : r.target? = some x)
    (hri : f.start t = .ok ri) (hf : f.startedAt = none) (hcreated : f.createdAt.isZero = false)
    (hcur : cur.startedAt = some t) : x.facts = ri.facts := by
  refine h.facts_eq hx hcreated (RunInfo.facts_repaired_of_start hri hf hcreated hcur) ?_
  simp [hf]

theorem Record.Stems.not_refused (h : r.Stems kind f cur) (hx : r.target? = some x)
    (hf : f.startedAt = none) (hkind : kind = .cancel ∨ kind = .fail) : False := by
  cases h with
  | dispatched hk => rcases hkind with rfl | rfl <;> cases hk
  | task hk => rcases hkind with rfl | rfl <;> cases hk
  | stepTimer hk => rcases hkind with rfl | rfl <;> cases hk
  | waiting hk => rcases hkind with rfl | rfl <;> cases hk
  | waitTimer hk => rcases hkind with rfl | rfl <;> cases hk
  | ended hstarted => rcases hkind with rfl | rfl <;> simp [hf] at hstarted
  | other hr => cases (target?_eq_none hr).symm.trans hx

theorem Lossless.facts (h : Lossless f ri kind src) (hr : r.Stems kind src cur)
    (hx : r.target? = some x) (hri : f.start t = .ok ri) (ht : t.isZero = false)
    (hf : f.startedAt = none) (hcur : cur.startedAt = some t) : x.facts = ri.facts := by
  cases h with
  | started hsrc => exact hr.facts_of_started hx hri ht hsrc
  | early hcreated => exact hr.facts_of_early hx hri hf hcreated hcur
  | refused hkind => exact (hr.not_refused hx hf hkind).elim

end Stems

/-! ### The guard -/

section Guard

variable (wf : WFID) (run : RunID)

/-- A termination carries a start time, and the event that a wake-up dispatches a creation time. -/
def CarriesFacts (d : Directive) (sn : StateSnapshot) : Prop :=
  (d.kind = .terminate → d.runInfo.startedAt.isSome = true) ∧
    (d.kind = .wakeFromInbox → sn.event.id ≠ "" → sn.event.runInfo.createdAt.isZero = false)
  deriving Decidable

/-- The run is created once, the clock does not read zero, and what is planned for the run carries
the facts that its builder does not repair. -/
def RecordGuard (w : World) (a : Label) : Prop :=
  (∀ k ∈ a.saved?, ∀ info ∈ w.admitted[k]?, info.wfID = wf → info.id = run →
    runInfos wf run w.stream = []) ∧
  (∀ env ∈ a.readings?, env.now.isZero = false) ∧
  ∀ k ∈ a.finished?, ∀ p ∈ w.ready? k, p.1.OfRun wf run → CarriesFacts p.1 p.2
  deriving Decidable

/-- The conditions under which the record of a run keeps its facts. -/
def FactGuard (w : World) (a : Label) : Prop :=
  EchoGuard wf run w a ∧ RecordGuard wf run w a
  deriving Decidable

end Guard

/-! ### The record -/

/-- The descriptions of a run: before the start there is at most the one that it was created as, and
from then on all others, and those that workers and timers hold, have the facts of the started
run. -/
inductive Kept : List RunInfo → List RunInfo → Outcome (Option RunState) → Prop
  | absent : Kept [] [] (.ok none)
  | created {f : RunInfo} (hf : f.startedAt = none) : Kept [f] [] (.ok none)
  | started {f ri : RunInfo} {t : Time} {rest handed : List RunInfo} {s : RunState}
      (hf : f.startedAt = none) (hri : f.start t = .ok ri) (ht : t.isZero = false)
      (hrest : ∀ x ∈ rest, x.facts = ri.facts) (hhanded : ∀ x ∈ handed, x.facts = ri.facts)
      (hs : s.startedAt = some t) : Kept (f :: rest) handed (.ok (some s))

theorem Kept.pairwise {infos handed : List RunInfo} {state : Outcome (Option RunState)}
    (h : Kept infos handed state) : infos.Pairwise RunInfo.Keeps := by
  cases h with
  | absent => exact .nil
  | created => simp
  | @started f ri t rest _ _ hf hri _ hrest =>
    have hkeeps := RunInfo.keeps_of_start hri hf
    refine List.pairwise_cons.mpr ⟨fun x hx => ?_, ?_⟩
    · exact hkeeps.trans (RunInfo.keeps_of_facts_eq (hrest x hx))
    · exact List.pairwise_of_forall_mem_list fun x hx y hy =>
        RunInfo.keeps_of_facts_eq ((hrest y hy).trans (hrest x hx).symm)

section Record

variable {cfg : Manager.Config} {w : World} {wf : WFID} {run : RunID}

/-- A batch that goes back to a copy without losing a fact. -/
theorem Kept.append {f ri src : RunInfo} {t : Time} {kind : DirectiveKind} {cur s : RunState}
    {rest handed infos' handed' : List RunInfo} (hf : f.startedAt = none)
    (hri : f.start t = .ok ri) (ht : t.isZero = false) (hrest : ∀ x ∈ rest, x.facts = ri.facts)
    (hhanded : ∀ x ∈ handed, x.facts = ri.facts) (hs : s.startedAt = some t)
    (hcur : cur.startedAt = some t) (hsrc : Lossless f ri kind src)
    (h : Copied kind src cur infos' handed') :
    Kept (f :: rest ++ infos') (handed ++ handed') (.ok (some s)) := by
  refine .started hf hri ht (List.forall_mem_append.mpr ⟨hrest, fun x hx => ?_⟩)
    (List.forall_mem_append.mpr ⟨hhanded, fun x hx => ?_⟩) hs
  · obtain ⟨n, hstem⟩ := h.infos x hx
    exact hsrc.facts hstem rfl hri ht hf hcur
  · obtain ⟨r, hr, hstem⟩ := h.handed x hx
    exact hsrc.facts hstem (Record.target?_of_handsOn hr) hri ht hf hcur

/-- Nothing is lost by going back to what the guard lets through. -/
theorem Supplied.lossless {d : Directive} {sn : StateSnapshot} {kind : DirectiveKind}
    {src f ri : RunInfo} {rest : List RunInfo} (h : Supplied wf run w d sn kind src)
    (hinfos : runInfos wf run w.stream = f :: rest) (hf : f.startedAt = none)
    (hrest : ∀ x ∈ rest, x.facts = ri.facts)
    (hhanded : ∀ x ∈ handedOn wf run w.journal, x.facts = ri.facts) (hd : CarriesFacts d sn) :
    Lossless f ri kind src := by
  cases h with
  | event hkind hevent hmem =>
    have hcreated := hd.2 hkind hevent.1
    rcases List.mem_cons.mp (hinfos ▸ hmem) with hsrc | hmem
    · exact hsrc ▸ .early (hsrc ▸ hcreated)
    · exact .started (hrest _ hmem)
  | terminate hkind hmem =>
    have hstarted := hd.1 hkind
    rcases List.mem_cons.mp (hinfos ▸ hmem) with hsrc | hmem
    · simp [hsrc, hf] at hstarted
    · exact .started (hrest _ hmem)
  | command hkind hmem =>
    rcases List.mem_cons.mp (hinfos ▸ hmem) with rfl | hmem
    · exact .refused hkind
    · exact .started (hrest _ hmem)
  | echoed hri =>
    have hfacts := hhanded _ hri
    exact .started hfacts

theorem kept_of_reachableBy (h : ReachableBy cfg (FactGuard wf run) w)
    (hstart : w.journal.countP (Commit.starts wf run) ≤ 1) :
    Kept (runInfos wf run w.stream) (handedOn wf run w.journal) (getRunState w.stream wf run) := by
  refine copies_invariant h (fun _ _ hok => hok.1) hstart .absent ?_ ?_ ?_
  · intro w k info hok hinfo hwf hid ih
    have hnone : info.startedAt = none := hok.1.1.2 k rfl info hinfo hwf hid
    rw [show runInfos wf run w.stream = [] from hok.2.1 k rfl info hinfo hwf hid] at ih ⊢
    generalize handedOn wf run w.journal = handed, getRunState w.stream wf run = state at ih ⊢
    cases ih with
    | absent => exact .created hnone
  · intro w k d sn env failEnv ack infos handed s ri hok _ hmem hri hcopied hs ih
    generalize runInfos wf run w.stream = stored, handedOn wf run w.journal = held at ih hmem ⊢
    cases ih with
    | absent => cases hmem
    | created hf =>
      cases List.mem_singleton.mp hmem
      exact Kept.append hf hri (hok.2.2.1 env rfl) (by simp) (by simp) hs rfl (.started rfl) hcopied
  · intro w k d sn env failEnv ack infos handed s hok hready hrun hcopied hs ih
    have hfacts := hok.2.2.2 k rfl _ hready hrun
    generalize hinfos : runInfos wf run w.stream = stored at ih ⊢
    generalize hheld : handedOn wf run w.journal = held at ih ⊢
    cases ih with
    | started hf hri ht hrest hhanded hs₀ =>
      rcases hcopied with ⟨rfl, rfl⟩ | ⟨kind, src, hsrc, hcopied⟩
      · simpa using .started hf hri ht hrest hhanded (hs.trans hs₀)
      · exact Kept.append hf hri ht hrest hhanded (hs.trans hs₀) hs₀
          (hsrc.lossless hinfos hf hrest (hheld ▸ hhanded) hfacts) hcopied

/-- The record of a run keeps its facts. Take a run that is created and started once and whose
surroundings do not make descriptions up, although the copies in circulation may be of any age. If
terminations carry a start time and the events that are dispatched are of the run and carry a
creation time, every stored description of the run keeps the type, the parents, and the times that
any description before it has. -/
theorem run_record_keeps_facts (h : ReachableBy cfg (FactGuard wf run) w)
    (hstart : w.journal.countP (Commit.starts wf run) ≤ 1) :
    (runInfos wf run w.stream).Pairwise RunInfo.Keeps :=
  (kept_of_reachableBy h hstart).pairwise

end Record

namespace Sample

/-- A run that another one waits for, with a creation time. -/
def dependent : RunInfo :=
  { run with
    parentWFID := some "boss"
    parentRunID := some "b1"
    parentCallbackStep := some "collect"
    createdAt := 500000 }

/-- The same run once it has been started. -/
def startedDependent : RunInfo := { dependent with status := .running, startedAt := some 1000000 }

/-- An event is accepted before the run is started, and dispatched when the run waits. The run is
then terminated. -/
def dependentEnds : List Label :=
  .admitRun dependent :: .saveRun 0 :: .publish { start with runInfo := dependent } ::
    .publish { event "pay" with runInfo := dependent } :: handled 2 ++ handled 3 ++
    .publish { stepResult "done" .wait (.wait 0 "") with runInfo := startedDependent } ::
    handled 13 ++ handled 20 ++
    .publish { directive "stop" .terminate (.terminate "") with
      runInfo := { startedDependent with historySeqID := 19 } } :: handled 25

end Sample

theorem run_record_keeps_facts_dependent :
    ∃ last, (runInfos "wf" "r1"
        (Sample.worldBy (FactGuard "wf" "r1") Sample.dependentEnds).stream).getLast? =
      some last ∧ last.status = .terminated ∧ Sample.dependent.Keeps last ∧
      Sample.startedDependent.Keeps last := by
  have hreach := Sample.reachableBy_worldBy (FactGuard "wf" "r1") Sample.dependentEnds
  obtain ⟨hstarts, hinfos⟩ :
      (Sample.worldBy (FactGuard "wf" "r1") Sample.dependentEnds).journal.countP
        (Commit.starts "wf" "r1") ≤ 1 ∧
      runInfos "wf" "r1" (Sample.worldBy (FactGuard "wf" "r1") Sample.dependentEnds).stream =
        [Sample.dependent, Sample.startedDependent, Sample.startedDependent,
          { Sample.startedDependent with historySeqID := 13 },
          { Sample.startedDependent with historySeqID := 19 },
          { Sample.startedDependent with
            historySeqID := 19, status := .terminated, completedAt := some 2000000 }] := by
    decide +kernel
  have hkeeps := run_record_keeps_facts hreach hstarts
  rw [hinfos] at hkeeps ⊢
  refine ⟨_, rfl, rfl, ?_, ?_⟩
  · exact (List.pairwise_cons.mp hkeeps).1 _ (by simp)
  · exact (List.pairwise_cons.mp (List.pairwise_cons.mp hkeeps).2).1 _ (by simp)

/-- The run is terminated by a command that was accepted before the start. -/
def Sample.earlyTermination : List Label :=
  .admitRun run :: .saveRun 0 :: .publish start ::
    .publish { directive "stop" .terminate (.terminate "") with runInfo := run } ::
    handled 2 ++ handled 3

/-- The termination writes down the description that it carries: the run has neither a start time
nor a creation time any more. -/
theorem terminate_loses_startedAt :
    ReachableBy Sample.config (CarriesCopies "wf" "r1")
      (Sample.worldBy (CarriesCopies "wf" "r1") Sample.earlyTermination) ∧
    (Sample.worldBy (CarriesCopies "wf" "r1") Sample.earlyTermination).journal.countP
      (Commit.starts "wf" "r1") = 1 ∧
    (runInfos "wf" "r1" (Sample.worldBy (CarriesCopies "wf" "r1")
      Sample.earlyTermination).stream).map (fun info => (info.createdAt, info.startedAt)) =
        [(0, none), (1000000, some 1000000), (1000000, some 1000000), (0, none)] := by
  refine ⟨Sample.reachableBy_worldBy _ _, ?_⟩
  decide +kernel

end Grctl
