import Grctl.System.CrossRun

/-!
# Run descriptions and run states

A run is described twice: `RunInfo` is what the commands of the service look at, `RunState` is what
planning looks at. They live on different subjects, and a run description is written without an
expected sequence, from the copy that a directive carries. But every batch that changes the kind
of a run state also describes the run anew, with the status that belongs to it, so that the two
agree in every reachable world.

## Main definitions

* `descriptions`, `runInfos`: the descriptions of the runs of a workflow, and those of one run.
* `Agrees`: the descriptions of a run fit its state.
* `SingleRun`: one run is created for a workflow, and every directive names it.

## Main results

* `getRunByWFID_eq_getLast?`: the lookup of the service finds the last description.
* `agrees_of_reachableBy`: the rule for the descriptions of one run.
* `run_info_agrees`: they fit the state of the run, for a workflow with a single run.
-/

namespace Grctl

open SubjectLog Lts

/-- The run description that a message carries, if it is one for `wf`. -/
def description? (wf : WFID) (m : Msg) : Option RunInfo :=
  match m.subject, m.data with
  | .runInfo _ wf' _, .runInfo info => if wf' = wf then some info else none
  | _, _ => none

/-- The descriptions of the runs of `wf`, in the order in which they were published. -/
def descriptions (wf : WFID) (l : Stream) : List RunInfo := l.messages.filterMap (description? wf)

/-- The descriptions of the run `run` of `wf`. -/
def runInfos (wf : WFID) (run : RunID) (l : Stream) : List RunInfo :=
  (descriptions wf l).filter fun info => info.id = run

/-- The descriptions that a batch adds to those of `wf`. -/
def describedBy (wf : WFID) (records : List Record) : List RunInfo :=
  (records.filterMap Record.runInfo?).filter fun info => info.wfID = wf

section Descriptions

variable {wf : WFID} {l : Stream}

theorem mem_filterMap_runInfo? {records : List Record} {info : RunInfo} :
    info ∈ records.filterMap Record.runInfo? ↔ ∃ n, Record.runInfo info n ∈ records := by
  rw [List.mem_filterMap]
  constructor
  · rintro ⟨r, hr, hinfo⟩
    cases r <;> cases hinfo
    exact ⟨_, hr⟩
  · rintro ⟨n, hr⟩
    exact ⟨_, hr, rfl⟩

theorem mem_describedBy {records : List Record} {info : RunInfo} :
    info ∈ describedBy wf records ↔ (∃ n, Record.runInfo info n ∈ records) ∧ info.wfID = wf := by
  rw [describedBy, List.mem_filter, mem_filterMap_runInfo?, decide_eq_true_eq]

theorem Record.filterMap_description? (r : Record) :
    r.messages.filterMap (description? wf) = describedBy wf [r] := by
  cases r with
  | runInfo info n =>
    by_cases h : info.wfID = wf <;> simp [messages, describedBy, runInfo?, description?, h]
  | kv =>
    simp [messages, describedBy, runInfo?, description?, List.filterMap_map, Function.comp_def]
  | _ => rfl

theorem filterMap_description?_messages (records : List Record) :
    (records.flatMap Record.messages).filterMap (description? wf) = describedBy wf records := by
  induction records with
  | nil => rfl
  | cons r records ih =>
    rw [List.flatMap_cons, List.filterMap_append, ih, r.filterMap_description?]
    simp only [describedBy, ← List.filter_append, ← List.filterMap_append, List.singleton_append]

theorem description?_eq_some {m : Msg} {info : RunInfo} (h : description? wf m = some info) :
    m.subject.describes wf = true ∧ m.data = .runInfo info := by
  rw [description?] at h
  split at h
  · rename_i hs hd
    split_ifs at h with hwf
    cases h
    exact ⟨by rw [hs, Subject.describes, hwf, beq_self_eq_true], hd⟩
  · cases h

/-- What is stored on the subject of a run description is one. -/
def CarriesInfo (wf : WFID) (m : Msg) : Prop :=
  m.subject.describes wf = true → (description? wf m).isSome = true

theorem Record.carriesInfo {r : Record} {m : Msg} (hm : m ∈ r.messages) : CarriesInfo wf m := by
  intro hs
  cases r <;> simp_all [messages, Directive.message, Directive.subject, Subject.describes,
    description?]
  grind

theorem Outside.carriesInfo {m : Msg} (hm : Outside m) : CarriesInfo wf m := by
  cases hm <;> simp [CarriesInfo, Directive.message, Directive.subject, Subject.describes,
    description?, runInfoMessage]

theorem CarriesInfo.describes_eq_false {m : Msg} (h : CarriesInfo wf m)
    (hm : description? wf m = none) : m.subject.describes wf = false := by
  rw [← Bool.not_eq_true]
  intro hs
  simpa [hm] using h hs

theorem descriptions_appendAll (wf : WFID) (l : Stream) (ms : List Msg) :
    descriptions wf (l.appendAll ms) = descriptions wf l ++ ms.filterMap (description? wf) := by
  rw [descriptions, Log.messages_appendAll, List.filterMap_append]
  rfl

/-- The latest description stays the last one when messages are stored. -/
theorem getRunByWFID_of_appendAll (h : getRunByWFID l wf = .ok (descriptions wf l).getLast?)
    {ms : List Msg} (hms : ∀ m ∈ ms, CarriesInfo wf m) :
    getRunByWFID (l.appendAll ms) wf = .ok (descriptions wf (l.appendAll ms)).getLast? := by
  rw [descriptions_appendAll]
  rcases List.eq_nil_or_concat (ms.filterMap (description? wf)) with hnil | ⟨pre, info, hconcat⟩
  · rw [hnil, List.append_nil, ← h]
    exact getRunByWFID_appendAll_of_not fun m hm =>
      (hms m hm).describes_eq_false (List.filterMap_eq_nil_iff.mp hnil m hm)
  · rw [List.concat_eq_append] at hconcat
    rw [hconcat, ← List.append_assoc, List.getLast?_concat]
    obtain ⟨a, b, rfl, -, hb⟩ := List.filterMap_eq_append_iff.mp hconcat
    obtain ⟨b₁, m, b₂, rfl, -, hm, hnone⟩ := List.filterMap_eq_cons_iff.mp hb
    obtain ⟨hs, hdata⟩ := description?_eq_some hm
    rw [← List.append_assoc]
    refine getRunByWFID_appendAll l _ _ hs hdata fun m' hm' => ?_
    exact (hms m' (by simp [hm'])).describes_eq_false (List.filterMap_eq_nil_iff.mp hnone m' hm')

end Descriptions

/-- The lookup of the service finds the last description of a workflow. -/
theorem getRunByWFID_eq_getLast? {cfg : Manager.Config} {ok : World → Label → Prop} {w : World}
    (h : ReachableBy cfg ok w) (wf : WFID) :
    getRunByWFID w.stream wf = .ok (descriptions wf w.stream).getLast? := by
  refine stored_invariant (P := fun l _ => getRunByWFID l wf = .ok (descriptions wf l).getLast?) h
    rfl ?_ ?_ ?_
  · intro l _ m ih hm
    exact getRunByWFID_of_appendAll ih (by simpa using hm.carriesInfo)
  · intro l _ p ih hp
    rw [descriptions, Log.messages_purge, ← descriptions, ← ih]
    refine getRunByWFID_congr (Log.lastWhere_purge _ fun s hs => ?_)
    rw [← Bool.not_eq_true]
    intro hps
    have := hp s hps
    cases s <;> simp_all [Subject.isResidue, Subject.describes]
  · intro w _ _ records _ _ ih _
    refine getRunByWFID_of_appendAll ih fun m hm => ?_
    obtain ⟨r, -, hm⟩ := List.mem_flatMap.mp hm
    exact Record.carriesInfo hm

/-- What a step does to the descriptions of the runs of `wf`. -/
inductive InfoChange (cfg : Manager.Config) (w : World) (wf : WFID) : Label → Stream → Prop
  | same {a : Label} {l : Stream} (hinfos : descriptions wf l = descriptions wf w.stream)
      (hstates : ∀ run, getRunState l wf run = getRunState w.stream wf run) :
      InfoChange cfg w wf a l
  | created {k : ℕ} {info : RunInfo} {l : Stream} (hinfo : w.admitted[k]? = some info)
      (hwf : info.wfID = wf) (hinfos : descriptions wf l = descriptions wf w.stream ++ [info])
      (hstates : ∀ run, getRunState l wf run = getRunState w.stream wf run) :
      InfoChange cfg w wf (.saveRun k) l
  | batch {k : ℕ} {c : Call} {sn : StateSnapshot} {records : List Record} {l : Stream}
      {env failEnv : Readings} {ack : Bool} (hc : w.calls[k]? = some c)
      (hb : Batch cfg w c sn records l)
      (hinfos : descriptions wf l = descriptions wf w.stream ++ describedBy wf records) :
      InfoChange cfg w wf (.finish k env failEnv ack) l

theorem infoChange_of_saveRun {cfg : Manager.Config} {w : World} {k : ℕ} {info : RunInfo}
    (hinfo : w.admitted[k]? = some info) (htaken : info.Taken) (wf : WFID) :
    InfoChange cfg w wf (.saveRun k) (w.stream.append (runInfoMessage info)) := by
  have hstates (run : RunID) : getRunState (w.stream.append (runInfoMessage info)) wf run =
      getRunState w.stream wf run := getRunState_append_outside (.runInfo htaken)
  by_cases hwf : info.wfID = wf
  · refine .created hinfo hwf ?_ hstates
    simp [Log.append, descriptions_appendAll, description?, runInfoMessage, hwf]
  · refine .same ?_ hstates
    simp [Log.append, descriptions_appendAll, description?, runInfoMessage, hwf]

theorem infoChange_of_step {cfg : Manager.Config} {w w' : World} {a : Label}
    (h : step cfg w a = some w') (wf : WFID) : InfoChange cfg w wf a w'.stream := by
  have appended {m : Msg} (hm : Outside m) (hnone : description? wf m = none) :
      InfoChange cfg w wf a (w.stream.append m) := by
    refine .same ?_ fun run => getRunState_append_outside hm
    simp [Log.append, descriptions_appendAll, hnone]
  have purged {p : Subject → Bool} (hp : ∀ s, p s = true → s.isResidue = true) :
      InfoChange cfg w wf a (w.stream.purge p) := by
    refine .same ?_ fun run => getRunState_purge_residue hp
    rw [descriptions, Log.messages_purge]
    rfl
  have heffect := effect_of_step h
  cases heffect with
  | publish hd htaken => exact appended (.directive hd htaken) rfl
  | saveRun hinfo htaken => exact infoChange_of_saveRun hinfo htaken wf
  | recordHistory hh htaken => exact appended (.history hh htaken) rfl
  | commit hc hb =>
    refine .batch hc hb ?_
    rw [eq_appendAll_of_commit hb.commit, descriptions_appendAll, filterMap_description?_messages]
  | cancelTimer => exact purged Subject.isResidue_of_beq_timer
  | fire => exact purged Subject.isResidue_of_beq_timer
  | purgeNext => exact purged fun s => PurgePattern.isResidue_of_covers
  | _ => exact .same rfl fun _ => rfl

/-! ### The descriptions of a batch -/

/-- The event that a wake-up is about to dispatch belongs to the run of the wake-up. -/
def OwnEvent (d : Directive) (sn : StateSnapshot) : Prop :=
  d.kind = .wakeFromInbox → sn.event.id ≠ "" → sn.event.runInfo.id = d.runInfo.id

instance (d : Directive) (sn : StateSnapshot) : Decidable (OwnEvent d sn) :=
  inferInstanceAs (Decidable (_ → _ → _))

section Batch

variable {cfg : Manager.Config} {w : World} {c : Call} {sn : StateSnapshot}
  {records : List Record} {l : Stream} {wf : WFID} {run : RunID}

/-- A batch is for the run of its directive, as long as no event of another run is dispatched. -/
theorem Batch.target_run (hw : Sound w) (hb : Batch cfg w c sn records l) {r : Record}
    (hmem : r ∈ records) {info : RunInfo} (htarget : r.target? = some info) :
    info.wfID = c.directive.runInfo.wfID ∧
      (OwnEvent c.directive sn → info.id = c.directive.runInfo.id) := by
  rcases hb.target hw hmem htarget with ⟨hwf, hid⟩ | ⟨hkind, hevent, hri⟩
  · exact ⟨hwf, fun _ => hid⟩
  · exact ⟨hri.wfID.trans (hb.event_wfID hw hevent),
      fun hown => hri.id.trans (hown hkind hevent.1)⟩

theorem Batch.describes_run (hw : Sound w) (hb : Batch cfg w c sn records l) {info : RunInfo}
    {n : ℕ} (hmem : Record.runInfo info n ∈ records) :
    info.wfID = c.directive.runInfo.wfID ∧
      (OwnEvent c.directive sn → info.id = c.directive.runInfo.id) :=
  hb.target_run hw hmem rfl

theorem Batch.filter_describedBy (hw : Sound w) (hb : Batch cfg w c sn records l)
    (hrun : c.directive.OfRun wf run) (hown : OwnEvent c.directive sn) :
    (describedBy wf records).filter (fun info => info.id = run) =
      records.filterMap Record.runInfo? := by
  rw [describedBy, List.filter_filter, List.filter_eq_self]
  intro info hinfo
  obtain ⟨n, hmem⟩ := mem_filterMap_runInfo?.mp hinfo
  obtain ⟨hwf, hid⟩ := hb.describes_run hw hmem
  simp [hwf, hid hown, hrun.1, hrun.2]

theorem AllNotes.not_runInfo {records : List Record} (h : AllNotes records) {info : RunInfo} {n : ℕ}
    (hmem : Record.runInfo info n ∈ records) : False := by
  simpa [Record.isNote] using h _ hmem

/-- A transition describes the run with the status of the new state. -/
theorem Turn.status {d : Directive} {s : RunState} {notes body : List Record}
    (h : Turn d sn s notes body) {info : RunInfo} {n : ℕ}
    (hmem : Record.runInfo info n ∈ notes ++ body) : info.status = s.kind.status := by
  rcases List.mem_append.mp hmem with hmem | hmem
  · exact (h.noted.allNotes.not_runInfo hmem).elim
  · obtain ⟨ri, hbody, -⟩ := h.told
    exact hbody.fits _ hmem

/-- A transition that keeps quiet about the status does not change the kind of the state. -/
theorem Transition.kind_cases {d : Directive} {s : RunState} {body : List Record}
    (h : Transition d sn s body) :
    s.kind = sn.runState.kind ∨ (s.kind = .step ∨ s.kind = .wait ∨ s.isTerminal = true) ∧
      ∃ info n, Record.runInfo info n ∈ body := by
  cases h with
  | finish h hkind =>
    obtain ⟨-, -, -⟩ := h
    exact .inr ⟨.inr (.inr hkind), _, _, .head _⟩
  | dispatch h =>
    obtain ⟨-, -, -⟩ := h
    exact .inr ⟨.inl rfl, _, _, .tail _ (.head _)⟩
  | suspend h =>
    obtain ⟨-, -, -, -, -⟩ := h
    exact .inr ⟨.inr (.inl rfl), _, _, .head _⟩
  | pickUp => exact .inl rfl
  | park => exact .inl rfl

/-- The batch of a start describes the run twice. -/
theorem Planned.runInfos_of_start {d : Directive} (h : Planned d sn records)
    (hkind : d.kind = .start) (hne : records ≠ []) :
    ∃ i₁ i₂, records.filterMap Record.runInfo? = [i₁, i₂] := by
  cases h with
  | nothing => exact absurd rfl hne
  | @start _ _ ri _ input _ _ _ _ _ hinput hbody =>
    have hnil := filterMap_input_eq_nil (f := Record.runInfo?) hinput fun _ => rfl
    obtain ⟨-, -, -⟩ := hbody
    exact ⟨ri, _, by simp [List.filterMap_cons, Record.runInfo?, hnil]; rfl⟩
  | event _ hd => exact absurd (hkind.symm.trans hd) (by decide)
  | transition _ _ ht => exact absurd hkind ht.kind_ne.1

end Batch

/-! ### Agreement -/

/-- The descriptions of a run fit its state: either it has no state yet and is described at most
once, as it was created, or the last description has the status of the state. -/
inductive Agrees (wf : WFID) (run : RunID) (l : Stream) : Prop
  | created (hstate : getRunState l wf run = .ok none) (hlength : (runInfos wf run l).length ≤ 1)
      (hlive : ∀ info ∈ runInfos wf run l, info.isTerminal = false)
  | started {s : RunState} {info : RunInfo} (hstate : getRunState l wf run = .ok (some s))
      (hlast : (runInfos wf run l).getLast? = some info) (hlength : 2 ≤ (runInfos wf run l).length)
      (hkind : s.kind = .step ∨ s.kind = .wait ∨ s.isTerminal = true)
      (hstatus : info.status = s.kind.status)

section Agrees

variable {cfg : Manager.Config} {w : World} {c : Call} {sn : StateSnapshot}
  {records : List Record} {l l' : Stream} {wf : WFID} {run : RunID}

theorem Agrees.congr (h : Agrees wf run l) (hinfos : runInfos wf run l' = runInfos wf run l)
    (hstate : getRunState l' wf run = getRunState l wf run) : Agrees wf run l' := by
  cases h with
  | created hs hlength hlive =>
    exact .created (hstate.trans hs) (hinfos ▸ hlength) (hinfos ▸ hlive)
  | started hs hlast hlength hkind hstatus =>
    exact .started (hstate.trans hs) (hinfos ▸ hlast) (hinfos ▸ hlength) hkind hstatus

/-- New descriptions with the status of a new state, which there is one of unless the kind of the
state stays as it is. -/
theorem Agrees.describe (h : Agrees wf run l) {s₀ s : RunState} {k : ℕ} {infos : List RunInfo}
    (hold : getRunState l wf run = .ok (some s₀))
    (hnew : getRunState l' wf run = .ok (some { s with seqID := k }))
    (hinfos : runInfos wf run l' = runInfos wf run l ++ infos)
    (hstatus : ∀ info ∈ infos, info.status = s.kind.status)
    (hkind : s.kind = s₀.kind ∨
      (s.kind = .step ∨ s.kind = .wait ∨ s.isTerminal = true) ∧ infos ≠ []) :
    Agrees wf run l' := by
  cases h with
  | created hs => cases hs.symm.trans hold
  | @started _ info hs hlast hlength hkind₀ hstatus₀ =>
    cases hs.symm.trans hold
    have hlength' : 2 ≤ (runInfos wf run l').length := by
      rw [hinfos, List.length_append]
      omega
    have hkind' : s.kind = .step ∨ s.kind = .wait ∨ s.isTerminal = true := by
      rcases hkind with hkind | ⟨hkind, -⟩
      · simpa only [RunState.isTerminal, hkind] using hkind₀
      · exact hkind
    rcases List.eq_nil_or_concat infos with rfl | ⟨pre, last, rfl⟩
    · have hsame : s.kind = s₀.kind := hkind.resolve_right fun hne => hne.2 rfl
      refine .started hnew ?_ hlength' hkind' (hstatus₀.trans (by rw [hsame]))
      rw [hinfos, List.append_nil, hlast]
    · refine .started hnew ?_ hlength' hkind' (hstatus last (by simp))
      rw [hinfos, List.concat_eq_append, ← List.append_assoc, List.getLast?_concat]

theorem runInfos_append (run : RunID) {infos : List RunInfo}
    (h : descriptions wf l' = descriptions wf l ++ infos) :
    runInfos wf run l' = runInfos wf run l ++ infos.filter fun info => info.id = run := by
  rw [runInfos, h, List.filter_append]
  rfl

/-- The step lemma for batches. -/
theorem Agrees.batch (h : Agrees wf run w.stream) (hw : Sound w) (hb : Batch cfg w c sn records l)
    (hown : c.directive.runInfo.wfID = wf → OwnEvent c.directive sn)
    (hinfos : descriptions wf l = descriptions wf w.stream ++ describedBy wf records) :
    Agrees wf run l := by
  have hruns := runInfos_append run hinfos
  have hadvance := hb.advance hw wf run
  cases hadvance with
  | other hrun hsame =>
    refine h.congr ?_ hsame
    rw [hruns, List.append_right_eq_self, List.filter_eq_nil_iff]
    intro info hinfo hid
    obtain ⟨⟨n, hmem⟩, hwf⟩ := mem_describedBy.mp hinfo
    obtain ⟨hwf', hid'⟩ := hb.describes_run hw hmem
    exact hrun ⟨hwf' ▸ hwf, (hid' (hown (hwf' ▸ hwf))).symm.trans (of_decide_eq_true hid)⟩
  | @start s k hrun hkind _ hbegun hnew =>
    have hown' : OwnEvent c.directive sn := hown hrun.1
    obtain ⟨i₁, i₂, hi⟩ := (hw.planned hb).runInfos_of_start hkind (commit_eq_ok hb.commit).2.1
    rw [hb.filter_describedBy hw hrun hown', hi] at hruns
    obtain ⟨n, hmem⟩ := mem_filterMap_runInfo?.mp (hi ▸ List.mem_cons_of_mem i₁ List.mem_cons_self)
    exact .started hnew (by simp [hruns]) (by simp [hruns]) (.inl hbegun.kind)
      (hbegun.told.fits _ hmem)
  | event _ _ _ _ hrecords hsame =>
    refine h.congr ?_ hsame
    rw [hruns, hrecords, describedBy]
    split_ifs <;> simp [Record.runInfo?]
  | turn hrun _ _ hturn hrecords hold hnew =>
    rw [hb.filter_describedBy hw hrun (hown hrun.1)] at hruns
    refine h.describe hold hnew hruns (fun info hinfo => ?_) ?_
    · obtain ⟨n, hmem⟩ := mem_filterMap_runInfo?.mp hinfo
      exact hturn.status (hrecords ▸ hmem)
    · refine hturn.transition.kind_cases.imp_right fun ⟨hkind, info, n, hmem⟩ => ⟨hkind, ?_⟩
      have hmem' : Record.runInfo info n ∈ records := hrecords ▸ List.mem_append_right _ hmem
      exact List.ne_nil_of_mem (mem_filterMap_runInfo?.mpr ⟨n, hmem'⟩)

end Agrees

/-- The rule for the descriptions of one run: it is created once and not as one that has ended,
and no event of another run is dispatched. -/
theorem agrees_of_reachableBy {cfg : Manager.Config} {ok : World → Label → Prop} {w : World}
    {wf : WFID} {run : RunID} (h : ReachableBy cfg ok w)
    (hsave : ∀ w k info, ok w (.saveRun k) → w.admitted[k]? = some info → info.wfID = wf →
      info.id = run → info.isTerminal = false ∧ runInfos wf run w.stream = [])
    (hown : ∀ w k c sn env failEnv ack, ReachableBy cfg ok w → ok w (.finish k env failEnv ack) →
      w.calls[k]? = some c → c.phase = .ready sn → c.directive.runInfo.wfID = wf →
        OwnEvent c.directive sn) :
    Agrees wf run w.stream := by
  have hinit : Agrees wf run World.init.stream :=
    .created rfl (Nat.zero_le 1) fun info hinfo => by cases hinfo
  refine Reach.invariant (P := fun w => Agrees wf run w.stream) h hinit
    fun w a w' hr ih hok hstep => ?_
  cases infoChange_of_step hstep wf with
  | same hinfos hstates => exact ih.congr (by rw [runInfos, hinfos, runInfos]) (hstates run)
  | @created k info _ hinfo hwf hinfos hstates =>
    have hruns := runInfos_append run hinfos
    by_cases hid : info.id = run
    · obtain ⟨hlive, hnil⟩ := hsave w k info hok hinfo hwf hid
      rw [hnil] at hruns
      cases ih with
      | created hs =>
        refine .created ((hstates run).trans hs) ?_ ?_ <;> simp [hruns, hid, hlive]
      | started _ _ hlength => simp [hnil] at hlength
    · exact ih.congr (by simp [hruns, hid]) (hstates run)
  | @batch k c sn _ _ env failEnv ack hc hb hinfos =>
    exact ih.batch (sound_of_reachableBy hr) hb
      (hown w k c sn env failEnv ack hr hok hc hb.phase) hinfos

/-! ### A workflow with a single run -/

/-- Every directive for `wf` names the run `run`, and this run is created once, not as one that has
ended. -/
def SingleRun (wf : WFID) (run : RunID) (w : World) (a : Label) : Prop :=
  a.ForOneRun wf run ∧
  ∀ k ∈ a.saved?, ∀ info ∈ w.admitted[k]?, info.wfID = wf →
    info.id = run ∧ info.isTerminal = false ∧ descriptions wf w.stream = []
  deriving Decidable

section SingleRun

variable {cfg : Manager.Config} {w : World} {wf : WFID} {run : RunID}

theorem ownEvent_of_reachableBy {ok : World → Label → Prop} (h : ReachableBy cfg ok w)
    (hok : ∀ w a, ok w a → a.ForOneRun wf run) {c : Call} {sn : StateSnapshot} (hc : c ∈ w.calls)
    (hphase : c.phase = .ready sn) (hwf : c.directive.runInfo.wfID = wf) :
    OwnEvent c.directive sn := by
  intro _ hid
  have hw := sound_of_reachableBy h
  rw [((oneRun_of_reachableBy h hok).call hw hc hwf).2]
  rcases (hw.calls c hc).event sn hphase with hz | ⟨e, he, hs, hread, -⟩
  · exact absurd (by rw [hz]; rfl) hid
  · obtain ⟨d₀, ev, hdata, -, hsn⟩ := readInboxEntry_eq_ok hread
    rw [hsn]
    exact (inbox_ofRun h hok e he (hwf ▸ hs) d₀ hdata).2

theorem descriptions_eq_runInfos (h : ReachableBy cfg (SingleRun wf run) w) :
    descriptions wf w.stream = runInfos wf run w.stream := by
  suffices hall : ∀ info ∈ descriptions wf w.stream, info.id = run by
    rw [runInfos, List.filter_eq_self.mpr]
    exact fun info hinfo => decide_eq_true (hall info hinfo)
  refine Reach.invariant (P := fun w => ∀ info ∈ descriptions wf w.stream, info.id = run) h
    (fun info hinfo => by cases hinfo) fun w a w' hr ih hok hstep info hinfo => ?_
  cases infoChange_of_step hstep wf with
  | same hinfos => exact ih info (hinfos ▸ hinfo)
  | created hadmitted hwf hinfos =>
    rw [hinfos, List.mem_append, List.mem_singleton] at hinfo
    rcases hinfo with hinfo | rfl
    · exact ih info hinfo
    · exact (hok.2 _ rfl info hadmitted hwf).1
  | batch _ hb hinfos =>
    rw [hinfos, List.mem_append] at hinfo
    rcases hinfo with hinfo | hinfo
    · exact ih info hinfo
    · obtain ⟨⟨n, hmem⟩, hwf⟩ := mem_describedBy.mp hinfo
      have hw := sound_of_reachableBy hr
      obtain ⟨hwf', hid⟩ := hb.describes_run hw hmem
      have hok' (w : World) (a : Label) (h : SingleRun wf run w a) := h.1
      rw [hid (ownEvent_of_reachableBy hr hok' hb.call hb.phase (hwf' ▸ hwf))]
      exact ((oneRun_of_reachableBy hr hok').call hw hb.call (hwf' ▸ hwf)).2

/-- Whether a run has ended can be told from either record. -/
theorem RunStateKind.isTerminal_status (k : RunStateKind) : k.status.isTerminal = k.isTerminal := by
  cases k <;> rfl

end SingleRun

/-- `RunInfo` and `RunState` agree. For a workflow with a single run and any interleaving of calls,
in every reachable world: the lookup of the service finds the last description of the run; the run
has no state exactly while it is described at most once, as it was created; from then on its state
is `Step`, `Wait` or terminal and its description has the status that belongs to this kind. In
particular the two agree on whether the run has ended. -/
theorem run_info_agrees {cfg : Manager.Config} {w : World} {wf : WFID} {run : RunID}
    (h : ReachableBy cfg (SingleRun wf run) w) :
    getRunByWFID w.stream wf = .ok (runInfos wf run w.stream).getLast? ∧
    (getRunState w.stream wf run = .ok none ↔ (runInfos wf run w.stream).length ≤ 1) ∧
    (∀ info s, getRunByWFID w.stream wf = .ok (some info) →
      getRunState w.stream wf run = .ok (some s) →
        (s.kind = .step ∨ s.kind = .wait ∨ s.isTerminal = true) ∧ info.status = s.kind.status) ∧
    ∀ info, getRunByWFID w.stream wf = .ok (some info) →
      info.isTerminal = (currentState w.stream wf run).isTerminal := by
  have hlookup : getRunByWFID w.stream wf = .ok (runInfos wf run w.stream).getLast? := by
    rw [getRunByWFID_eq_getLast? h, descriptions_eq_runInfos h]
  have hagrees : Agrees wf run w.stream := by
    refine agrees_of_reachableBy h (fun w k info hok hinfo hwf _ => ?_)
      fun w k c sn _ _ _ hr _ hc hphase hwf => ?_
    · obtain ⟨-, hlive, hnil⟩ := hok.2 k rfl info hinfo hwf
      exact ⟨hlive, by rw [runInfos, hnil]; rfl⟩
    · exact ownEvent_of_reachableBy hr (fun _ _ h => h.1) (List.mem_of_getElem? hc) hphase
        hwf
  rw [hlookup]
  refine ⟨rfl, ?_⟩
  cases hagrees with
  | created hstate hlength hlive =>
    refine ⟨iff_of_true hstate hlength, fun info s _ hs => ?_, fun info hinfo => ?_⟩
    · cases hstate.symm.trans hs
    · rw [currentState_eq_getD hstate, hlive info (List.mem_of_getLast? (Except.ok.inj hinfo))]
      rfl
  | started hstate hlast hlength hkind hstatus =>
    refine ⟨iff_of_false (by simp [hstate]) (by omega), fun info s hinfo hs => ?_,
      fun info hinfo => ?_⟩
    · cases hstate.symm.trans hs
      cases hlast.symm.trans (Except.ok.inj hinfo)
      exact ⟨hkind, hstatus⟩
    · cases hlast.symm.trans (Except.ok.inj hinfo)
      rw [currentState_eq hstate, RunInfo.isTerminal, hstatus, RunStateKind.isTerminal_status]
      rfl

/-- A run that is created and started, and whose first step ends in a wait. -/
def Sample.createdWaiting : World :=
  worldBy (SingleRun "wf" "r1") ([.admitRun run, .saveRun 0] ++ .publish start :: handled 2 ++
    .publish (stepResult "done" .wait (.wait 0 "")) :: handled 10)

theorem run_info_agrees_waiting :
    (runInfos "wf" "r1" Sample.createdWaiting.stream).length = 4 ∧
    getRunState Sample.createdWaiting.stream "wf" "r1" ≠ .ok none ∧
    ∀ info, getRunByWFID Sample.createdWaiting.stream "wf" = .ok (some info) →
      info.isTerminal = (currentState Sample.createdWaiting.stream "wf" "r1").isTerminal := by
  have hlength : (runInfos "wf" "r1" Sample.createdWaiting.stream).length = 4 := by decide +kernel
  have hreach : ReachableBy Sample.config (SingleRun "wf" "r1") Sample.createdWaiting :=
    Sample.reachableBy_worldBy ..
  obtain ⟨-, hnone, -, hterminal⟩ := run_info_agrees hreach
  refine ⟨hlength, fun hstate => ?_, hterminal⟩
  have := hnone.mp hstate
  omega

end Grctl
