import Grctl.Natsreg.Lookup
import Grctl.Run.Closing
import Grctl.Run.Values
import Grctl.System.Silence

/-!
# What clients read of a run

The list of the runs, the lookups of a description, the history of a run and the flags for its
input, output and error are separate reads of one stream. They fit together in every reachable
world: the lookups answer from the list, the values that are stored for a run are those its history
tells, and a run that has ended has an error exactly if it has failed and an output only if it has
completed.

## Main definitions

* `storedValues wf run l`: the values stored for a run.
* `Commit.Concludes c`: the results in a batch fit the states in it.

## Main results

* `taken_of_reachableBy`: the subjects of the stored messages.
* `lookups_answer_from_list`: the list of the runs, and the three lookups.
* `history_tells_values`: the history of a run tells the values that are stored for it.
* `result_flags_fit_state`: the flags of a run and its state.
-/

namespace Grctl

open SubjectLog Lts

variable {cfg : Manager.Config} {w : World}

/-! ### Descriptions -/

theorem Record.keyed {r : Record} {m : Msg} (hm : m ∈ r.messages) : Msg.Keyed m := by
  intro hs
  cases r with
  | kv wfID runID kvMap =>
    obtain ⟨u, -, rfl⟩ := List.mem_map.mp hm
    cases hs
  | runInfo info n =>
    obtain rfl := List.mem_singleton.mp hm
    exact ⟨info, rfl, rfl⟩
  | _ =>
    obtain rfl := List.mem_singleton.mp hm
    cases hs

theorem Outside.keyed {m : Msg} (hm : Outside m) : Msg.Keyed m := by
  intro hs
  cases hm with
  | directive => cases hs
  | runInfo => exact ⟨_, rfl, rfl⟩
  | history => cases hs

/-- A property of single messages that holds of everything the server stores. -/
theorem forall_messages {ok : World → Label → Prop} {P : Msg → Prop} (h : ReachableBy cfg ok w)
    (houtside : ∀ m, Outside m → P m) (hrecord : ∀ r : Record, ∀ m ∈ r.messages, P m) :
    ∀ m ∈ w.stream.messages, P m := by
  intro m hm
  rcases mem_journal_of_mem_messages h m hm with hout | ⟨c, -, hc⟩
  · exact houtside m hout
  · obtain ⟨r, -, hr⟩ := List.mem_flatMap.mp hc
    exact hrecord r m hr

theorem keyed_of_reachableBy {ok : World → Label → Prop} (h : ReachableBy cfg ok w) :
    Keyed w.stream :=
  forall_messages h (fun _ => Outside.keyed) fun _ _ => Record.keyed

/-- The stream takes what it holds. -/
theorem taken_of_reachableBy {ok : World → Label → Prop} (h : ReachableBy cfg ok w) :
    ∀ m ∈ w.stream.messages, m.subject.Taken := by
  intro m hm
  rcases mem_journal_of_mem_messages h m hm with hout | ⟨c, hc, hm⟩
  · cases hout with
    | directive _ htaken => exact htaken
    | runInfo htaken => exact htaken
    | history _ htaken => exact htaken _ (List.mem_singleton_self _)
  · have hjournal := forall_mem_journal (Q := fun c => ∀ r ∈ c.records, r.Taken) h
      (fun w c sn records l _ hb _ hr => taken_of_commit hb.commit hr) c hc
    obtain ⟨r, hr, hm⟩ := List.mem_flatMap.mp hm
    exact hjournal r hr m hm

/-- The lookups agree with the list of the runs, for identifiers that are names. The subjects that
NATS compares are texts; the identifiers of the stored descriptions have no braces. The list has one
description for each key. A description is in the list exactly if its own key leads to it, and the
lookups by workflow and by run find the last one in the list that fits. -/
theorem lookups_answer_from_list (h : Reachable cfg w)
    (hplain : ∀ m ∈ w.stream.messages, m.subject.Plain) (it it' : Iteration) :
    ∃ runs, Lookup.listRuns it it' w.stream = .ok runs ∧
    (runs.map fun info => (info.wfType, info.wfID, info.id)).Nodup ∧
    (∀ info : RunInfo, IsName info.wfType → IsName info.wfID → IsName info.id →
      (info ∈ runs ↔ Lookup.getRunInfo it it' w.stream info.wfType info.wfID info.id =
        .ok (some info))) ∧
    (∀ wf, IsName wf →
      Lookup.getRunByWFID it it' w.stream wf = .ok (runs.filter (·.wfID == wf)).getLast?) ∧
    (∀ run, IsName run →
      Lookup.getRunByRunID it it' w.stream run = .ok (runs.filter (·.id == run)).getLast?) := by
  have hlegible : Legible w.stream := fun m hm => ⟨taken_of_reachableBy h m hm, hplain m hm⟩
  obtain ⟨runs, hruns, hnodup, hkey, hwf, hrun⟩ := (keyed_of_reachableBy h).listRuns_spec
  refine ⟨runs, ?_, hnodup, fun info hty hname hid => ?_, fun wf hname => ?_, fun run hname => ?_⟩
  · rw [hlegible.listRuns_eq it it', hruns]
  · rw [hlegible.getRunInfo_eq it it' hty hname hid, hkey]
  · rw [hlegible.getRunByWFID_eq it it' hname, hwf]
  · rw [hlegible.getRunByRunID_eq it it' hname, hrun]

/-- A run is started and terminated, a second run of its workflow is created, and then a run of
another workflow. -/
def Sample.severalRuns : List Label :=
  [.admitRun run, .saveRun 0] ++ .publish start :: handled 2 ++
    .publish (directive "stop" .terminate (.terminate "no longer needed")) :: handled 10 ++
    [.admitRun { run with id := "r2" }, .saveRun 0,
      .admitRun { run with id := "r3", wfID := "other" }, .saveRun 0]

/-- Of the three runs in the list, the lookup by workflow finds the second one of its own. -/
theorem lookups_answer_from_list_several :
    ∃ runs, Lookup.listRuns .written .reversed (Sample.world Sample.severalRuns).stream =
        .ok runs ∧
      runs.map (·.id) = ["r1", "r2", "r3"] ∧
      (runs.filter (·.wfID == "wf")).map (·.id) = ["r1", "r2"] ∧
      Lookup.getRunByWFID .written .reversed (Sample.world Sample.severalRuns).stream "wf" =
        .ok (some { Sample.run with id := "r2" }) ∧
      Lookup.getRunByRunID .written .reversed (Sample.world Sample.severalRuns).stream "r3" =
        .ok runs.getLast? := by
  have hlegible : Legible (Sample.world Sample.severalRuns).stream := by decide +kernel
  obtain ⟨runs, hruns, -, -, hwf, hrun⟩ :=
    lookups_answer_from_list (Sample.reachable_world Sample.severalRuns)
      (fun m hm => (hlegible m hm).2) .written .reversed
  obtain ⟨infos, hinfos, hids, hsame, hlast, hthird⟩ : ∃ infos,
      listRuns (Sample.world Sample.severalRuns).stream = .ok infos ∧
        infos.map (·.id) = ["r1", "r2", "r3"] ∧
        (infos.filter (·.wfID == "wf")).map (·.id) = ["r1", "r2"] ∧
        (infos.filter (·.wfID == "wf")).getLast? = some { Sample.run with id := "r2" } ∧
        (infos.filter (·.id == "r3")).getLast? = infos.getLast? := by
    refine ⟨_, rfl, ?_⟩
    decide +kernel
  cases (hruns.symm.trans (hlegible.listRuns_eq ..)).trans hinfos
  refine ⟨runs, hruns, hids, hsame, ?_, ?_⟩
  · rw [hwf "wf" (by decide +kernel), hlast]
  · rw [hrun "r3" (by decide +kernel), hthird]

/-! ### Values -/

/-- The value that a message stores. -/
def Msg.value? (m : Msg) : Option (RunKey × RunValue) :=
  match m.subject, m.data with
  | .runInput wfID runID, .value v => some ((wfID, runID), .input v)
  | .runOutput wfID runID, .value v => some ((wfID, runID), .output v)
  | .runError wfID runID, .error e => some ((wfID, runID), .error e)
  | _, _ => none

/-- The value that a message tells. -/
def Msg.told? (m : Msg) : Option (RunKey × RunValue) := m.data.history?.bind HistoryEvent.value?

/-- The values stored for a run, in the order in which they were stored. -/
def storedValues (wf : WFID) (run : RunID) (l : Stream) : List (RunKey × RunValue) :=
  (l.messages.filterMap Msg.value?).filter fun v => v.1 = (wf, run)

theorem Record.filterMap_value? (r : Record) :
    r.messages.filterMap Msg.value? = r.value?.toList := by
  cases r with
  | kv wfID runID kvMap =>
    refine List.filterMap_eq_nil_iff.mpr fun m hm => ?_
    obtain ⟨u, -, rfl⟩ := List.mem_map.mp hm
    rfl
  | _ => rfl

theorem Record.filterMap_told? (r : Record) : r.messages.filterMap Msg.told? = r.told?.toList := by
  cases r with
  | kv wfID runID kvMap =>
    refine List.filterMap_eq_nil_iff.mpr fun m hm => ?_
    obtain ⟨u, -, rfl⟩ := List.mem_map.mp hm
    rfl
  | history h =>
    change [_].filterMap Msg.told? = h.value?.toList
    cases hv : h.value? <;> simp [Msg.told?, Data.history?, hv]
  | _ => rfl

theorem filterMap_flatMap_messages {f : Msg → Option (RunKey × RunValue)}
    {g : Record → Option (RunKey × RunValue)}
    (h : ∀ r : Record, r.messages.filterMap f = (g r).toList) (records : List Record) :
    (records.flatMap Record.messages).filterMap f = records.filterMap g := by
  induction records with
  | nil => rfl
  | cons r records ih =>
    rw [List.flatMap_cons, List.filterMap_append, ih, h, List.filterMap_cons]
    cases g r <;> rfl

/-- The values that are stored are those that the histories tell, in the same order. -/
theorem filterMap_value?_eq_told? {ok : World → Label → Prop} (h : ReachableBy cfg ok w) :
    w.stream.messages.filterMap Msg.value? = w.stream.messages.filterMap Msg.told? := by
  refine stored_invariant (P := fun l _ =>
    l.messages.filterMap Msg.value? = l.messages.filterMap Msg.told?) h rfl ?_ ?_ ?_
  · intro l j m ih hm
    have hvalue : Msg.value? m = none := by cases hm <;> rfl
    have htold : Msg.told? m = none := by
      cases hm with
      | directive => rfl
      | runInfo => rfl
      | history hh =>
        exact HistoryEvent.value?_of_kind (by rw [hh]; rfl)
    rw [Log.append, Log.messages_appendAll, List.filterMap_append, List.filterMap_append, ih,
      List.filterMap_cons_none hvalue, List.filterMap_cons_none htold]
    rfl
  · intro l j p ih _
    simpa using ih
  · intro w c sn records l _ ih hb
    obtain ⟨env, failEnv, hrec⟩ := hb.planned
    rw [Log.messages_appendAll, List.filterMap_append, List.filterMap_append, ih,
      filterMap_flatMap_messages Record.filterMap_value?,
      filterMap_flatMap_messages Record.filterMap_told?, told_of_handleRecords hrec]

/-! ### The history of a run -/

/-- Only what runs leave behind is ever removed. -/
theorem live_of_not_isResidue {ok : World → Label → Prop} (h : ReachableBy cfg ok w) :
    ∀ e ∈ w.stream.entries, e.subject.isResidue = false → e.live = true := by
  refine stored_invariant (P := fun l _ => ∀ e ∈ l.entries, e.subject.isResidue = false →
    e.live = true) h (fun e he => by cases he) ?_ ?_ ?_
  · intro l j m ih _ e he hs
    rw [Log.append, Log.entries_appendAll] at he
    exact (List.mem_append.mp he).elim (fun he => ih e he hs) fun he => (mem_stamp he).2.1
  · intro l j p ih hp e he hs
    obtain ⟨e', he', rfl⟩ := List.mem_map.mp he
    by_cases hpe : p e'.subject = true
    · rw [if_pos hpe] at hs
      exact absurd (hp _ hpe) (by simpa using hs)
    · rw [if_neg hpe] at hs ⊢
      exact ih e' he' hs
  · intro w c sn records l _ ih _ e he hs
    rw [Log.entries_appendAll] at he
    exact (List.mem_append.mp he).elim (fun he => ih e he hs) fun he => (mem_stamp he).2.1

/-- An event is stored under the history of the run it names. -/
def Msg.Filed (m : Msg) : Prop :=
  ∀ wf run, m.subject = .history wf run ↔ ∃ h, m.data = .history h ∧ (h.wfID, h.runID) = (wf, run)

theorem Record.filed {r : Record} {m : Msg} (hm : m ∈ r.messages) : Msg.Filed m := by
  intro wf run
  cases r with
  | kv wfID runID kvMap =>
    obtain ⟨u, -, rfl⟩ := List.mem_map.mp hm
    simp
  | _ =>
    obtain rfl := List.mem_singleton.mp hm
    simp [Directive.message, Directive.subject]

theorem Outside.filed {m : Msg} (hm : Outside m) : Msg.Filed m := by
  intro wf run
  cases hm <;> simp [Directive.message, Directive.subject, runInfoMessage]

theorem HistoryEvent.key_of_value? {h : HistoryEvent} {v : RunKey × RunValue}
    (hv : h.value? = some v) : v.1 = (h.wfID, h.runID) := by
  obtain ⟨_, -, rfl⟩ := Option.map_eq_some_iff.mp hv
  rfl

theorem Msg.told?_eq_some {m : Msg} {v : RunKey × RunValue} (h : Msg.told? m = some v) :
    ∃ e, m.data = .history e ∧ v.1 = (e.wfID, e.runID) := by
  obtain ⟨e, he, hv⟩ := Option.bind_eq_some_iff.mp h
  refine ⟨e, ?_, HistoryEvent.key_of_value? hv⟩
  cases hdata : m.data <;> simp_all [Data.history?]

/-- The history of a run, where it fits into one batch, tells exactly the values that are stored for
the run. -/
theorem history_tells_values (h : Reachable cfg w) (wf : WFID) (run : RunID)
    (hlen : (w.stream.messages.filter (·.subject = .history wf run)).length ≤ historyBatch) :
    (getHistoryForRun w.stream wf run).filterMap HistoryEvent.value? =
      storedValues wf run w.stream := by
  have hfiled : ∀ m ∈ w.stream.messages, Msg.Filed m :=
    forall_messages h (fun _ => Outside.filed) fun _ _ => Record.filed
  -- no event of a history has been removed, so that the read sees all of them
  have hentries : (w.stream.entries.filter (Log.Entry.isOn (.history wf run))).map Entry.toMessage =
      w.stream.messages.filter (·.subject = .history wf run) := by
    rw [Log.messages, List.filter_map]
    refine congrArg _ (List.filter_congr fun e he => ?_)
    by_cases hs : e.subject = .history wf run
    · simp [Log.Entry.isOn, hs, live_of_not_isResidue h e he (by rw [hs]; rfl)]
    · simp [Log.Entry.isOn, hs]
  have hread : getHistoryForRun w.stream wf run =
      (w.stream.messages.filter (·.subject = .history wf run)).filterMap (·.data.history?) := by
    rw [← hentries, List.length_map] at hlen
    rw [getHistoryForRun, List.take_of_length_le hlen, ← hentries, List.filterMap_map]
    rfl
  rw [hread, storedValues, filterMap_value?_eq_told? h, List.filterMap_filterMap,
    List.filter_filterMap, List.filterMap_filter]
  refine List.filterMap_congr fun m hm => ?_
  cases hv : Msg.told? m with
  | none =>
    rw [Msg.told?] at hv
    simp [hv]
  | some v =>
    obtain ⟨e, hdata, hkey⟩ := Msg.told?_eq_some hv
    have hon : m.subject = .history wf run ↔ v.1 = (wf, run) := by
      rw [hfiled m hm wf run, hkey]
      simp [hdata]
    by_cases hs : v.1 = (wf, run)
    · rw [if_pos (decide_eq_true (hon.mpr hs)), Option.filter_some, if_pos (decide_eq_true hs)]
      exact hv
    · rw [if_neg (by simpa [hon] using hs), Option.filter_some, if_neg (by simpa using hs)]

/-- The first step of the run returns its result. -/
def Sample.returned : List Label :=
  .publish start :: handled 1 ++
    .publish (stepResult "done" .complete (.complete (.raw "paid"))) :: handled 9

/-- A run with an output, which the event at the end of its history tells. -/
theorem history_tells_values_returned :
    storedValues "wf" "r1" (Sample.world Sample.returned).stream =
        [(("wf", "r1"), .output (.raw "paid"))] ∧
      (getHistoryForRun (Sample.world Sample.returned).stream "wf" "r1").filterMap
          HistoryEvent.value? =
        storedValues "wf" "r1" (Sample.world Sample.returned).stream := by
  obtain ⟨hvalues, hlen⟩ :
      storedValues "wf" "r1" (Sample.world Sample.returned).stream =
        [(("wf", "r1"), .output (.raw "paid"))] ∧
      ((Sample.world Sample.returned).stream.messages.filter
        (·.subject = .history "wf" "r1")).length ≤ historyBatch := by decide +kernel
  exact ⟨hvalues, history_tells_values (Sample.reachable_world Sample.returned) "wf" "r1" hlen⟩

/-! ### The results of a run and its state -/

/-- The kind of the state that a result belongs to. -/
def RunValue.endKind? : RunValue → Option RunStateKind
  | .input _ => none
  | .output _ => some .complete
  | .error _ => some .fail

theorem HistoryEvent.kind_of_value? {h : HistoryEvent} {key : RunKey} {v : RunValue}
    {k : RunStateKind} (hv : h.value? = some (key, v)) (hk : v.endKind? = some k) :
    h.kind = k.closing ∧ k.isTerminal = true := by
  rw [value?] at hv
  obtain ⟨v', hv', heq⟩ := Option.map_eq_some_iff.mp hv
  cases heq
  split at hv'
  · obtain ⟨_, -, rfl⟩ := Option.map_eq_some_iff.mp hv'
    cases hk
  · rename_i hkind _
    obtain ⟨_, -, rfl⟩ := Option.map_eq_some_iff.mp hv'
    cases hk
    exact ⟨hkind, rfl⟩
  · rename_i hkind _
    cases hv'
    cases hk
    exact ⟨hkind, rfl⟩
  · cases hv'

theorem RunStateKind.closing_injective {k k' : RunStateKind} (hk : k.isTerminal = true)
    (hk' : k'.isTerminal = true) (h : k.closing = k'.closing) : k = k' := by
  revert hk hk' h
  cases k <;> cases k' <;> decide

theorem RunStateKind.closes_closing (k : RunStateKind) : k.closing.closes = true := by
  cases k <;> rfl

/-- The results in a batch fit the states in it: a result is that of the run of the batch and comes
with the end of the run, a failure comes with its error, and there is one end. -/
structure Commit.Concludes (c : Commit) : Prop where
  ofRun : ∀ wf run, c.states wf run ≠ [] → c.directive.OfRun wf run
  value : ∀ wf run v k, ((wf, run), v) ∈ c.records.filterMap Record.value? →
    v.endKind? = some k → ∃ s ∈ c.states wf run, s.kind = k
  failed : ∀ wf run, ∀ s ∈ c.states wf run, s.kind = .fail →
    ∃ e, ((wf, run), RunValue.error e) ∈ c.records.filterMap Record.value?
  final : ∀ wf run, ∀ s ∈ c.states wf run, ∀ s' ∈ c.states wf run, s.isTerminal = true →
    s'.isTerminal = true → s = s'

section Batch

variable {c : Call} {sn : StateSnapshot} {records : List Record} {l : Stream} {wf : WFID}
  {run : RunID}

theorem mem_of_mem_runStates {s : RunState} {n : ℕ}
    (h : (s, n) ∈ records.filterMap Record.runState?) : Record.runState s n ∈ records := by
  obtain ⟨r, hr, hs⟩ := List.mem_filterMap.mp h
  exact Record.runState?_eq_some.mp hs ▸ hr

theorem Batch.exists_terminal_of_closes (hw : Sound w) (hb : Batch cfg w c sn records l)
    {h : HistoryEvent} (hh : Record.history h ∈ records) (hcloses : h.kind.closes = true) :
    ∃ s n, Record.runState s n ∈ records ∧ s.isTerminal = true := by
  cases hb.advance hw c.directive.runInfo.wfID c.directive.runInfo.id with
  | other hrun => exact absurd ⟨rfl, rfl⟩ hrun
  | start _ _ hs hbegun =>
    have hlive := (hbegun.told.history h hh).1.symm.trans hcloses
    simp [hs.isTerminal] at hlive
  | event _ _ habout _ hrecords =>
    rw [hrecords] at hh
    split_ifs at hh <;> simp at hh <;> rw [hh, habout.kind] at hcloses <;> cases hcloses
  | @turn s _ notes body _ _ _ hturn hrecords =>
    rw [hrecords] at hh ⊢
    rcases List.mem_append.mp hh with hh | hh
    · simp [(hturn.noted.history h hh).1] at hcloses
    · obtain ⟨ri, hbody, -⟩ := hturn.told
      have hmem : (s, sn.runState.seqID) ∈ (notes ++ body).filterMap Record.runState? := by
        rw [hturn.runStates]
        exact List.mem_singleton_self _
      exact ⟨s, _, mem_of_mem_runStates hmem,
        (hbody.history h hh).1.symm.trans hcloses⟩

theorem Batch.closing_of_terminal (hb : Batch cfg w c sn records l) {s : RunState} {n : ℕ}
    (hs : Record.runState s n ∈ records) (hterm : s.isTerminal = true) :
    ∃ src, Closing src s records := by
  obtain ⟨env, failEnv, hrec⟩ := hb.planned
  rcases closes_of_handleRecords hrec with ⟨src, now, kind, hkind, -, hclosing⟩ | hgoesOn
  · exact ⟨src, hclosing.eq_of_mem hs ▸ hclosing⟩
  · simp [hgoesOn.live s n hs] at hterm

/-- A value that a batch stores is told by an event of its run. -/
theorem Batch.event_of_value (hw : Sound w) (hb : Batch cfg w c sn records l) {key : RunKey}
    {v : RunValue} (hv : (key, v) ∈ records.filterMap Record.value?) :
    key = c.directive.runInfo.key ∧ ∃ h, Record.history h ∈ records ∧ h.value? = some (key, v) := by
  obtain ⟨env, failEnv, hrec⟩ := hb.planned
  rw [told_of_handleRecords hrec] at hv
  obtain ⟨r, hr, hv⟩ := List.mem_filterMap.mp hv
  cases r <;> try cases hv
  rename_i h
  obtain ⟨hwf, hid⟩ := hb.history_ofRun hw hr
  refine ⟨?_, h, hr, hv⟩
  rw [show key = _ from HistoryEvent.key_of_value? hv, hwf, hid]
  rfl

theorem Batch.concludes (hw : Sound w) (hb : Batch cfg w c sn records l) :
    (w.commitOf c sn records).Concludes where
  ofRun wf run hne := by
    by_contra hrun
    exact hne (hb.states_eq_nil hw hrun)
  value wf run v k hv hk := by
    obtain ⟨hkey, h, hh, hvalue⟩ := hb.event_of_value hw hv
    obtain ⟨hkind, hterm⟩ := HistoryEvent.kind_of_value? hvalue hk
    have hcloses : h.kind.closes = true := hkind ▸ k.closes_closing
    obtain ⟨s, n, hs, hsterm⟩ := hb.exists_terminal_of_closes hw hh hcloses
    obtain ⟨src, hclosing⟩ := hb.closing_of_terminal hs hsterm
    -- the event that tells the value is the one that closes the history
    obtain ⟨h', _, _, hfilter, hkind', -⟩ := hclosing.event
    have hmem : h ∈ (records.filterMap Record.history?).filter fun h => h.kind.closes :=
      List.mem_filter.mpr ⟨List.mem_filterMap.mpr ⟨_, hh, rfl⟩, hcloses⟩
    rw [hfilter, List.mem_singleton] at hmem
    subst hmem
    obtain ⟨hwf, hid⟩ := hb.ofRun hw hs
    simp only [RunInfo.key, Prod.mk.injEq] at hkey
    refine ⟨s.stored, Commit.mem_states.mpr ⟨s, n, hs, ?_, ?_, rfl⟩, ?_⟩
    · rw [hwf, hkey.1]
    · rw [hid, hkey.2]
    · exact RunStateKind.closing_injective hsterm hterm (hkind'.symm.trans hkind)
  failed wf run s hs hkind := by
    obtain ⟨s₀, n, hs₀, rfl, rfl, rfl⟩ := Commit.mem_states.mp hs
    obtain ⟨src, hclosing⟩ := hb.closing_of_terminal hs₀ (by
      rw [RunState.isTerminal, show s₀.kind = .fail from hkind]
      rfl)
    obtain ⟨e, he⟩ := List.exists_mem_of_ne_nil _ (hclosing.errors.mpr hkind)
    obtain ⟨r, hr, he⟩ := List.mem_filterMap.mp he
    cases r <;> try cases he
    have hv : _ ∈ records.filterMap Record.value? := List.mem_filterMap.mpr ⟨_, hr, rfl⟩
    obtain ⟨hkey, -⟩ := hb.event_of_value hw hv
    obtain ⟨hwf, hid⟩ := hb.ofRun hw hs₀
    rw [hkey, RunInfo.key, ← hwf, ← hid] at hv
    exact ⟨_, hv⟩
  final wf run s hs s' hs' hterm hterm' := by
    obtain ⟨s₀, n, hs₀, -, -, rfl⟩ := Commit.mem_states.mp hs
    obtain ⟨s₀', n', hs₀', -, -, rfl⟩ := Commit.mem_states.mp hs'
    obtain ⟨src, hclosing⟩ := hb.closing_of_terminal hs₀ hterm
    rw [hclosing.eq_of_mem hs₀']

end Batch

theorem concludes_of_reachableBy {ok : World → Label → Prop} (h : ReachableBy cfg ok w) :
    ∀ c ∈ w.journal, c.Concludes :=
  forall_mem_journal h fun _ _ _ _ _ hr hb => hb.concludes (sound_of_reachableBy hr)

/-- The end that a batch of a run brings is the state of the run from then on. -/
theorem kind_of_ended (h : Reachable cfg w) {wf : WFID} {run : RunID}
    (hstart : w.journal.countP (Commit.starts wf run) ≤ 1) {c : Commit} (hc : c ∈ w.journal)
    {s : RunState} (hs : s ∈ c.states wf run) (hterm : s.isTerminal = true) :
    (currentState w.stream wf run).kind = s.kind := by
  have hconcludes := concludes_of_reachableBy h
  have hserial := serial_of_reachableBy h wf run
  obtain ⟨last, hlast, hlterm⟩ :=
    absorbing_of_along hserial hstart ⟨s, List.mem_flatMap.mpr ⟨c, hc, hs⟩, hterm⟩
  obtain ⟨c', hc', hlast'⟩ := List.mem_flatMap.mp (List.mem_of_getLast? hlast)
  obtain rfl := eq_of_terminal_states hserial hstart hc hc'
    ((hconcludes c hc).ofRun wf run (List.ne_nil_of_mem hs))
    ((hconcludes c' hc').ofRun wf run (List.ne_nil_of_mem hlast')) ⟨s, hs, hterm⟩
    ⟨last, hlast', hlterm⟩
  obtain rfl := (hconcludes c hc).final wf run s hs last hlast' hterm hlterm
  obtain ⟨s', hget, hstored⟩ := journaled_of_reachableBy h wf run
  rw [hlast, Option.map_eq_some_iff] at hstored
  obtain ⟨s', rfl, rfl⟩ := hstored
  rw [currentState_eq hget]
  rfl

/-- A message of a subject that only batches write comes from one. -/
theorem exists_record_of_lastOn (h : Reachable cfg w) {s : Subject}
    (hs : ∀ m, Outside m → m.subject ≠ s) (hlast : (w.stream.lastOn s).isSome = true) :
    ∃ c ∈ w.journal, ∃ r ∈ c.records, ∃ m ∈ r.messages, m.subject = s := by
  obtain ⟨e, he⟩ := Option.isSome_iff_exists.mp hlast
  obtain ⟨hmem, -, hsubject⟩ := Log.mem_of_lastOn he
  rcases mem_journal_of_mem_messages h e.toMessage (List.mem_map_of_mem hmem) with
    hout | ⟨c, hc, hm⟩
  · exact absurd hsubject (hs _ hout)
  · obtain ⟨r, hr, hm⟩ := List.mem_flatMap.mp hm
    exact ⟨c, hc, r, hr, _, hm, hsubject⟩

/-- A run that has been started once has an error exactly if its state is a failure, and an output
only if its state is a completion. -/
theorem result_flags_fit_state (h : Reachable cfg w) (wf : WFID) (run : RunID)
    (hstart : w.journal.countP (Commit.starts wf run) ≤ 1) :
    (hasRunError w.stream wf run = true ↔ (currentState w.stream wf run).kind = .fail) ∧
      (hasRunOutput w.stream wf run = true → (currentState w.stream wf run).kind = .complete) := by
  have hconcludes := concludes_of_reachableBy h
  -- a stored result comes with the end of the run that it belongs to
  have ended {c : Commit} (hc : c ∈ w.journal) {v : RunValue} {k : RunStateKind}
      (hv : ((wf, run), v) ∈ c.records.filterMap Record.value?) (hk : v.endKind? = some k)
      (hterm : k.isTerminal = true) : (currentState w.stream wf run).kind = k := by
    obtain ⟨s, hs, rfl⟩ := (hconcludes c hc).value wf run v k hv hk
    exact kind_of_ended h hstart hc hs hterm
  refine ⟨⟨fun herror => ?_, fun hkind => ?_⟩, fun houtput => ?_⟩
  · obtain ⟨c, hc, r, hr, m, hm, hs⟩ :=
      exists_record_of_lastOn h (fun m hm hs => by cases hm <;> cases hs) herror
    obtain ⟨e, rfl⟩ : ∃ e, r = .runError wf run e := by
      cases r <;> grind [Record.messages, Directive.message, Directive.subject]
    exact ended hc (List.mem_filterMap.mpr ⟨_, hr, rfl⟩) rfl rfl
  · obtain ⟨s, hget, hstored⟩ := journaled_of_reachableBy h wf run
    rw [currentState_eq_getD hget] at hkind
    cases s with
    | none => cases hkind
    | some s =>
      obtain ⟨c, hc, hs⟩ := List.mem_flatMap.mp (List.mem_of_getLast? hstored.symm)
      obtain ⟨e, he⟩ := (hconcludes c hc).failed wf run _ hs hkind
      obtain ⟨r, hr, he⟩ := List.mem_filterMap.mp he
      obtain rfl : r = .runError wf run e := by cases r <;> cases he; rfl
      have hm := mem_messages_of_mem_journal h c hc _
        (List.mem_flatMap.mpr ⟨_, hr, List.mem_singleton_self _⟩)
      obtain ⟨entry, hentry, hmsg⟩ := List.mem_map.mp hm
      have hsubject : entry.subject = .runError wf run := by rw [hmsg]
      refine Log.isSome_lastOn hentry (live_of_not_isResidue h entry hentry ?_) hsubject
      rw [hsubject]
      rfl
  · obtain ⟨c, hc, r, hr, m, hm, hs⟩ :=
      exists_record_of_lastOn h (fun m hm hs => by cases hm <;> cases hs) houtput
    obtain ⟨v, rfl⟩ : ∃ v, r = .runOutput wf run v := by
      cases r <;> grind [Record.messages, Directive.message, Directive.subject]
    exact ended hc (List.mem_filterMap.mpr ⟨_, hr, rfl⟩) rfl rfl

/-- A run with an output is completed, and has no error. -/
theorem result_flags_fit_state_returned :
    hasRunOutput (Sample.world Sample.returned).stream "wf" "r1" = true ∧
      (currentState (Sample.world Sample.returned).stream "wf" "r1").kind = .complete ∧
      hasRunError (Sample.world Sample.returned).stream "wf" "r1" = false := by
  obtain ⟨houtput, hstarts⟩ :
      hasRunOutput (Sample.world Sample.returned).stream "wf" "r1" = true ∧
        (Sample.world Sample.returned).journal.countP (Commit.starts "wf" "r1") ≤ 1 := by
    decide +kernel
  obtain ⟨herror, hcomplete⟩ := result_flags_fit_state (Sample.reachable_world Sample.returned)
    "wf" "r1" hstarts
  refine ⟨houtput, hcomplete houtput, Bool.eq_false_iff.mpr fun h => ?_⟩
  simp [hcomplete houtput] at herror
  simp [herror] at h

end Grctl
