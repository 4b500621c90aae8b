import Grctl.Log.Latest
import Grctl.Store.JSStateStore

/-!
# The queries of the state store

Clients look at runs through the other reads of `jsstore/store.go`: a description by its full key,
by the identifier of the workflow or by the identifier of the run, the list of all descriptions,
the history of a run, and whether an input, an output or an error of a run is stored.

A description that cannot be decoded is an error of the lookup, and of the whole list; an event of a
history that cannot be decoded is passed over.

## Main definitions

* `getRunInfo`, `getRunByRunID`, `listRuns`.
* `getHistoryForRun`.
* `hasRunInput`, `hasRunOutput`, `hasRunError`.

* `Keyed l`: every description is stored under its own key.

## Main results

* `Keyed.listRuns_spec`: the list has one description for each key, and every lookup answers from
  it.
-/

namespace Grctl

open SubjectLog

/-- The description in a message, or an error. -/
def readRunInfo (error : String) (e : StreamEntry) : Outcome RunInfo :=
  match e.data with
  | .runInfo info => .ok info
  | _ => fail error

/-- The description in the message that a lookup finds; `none` is `ErrWorkflowRunNotFound`. -/
def lookupRunInfo : Option StreamEntry → Outcome (Option RunInfo)
  | none => .ok none
  | some e => (readRunInfo "failed to unmarshal workflow run info" e).map some

/-- `GetRunInfo`. -/
def getRunInfo (l : Stream) (wfType : WFType) (wfID : WFID) (runID : RunID) :
    Outcome (Option RunInfo) :=
  lookupRunInfo (l.lastOn (.runInfo wfType wfID runID))

/-- `ListRunInfoByRunIDPattern`. -/
def Subject.describesRun (runID : RunID) : Subject → Bool
  | .runInfo _ _ runID' => runID' == runID
  | _ => false

/-- `GetRunByRunID`, for an identifier that is a name, as in `getRunByWFID`. -/
def getRunByRunID (l : Stream) (runID : RunID) : Outcome (Option RunInfo) :=
  lookupRunInfo (l.lastWhere (Subject.describesRun runID))

/-- The subjects of the descriptions. -/
def Subject.isRunInfo : Subject → Bool
  | .runInfo .. => true
  | _ => false

/-- `ListRuns`. -/
def listRuns (l : Stream) : Outcome (List RunInfo) :=
  (l.latest Subject.isRunInfo).mapM (readRunInfo "failed to unmarshal run info")

/-- The number of messages that `GetHistoryForRun` asks for. -/
def historyBatch : ℕ := 10000

/-- The event in a message of a history. -/
def Data.history? : Data → Option HistoryEvent
  | .history h => some h
  | _ => none

/-- `GetHistoryForRun`. -/
def getHistoryForRun (l : Stream) (wfID : WFID) (runID : RunID) : List HistoryEvent :=
  ((l.entries.filter (Log.Entry.isOn (.history wfID runID))).take historyBatch).filterMap
    fun e => e.data.history?

/-- `HasRunInput`. -/
def hasRunInput (l : Stream) (wfID : WFID) (runID : RunID) : Bool :=
  (l.lastOn (.runInput wfID runID)).isSome

/-- `HasRunOutput`. -/
def hasRunOutput (l : Stream) (wfID : WFID) (runID : RunID) : Bool :=
  (l.lastOn (.runOutput wfID runID)).isSome

/-- `HasRunError`. -/
def hasRunError (l : Stream) (wfID : WFID) (runID : RunID) : Bool :=
  (l.lastOn (.runError wfID runID)).isSome

/-! ### The lookups and the list -/

/-- The description in a message. -/
def runInfoOf (e : StreamEntry) : RunInfo :=
  match e.data with
  | .runInfo info => info
  | _ => .zero

/-- A description that is stored under its own key. -/
def Msg.Keyed (m : Msg) : Prop :=
  m.subject.isRunInfo = true →
    ∃ info, m.data = .runInfo info ∧ m.subject = .runInfo info.wfType info.wfID info.id

/-- Every description is stored under its own key. -/
def Keyed (l : Stream) : Prop := ∀ m ∈ l.messages, Msg.Keyed m

section Lookups

variable {l : Stream} {e : StreamEntry}

theorem isRunInfo_of_describes {wf : WFID} {s : Subject} (h : s.describes wf = true) :
    s.isRunInfo = true := by
  cases s <;> first | rfl | cases h

theorem isRunInfo_of_describesRun {run : RunID} {s : Subject} (h : s.describesRun run = true) :
    s.isRunInfo = true := by
  cases s <;> first | rfl | cases h

theorem Keyed.of_mem_latest (h : Keyed l) (he : e ∈ l.latest Subject.isRunInfo) :
    e.data = .runInfo (runInfoOf e) ∧
      e.subject = .runInfo (runInfoOf e).wfType (runInfoOf e).wfID (runInfoOf e).id := by
  obtain ⟨hlast, hs⟩ := Log.mem_latest.mp he
  obtain ⟨info, hdata, hsubject⟩ :=
    h e.toMessage (List.mem_map_of_mem (Log.mem_of_lastOn hlast).1) hs
  have hinfo : runInfoOf e = info := by rw [runInfoOf, hdata]
  rw [hinfo]
  exact ⟨hdata, hsubject⟩

theorem mapM_eq_ok {α β : Type} {f : α → Outcome β} {g : α → β} {xs : List α}
    (h : ∀ x ∈ xs, f x = .ok (g x)) : xs.mapM f = .ok (xs.map g) := by
  induction xs with
  | nil => rfl
  | cons x xs ih =>
    obtain ⟨hx, hxs⟩ := List.forall_mem_cons.mp h
    rw [List.mapM_cons, hx, ih hxs]
    rfl

theorem Keyed.listRuns_eq (h : Keyed l) :
    listRuns l = .ok ((l.latest Subject.isRunInfo).map runInfoOf) :=
  mapM_eq_ok fun e he => by rw [readRunInfo, (h.of_mem_latest he).1]

/-- A lookup by a pattern finds the last description of the list that fits it. -/
theorem Keyed.lookup_eq (h : Keyed l) {q : Subject → Bool} {f : RunInfo → Bool}
    (hq : ∀ s, q s = true → s.isRunInfo = true)
    (hf : ∀ info : RunInfo, q (.runInfo info.wfType info.wfID info.id) = f info) :
    lookupRunInfo (l.lastWhere q) =
      .ok (((l.latest Subject.isRunInfo).map runInfoOf).filter f).getLast? := by
  have hfilter : (l.latest Subject.isRunInfo).filter (fun e => q e.subject) =
      (l.latest Subject.isRunInfo).filter (f ∘ runInfoOf) := by
    refine List.filter_congr fun e he => ?_
    rw [(h.of_mem_latest he).2, hf]
    rfl
  rw [Log.lastWhere_eq_getLast?_latest hq, hfilter, List.filter_map, List.getLast?_map]
  cases hlast : ((l.latest Subject.isRunInfo).filter (f ∘ runInfoOf)).getLast? with
  | none => rfl
  | some e =>
    have he := (List.mem_filter.mp (List.mem_of_getLast? hlast)).1
    rw [lookupRunInfo, readRunInfo, (h.of_mem_latest he).1]
    rfl

theorem getRunByWFID_eq_lookup (l : Stream) (wf : WFID) :
    getRunByWFID l wf = lookupRunInfo (l.lastWhere (Subject.describes wf)) := by
  unfold getRunByWFID
  dsimp only
  split
  · rename_i hlast
    rw [show l.lastWhere (Subject.describes wf) = none from hlast]
    rfl
  · rename_i e hlast
    rw [show l.lastWhere (Subject.describes wf) = some e from hlast, lookupRunInfo, readRunInfo]
    cases e.data <;> rfl

/-- A description that has been found lies in the stream. -/
theorem mem_messages_of_getRunByWFID {l : Stream} {wf : WFID} {info : RunInfo}
    (h : getRunByWFID l wf = .ok (some info)) :
    ∃ m ∈ l.messages, m.subject.describes wf = true ∧ m.data = .runInfo info := by
  rw [getRunByWFID_eq_lookup] at h
  cases hlast : l.lastWhere (Subject.describes wf) with
  | none => simp [hlast, lookupRunInfo] at h
  | some e =>
    obtain ⟨hmem, hon⟩ := List.mem_filter.mp (List.mem_of_getLast? hlast)
    refine ⟨e.toMessage, List.mem_map_of_mem hmem, (Bool.and_eq_true_iff.mp hon).2, ?_⟩
    rw [hlast, lookupRunInfo, readRunInfo] at h
    split at h <;> cases h
    assumption

/-- One description for each key, in the order of the last changes, and every lookup answers from
the list. -/
theorem Keyed.listRuns_spec (h : Keyed l) : ∃ runs, listRuns l = .ok runs ∧
    (runs.map fun info => (info.wfType, info.wfID, info.id)).Nodup ∧
    (∀ info, info ∈ runs ↔
      getRunInfo l info.wfType info.wfID info.id = .ok (some info)) ∧
    (∀ wf, getRunByWFID l wf = .ok (runs.filter (·.wfID == wf)).getLast?) ∧
    (∀ run, getRunByRunID l run = .ok (runs.filter (·.id == run)).getLast?) := by
  refine ⟨_, h.listRuns_eq, ?_, fun info => ?_, fun wf => ?_, fun run => ?_⟩
  · rw [List.map_map]
    refine List.Nodup.map_on (fun e he e' he' heq => ?_)
      ((l.pairwise_latest _).imp fun hlt heq => absurd (heq ▸ hlt) (lt_irrefl _))
    refine Log.eq_of_mem_latest he he' ?_
    simp only [Function.comp_apply, Prod.mk.injEq] at heq
    rw [(h.of_mem_latest he).2, (h.of_mem_latest he').2, heq.1, heq.2.1, heq.2.2]
  · rw [List.mem_map]
    constructor
    · rintro ⟨e, he, rfl⟩
      obtain ⟨hdata, hsubject⟩ := h.of_mem_latest he
      rw [getRunInfo, ← hsubject, (Log.mem_latest.mp he).1, lookupRunInfo, readRunInfo, hdata]
      rfl
    · intro hinfo
      rw [getRunInfo] at hinfo
      cases hlast : l.lastOn (.runInfo info.wfType info.wfID info.id) with
      | none => simp [hlast, lookupRunInfo] at hinfo
      | some e =>
        have hs := (Log.mem_of_lastOn hlast).2.2
        have he : e ∈ l.latest Subject.isRunInfo := Log.mem_latest.mpr ⟨hs ▸ hlast, by rw [hs]; rfl⟩
        rw [hlast, lookupRunInfo, readRunInfo, (h.of_mem_latest he).1] at hinfo
        exact ⟨e, he, Option.some.inj (Except.ok.inj hinfo)⟩
  · rw [getRunByWFID_eq_lookup]
    exact h.lookup_eq (fun s => isRunInfo_of_describes) fun info => rfl
  · exact h.lookup_eq (fun s => isRunInfo_of_describesRun) fun info => rfl

end Lookups

end Grctl
