import Grctl.Natsreg.StateStream
import Grctl.Store.Queries

/-!
# Lookups by pattern

The store looks up the description of a run with a subject in which NATS reads `*` as a wildcard
(`GetRunInfo`, `GetRunByWFID`, `GetRunByRunID` and `ListRuns` in `jsstore/store.go`). What it finds
is decided by the texts of the subjects. `Grctl.Store` compares the arguments of the subjects.

The two agree where the argument of the lookup is a name, that is one token without wildcards and
braces. An identifier that is not a name is read differently: `*` finds the descriptions of all
workflows, and an empty identifier is an error of NATS.

## Main definitions

* `Lookup.getRunInfo`, `Lookup.getRunByWFID`, `Lookup.getRunByRunID`, `Lookup.listRuns`.
* `Legible l`: the subjects of a stream can be read back.

## Main results

* `Legible.getRunInfo_eq`, `Legible.getRunByWFID_eq`, `Legible.getRunByRunID_eq`,
  `Legible.listRuns_eq`: for names, the lookups by pattern are those of the store.
-/

namespace Grctl

open SubjectLog Text Manifest

/-! ### The lookups -/

namespace Lookup

variable (it it' : Iteration) (l : Stream)

/-- `GetLastMsgForSubject`; the subject may have wildcards. The messages were stored with subjects
that were built in one order of the parameters, and the subject of the lookup in another. -/
def getLastMsgForSubject (subject : String) : Option StreamEntry :=
  l.lastWhere fun s => matchesSubject subject (s.render it)

/-- `GetRunInfo`. -/
def getRunInfo (wfType : WFType) (wfID : WFID) (runID : RunID) : Outcome (Option RunInfo) :=
  lookupRunInfo (getLastMsgForSubject it l (runInfoKey it' wfType wfID runID))

/-- `GetRunByWFID`. -/
def getRunByWFID (wfID : WFID) : Outcome (Option RunInfo) :=
  lookupRunInfo (getLastMsgForSubject it l (listRunInfoByWFIDPattern it' "*" wfID))

/-- `GetRunByRunID`. -/
def getRunByRunID (runID : RunID) : Outcome (Option RunInfo) :=
  lookupRunInfo (getLastMsgForSubject it l (listRunInfoByRunIDPattern it' runID))

/-- `ListRuns`. -/
def listRuns : Outcome (List RunInfo) :=
  (l.latest fun s => matchesSubject (runInfoKey it' "*" "*" "*") (s.render it)).mapM
    (readRunInfo "failed to unmarshal run info")

end Lookup

/-! ### What the patterns match -/

/-- The identifiers in the subject of a description have no braces. -/
def Subject.Plain : Subject → Prop
  | .runInfo wfType wfID runID => BraceFree wfType ∧ BraceFree wfID ∧ BraceFree runID
  | _ => True

instance : (s : Subject) → Decidable s.Plain
  | .runInfo .. => inferInstanceAs (Decidable (_ ∧ _ ∧ _))
  | .directive .. | .history .. | .timer .. | .runInput .. | .runOutput .. | .runError .. | .kv ..
  | .inbox _ | .runState .. | .workerTask .. | .bgTask => inferInstanceAs (Decidable True)

section Patterns

variable (it it' : Iteration) {s : Subject} {tokens : List (List Char)} {wfType : WFType}
  {wfID : WFID} {runID : RunID}

/-- The tokens of a key of a description, or of a pattern for such keys. -/
theorem tokens_runInfoKey (hdots : DotFree wfType ∧ DotFree wfID ∧ DotFree runID)
    (hbraces : BraceFree wfType ∧ BraceFree wfID ∧ BraceFree runID) :
    (runInfoKey it wfType wfID runID).toList.splitOn '.' =
      ["grctl_run".toList, wfType.toList, wfID.toList, runID.toList, "info".toList] :=
  fits_runInfo.tokens_of_dotFree it (by simpa using hdots) (by simpa using hbraces) (by simp)

/-- The keys of inputs, outputs and errors have four tokens. -/
theorem length_runStoreKey {patternKey : String} (hkey : patternKey ∈ ["input", "output", "error"])
    (hwf : DotFree wfID) (hrun : DotFree runID) :
    ((substituteParams it (subjectPattern "run_store" patternKey)
      [("wf_id", wfID), ("run_id", runID)]).toList.splitOn '.').length = 4 := by
  rw [(fits_runStore hkey).splitOn_of_dotFree it (by simpa using ⟨hwf, hrun⟩)]
  rfl

/-- A pattern of five tokens that starts with that of the run store matches nothing but
descriptions. -/
theorem isRunInfo_of_matchTokens (hs : s.Taken) (hhead : tokens.head? = some "grctl_run".toList)
    (hlength : tokens.length = 5) (hmany : ['>'] ∉ tokens)
    (hmatch : matchTokens '*' '>' tokens ((s.render it).toList.splitOn '.') = true) :
    s.isRunInfo = true := by
  have hcount := length_of_matchTokens hmany hmatch
  have head {text : List Char} (h : tokens.head? ∈ [some ['>'], some ['*'], some text])
      (hne : text ≠ "grctl_run".toList) : s.isRunInfo = true := by
    rw [hhead] at h
    simp only [List.mem_cons, Option.some.injEq, List.not_mem_nil, or_false] at h
    rcases h with h | h | h
    · exact absurd h (by decide)
    · exact absurd h (by decide)
    · exact absurd h.symm hne
  cases s with
  | runInfo => rfl
  | directive => exact head (fits_directive.head_of_matches it hmatch) (by decide)
  | history => exact head (fits_history.head_of_matches it hmatch) (by decide)
  | timer => exact head (fits_timer.head_of_matches it hmatch) (by decide)
  | kv => exact head (fits_kv.head_of_matches it hmatch) (by decide)
  | inbox => exact head (fits_inbox.head_of_matches it hmatch) (by decide)
  | runState => exact head (fits_runState.head_of_matches it hmatch) (by decide)
  | workerTask => exact head (fits_workerTask.head_of_matches it hmatch) (by decide)
  | bgTask =>
    have hone : (bgTaskSubject.toList.splitOn '.').length = 1 := by decide +kernel
    exact absurd (hone.symm.trans (hcount.trans hlength)) (by decide)
  -- the other keys of the run store have one token less
  | runInput =>
    have hfour := length_runStoreKey it (by decide : "input" ∈ _) hs.1.2 hs.2.2
    exact absurd (hfour.symm.trans (hcount.trans hlength)) (by decide)
  | runOutput =>
    have hfour := length_runStoreKey it (by decide : "output" ∈ _) hs.1.2 hs.2.2
    exact absurd (hfour.symm.trans (hcount.trans hlength)) (by decide)
  | runError =>
    have hfour := length_runStoreKey it (by decide : "error" ∈ _) hs.1.2 hs.2.2
    exact absurd (hfour.symm.trans (hcount.trans hlength)) (by decide)

/-- A pattern for descriptions, in terms of the arguments of a subject. -/
theorem matchesSubject_runInfoKey (hs : s.Taken) (hplain : s.Plain) {f : Subject → Bool}
    (hdots : DotFree wfType ∧ DotFree wfID ∧ DotFree runID)
    (hbraces : BraceFree wfType ∧ BraceFree wfID ∧ BraceFree runID)
    (hmany : ">" ∉ [wfType, wfID, runID]) (hf : ∀ s, f s = true → s.isRunInfo = true)
    (hargs : ∀ wfType' wfID' runID', f (.runInfo wfType' wfID' runID') =
      (decide (wfType = "*" ∨ wfType = wfType') && decide (wfID = "*" ∨ wfID = wfID') &&
        decide (runID = "*" ∨ runID = runID'))) :
    matchesSubject (runInfoKey it' wfType wfID runID) (s.render it) = f s := by
  have hgt {x : String} (hx : x ∈ [wfType, wfID, runID]) : x.toList ≠ ['>'] := fun h =>
    hmany (String.toList_inj.1 (h.trans (by decide : ['>'] = ">".toList)) ▸ hx)
  have hne : wfType.toList ≠ ['>'] ∧ wfID.toList ≠ ['>'] ∧ runID.toList ≠ ['>'] :=
    ⟨hgt (by simp), hgt (by simp), hgt (by simp)⟩
  rw [matchesSubject, matchesPattern, tokens_runInfoKey it' hdots hbraces]
  cases hrun : s.isRunInfo with
  | false =>
    have hfalse : f s = false := Bool.eq_false_iff.2 fun h => by simp [hf s h] at hrun
    rw [hfalse, ← Bool.not_eq_true]
    intro hmatch
    refine absurd (isRunInfo_of_matchTokens it hs rfl rfl ?_ hmatch) (by simp [hrun])
    simp [hne.1.symm, hne.2.1.symm, hne.2.2.symm]
  | true =>
    cases s with
    | runInfo wfType' wfID' runID' =>
      have htokens := tokens_runInfoKey it ⟨hs.1.2, hs.2.1.2, hs.2.2.2⟩ hplain
      rw [hargs, Subject.render, htokens]
      have hstar (x : String) : x.toList = ['*'] ↔ x = "*" := by
        rw [← String.toList_inj]
        rfl
      simp [hne, hstar, String.toList_inj, Bool.and_assoc]
    | _ => cases hrun

end Patterns

/-! ### Agreement -/

/-- The subjects of a stream can be read back: they are ones that the stream takes, and the
identifiers of the described runs have no braces. -/
def Legible (l : Stream) : Prop :=
  ∀ m ∈ l.messages, m.subject.Taken ∧ m.subject.Plain
  deriving Decidable

section Legible

variable (it it' : Iteration) {l : Stream} {wfType : WFType} {wfID : WFID} {runID : RunID}

theorem IsName.ne_star {x : String} (h : IsName x) : x ≠ "*" := fun heq =>
  h.star (by simp [heq])

theorem IsName.ne_gt {x : String} (h : IsName x) : x ≠ ">" := fun heq => h.gt (by simp [heq])

/-- The subjects of the stored messages decide what a lookup finds. -/
theorem lastWhere_congr {p q : Subject → Bool}
    (h : ∀ m ∈ l.messages, p m.subject = q m.subject) : l.lastWhere p = l.lastWhere q := by
  rw [Log.lastWhere, Log.lastWhere]
  refine congrArg _ (List.filter_congr fun e he => ?_)
  rw [h _ (List.mem_map_of_mem he)]

variable (h : Legible l)

include h

theorem Legible.getRunInfo_eq (hty : IsName wfType) (hwf : IsName wfID) (hrun : IsName runID) :
    Lookup.getRunInfo it it' l wfType wfID runID = getRunInfo l wfType wfID runID := by
  rw [Lookup.getRunInfo, getRunInfo, Lookup.getLastMsgForSubject, Log.lastOn_eq_lastWhere]
  refine congrArg lookupRunInfo (lastWhere_congr fun m hm => ?_)
  refine matchesSubject_runInfoKey it it' (f := fun s => decide (s = .runInfo wfType wfID runID))
    (h m hm).1 (h m hm).2 ⟨hty.dot, hwf.dot, hrun.dot⟩
    ⟨hty.braceFree, hwf.braceFree, hrun.braceFree⟩ ?_ (fun s hs => ?_) fun _ _ _ => ?_
  · simp [hty.ne_gt.symm, hwf.ne_gt.symm, hrun.ne_gt.symm]
  · rw [of_decide_eq_true hs]
    rfl
  · simp [hty.ne_star, hwf.ne_star, hrun.ne_star, eq_comm, Bool.and_assoc, Bool.decide_and]

theorem Legible.getRunByWFID_eq (hwf : IsName wfID) :
    Lookup.getRunByWFID it it' l wfID = getRunByWFID l wfID := by
  rw [getRunByWFID_eq_lookup, Lookup.getRunByWFID, Lookup.getLastMsgForSubject]
  refine congrArg lookupRunInfo (lastWhere_congr fun m hm => ?_)
  refine matchesSubject_runInfoKey it it' (f := Subject.describes wfID) (h m hm).1 (h m hm).2
    ⟨by decide, hwf.dot, by decide⟩ ⟨by decide, hwf.braceFree, by decide⟩ ?_
    (fun s => isRunInfo_of_describes) fun _ _ _ => ?_
  · simp [hwf.ne_gt.symm]
  · simp [Subject.describes, hwf.ne_star, eq_comm, beq_eq_decide]

theorem Legible.getRunByRunID_eq (hrun : IsName runID) :
    Lookup.getRunByRunID it it' l runID = getRunByRunID l runID := by
  rw [getRunByRunID, Lookup.getRunByRunID, Lookup.getLastMsgForSubject]
  refine congrArg lookupRunInfo (lastWhere_congr fun m hm => ?_)
  refine matchesSubject_runInfoKey it it' (f := Subject.describesRun runID) (h m hm).1 (h m hm).2
    ⟨by decide, by decide, hrun.dot⟩ ⟨by decide, by decide, hrun.braceFree⟩ ?_
    (fun s => isRunInfo_of_describesRun) fun _ _ _ => ?_
  · simp [hrun.ne_gt.symm]
  · simp [Subject.describesRun, hrun.ne_star, eq_comm, beq_eq_decide]

theorem Legible.listRuns_eq : Lookup.listRuns it it' l = listRuns l := by
  rw [Lookup.listRuns, listRuns, Log.latest, Log.latest]
  refine congrArg _ (List.filter_congr fun e he => ?_)
  have hmem := List.mem_map_of_mem (f := Entry.toMessage) he
  rw [matchesSubject_runInfoKey it it' (f := Subject.isRunInfo) (h _ hmem).1 (h _ hmem).2
    (by decide) (by decide) (by decide) (fun s hs => hs) fun _ _ _ => by simp [Subject.isRunInfo]]

end Legible

end Grctl
