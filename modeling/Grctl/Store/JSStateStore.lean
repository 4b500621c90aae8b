import Grctl.Store.Subject

/-!
# The state store

The operations of `jsstore/store.go` over the state stream. A read looks at the last live message
of a subject, or for the inbox at the first one after the cursor; `commit` encodes a batch of
records and publishes it, all of it or nothing. What is published under a subject that the stream
does not take is not stored, and a batch with such a message is not stored as a whole.

Which message identifiers still count as seen depends on the duplicate window of the stream,
which is the parameter `dup`.

## Main definitions

* `getRunState`, `getLastHistorySeqID`, `getNextEvent`, `getStateSnapshot`, `getRunByWFID`.
* `commit`, `Publication`, `publishDirective`, `saveRunInfo`, `NoActiveRun`, `purgePatterns`.

## Main results

* `commit_eq_ok`, `taken_of_commit`: a committed batch was accepted by the encoder and by the
  stream.
* `getRunState_of_commit`: the last run state of a batch becomes the state of its run.
* `lastSeq_of_commit`: it follows the state it expects to follow.
* `getRunByWFID_appendAll`: the last run description of a batch becomes the latest one.
-/

namespace Grctl

open SubjectLog

/-- The inbox cursor is exclusive; `0` reads from the beginning. -/
def startSeq (startAfterSeq : ℕ) : ℕ := if startAfterSeq > 0 then startAfterSeq + 1 else 0

/-! ### Reads -/

/-- `GetRunState`; `none` is `ErrRunStateNotFound`. -/
def getRunState (l : Stream) (wfID : WFID) (runID : RunID) : Outcome (Option RunState) :=
  match l.lastOn (.runState wfID runID) with
  | none => .ok none
  | some e =>
    match e.data with
    | .runState s => .ok (some { s with seqID := e.seq })
    | _ => fail "failed to unmarshal run state"

/-- The current state of a run as a snapshot shows it: the zero state where there is none. -/
def currentState (l : Stream) (wfID : WFID) (runID : RunID) : RunState :=
  match getRunState l wfID runID with
  | .ok (some s) => s
  | _ => .zero

theorem currentState_eq_getD {l : Stream} {wfID : WFID} {runID : RunID} {s : Option RunState}
    (h : getRunState l wfID runID = .ok s) : currentState l wfID runID = s.getD .zero := by
  cases s <;> rw [currentState, h] <;> rfl

theorem currentState_eq {l : Stream} {wfID : WFID} {runID : RunID} {s : RunState}
    (h : getRunState l wfID runID = .ok (some s)) : currentState l wfID runID = s :=
  currentState_eq_getD h

theorem currentState_congr {l l' : Stream} {wfID : WFID} {runID : RunID}
    (h : getRunState l' wfID runID = getRunState l wfID runID) :
    currentState l' wfID runID = currentState l wfID runID := by
  rw [currentState, currentState, h]

/-- `GetLastHistorySeqID`. -/
def getLastHistorySeqID (l : Stream) (wfID : WFID) (runID : RunID) : ℕ :=
  l.lastSeq (.history wfID runID)

/-- An inbox message as it is read: the event is told its place in the stream. -/
def readInboxEntry (e : StreamEntry) : Outcome Directive :=
  match e.data with
  | .directive d =>
    match d.msg with
    | .event ev => .ok { d with msg := .event { ev with eventSeqID := some e.seq } }
    | _ => .error .typeAssertion
  | _ => fail "failed to unmarshal event"

theorem readInboxEntry_eq_ok {e : StreamEntry} {d : Directive} (h : readInboxEntry e = .ok d) :
    ∃ d₀ ev, e.data = .directive d₀ ∧ d₀.msg = .event ev ∧
      d = { d₀ with msg := .event { ev with eventSeqID := some e.seq } } := by
  rw [readInboxEntry] at h
  split at h
  · rename_i d₀ hdata
    split at h
    · rename_i ev hmsg
      cases h
      exact ⟨d₀, ev, hdata, hmsg, rfl⟩
    · cases h
  · cases h

/-- `GetNextEvent`; `none` is `ErrNoMessages`. -/
def getNextEvent (l : Stream) (wfID : WFID) (startAfterSeq : ℕ) : Outcome (Option Directive) :=
  match l.firstFrom (.inbox wfID) (startSeq startAfterSeq) with
  | none => .ok none
  | some e => (readInboxEntry e).map some

/-- `GetStateSnapshot`, when nothing else happens between its three reads. -/
def getStateSnapshot (l : Stream) (wfID : WFID) (runID : RunID) : Outcome StateSnapshot := do
  let runState := (← getRunState l wfID runID).getD .zero
  let event := (← getNextEvent l wfID runState.lastEventSeqID).getD .zero
  return { runState, event, lastHistorySeqID := getLastHistorySeqID l wfID runID }

/-- `GetRunByWFID`: the latest run description of a workflow identifier; `none` is
`ErrWorkflowRunNotFound`. The source looks it up with a pattern. For an identifier that is a name
the pattern finds just its runs, which `Grctl.Natsreg.Lookup` proves; others are not modelled here. -/
def getRunByWFID (l : Stream) (wfID : WFID) : Outcome (Option RunInfo) :=
  let onWFID : Subject → Bool := fun
    | .runInfo _ wfID' _ => wfID' == wfID
    | _ => false
  match l.lastWhere onWFID with
  | none => .ok none
  | some e =>
    match e.data with
    | .runInfo info => .ok (some info)
    | _ => fail "failed to unmarshal workflow run info"

/-! ### Writes -/

/-- Why `Commit` fails. -/
inductive CommitError
  | noRecords
  | encoding (fault : Fault)
  | noMessages
  | notTaken
  | rejected (reason : Rejection)
  deriving DecidableEq, Repr

/-- The messages of a batch. -/
def encode : List Record → Outcome (List Msg)
  | [] => .ok []
  | r :: rs => do
    let msgs ← recordToNats r
    let rest ← encode rs
    return msgs ++ rest

section Commit

variable (dup : Stream → DirectiveID → Bool)

/-- `Commit`. -/
def commit (l : Stream) (records : List Record) : Except CommitError Stream :=
  if records.isEmpty then .error .noRecords
  else match encode records with
    | .error f => .error (.encoding f)
    | .ok msgs =>
      if msgs.isEmpty then .error .noMessages
      else if ∀ m ∈ msgs, m.subject.Taken then
        match l.commit dup msgs with
        | .error r => .error (.rejected r)
        | .ok l' => .ok l'
      else .error .notTaken

/-- What `PublishDirective` stores: a duplicate is dropped without an error, and nothing is stored
under a subject that the stream does not take. -/
def publishDirective (l : Stream) (d : Directive) : Stream :=
  if d.subject.Taken then
    match l.offer dup d.message with
    | .ok l' => l'
    | .error _ => l
  else l

end Commit

/-- The run description that `CreateRunInfo` publishes. -/
def runInfoMessage (info : RunInfo) : Msg where
  subject := .runInfo info.wfType info.wfID info.id
  data := .runInfo info

/-- How the publication of a message goes: it is stored, it is not, or it is stored and the
confirmation does not arrive. -/
inductive Publication
  | stored
  | refused (message : String)
  | unconfirmed (message : String)
  deriving DecidableEq, Repr

namespace Publication

/-- What is stored after the publication; `written` is what is stored with the message. -/
def after {σ : Type} (p : Publication) (stored written : σ) : σ :=
  match p with
  | .refused _ => stored
  | _ => written

/-- What the caller is told. -/
def error? : Publication → Option String
  | .stored => none
  | .refused message | .unconfirmed message => some message

/-- The publication of a message whose subject no stream takes gets no answer. -/
def within (p : Publication) (taken : Prop) [Decidable taken] : Publication :=
  if taken then p else .refused "nats: no response from stream"

theorem eq_or_refused_of_within {p p' : Publication} {taken : Prop} [Decidable taken]
    (h : p.within taken = p') : (taken ∧ p' = p) ∨ ∃ text, p' = .refused text := by
  rw [within] at h
  split_ifs at h with htaken
  · exact .inl ⟨htaken, h.symm⟩
  · exact .inr ⟨_, h.symm⟩

end Publication

/-- What the publication of a run description stores. -/
def saveRunInfo (l : Stream) (info : RunInfo) : Stream :=
  if info.Taken then l.append (runInfoMessage info) else l

/-- `CreateRunInfo` saves a description when the lookup has found none for its workflow, or one of a
run that has ended. -/
def NoActiveRun (l : Stream) (wf : WFID) : Prop :=
  ∃ latest, getRunByWFID l wf = .ok latest ∧ ∀ info ∈ latest, info.isTerminal = true

instance (l : Stream) (wf : WFID) : Decidable (NoActiveRun l wf) :=
  match h : getRunByWFID l wf with
  | .error _ => isFalse fun ⟨_, hlatest, _⟩ => by cases h.symm.trans hlatest
  | .ok latest =>
    if hall : ∀ info ∈ latest, info.isTerminal = true then isTrue ⟨latest, h, hall⟩
    else isFalse fun ⟨_, hlatest, hall'⟩ => by
      cases h.symm.trans hlatest
      exact hall hall'

/-- The patterns `PurgeRunResidue` purges, in order. -/
def purgePatterns (wfID : WFID) : List PurgePattern :=
  [.directives wfID, .timers wfID, .inbox wfID, .workerTasks wfID]

/-! ### What a committed batch does -/

/-- The run states of a batch have identifiers. -/
def StatesNamed (records : List Record) : Prop :=
  ∀ s n, Record.runState s n ∈ records → s.wfID ≠ "" ∧ s.runID ≠ ""

theorem recordToNats_eq_ok {r : Record} {msgs : List Msg} (h : recordToNats r = .ok msgs) :
    msgs = r.messages ∧ ∀ s n, r = .runState s n → s.wfID ≠ "" ∧ s.runID ≠ "" := by
  unfold recordToNats at h
  split at h
  · split_ifs at h with hs
    · cases h
    · grind
  · grind

theorem encode_eq_ok {records : List Record} {msgs : List Msg} (h : encode records = .ok msgs) :
    msgs = records.flatMap Record.messages ∧ StatesNamed records := by
  induction records generalizing msgs with
  | nil =>
    cases h
    exact ⟨rfl, by simp [StatesNamed]⟩
  | cons r rs ih =>
    cases hr : recordToNats r with
    | error f => simp [encode, hr, Bind.bind, Except.bind] at h
    | ok ms =>
      cases hrs : encode rs with
      | error f => simp [encode, hr, hrs, Bind.bind, Except.bind] at h
      | ok rest =>
        simp only [encode, hr, hrs, Bind.bind, Except.bind, Pure.pure, Except.pure,
          Except.ok.injEq] at h
        obtain ⟨rfl, hnamed⟩ := recordToNats_eq_ok hr
        obtain ⟨rfl, hnamed'⟩ := ih hrs
        refine ⟨by rw [← h, List.flatMap_cons], fun s n hmem => ?_⟩
        rcases List.mem_cons.mp hmem with rfl | hmem
        · exact hnamed s n rfl
        · exact hnamed' s n hmem

variable {dup : Stream → DirectiveID → Bool}

theorem commit_eq_ok {l l' : Stream} {records : List Record}
    (h : commit dup l records = .ok l') :
    l.commit dup (records.flatMap Record.messages) = .ok l' ∧ records ≠ [] ∧
      StatesNamed records := by
  rw [commit] at h
  split_ifs at h with hnil
  cases he : encode records with
  | error f => simp [he] at h
  | ok msgs =>
    obtain ⟨rfl, hnamed⟩ := encode_eq_ok he
    simp only [he] at h
    split_ifs at h with _ htaken
    cases hc : l.commit dup (records.flatMap Record.messages) with
    | error r => simp [hc] at h
    | ok l₁ =>
      rw [hc] at h
      cases h
      exact ⟨rfl, by simpa using hnil, hnamed⟩

/-- The stream takes the messages of a committed batch. -/
theorem taken_of_commit {l l' : Stream} {records : List Record}
    (h : commit dup l records = .ok l') {r : Record} (hr : r ∈ records) : r.Taken := by
  rw [commit] at h
  split_ifs at h
  split at h
  · cases h
  · rename_i msgs he
    obtain ⟨rfl, -⟩ := encode_eq_ok he
    split_ifs at h with _ htaken
    exact fun m hm => htaken m (List.mem_flatMap.2 ⟨r, hr, hm⟩)

/-- A rejected batch was rejected by the stream. -/
theorem commit_eq_rejected {l : Stream} {records : List Record} {r : Rejection}
    (h : commit dup l records = .error (.rejected r)) :
    l.commit dup (records.flatMap Record.messages) = .error r := by
  rw [commit] at h
  split_ifs at h
  · cases h
  · split at h
    · cases h
    · rename_i msgs he
      obtain ⟨rfl, -⟩ := encode_eq_ok he
      split_ifs at h
      · cases h
      · split at h
        · rename_i r' hr
          cases h
          exact hr
        · cases h
      · cases h

/-- A batch with a nameless run state, or with a subject that the stream does not take, fails before
the stream looks at it. -/
theorem commit_of_unsendable {records : List Record} (l : Stream)
    (hnot : ¬ (StatesNamed records ∧ ∀ r ∈ records, r.Taken)) :
    ∃ e, commit dup l records = .error e ∧ ∀ r, e ≠ .rejected r := by
  rw [commit]
  split_ifs
  · exact ⟨_, rfl, fun _ h => by cases h⟩
  cases he : encode records with
  | error f => exact ⟨_, rfl, fun _ h => by cases h⟩
  | ok msgs =>
    obtain ⟨rfl, hnamed⟩ := encode_eq_ok he
    have htaken : ¬ ∀ m ∈ records.flatMap Record.messages, m.subject.Taken := fun htaken =>
      hnot ⟨hnamed, fun r hr m hm => htaken m (List.mem_flatMap.2 ⟨r, hr, hm⟩)⟩
    simp only [if_neg htaken]
    split_ifs <;> exact ⟨_, rfl, fun _ h => by cases h⟩

theorem recordToNats_of_statesNamed {records : List Record} (h : StatesNamed records)
    {r : Record} (hr : r ∈ records) : recordToNats r = .ok r.messages := by
  unfold recordToNats
  split
  · rename_i s n
    rw [if_neg (by simpa using h s n hr)]
  · rfl

theorem encode_of_statesNamed {records : List Record} (h : StatesNamed records) :
    encode records = .ok (records.flatMap Record.messages) := by
  induction records with
  | nil => rfl
  | cons r rs ih =>
    rw [encode, recordToNats_of_statesNamed h List.mem_cons_self,
      ih fun s n hmem => h s n (List.mem_cons_of_mem r hmem)]
    rfl

/-- What the encoder and the stream accept is committed. -/
theorem commit_of_log {l l' : Stream} {records : List Record} (hnamed : StatesNamed records)
    (htaken : ∀ r ∈ records, r.Taken) (hne : records.flatMap Record.messages ≠ [])
    (h : l.commit dup (records.flatMap Record.messages) = .ok l') :
    commit dup l records = .ok l' := by
  have hrecords : records ≠ [] := fun hnil => hne (by rw [hnil]; rfl)
  have hall : ∀ m ∈ records.flatMap Record.messages, m.subject.Taken := fun m hm => by
    obtain ⟨r, hr, hm⟩ := List.mem_flatMap.1 hm
    exact htaken r hr m hm
  rw [commit, if_neg (by simpa using hrecords), encode_of_statesNamed hnamed]
  simp only [List.isEmpty_iff, hne, if_false, if_pos hall, h]

/-- A committed batch is appended to the stream. -/
theorem eq_appendAll_of_commit {l l' : Stream} {records : List Record}
    (h : commit dup l records = .ok l') :
    l' = l.appendAll (records.flatMap Record.messages) :=
  Log.commit_eq_ok (commit_eq_ok h).1

/-- A directive is published as it is or dropped. -/
theorem publishDirective_eq (dup : Stream → DirectiveID → Bool) (l : Stream) (d : Directive) :
    publishDirective dup l d = l ∨ publishDirective dup l d = l.append d.message := by
  rw [publishDirective]
  split_ifs
  · cases h : l.offer dup d.message with
    | error r => exact .inl rfl
    | ok l' => exact .inr (Log.offer_eq_ok.mp h).2.2.symm
  · exact .inl rfl

/-- A directive with a new identifier is stored. -/
theorem publishDirective_of_fresh {l : Stream} {d : Directive}
    (hdup : ∀ l id, dup l id = true → Log.seen l id = true) (htaken : d.subject.Taken)
    (hnew : l.seen d.id = false) : publishDirective dup l d = l.append d.message := by
  have hoffer : l.offer dup d.message = .ok (l.append d.message) := by
    refine Log.offer_eq_ok.mpr ⟨?_, rfl, rfl⟩
    cases hd : dup l d.id with
    | false => exact hd
    | true => cases hnew.symm.trans (hdup l d.id hd)
  rw [publishDirective, if_pos htaken, hoffer]

/-- A run description is stored as it is or not at all. -/
theorem saveRunInfo_eq (l : Stream) (info : RunInfo) :
    saveRunInfo l info = l ∨ saveRunInfo l info = l.append (runInfoMessage info) := by
  rw [saveRunInfo]
  split_ifs
  exacts [.inr rfl, .inl rfl]

/-! ### Run states in a batch -/

section RunStates

variable {l l' : Stream} {records : List Record} {wf : WFID} {run : RunID}

theorem getRunState_congr (h : l'.lastOn (.runState wf run) = l.lastOn (.runState wf run)) :
    getRunState l' wf run = getRunState l wf run := by
  rw [getRunState, getRunState, h]

theorem lastSeq_of_getRunState {s : RunState} (h : getRunState l wf run = .ok (some s)) :
    l.lastSeq (.runState wf run) = s.seqID := by
  rw [getRunState] at h
  rw [Log.lastSeq]
  split at h
  · cases h
  · rename_i e he
    split at h
    · cases h
      rw [he]
    · simp at h

/-- Records without a run state of a run store nothing on its subject. -/
theorem subject_ne_of_mem_messages {m : Msg} (hm : m ∈ records.flatMap Record.messages)
    (h : ∀ s n, Record.runState s n ∈ records → s.wfID = wf → s.runID = run → False) :
    m.subject ≠ .runState wf run := by
  intro hs
  obtain ⟨r, hr, hm⟩ := List.mem_flatMap.mp hm
  obtain ⟨s, n, rfl, hwf, hrun, -⟩ := Record.eq_of_mem_messages_runState hm hs
  exact h s n hr hwf hrun

theorem getRunState_of_commit_of_ne (hc : commit dup l records = .ok l')
    (h : ∀ s n, Record.runState s n ∈ records → s.wfID = wf → s.runID = run → False) :
    getRunState l' wf run = getRunState l wf run := by
  rw [eq_appendAll_of_commit hc]
  exact getRunState_congr (Log.lastOn_appendAll_of_ne l fun m hm => subject_ne_of_mem_messages hm h)

/-- The last run state of a batch becomes the state of its run. -/
theorem getRunState_of_commit {s : RunState} {n : ℕ} {pre : List (RunState × ℕ)}
    (hstates : records.filterMap Record.runState? = pre ++ [(s, n)])
    (hc : commit dup l records = .ok l') :
    ∃ k, getRunState l' s.wfID s.runID = .ok (some { s with seqID := k }) := by
  obtain ⟨a, b, rfl, -, hb⟩ := List.filterMap_eq_append_iff.mp hstates
  obtain ⟨b₁, r, b₂, rfl, -, hr, hnone⟩ := List.filterMap_eq_cons_iff.mp hb
  obtain rfl := Record.runState?_eq_some.mp hr
  rw [eq_appendAll_of_commit hc]
  have hb₂ : ∀ m ∈ b₂.flatMap Record.messages, m.subject ≠ .runState s.wfID s.runID :=
    fun m hm => subject_ne_of_mem_messages hm fun s' n' hmem _ _ => by
      have := List.filterMap_eq_nil_iff.mp hnone _ hmem
      simp [Record.runState?] at this
  have hlast := Log.lastOn_appendAll l ((a ++ b₁).flatMap Record.messages)
    (b₂.flatMap Record.messages)
    { subject := .runState s.wfID s.runID, data := .runState { s with seqID := 0 },
      expectedLast := expectedLastHeader n } hb₂
  simp only [List.flatMap_append, List.flatMap_cons, ← List.append_assoc] at hlast ⊢
  rw [show (Record.runState s n).messages = [_] from rfl, List.append_assoc,
    List.singleton_append, getRunState, hlast]
  exact ⟨_, rfl⟩

/-- The one run state of a committed batch follows the state it expects to follow. -/
theorem lastSeq_of_commit {s : RunState} {n : ℕ}
    (hstates : records.filterMap Record.runState? = [(s, n)]) (hn : 0 < n)
    (hc : commit dup l records = .ok l') : l.lastSeq (.runState s.wfID s.runID) = n := by
  obtain ⟨a, r, b, rfl, ha, hr, -⟩ := List.filterMap_eq_cons_iff.mp hstates
  obtain rfl := Record.runState?_eq_some.mp hr
  have hlog := (commit_eq_ok hc).1
  rw [List.flatMap_append, List.flatMap_cons,
    show (Record.runState s n).messages = [_] from rfl, List.singleton_append] at hlog
  refine Log.lastSeq_of_commit hlog (fun m hm => ?_) (by simp [expectedLastHeader, hn])
  exact subject_ne_of_mem_messages hm fun s' n' hmem _ _ => by
    have := ha _ hmem
    simp [Record.runState?] at this

end RunStates

/-! ### Run descriptions -/

section RunInfos

variable {l : Stream} {wf : WFID}

/-- The subject of a run description for `wf`. -/
def Subject.describes (wf : WFID) : Subject → Bool
  | .runInfo _ wf' _ => wf' == wf
  | _ => false

theorem getRunByWFID_congr {l' : Stream}
    (h : l'.lastWhere (Subject.describes wf) = l.lastWhere (Subject.describes wf)) :
    getRunByWFID l' wf = getRunByWFID l wf := by
  change (match l'.lastWhere (Subject.describes wf) with | none => _ | some e => _) = _
  rw [h]
  rfl

theorem getRunByWFID_appendAll_of_not {ms : List Msg}
    (h : ∀ m ∈ ms, m.subject.describes wf = false) :
    getRunByWFID (l.appendAll ms) wf = getRunByWFID l wf :=
  getRunByWFID_congr (Log.lastWhere_appendAll_of_not l h)

/-- The last run description of a stored batch becomes the latest one of its workflow. -/
theorem getRunByWFID_appendAll (l : Stream) (a b : List Msg) {info : RunInfo} {m : Msg}
    (hs : m.subject.describes wf = true) (hdata : m.data = .runInfo info)
    (hb : ∀ m' ∈ b, m'.subject.describes wf = false) :
    getRunByWFID (l.appendAll (a ++ m :: b)) wf = .ok (some info) := by
  change (match (l.appendAll (a ++ m :: b)).lastWhere (Subject.describes wf) with
    | none => _ | some e => _) = _
  rw [Log.lastWhere_appendAll l a b m hs hb]
  simp only [hdata]

@[simp] theorem getRunByWFID_append_runInfo (l : Stream) (info : RunInfo) :
    getRunByWFID (l.append (runInfoMessage info)) info.wfID = .ok (some info) :=
  getRunByWFID_appendAll l [] [] (by simp [runInfoMessage, Subject.describes]) rfl (by simp)

@[simp] theorem getRunByWFID_publishDirective (dup : Stream → DirectiveID → Bool) (l : Stream)
    (d : Directive) : getRunByWFID (publishDirective dup l d) wf = getRunByWFID l wf := by
  rcases publishDirective_eq dup l d with h | h <;> rw [h]
  refine getRunByWFID_appendAll_of_not fun m hm => ?_
  rw [List.mem_singleton.mp hm]
  rfl

end RunInfos

end Grctl
