import Grctl.Run.Fragments
import Grctl.System.Results

/-!
# The values of a workflow's variables

The result of a step may carry new values for variables of the workflow, each of which is stored
under a subject of its own. They take effect with the step: the batch that stores them tells the end
of the step in the history of the run, and a batch that tells the end of a step stores what its
result carries. A result that is refused, or that fails the run because of what it names next,
leaves neither behind.

So the values that have been stored under a key of a run, in their order, are those that the steps
of its history have set, in the order in which they ended.

## Main definitions

* `Record.isStepFree`: a record that neither sets a variable nor tells the end of a step.
* `StepEnd`: the batch of a step result that takes effect.
* `Commit.endsStepOf`: a batch that tells the end of a step of a run.
* `storedAt`: the values stored under a key of a run.

## Main results

* `stepEnd_of_handleRecords`: a batch is free of steps, or it is the one of a step result.
* `updates_follow_steps`: what is stored under a key is what the ended steps have set.
-/

namespace Grctl

open SubjectLog Lts

/-! ### Batches -/

/-- The record neither sets a variable nor tells the end of a step. -/
def Record.isStepFree : Record → Bool
  | .kv .. => false
  | .history h => !h.kind.endsStep
  | _ => true

/-- All records are free of steps. -/
def StepFree (records : List Record) : Prop := ∀ r ∈ records, r.isStepFree = true

section StepFree

variable {records records' : List Record} {r : Record}

@[simp] theorem stepFree_nil : StepFree [] := by simp [StepFree]

@[simp] theorem stepFree_cons : StepFree (r :: records) ↔ r.isStepFree = true ∧ StepFree records :=
  List.forall_mem_cons

@[simp] theorem stepFree_append :
    StepFree (records ++ records') ↔ StepFree records ∧ StepFree records' :=
  List.forall_mem_append

theorem History.About.endsStep {d : Directive} {k : HistoryKind} {e : HistoryEvent}
    (he : History.About d k e) : e.kind.endsStep = k.endsStep := by
  rw [he.kind]

@[simp] theorem stepFree_parentCallbackRecords {d : Directive} {status : RunStatus} {result : Value}
    {error : Option ErrorDetails} :
    StepFree (Records.parentCallbackRecords d status result error) := by
  unfold Records.parentCallbackRecords
  split <;> simp [Record.isStepFree]

@[simp] theorem stepFree_workerTerminateRecords {d : Directive} {cur : RunState} :
    StepFree (Records.workerTerminateRecords d cur) := by
  unfold Records.workerTerminateRecords
  split <;> simp [Record.isStepFree]

@[simp] theorem stepFree_outputRecords {d : Directive} {v : Value} :
    StepFree (Records.outputRecords d v) := by
  unfold Records.outputRecords
  split <;> simp [Record.isStepFree]

/-- Only the piece of a step result is not free of steps. -/
theorem Fragment.stepFree {d : Directive} {piece : List Record} (h : Fragment d piece)
    (hd : d.nextKind? = none) : StepFree piece := by
  cases h with
  | start h =>
    rw [Records.start] at h
    split at h
    · cases h
    · simp only [bind_eq_ok, wrap_eq_ok, pure_eq_ok] at h
      obtain ⟨e, he, rfl⟩ := h
      have hfree : e.kind.endsStep = false := (History.about_of_runStarted he).endsStep
      split <;> simp [hfree, Record.isStepFree]
  | state => simp [Record.isStepFree]
  | note he _ hend => simp [Record.isStepFree, he.endsStep, hend]
  | complete h =>
    obtain ⟨result, ri, e, -, -, he, rfl⟩ := Records.completeRun_eq_ok h
    have hfree : e.kind.endsStep = false := (History.about_of_runCompleted he).endsStep
    simp [hfree, Record.isStepFree, Records.purgeRecord]
  | fail h =>
    obtain ⟨error, ri, e, -, -, he, rfl⟩ := Records.failRun_eq_ok h
    have hfree : e.kind.endsStep = false := (History.about_of_runFailed he).endsStep
    simp [hfree, Record.isStepFree, Records.purgeRecord]
  | terminate h =>
    obtain ⟨reason, ri, e, -, -, he, rfl⟩ := Records.terminateRun_eq_ok h
    have hfree : e.kind.endsStep = false := (History.about_of_runTerminated he).endsStep
    simp [hfree, Record.isStepFree, Records.purgeRecord]
  | cancel h =>
    obtain ⟨reason, ri, e, -, -, he, rfl⟩ := Records.cancelRun_eq_ok h
    have hfree : e.kind.endsStep = false := (History.about_of_runCancelled he).endsStep
    simp [hfree, Record.isStepFree, Records.purgeRecord]
  | dispatch h =>
    simp only [Records.dispatch, bind_eq_ok, wrap_eq_ok, pure_eq_ok] at h
    obtain ⟨timer, -, ri, -, rfl⟩ := h
    simp [Record.isStepFree]
  | wait h =>
    obtain ⟨t, name, ri, e, -, -, he, rfl⟩ := Records.wait_eq_ok h
    have hfree : e.kind.endsStep = false := (History.about_of_waitStarted he).endsStep
    split_ifs <;> simp [hfree, Record.isStepFree]
  | event h =>
    obtain ⟨e, he, rfl⟩ := Records.eventReceived_eq_ok h
    have hfree : e.kind.endsStep = false := (History.about_of_eventReceived he).endsStep
    split_ifs <;> simp [hfree, Record.isStepFree]
  | step hmsg => cases (Directive.nextKind?_of_msg hmsg).symm.trans hd

theorem Built.stepFree {d : Directive} (h : Built d records) (hd : d.nextKind? = none) :
    StepFree records :=
  h.elim stepFree_nil (fun _ _ ha hb => stepFree_append.mpr ⟨ha, hb⟩)
    fun _ hpiece => hpiece.stepFree hd

end StepFree

/-- The new values that a directive carries. -/
def Directive.updates (d : Directive) : KVUpdates :=
  match d.msg with
  | .stepResult _ _ _ _ kvUpdates _ _ => kvUpdates.getD []
  | _ => []

/-- The batch of the step result `d` that takes effect: the new values, the end of the step, and
records that are free of steps. -/
inductive StepEnd (d : Directive) : List Record → Prop
  | mk {kvUpdates : Option KVUpdates} {e : HistoryEvent} {rest : List Record}
      (hupdates : d.updates = kvUpdates.getD []) (hrun : (e.wfID, e.runID) = d.runInfo.key)
      (hend : e.kind.endsStep = true) (hrest : StepFree rest) :
      StepEnd d (Records.kvRecords d kvUpdates ++ .history e :: rest)

section Plan

variable {cfg : Defaults} {env failEnv : Readings} {d : Directive} {sn : StateSnapshot}
  {records : List Record}

/-- The end of a step, with the rest of its batch. -/
theorem stepEnd_of_parts {processedKind nextMsgKind : DirectiveKind}
    {processedMsg nextMsg : DirectiveMessage} {workerID : Option WorkerID} {durationMS : ℤ}
    {kvUpdates : Option KVUpdates} {k : HistoryKind} {e : HistoryEvent} {cur : RunState}
    (hmsg : d.msg = .stepResult processedKind processedMsg workerID durationMS kvUpdates
      nextMsgKind nextMsg) (he : History.About d k e) (hend : k.endsStep = true)
    (hrest : StepFree records) :
    StepEnd d (Records.kvRecords d kvUpdates ++ [.history e] ++
      Records.deleteStepTimeoutTimer d cur ++ records) := by
  rw [List.append_assoc, List.append_assoc]
  refine .mk (by rw [Directive.updates, hmsg]) he.key_eq (he.endsStep.trans hend) ?_
  simpa [Records.deleteStepTimeoutTimer, Record.isStepFree] using hrest

theorem stepEnd_of_planFromStepResult (h : planFromStepResult cfg env d sn = .ok records) :
    StepEnd d records := by
  obtain ⟨notes, body, hparts, rfl⟩ := planFromStepResult_eq_ok h
  cases hparts with
  | fail hnotes hbody =>
    obtain ⟨_, _, _, _, _, _, _, e, hmsg, he, rfl⟩ := Records.stepFail_eq_ok hnotes
    have hfree : StepFree body := Fragment.stepFree (d := .zero) (.fail hbody) rfl
    exact stepEnd_of_parts hmsg (History.about_of_stepFailed he) rfl hfree
  | cancel _ hnotes hbody =>
    obtain ⟨_, _, _, _, _, _, _, e, hmsg, he, rfl⟩ := Records.stepComplete_eq_ok hnotes
    have hfree : StepFree body := Fragment.stepFree (d := .zero) (.cancel hbody) rfl
    exact stepEnd_of_parts hmsg (History.about_of_stepCompleted he) rfl hfree
  | next _ _ hnotes hbody =>
    obtain ⟨_, _, _, _, _, _, _, e, hmsg, he, rfl⟩ := Records.stepComplete_eq_ok hnotes
    have hfree : StepFree body := Built.stepFree (d := .zero) (built_planTransition hbody) rfl
    exact stepEnd_of_parts hmsg (History.about_of_stepCompleted he) rfl hfree

/-- A batch is free of steps, or it is that of a step result that takes effect. -/
theorem stepEnd_of_handleRecords (hd : d.Decoded)
    (h : handleRecords cfg env failEnv d sn = .ok records) :
    StepFree records ∨ StepEnd d records := by
  rw [handleRecords] at h
  split at h
  · exact .inl (Fragment.stepFree (d := .zero) (.fail h) rfl)
  by_cases hkind : d.kind = .stepResult
  · rw [plan] at h
    split_ifs at h
    · cases h
      exact .inl stepFree_nil
    · simp only [hkind] at h
      exact .inr (stepEnd_of_planFromStepResult h)
  · have hnext : d.nextKind? = none := by
      have hagrees := hd.2
      rw [Directive.nextKind?]
      split
      · rename_i hmsg
        cases hk : d.kind <;> simp_all [DirectiveMessage.agrees]
      · rfl
    exact .inl ((built_plan h).stepFree hnext)

end Plan

/-! ### What a batch stores -/

/-- The values that a list of updates has for a key. -/
def KVUpdates.at (key : String) (kvMap : KVUpdates) : List Value :=
  (kvMap.filter (·.1 = key)).map Prod.snd

/-- The value that a message stores under a key of a run. -/
def Msg.valueAt? (wf : WFID) (run : RunID) (key : String) (m : Msg) : Option Value :=
  match m.data with
  | .value v => if m.subject = .kv wf run key then some v else none
  | _ => none

/-- The record tells the end of a step of the run. -/
def Record.endsStepOf (wf : WFID) (run : RunID) : Record → Bool
  | .history h => h.kind.endsStep && decide ((h.wfID, h.runID) = (wf, run))
  | _ => false

/-- The batch tells the end of a step of the run. -/
def Commit.endsStepOf (wf : WFID) (run : RunID) (c : Commit) : Bool :=
  c.records.any (Record.endsStepOf wf run)

section Stored

variable {wf : WFID} {run : RunID} {key : String} {records : List Record} {d : Directive}

theorem StepFree.filterMap_valueAt? (h : StepFree records) :
    (records.flatMap Record.messages).filterMap (Msg.valueAt? wf run key) = [] := by
  refine List.filterMap_eq_nil_iff.mpr fun m hm => ?_
  obtain ⟨r, hr, hm⟩ := List.mem_flatMap.mp hm
  have hfree := h r hr
  cases r <;> simp_all [Record.messages, Record.isStepFree, Msg.valueAt?, Directive.message]

theorem StepFree.endsStepOf (h : StepFree records) (wf : WFID) (run : RunID) :
    ∀ r ∈ records, r.endsStepOf wf run = false := by
  intro r hr
  have hfree := h r hr
  cases r <;> simp_all [Record.isStepFree, Record.endsStepOf]

theorem filterMap_valueAt?_kvRecords (kvUpdates : Option KVUpdates) :
    ((Records.kvRecords d kvUpdates).flatMap Record.messages).filterMap (Msg.valueAt? wf run key) =
      if d.runInfo.key = (wf, run) then KVUpdates.at key (kvUpdates.getD []) else [] := by
  cases kvUpdates with
  | none => simp [Records.kvRecords, KVUpdates.at]
  | some kvMap =>
    have hstored (u : String × Value) : Msg.valueAt? wf run key
        { subject := .kv d.runInfo.wfID d.runInfo.id u.1, data := .value u.2 } =
          if d.runInfo.key = (wf, run) ∧ u.1 = key then some u.2 else none := by
      simp only [Msg.valueAt?, Subject.kv.injEq, RunInfo.key, Prod.mk.injEq, and_assoc]
    simp only [Records.kvRecords, List.flatMap_cons, List.flatMap_nil, List.append_nil,
      Record.messages, Option.getD_some, KVUpdates.at]
    induction kvMap with
    | nil => simp
    | cons u kvMap ih =>
      rw [List.map_cons, List.filterMap_cons, ih, hstored]
      by_cases hrun : d.runInfo.key = (wf, run) <;> by_cases hkey : u.1 = key <;> simp [hrun, hkey]

theorem endsStepOf_history {e : HistoryEvent} (hrun : (e.wfID, e.runID) = d.runInfo.key)
    (hend : e.kind.endsStep = true) :
    (Record.history e).endsStepOf wf run = decide (d.runInfo.key = (wf, run)) := by
  rw [Record.endsStepOf, hend, hrun, Bool.true_and]

theorem endsStepOf_kvRecords (d : Directive) (kvUpdates : Option KVUpdates) (wf : WFID)
    (run : RunID) : ∀ r ∈ Records.kvRecords d kvUpdates, r.endsStepOf wf run = false := by
  cases kvUpdates <;> simp [Records.kvRecords, Record.endsStepOf]

/-- The batch of a step result stores its new values exactly if it tells the end of the step, which
it does once. -/
theorem StepEnd.stored (h : StepEnd d records) :
    (records.flatMap Record.messages).filterMap (Msg.valueAt? wf run key) =
        (if records.any (Record.endsStepOf wf run) then KVUpdates.at key d.updates else []) ∧
      records.countP (Record.endsStepOf wf run) =
        if records.any (Record.endsStepOf wf run) then 1 else 0 := by
  obtain @⟨kvUpdates, e, rest, hupdates, hrun, hend, hrest⟩ := h
  have hkv := endsStepOf_kvRecords d kvUpdates wf run
  have hfree := hrest.endsStepOf wf run
  have hany : (Records.kvRecords d kvUpdates ++ .history e :: rest).any
      (Record.endsStepOf wf run) = decide (d.runInfo.key = (wf, run)) := by
    rw [List.any_append, List.any_cons, endsStepOf_history hrun hend,
      List.any_eq_false.mpr fun r hr => by simp [hkv r hr],
      List.any_eq_false.mpr fun r hr => by simp [hfree r hr], Bool.false_or, Bool.or_false]
  have hevent : Msg.valueAt? wf run key
      { subject := .history e.wfID e.runID, data := .history e } = none := rfl
  rw [hany]
  refine ⟨?_, ?_⟩
  · rw [List.flatMap_append, List.flatMap_cons, List.filterMap_append, List.filterMap_append,
      filterMap_valueAt?_kvRecords, hrest.filterMap_valueAt?, hupdates]
    simp [Record.messages, hevent]
  · rw [List.countP_append, List.countP_cons, endsStepOf_history hrun hend,
      List.countP_eq_zero.mpr fun r hr => by simp [hkv r hr],
      List.countP_eq_zero.mpr fun r hr => by simp [hfree r hr], Nat.zero_add, Nat.zero_add]

theorem StepFree.stored (h : StepFree records) :
    (records.flatMap Record.messages).filterMap (Msg.valueAt? wf run key) =
        (if records.any (Record.endsStepOf wf run) then KVUpdates.at key d.updates else []) ∧
      records.countP (Record.endsStepOf wf run) =
        if records.any (Record.endsStepOf wf run) then 1 else 0 := by
  have hfree := h.endsStepOf wf run
  rw [List.any_eq_false.mpr fun r hr => by simp [hfree r hr], h.filterMap_valueAt?,
    List.countP_eq_zero.mpr fun r hr => by simp [hfree r hr]]
  exact ⟨rfl, rfl⟩

/-- A batch stores new values exactly if it tells the end of a step. -/
theorem stored_of_handleRecords {cfg : Defaults} {env failEnv : Readings} {sn : StateSnapshot}
    (hd : d.Decoded) (h : handleRecords cfg env failEnv d sn = .ok records) (wf : WFID)
    (run : RunID) (key : String) :
    (records.flatMap Record.messages).filterMap (Msg.valueAt? wf run key) =
        (if records.any (Record.endsStepOf wf run) then KVUpdates.at key d.updates else []) ∧
      records.countP (Record.endsStepOf wf run) =
        if records.any (Record.endsStepOf wf run) then 1 else 0 := by
  rcases stepEnd_of_handleRecords hd h with hfree | hend
  · exact hfree.stored
  · exact hend.stored

end Stored

/-! ### Whole runs -/

/-- The values stored under a key of a run, in the order in which they were stored. -/
def storedAt (wf : WFID) (run : RunID) (key : String) (l : Stream) : List Value :=
  ((l.entries.filter (Log.Entry.isOn (.kv wf run key))).map Entry.toMessage).filterMap
    (Msg.valueAt? wf run key)

/-- The message tells the end of a step of the run. -/
def Msg.endsStepOf (wf : WFID) (run : RunID) (m : Msg) : Bool :=
  match m.data with
  | .history h => Record.endsStepOf wf run (.history h)
  | _ => false

theorem countP_endsStepOf_messages (records : List Record) (wf : WFID) (run : RunID) :
    (records.flatMap Record.messages).countP (Msg.endsStepOf wf run) =
      records.countP (Record.endsStepOf wf run) := by
  induction records with
  | nil => rfl
  | cons r records ih =>
    rw [List.flatMap_cons, List.countP_append, ih, List.countP_cons, Nat.add_comm]
    congr 1
    cases r with
    | kv wfID runID kvMap =>
      refine List.countP_eq_zero.mpr fun m hm => ?_
      obtain ⟨u, -, rfl⟩ := List.mem_map.mp hm
      simp [Msg.endsStepOf]
    | _ => simp [Record.messages, Msg.endsStepOf, Record.endsStepOf, Directive.message]

section Runs

variable {cfg : Manager.Config} {w : World}

theorem Outside.valueAt?_eq_none {m : Msg} (h : Outside m) (wf : WFID) (run : RunID)
    (key : String) : Msg.valueAt? wf run key m = none := by
  cases h <;> rfl

theorem Outside.endsStepOf_eq_false {m : Msg} (h : Outside m) (wf : WFID) (run : RunID) :
    Msg.endsStepOf wf run m = false := by
  cases h with
  | history hh => simp [Msg.endsStepOf, Record.endsStepOf, hh, HistoryKind.endsStep]
  | _ => rfl

/-- The values that are stored under a key, and the ends of steps that are told, come from the same
batches, removed messages included. -/
theorem messages_follow_steps (h : Reachable cfg w) (wf : WFID) (run : RunID) (key : String) :
    w.stream.messages.filterMap (Msg.valueAt? wf run key) =
        (w.journal.filter (Commit.endsStepOf wf run)).flatMap
          (fun c => KVUpdates.at key c.directive.updates) ∧
      w.stream.messages.countP (Msg.endsStepOf wf run) =
        w.journal.countP (Commit.endsStepOf wf run) := by
  refine stored_invariant (P := fun l j => l.messages.filterMap (Msg.valueAt? wf run key) =
      (j.filter (Commit.endsStepOf wf run)).flatMap
        (fun c => KVUpdates.at key c.directive.updates) ∧
    l.messages.countP (Msg.endsStepOf wf run) = j.countP (Commit.endsStepOf wf run)) h
    ⟨rfl, rfl⟩ ?_ ?_ ?_
  · intro l j m ih hm
    rw [Log.append, Log.messages_appendAll, List.filterMap_append, List.countP_append,
      List.filterMap_cons_none (hm.valueAt?_eq_none wf run key), List.filterMap_nil,
      List.append_nil, List.countP_cons_of_neg (by simp [hm.endsStepOf_eq_false])]
    exact ih
  · intro l j p ih _
    rwa [Log.messages_purge]
  · intro w c sn records l hw ih hb
    obtain ⟨env, failEnv, hrec⟩ := hb.planned
    have hstored := stored_of_handleRecords (hw.calls c hb.call).decoded hrec wf run key
    rw [Log.messages_appendAll, List.filterMap_append, List.countP_append, List.filter_append,
      List.flatMap_append, List.countP_append, ih.1, ih.2, countP_endsStepOf_messages,
      hstored.1, hstored.2]
    have hends : (w.commitOf c sn records).endsStepOf wf run =
      records.any (Record.endsStepOf wf run) := rfl
    rw [List.filter_cons, List.countP_cons, hends]
    cases records.any (Record.endsStepOf wf run) with
    | false => simp
    | true => simp [World.commitOf]

/-- The values stored under a key of a run are those that the ended steps of the run have set, in
the order in which the steps ended; and the history tells as many ends of steps. -/
theorem updates_follow_steps (h : Reachable cfg w) (wf : WFID) (run : RunID) (key : String) :
    storedAt wf run key w.stream =
        (w.journal.filter (Commit.endsStepOf wf run)).flatMap
          (fun c => KVUpdates.at key c.directive.updates) ∧
      w.stream.messages.countP (Msg.endsStepOf wf run) =
        w.journal.countP (Commit.endsStepOf wf run) := by
  obtain ⟨hvalues, hcount⟩ := messages_follow_steps h wf run key
  refine ⟨?_, hcount⟩
  rw [← hvalues, storedAt, Log.messages, List.filterMap_map, List.filterMap_map,
    List.filterMap_filter]
  refine List.filterMap_congr fun e he => ?_
  by_cases hs : e.subject = .kv wf run key
  · -- no value of a variable has been removed
    have hlive := live_of_not_isResidue h e he (by rw [hs]; rfl)
    simp [Log.Entry.isOn, hs, hlive]
  · have hnone : Msg.valueAt? wf run key e.toMessage = none := by
      rw [Msg.valueAt?]
      split
      · exact if_neg hs
      · rfl
    simp [Log.Entry.isOn, hs, hnone]

end Runs

namespace Sample

/-- The result of a step that sets a variable. -/
def sets (id : DirectiveID) (v : Value) (nextMsgKind : DirectiveKind)
    (nextMsg : DirectiveMessage) : Directive :=
  directive id .stepResult
    (.stepResult .start (.start .nil 0) (some "worker") 5 (some [("total", v)]) nextMsgKind nextMsg)

/-- Two steps set a variable, one after the other. -/
def counted : List Label :=
  .publish start :: handled 1 ++ .publish (sets "one" (.raw "1") .step (.step "pay" 0)) ::
    handled 9 ++ .publish (sets "two" (.raw "2") .complete (.complete .nil)) :: handled 17

end Sample

theorem updates_follow_steps_counted :
    storedAt "wf" "r1" "total" (Sample.world Sample.counted).stream = [.raw "1", .raw "2"] ∧
      ((Sample.world Sample.counted).journal.filter (Commit.endsStepOf "wf" "r1")).flatMap
        (fun c => KVUpdates.at "total" c.directive.updates) = [.raw "1", .raw "2"] := by
  have hstored : storedAt "wf" "r1" "total" (Sample.world Sample.counted).stream =
      [.raw "1", .raw "2"] := by decide +kernel
  have hsteps := (updates_follow_steps (Sample.reachable_world Sample.counted) "wf" "r1" "total").1
  exact ⟨hstored, hsteps ▸ hstored⟩

end Grctl
