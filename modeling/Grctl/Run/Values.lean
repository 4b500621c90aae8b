import Grctl.Run.Fragments
import Grctl.Run.Scope

/-!
# The values of a run

The input, the output and the error of a run are stored on subjects of their own, so that a client
can read them without the history. The history tells them too: the event that opens it carries the
input, and the event that closes it the output or the error. A value that is absent is told as a nil
and not stored.

A batch stores what it tells, value for value and for the same run.

## Main definitions

* `RunValue`, `Record.value?`: what a record stores.
* `HistoryEvent.value?`, `Record.told?`: what an event tells.
* `Told records`: the records store what their events tell.

## Main results

* `told_of_handleRecords`: every batch stores what it tells.
-/

namespace Grctl

/-- A value that is stored for a run. -/
inductive RunValue
  | input (value : Value)
  | output (value : Value)
  | error (error : ErrorDetails)
  deriving DecidableEq, Repr

/-- A value that is there. -/
def Value.given? : Value → Option Value
  | .nil => none
  | v => some v

/-- The value that a record stores, with the run it is stored for. -/
def Record.value? : Record → Option (RunKey × RunValue)
  | .runInput wfID runID input => some ((wfID, runID), .input input)
  | .runOutput wfID runID result => some ((wfID, runID), .output result)
  | .runError wfID runID error => some ((wfID, runID), .error error)
  | _ => none

/-- The value that an event of the history tells, with its run. -/
def HistoryEvent.value? (h : HistoryEvent) : Option (RunKey × RunValue) :=
  let value : Option RunValue := match h.kind, h.msg with
    | .runStarted, .runStarted input => input.given?.map .input
    | .runCompleted, .runCompleted result _ => result.given?.map .output
    | .runFailed, .runFailed error _ => some (.error error)
    | _, _ => none
  value.map ((h.wfID, h.runID), ·)

/-- The value that a record tells. -/
def Record.told? : Record → Option (RunKey × RunValue)
  | .history h => h.value?
  | _ => none

theorem HistoryEvent.value?_of_kind {h : HistoryEvent} (hk : h.kind.tells = false) :
    h.value? = none := by
  rw [value?]
  split <;> simp_all [HistoryKind.tells]

/-- The records store what their events tell. -/
def Told (records : List Record) : Prop :=
  records.filterMap Record.value? = records.filterMap Record.told?

/-- A record that neither stores nor tells a value. -/
def Record.isPlain (r : Record) : Prop := r.value? = none ∧ r.told? = none

section Told

variable {records records' : List Record} {r : Record}

theorem told_nil : Told [] := rfl

theorem Told.append (h : Told records) (h' : Told records') : Told (records ++ records') := by
  rw [Told, List.filterMap_append, List.filterMap_append, h, h']

theorem Told.cons (h : Told records) (hr : r.isPlain) : Told (r :: records) := by
  rw [Told, List.filterMap_cons_none hr.1, List.filterMap_cons_none hr.2]
  exact h

theorem told_of_isPlain (h : ∀ r ∈ records, r.isPlain) : Told records := by
  induction records with
  | nil => exact told_nil
  | cons r records ih =>
    obtain ⟨hr, hrecords⟩ := List.forall_mem_cons.mp h
    exact (ih hrecords).cons hr

/-- A value that is told and then stored, with other records between and behind. -/
theorem told_of_pair {h : HistoryEvent} (front stored : List Record) {rest : List Record}
    (hfront : ∀ r ∈ front, r.isPlain) (hvalue : stored.filterMap Record.value? = h.value?.toList)
    (hstored : stored.filterMap Record.told? = []) (hrest : ∀ r ∈ rest, r.isPlain) :
    Told (.history h :: front ++ stored ++ rest) := by
  have hplain {f : Record → Option (RunKey × RunValue)} {rs : List Record}
      (hf : ∀ r ∈ rs, f r = none) : rs.filterMap f = [] := List.filterMap_eq_nil_iff.mpr hf
  have hhead : (Record.history h :: front).filterMap Record.told? = h.value?.toList := by
    rw [List.filterMap_cons, hplain fun r hr => (hfront r hr).2]
    cases hv : h.value? <;> simp [Record.told?, hv]
  simp only [Told, List.filterMap_append]
  rw [List.filterMap_cons_none (by rfl), hplain fun r hr => (hfront r hr).1,
    hplain fun r hr => (hrest r hr).1, hplain fun r hr => (hrest r hr).2, hvalue, hstored, hhead]
  simp

end Told

namespace Records

variable {env : Readings} {d : Directive} {cur : RunState} {sn : StateSnapshot}
  {records : List Record} {timeoutMS : UInt32}

theorem isPlain_history {k : HistoryKind} {e : HistoryEvent} (he : History.About d k e)
    (hk : k.tells = false) : (Record.history e).isPlain :=
  ⟨rfl, HistoryEvent.value?_of_kind (he.kind ▸ hk)⟩

theorem isPlain_parentCallbackRecords {status : RunStatus} {result : Value}
    {error : Option ErrorDetails} :
    ∀ r ∈ parentCallbackRecords d status result error ++ [purgeRecord d], r.isPlain := by
  unfold parentCallbackRecords
  split <;> simp [Record.isPlain, Record.value?, Record.told?, purgeRecord]

theorem isPlain_workerTerminateRecords : ∀ r ∈ workerTerminateRecords d cur, r.isPlain := by
  unfold workerTerminateRecords
  split <;> simp [Record.isPlain, Record.value?, Record.told?]

theorem told_completeRun (h : completeRun env d cur = .ok records) : Told records := by
  obtain ⟨result, ri, e, hmsg, -, he, rfl⟩ := completeRun_eq_ok h
  obtain ⟨_, ms, hmsg', -, rfl⟩ := History.runCompleted_eq_ok he
  cases hmsg.symm.trans hmsg'
  rw [List.append_assoc]
  refine Told.cons (told_of_pair [.runState _ _] _ ?_ ?_ ?_ isPlain_parentCallbackRecords)
    ⟨rfl, rfl⟩
  · simp [Record.isPlain, Record.value?, Record.told?]
  · unfold outputRecords
    split <;> simp_all [HistoryEvent.value?, History.event, Value.given?, Record.value?]
  · unfold outputRecords
    split <;> simp [Record.told?]

theorem told_failRun (h : failRun env d cur = .ok records) : Told records := by
  obtain ⟨error, ri, e, hmsg, -, he, rfl⟩ := failRun_eq_ok h
  rw [History.runFailed, hmsg] at he
  simp only [bind_eq_ok, pure_eq_ok] at he
  obtain ⟨ms, -, rfl⟩ := he
  rw [List.append_assoc, List.append_assoc]
  refine Told.cons (told_of_pair [.runState _ _]
    [.runError d.runInfo.wfID d.runInfo.id error] ?_ rfl rfl ?_) ⟨rfl, rfl⟩
  · simp [Record.isPlain, Record.value?, Record.told?]
  · rw [List.forall_mem_append]
    exact ⟨isPlain_workerTerminateRecords, isPlain_parentCallbackRecords⟩

/-- The end of a run that leaves no value: a termination or a cancellation. -/
theorem told_end {k : HistoryKind} {e : HistoryEvent} {ri : RunInfo} {s : RunState} {n : ℕ}
    (he : History.About d k e) (hk : k.tells = false) (hrecords : ∀ r ∈ records, r.isPlain) :
    Told (.runInfo ri 0 :: .history e :: .runState s n :: records) :=
  (((told_of_isPlain hrecords).cons ⟨rfl, rfl⟩).cons (isPlain_history he hk)).cons ⟨rfl, rfl⟩

theorem told_terminateRun (h : terminateRun env d cur = .ok records) : Told records := by
  obtain ⟨reason, ri, e, -, -, he, rfl⟩ := terminateRun_eq_ok h
  rw [List.append_assoc, List.append_assoc]
  refine told_end (History.about_of_runTerminated he) rfl fun r hr => ?_
  have hr : r ∈ workerTerminateRecords d cur ++ _ := hr
  rcases List.mem_append.mp hr with hr | hr
  · exact isPlain_workerTerminateRecords r hr
  · exact isPlain_parentCallbackRecords r hr

theorem told_cancelRun (h : cancelRun env d cur = .ok records) : Told records := by
  obtain ⟨reason, ri, e, -, -, he, rfl⟩ := cancelRun_eq_ok h
  rw [List.append_assoc]
  exact told_end (History.about_of_runCancelled he) rfl isPlain_parentCallbackRecords

theorem told_dispatch {name : String} {cursor : ℕ}
    (h : dispatch env d name cur cursor timeoutMS = .ok records) : Told records := by
  simp only [dispatch, bind_eq_ok, wrap_eq_ok, pure_eq_ok] at h
  obtain ⟨timer, -, ri, -, rfl⟩ := h
  rfl

theorem told_wait (h : wait env d sn timeoutMS = .ok records) : Told records := by
  obtain ⟨t, name, ri, e, -, -, he, rfl⟩ := wait_eq_ok h
  have htail {t : Timer} {s : RunState} {n : ℕ} : Told [.timer t, .runState s n] := rfl
  exact ((htail.cons (isPlain_history (History.about_of_waitStarted he) rfl)).cons
    ⟨rfl, rfl⟩).append (by split_ifs <;> rfl)

/-- What closes a step before the transition of a step result. -/
theorem told_step {k : HistoryKind} {e : HistoryEvent} {kv : Option KVUpdates}
    (he : History.About d k e) (hk : k.tells = false) :
    Told (kvRecords d kv ++ [.history e] ++ deleteStepTimeoutTimer d cur) := by
  have hkv : Told (kvRecords d kv) := by cases kv <;> rfl
  exact (hkv.append (told_nil.cons (isPlain_history he hk))).append rfl

theorem told_start (h : start d = .ok records) : Told records := by
  rw [start] at h
  split at h
  · cases h
  · simp only [bind_eq_ok, wrap_eq_ok, pure_eq_ok] at h
    obtain ⟨e, he, rfl⟩ := h
    rw [History.runStarted] at he
    split at he
    · rename_i input timeout hmsg
      cases he
      rw [hmsg]
      cases input <;> rfl
    · simp at he

end Records

theorem Fragment.told {d : Directive} {piece : List Record} (h : Fragment d piece) :
    Told piece := by
  cases h with
  | start h => exact Records.told_start h
  | state => rfl
  | note he hk => exact told_nil.cons (Records.isPlain_history he hk)
  | complete h => exact Records.told_completeRun h
  | fail h => exact Records.told_failRun h
  | terminate h => exact Records.told_terminateRun h
  | cancel h => exact Records.told_cancelRun h
  | dispatch h => exact Records.told_dispatch h
  | wait h => exact Records.told_wait h
  | event h =>
    obtain ⟨e, he, rfl⟩ := Records.eventReceived_eq_ok h
    refine Told.append ?_ (by split_ifs <;> rfl)
    exact (told_nil.cons (Records.isPlain_history (History.about_of_eventReceived he) rfl)).cons
      ⟨rfl, rfl⟩
  | step _ he hk => exact Records.told_step he hk

/-- Every batch stores what it tells. -/
theorem told_of_handleRecords {cfg : Defaults} {env failEnv : Readings} {d : Directive}
    {sn : StateSnapshot} {records : List Record}
    (h : handleRecords cfg env failEnv d sn = .ok records) : Told records :=
  (built_of_handleRecords h).elim told_nil (fun _ _ => Told.append) fun _ => Fragment.told

end Grctl
