import Grctl.Natsreg.StateStream
import Grctl.Run.Subjects

/-!
# The places of a batch in the stream

A batch is published as a whole: one message whose subject the stream does not take makes the store
refuse all of it. This file compares what `plan` emits with the subjects that `EnsureStateStream`
configures, for runs whose description the stream has taken before.

## Main definitions

* `RunInfo.Accepted`: the stream has taken the description of a run.
* `Record.InStream`: the stream takes all messages of a record.

## Main results

* `batch_in_stream_iff`: the stream takes a planned batch exactly when the keys that a step result
  updates are single tokens.
-/

namespace Grctl

/-- The stream has taken the description of a run. -/
def RunInfo.Accepted (ri : RunInfo) : Prop :=
  ∃ it, InStream (Manifest.runInfoKey it ri.wfType ri.wfID ri.id)

/-- The stream takes all messages of a record, whatever the orders in which the parameters of their
subjects are substituted. -/
def Record.InStream (r : Record) : Prop :=
  ∀ messages, recordToNats r = .ok messages →
    ∀ m ∈ messages, ∀ it, Grctl.InStream (m.subject.render it)

theorem RunInfo.accepted_iff {ri : RunInfo} : ri.Accepted ↔ ri.Taken := by
  have hkey (it : Iteration) : InStream (Manifest.runInfoKey it ri.wfType ri.wfID ri.id) ↔
      ri.Taken := Subject.inStream_iff it (.runInfo ri.wfType ri.wfID ri.id)
  exact ⟨fun ⟨it, h⟩ => (hkey it).1 h, fun h => ⟨.written, (hkey .written).2 h⟩⟩

theorem Record.inStream_iff {r : Record} :
    r.InStream ↔ ∀ messages, recordToNats r = .ok messages → ∀ m ∈ messages, m.subject.Taken := by
  have : Nonempty Iteration := ⟨.written⟩
  simp only [Record.InStream, Subject.inStream_iff, forall_const]

/-- Every record has a home in the stream, the updates of a step apart. Let the stream have taken
the descriptions of the runs that a directive and its snapshot name, and the state of the run, and
let the identifiers of the directive and of a pending event be fit for a subject. Then the stream
takes every message of every record that `plan` emits, exactly when each key that a step result of a
live run updates is one token: not empty, and without dots and whitespace. -/
theorem batch_in_stream_iff {cfg : Defaults} {env : Readings} {d : Directive} {sn : StateSnapshot}
    {records : List Record} (hplan : plan cfg env d sn = .ok records) (hrun : d.runInfo.Accepted)
    (hid : SubjectText d.id)
    (hstate : sn.runState.wfID ≠ "" → sn.runState.runID ≠ "" →
      ∃ it, InStream (Manifest.runStateSubject it sn.runState.wfID sn.runState.runID))
    (hevent : sn.event.id ≠ "" → sn.event.runInfo.Accepted ∧ SubjectText sn.event.id)
    (hcancel : ∀ cancel, sn.runState.pendingCancel = some cancel → cancel.runInfo.Accepted) :
    (∀ r ∈ records, r.InStream) ↔
      (sn.runState.isTerminal = false → ∀ key ∈ d.resultKeys, SubjectToken key) := by
  by_cases hlive : sn.runState.isTerminal = true
  · rw [plan, if_pos hlive] at hplan
    cases hplan
    simp [hlive]
  · have hlive : sn.runState.isTerminal = false := by simpa using hlive
    have hhoused : sn.runState.Housed := fun hwf hrun => by
      obtain ⟨it, hit⟩ := hstate hwf hrun
      exact (Subject.inStream_iff it (.runState _ _)).1 hit
    have hfiled := filed_of_plan (RunInfo.accepted_iff.1 hrun) hid hhoused
      (fun h => (hevent h).imp_left RunInfo.accepted_iff.1)
      (fun cancel h => RunInfo.accepted_iff.1 (hcancel cancel h)) hlive hplan
    simp only [Record.inStream_iff, hfiled.taken_iff, hlive, true_imp_iff]

/-- The result of a step that stores a total under a key and completes the run. -/
def totalling (key : String) : Directive where
  id := "d1"
  timestamp := 5000000
  kind := .stepResult
  runInfo := { id := "r1", wfID := "wf", wfType := "Order", startedAt := some 1000000 }
  msg := .stepResult .step (.step "sum" 0) (some "w1") 12 (some [(key, .raw "12")]) .complete
    (.complete (.raw "12"))

/-- The run while the step is in progress. -/
def summing : StateSnapshot where
  runState := { wfID := "wf", runID := "r1", kind := .step, activeDirectiveID := "t1" }

theorem batch_in_stream_total : ∃ records,
    plan ⟨1000, 1000⟩ ⟨9000000, "n1"⟩ (totalling "total") summing = .ok records ∧
      ∀ r ∈ records, r.InStream := by
  have hplan : plan ⟨1000, 1000⟩ ⟨9000000, "n1"⟩ (totalling "total") summing = .ok _ := rfl
  refine ⟨_, hplan, (batch_in_stream_iff hplan (RunInfo.accepted_iff.2 ?_) ?_ ?_ ?_ ?_).2 ?_⟩
  · decide
  · decide
  · exact fun _ _ => ⟨.written, (Subject.inStream_iff .written (.runState _ _)).2 (by decide)⟩
  · exact fun h => absurd rfl h
  · rintro cancel h
    cases h
  · decide

/-- A key with a dot: the stream does not take the message of the pair, and with it the batch. -/
theorem dotted_key_not_in_stream :
    (totalling "total.net").runInfo.Accepted ∧ ∃ records,
      plan ⟨1000, 1000⟩ ⟨9000000, "n1"⟩ (totalling "total.net") summing = .ok records ∧
        ∃ r ∈ records, ∃ messages, recordToNats r = .ok messages ∧ ∃ m ∈ messages,
          m.subject.render .written = "grctl_wf_kv.wf.r1.total.net" ∧
            ¬ InStream (m.subject.render .written) :=
  ⟨RunInfo.accepted_iff.2 (by decide), _, rfl, _, .head _, _, rfl, _, .head _, by decide +kernel,
    (Subject.inStream_iff .written (.kv _ _ _)).not.2 (by decide)⟩

end Grctl
