import Grctl.Run.Turn
import Grctl.Store.JSStateStore

/-!
# The run manager

`Manager.Handle` takes a snapshot of the run a directive names, plans, and commits the planned
records (`run/manager.go`). The two halves are separate here, because other calls can come in
between: `handleSnapshot` is everything after the snapshot.

## Main definitions

* `Manager.commit`, `Manager.handleSnapshot`, `Manager.handle`.
-/

namespace Grctl.Manager

/-- The settings of a server: the default timeouts, the delivery limits of timers and background
tasks, and the duplicate window of the stream. -/
structure Config where
  defaults : Defaults
  maxTimerDeliveries : ℕ
  maxTaskDeliveries : ℕ
  dup : Stream → DirectiveID → Bool

/-- What a handled directive leaves behind: the stream, the result for the queue, and the records
that were committed. -/
structure Handled where
  stream : Stream
  result : HandleResult
  committed : List Record := []

/-- `Manager.commit`: a duplicate counts as processed, any other failure is retried. -/
def commit (cfg : Config) (l : Stream) (records : List Record) : Handled :=
  match Grctl.commit cfg.dup l records with
  | .ok l' => { stream := l', result := .processed, committed := records }
  | .error (.rejected .duplicate) => { stream := l, result := .processed }
  | .error _ => { stream := l, result := .retryable }

/-- `Manager.Handle` after the snapshot has been taken. A planning error becomes a failure of the
run; if even that cannot be built, the directive is dropped. -/
def handleSnapshot (cfg : Config) (env failEnv : Readings) (d : Directive) (sn : StateSnapshot)
    (l : Stream) : Outcome Handled :=
  match handleRecords cfg.defaults env failEnv d sn with
  | .ok records => .ok (commit cfg l records)
  | .error (.error _) => .ok { stream := l, result := .processed }
  | .error fault => .error fault

/-- `Manager.Handle`, when nothing else happens meanwhile. -/
def handle (cfg : Config) (env failEnv : Readings) (d : Directive) (l : Stream) :
    Outcome Handled :=
  match getStateSnapshot l d.runInfo.wfID d.runInfo.id with
  | .ok sn => handleSnapshot cfg env failEnv d sn l
  | .error (.error _) => .ok { stream := l, result := .retryable }
  | .error fault => .error fault

variable {cfg : Config} {l : Stream} {records : List Record}

/-- A commit either appends the whole batch or leaves the stream alone. -/
theorem commit_cases (cfg : Config) (l : Stream) (records : List Record) :
    (∃ l', Grctl.commit cfg.dup l records = .ok l' ∧
      commit cfg l records = { stream := l', result := .processed, committed := records }) ∨
    ((commit cfg l records).stream = l ∧ (commit cfg l records).committed = []) := by
  unfold commit
  cases h : Grctl.commit cfg.dup l records with
  | ok l' => exact .inl ⟨l', rfl, rfl⟩
  | error e =>
    right
    split <;> simp_all

/-- A batch that cannot be sent to the stream is tried again. -/
theorem commit_of_unsendable (hnot : ¬ (StatesNamed records ∧ ∀ r ∈ records, r.Taken)) :
    commit cfg l records = { stream := l, result := .retryable } := by
  obtain ⟨e, he, hne⟩ := Grctl.commit_of_unsendable l hnot
  rw [commit, he]
  split <;> simp_all

end Grctl.Manager
