import Grctl.Log.SubjectLog

/-!
# Reading a subject with a cursor

A reader consumes the messages of one subject in order and remembers the sequence number of the
last one, its cursor. The messages up to the cursor are then the ones it has consumed: they are a
prefix of all messages of the subject, messages that arrive later do not change them, and reading
the first message after the cursor adds just that one.

## Main definitions

* `Log.storedOn`: the messages of a subject in the order of arrival.
* `Log.upTo`: those up to a cursor.

## Main results

* `Log.upTo_prefix`, `Log.upTo_appendAll`, `Log.upTo_next`.
-/

namespace SubjectLog

variable {σ ι δ : Type} [DecidableEq σ]

namespace Log

/-- All messages ever stored on a subject, in the order of arrival. -/
def storedOn (l : Log σ ι δ) (s : σ) : List (Entry σ ι δ) :=
  l.entries.filter fun e => decide (e.subject = s)

/-- The messages of a subject up to a sequence number. -/
def upTo (l : Log σ ι δ) (s : σ) (n : ℕ) : List (Entry σ ι δ) :=
  (l.storedOn s).filter fun e => decide (e.seq ≤ n)

variable {l : Log σ ι δ} {s : σ} {n : ℕ} {e : Entry σ ι δ}

@[simp] theorem mem_storedOn : e ∈ l.storedOn s ↔ e ∈ l.entries ∧ e.subject = s := by
  simp [storedOn]

theorem pairwise_storedOn (l : Log σ ι δ) (s : σ) :
    (l.storedOn s).Pairwise fun e e' => e.seq < e'.seq :=
  l.pairwise_seq.filter _

/-- A removal elsewhere leaves the messages of a subject as they are. -/
theorem storedOn_purge (l : Log σ ι δ) {p : σ → Bool} (h : p s = false) :
    (l.purge p).storedOn s = l.storedOn s := by
  rw [storedOn, storedOn, purge, List.filter_map]
  have hsubject (e : Entry σ ι δ) :
      (if p e.subject then { e with live := false } else e).subject = e.subject := by
    split_ifs <;> rfl
  simp only [Function.comp_def, hsubject]
  refine (List.map_congr_left fun e he => ?_).trans (List.map_id _)
  have hs : e.subject = s := by simpa using List.of_mem_filter he
  rw [hs, h]
  rfl

theorem storedOn_appendAll (l : Log σ ι δ) (ms : List (Message σ ι δ)) (s : σ) :
    (l.appendAll ms).storedOn s =
      l.storedOn s ++ (stamp l.length ms).filter fun e => decide (e.subject = s) := by
  rw [storedOn, entries_appendAll, List.filter_append]
  rfl

/-! ### The messages up to a cursor -/

@[simp] theorem upTo_zero : l.upTo s 0 = [] := by
  refine List.filter_eq_nil_iff.mpr fun e he => ?_
  have := (seq_mem_range (mem_storedOn.mp he).1).1
  simp only [decide_eq_true_eq]
  omega

private theorem filter_prefix_of_pairwise {α : Type} {f : α → ℕ} {xs : List α}
    (h : xs.Pairwise fun x y => f x < f y) (n : ℕ) :
    xs.filter (fun x => decide (f x ≤ n)) <+: xs := by
  induction xs with
  | nil => exact List.nil_prefix
  | cons x xs ih =>
    obtain ⟨hx, hxs⟩ := List.pairwise_cons.mp h
    by_cases hle : f x ≤ n
    · rw [List.filter_cons_of_pos (by simpa using hle)]
      exact List.cons_prefix_cons.mpr ⟨rfl, ih hxs⟩
    · rw [List.filter_eq_nil_iff.mpr]
      · exact List.nil_prefix
      · intro y hy
        simp only [decide_eq_true_eq]
        rcases List.mem_cons.mp hy with rfl | hy
        · exact hle
        · have := hx y hy
          omega

/-- What has been consumed comes first. -/
theorem upTo_prefix (l : Log σ ι δ) (s : σ) (n : ℕ) : l.upTo s n <+: l.storedOn s :=
  filter_prefix_of_pairwise (l.pairwise_storedOn s) n

/-- Later messages have not been consumed. -/
theorem upTo_purge {p : σ → Bool} (h : p s = false) : (l.purge p).upTo s n = l.upTo s n := by
  rw [upTo, storedOn_purge l h, upTo]

theorem upTo_appendAll (ms : List (Message σ ι δ)) (hn : n ≤ l.length) :
    (l.appendAll ms).upTo s n = l.upTo s n := by
  have hnew : ((stamp l.length ms).filter fun e => decide (e.subject = s)).filter
      (fun e => decide (e.seq ≤ n)) = [] := by
    refine List.filter_eq_nil_iff.mpr fun e he => ?_
    have := (mem_stamp (List.mem_of_mem_filter he)).2.2
    simp only [decide_eq_true_eq]
    omega
  rw [upTo, storedOn_appendAll, List.filter_append, hnew, List.append_nil]
  rfl

/-- The first message after the cursor is consumed next. -/
theorem upTo_next (he : e ∈ l.entries) (hs : e.subject = s) (hn : n < e.seq)
    (hfirst : ∀ e' ∈ l.entries, e'.subject = s → n < e'.seq → e.seq ≤ e'.seq) :
    l.upTo s e.seq = l.upTo s n ++ [e] := by
  obtain ⟨before, after, hsplit⟩ := List.append_of_mem (mem_storedOn.mpr ⟨he, hs⟩)
  have hsorted := l.pairwise_storedOn s
  rw [hsplit, List.pairwise_append, List.pairwise_cons] at hsorted
  obtain ⟨-, ⟨hafter, -⟩, hbefore⟩ := hsorted
  have hlt (e') (he' : e' ∈ before) : e'.seq < e.seq := hbefore e' he' e List.mem_cons_self
  have hle (e') (he' : e' ∈ before) : e'.seq ≤ n := by
    obtain ⟨hmem, hsub⟩ := mem_storedOn.mp (hsplit ▸ List.mem_append_left _ he' : e' ∈ l.storedOn s)
    by_contra hgt
    have := hfirst e' hmem hsub (by omega)
    have := hlt e' he'
    omega
  rw [upTo, upTo, hsplit, List.filter_append, List.filter_append, List.filter_cons_of_pos (by simp),
    List.filter_cons_of_neg (by simpa using hn)]
  have htail {m : ℕ} (hm : m ≤ e.seq) : after.filter (fun e' => decide (e'.seq ≤ m)) = [] := by
    refine List.filter_eq_nil_iff.mpr fun e' he' => ?_
    have := hafter e' he'
    simp only [decide_eq_true_eq]
    omega
  rw [htail le_rfl, htail hn.le, List.append_nil,
    List.filter_eq_self.mpr fun e' he' => decide_eq_true (hlt e' he').le,
    List.filter_eq_self.mpr fun e' he' => decide_eq_true (hle e' he')]

/-- The message at the cursor is the last one consumed. -/
theorem exists_upTo_eq_concat (he : e ∈ l.entries) (hs : e.subject = s) :
    ∃ before, l.upTo s e.seq = before ++ [e] := by
  have hpos := (seq_mem_range he).1
  refine ⟨l.upTo s (e.seq - 1), upTo_next he hs (by omega) fun e' _ _ hlt => ?_⟩
  omega

end Log

end SubjectLog
