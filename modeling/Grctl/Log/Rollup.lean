import Grctl.Log.Latest

/-!
# Messages that replace what their subject holds

A message can be stored with the request to remove the earlier messages of its subject. A log that
is written in this way only is a map: a subject holds the last value stored for it, and the log
keeps one live message for each subject that has ever been written.

## Main definitions

* `Log.rollup`, `Log.rollupAll`: the messages are stored one by one, each in place of the earlier
  ones of its subject.
* `Log.contents`: the value that each subject holds.
* `Log.liveSubjects`: the subjects of the live messages.

## Main results

* `Log.contents_rollupAll`: the contents are updated like a map.
* `Log.nodup_liveSubjects_rollupAll`, `Log.mem_liveSubjects_rollupAll`: what is kept.
-/

namespace SubjectLog

namespace Log

variable {σ ι δ : Type} [DecidableEq σ]

/-- Store a message in place of the earlier ones of its subject. -/
def rollup (l : Log σ ι δ) (m : Message σ ι δ) : Log σ ι δ :=
  (l.purge fun s => decide (s = m.subject)).append m

/-- Store messages one by one, each in place of the earlier ones of its subject. -/
def rollupAll (l : Log σ ι δ) (ms : List (Message σ ι δ)) : Log σ ι δ := ms.foldl rollup l

/-- The value that each subject holds. -/
def contents (l : Log σ ι δ) (s : σ) : Option δ := (l.lastOn s).map fun e => e.data

/-- The subjects of the live messages, once for each message. -/
def liveSubjects (l : Log σ ι δ) : List σ :=
  (l.entries.filter fun e => e.live).map fun e => e.subject

section Contents

variable (l : Log σ ι δ) (m : Message σ ι δ)

theorem contents_rollup :
    (l.rollup m).contents = Function.update l.contents m.subject (some m.data) := by
  funext s
  by_cases hs : s = m.subject
  · subst hs
    have hlast := lastOn_appendAll (l.purge fun s => decide (s = m.subject)) [] [] m (by simp)
    rw [Function.update_self, contents, rollup, append, ← List.nil_append [m], hlast]
    rfl
  · have hother : ∀ m' ∈ [m], m'.subject ≠ s := by
      simpa using fun h => hs h.symm
    rw [Function.update_of_ne hs, contents, rollup, append, lastOn_appendAll_of_ne _ hother,
      lastOn_purge _ (by simpa using hs)]
    rfl

theorem contents_rollupAll (ms : List (Message σ ι δ)) :
    (l.rollupAll ms).contents =
      ms.foldl (fun (f : σ → Option δ) m => Function.update f m.subject (some m.data))
        l.contents := by
  induction ms generalizing l with
  | nil => rfl
  | cons m ms ih =>
    rw [List.foldl_cons, ← contents_rollup]
    exact ih (l.rollup m)

end Contents

/-- After a sequence of updates a key has the last value that it was given. -/
theorem foldl_update_eq {κ β α : Type} [DecidableEq κ] (key : α → κ) (value : α → β)
    (xs : List α) (f : κ → Option β) (k : κ) :
    xs.foldl (fun (f : κ → Option β) x => Function.update f (key x) (some (value x))) f k =
      ((xs.filter fun x => key x = k).getLast?.map value).or (f k) := by
  induction xs using List.reverseRecOn with
  | nil => rfl
  | append_singleton xs x ih =>
    rw [List.foldl_append, List.foldl_cons, List.foldl_nil, List.filter_append]
    by_cases hx : key x = k
    · subst hx
      simp
    · rw [Function.update_of_ne (Ne.symm hx), ih]
      simp [hx]

section LiveSubjects

variable (l : Log σ ι δ) (m : Message σ ι δ)

theorem liveSubjects_rollup :
    (l.rollup m).liveSubjects = l.liveSubjects.filter (· ≠ m.subject) ++ [m.subject] := by
  have hpurge : (l.purge fun s => decide (s = m.subject)).liveSubjects =
      l.liveSubjects.filter (· ≠ m.subject) := by
    change ((l.entries.map _).filter _).map _ = ((l.entries.filter _).map _).filter _
    induction l.entries with
    | nil => rfl
    | cons e es ih =>
      rw [List.map_cons]
      by_cases hs : e.subject = m.subject <;> cases hlive : e.live <;> simp_all
  rw [← hpurge, rollup, append, liveSubjects, entries_appendAll, List.filter_append,
    List.map_append]
  rfl

theorem nodup_liveSubjects_rollupAll {l : Log σ ι δ} (h : l.liveSubjects.Nodup)
    (ms : List (Message σ ι δ)) : (l.rollupAll ms).liveSubjects.Nodup := by
  induction ms generalizing l with
  | nil => exact h
  | cons m ms ih =>
    refine ih ?_
    rw [liveSubjects_rollup, List.nodup_append]
    refine ⟨h.filter _, List.nodup_singleton _, fun s hs s' hs' => ?_⟩
    rw [List.mem_singleton.mp hs']
    simpa using (List.mem_filter.mp hs).2

theorem mem_liveSubjects_rollupAll {s : σ} (ms : List (Message σ ι δ)) :
    s ∈ (l.rollupAll ms).liveSubjects ↔ s ∈ l.liveSubjects ∨ ∃ m ∈ ms, m.subject = s := by
  induction ms generalizing l with
  | nil => simp [rollupAll]
  | cons m ms ih =>
    change s ∈ ((l.rollup m).rollupAll ms).liveSubjects ↔ _
    rw [ih, liveSubjects_rollup]
    by_cases hs : s = m.subject <;> simp [hs, eq_comm]

theorem mem_liveSubjects {s : σ} : s ∈ l.liveSubjects ↔ (l.contents s).isSome = true := by
  rw [contents, Option.isSome_map]
  constructor
  · intro hs
    obtain ⟨e, he, rfl⟩ := List.mem_map.mp hs
    obtain ⟨hmem, hlive⟩ := List.mem_filter.mp he
    exact isSome_lastOn hmem hlive rfl
  · intro hs
    obtain ⟨e, he⟩ := Option.isSome_iff_exists.mp hs
    obtain ⟨hmem, hlive, rfl⟩ := mem_of_lastOn he
    exact List.mem_map_of_mem (List.mem_filter.mpr ⟨hmem, hlive⟩)

end LiveSubjects

end Log

end SubjectLog
