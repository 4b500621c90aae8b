import Grctl.Log.SubjectLog

/-!
# Views of a log

A reader that looks at some of the subjects sees a part of the log, with the sequence numbers of
the whole. What is appended to other subjects or removed from them does not change the view, and
every read on the subjects of the view can be made from the view alone.

## Main definitions

* `Log.view`: the entries on some of the subjects.

## Main results

* `Log.view_appendAll_of_not`, `Log.view_purge_of_not`: changes elsewhere.
* `Log.lastOn_of_view`, `Log.lastWhere_of_view`, `Log.firstFrom_of_view`: reads in the view.
-/

namespace SubjectLog

namespace Log

variable {σ ι δ : Type} {l l' : Log σ ι δ} {p q : σ → Bool}

/-- The entries on the subjects that satisfy `p`, removed ones included. -/
def view (l : Log σ ι δ) (p : σ → Bool) : List (Entry σ ι δ) :=
  l.entries.filter fun e => p e.subject

theorem view_appendAll_of_not (l : Log σ ι δ) {ms : List (Message σ ι δ)}
    (h : ∀ m ∈ ms, p m.subject = false) : (l.appendAll ms).view p = l.view p := by
  have hnil : (stamp l.length ms).filter (fun e => p e.subject) = [] := by
    rw [List.filter_eq_nil_iff]
    intro e he
    rw [h e.toMessage (mem_stamp he).1]
    exact Bool.false_ne_true
  rw [view, entries_appendAll, List.filter_append, hnil, List.append_nil]
  rfl

theorem view_purge_of_not (l : Log σ ι δ) (h : ∀ s, q s = true → p s = false) :
    (l.purge q).view p = l.view p := by
  change (l.entries.map _).filter _ = l.entries.filter _
  induction l.entries with
  | nil => rfl
  | cons e es ih =>
    rw [List.map_cons, List.filter_cons, List.filter_cons, ih]
    by_cases hq : q e.subject = true
    · simp [hq, h _ hq]
    · rw [if_neg hq]

/-- A read on subjects of the view can be made from the view. -/
theorem lastWhere_of_view (hview : l'.view p = l.view p) (hq : ∀ s, q s = true → p s = true) :
    l'.lastWhere q = l.lastWhere q := by
  have hfilter (l : Log σ ι δ) : l.entries.filter (fun e => e.live && q e.subject) =
      (l.view p).filter fun e => e.live && q e.subject := by
    rw [view, List.filter_filter]
    refine List.filter_congr fun e _ => ?_
    cases hqe : q e.subject with
    | false => simp
    | true => simp [hq _ hqe]
  rw [lastWhere, lastWhere, hfilter l', hfilter l, hview]

variable [DecidableEq σ] {s : σ}

theorem lastOn_of_view (hview : l'.view p = l.view p) (hs : p s = true) :
    l'.lastOn s = l.lastOn s := by
  rw [lastOn_eq_lastWhere, lastOn_eq_lastWhere]
  exact lastWhere_of_view hview fun s' hs' => by rwa [of_decide_eq_true hs']

theorem lastSeq_of_view (hview : l'.view p = l.view p) (hs : p s = true) :
    l'.lastSeq s = l.lastSeq s := by
  rw [lastSeq, lastSeq, lastOn_of_view hview hs]

theorem firstFrom_of_view (hview : l'.view p = l.view p) (hs : p s = true) (n : ℕ) :
    l'.firstFrom s n = l.firstFrom s n := by
  have hfind (l : Log σ ι δ) : l.firstFrom s n =
      (l.view p).find? fun e => Entry.isOn s e && decide (n ≤ e.seq) := by
    rw [firstFrom, view, List.find?_filter]
    congr 1
    funext e
    by_cases he : e.subject = s
    · simp [he, hs]
    · simp [Entry.isOn, he]
  rw [hfind l', hfind l, hview]

end Log

end SubjectLog
