import Grctl.Log.SubjectLog

/-!
# The last message of every subject

A reader can ask for the last message of each subject of a pattern at once, and gets them in the
order of the log. The answer holds what every narrower question would find.

## Main definitions

* `Log.latest`: the last live message of each of some subjects.

## Main results

* `Log.mem_latest`: an entry is in the answer exactly if it is the last of its subject.
* `Log.eq_of_mem_latest`: there is one for each subject.
* `Log.lastWhere_eq_getLast?_latest`: the last message of some of the subjects is the last entry of
  the answer that is on one of them.
-/

namespace SubjectLog

section Sorted

variable {σ ι δ : Type} {es : List (Entry σ ι δ)} {e : Entry σ ι δ}

/-- The last entry of a list in the order of the log is the one with the greatest number. -/
theorem getLast?_eq_some_of_pairwise (h : es.Pairwise fun e e' => e.seq < e'.seq) (he : e ∈ es)
    (hmax : ∀ e' ∈ es, e'.seq ≤ e.seq) : es.getLast? = some e := by
  rcases List.eq_nil_or_concat es with rfl | ⟨es', e', rfl⟩
  · cases he
  · rw [List.concat_eq_append] at *
    rw [List.getLast?_concat]
    rcases List.mem_append.mp he with hmem | hmem
    · have hlt := (List.pairwise_append.mp h).2.2 e hmem e' (by simp)
      exact absurd (hmax e' (by simp)) (not_le.mpr hlt)
    · rw [List.mem_singleton.mp hmem]

theorem le_of_getLast?_eq_some (h : es.Pairwise fun e e' => e.seq < e'.seq)
    (hlast : es.getLast? = some e) {e' : Entry σ ι δ} (he' : e' ∈ es) : e'.seq ≤ e.seq := by
  rcases List.eq_nil_or_concat es with rfl | ⟨es', x, rfl⟩
  · cases he'
  · rw [List.concat_eq_append] at *
    rw [List.getLast?_concat, Option.some.injEq] at hlast
    subst hlast
    rcases List.mem_append.mp he' with hmem | hmem
    · exact ((List.pairwise_append.mp h).2.2 e' hmem x (by simp)).le
    · rw [List.mem_singleton.mp hmem]

end Sorted

namespace Log

variable {σ ι δ : Type} [DecidableEq σ] {l : Log σ ι δ} {p q : σ → Bool} {e : Entry σ ι δ}

/-- The last live message of each subject that satisfies `p`, in the order of the log. -/
def latest (l : Log σ ι δ) (p : σ → Bool) : List (Entry σ ι δ) :=
  l.entries.filter fun e => e.live && p e.subject && decide (l.lastSeq e.subject = e.seq)

/-- A subject that holds a live message has a last one. -/
theorem isSome_lastOn {s : σ} (he : e ∈ l.entries) (hlive : e.live = true) (hs : e.subject = s) :
    (l.lastOn s).isSome = true := by
  rw [Option.isSome_iff_ne_none, lastOn, ne_eq, List.getLast?_eq_none_iff]
  refine List.ne_nil_of_mem (a := e) (List.mem_filter.mpr ⟨he, ?_⟩)
  simp [Entry.isOn, hlive, hs]

theorem mem_latest : e ∈ l.latest p ↔ l.lastOn e.subject = some e ∧ p e.subject = true := by
  rw [latest, List.mem_filter]
  constructor
  · rintro ⟨he, h⟩
    simp only [Bool.and_eq_true, decide_eq_true_eq] at h
    exact ⟨lastOn_eq_of_seq he h.2.symm, h.1.2⟩
  · rintro ⟨hlast, hp⟩
    obtain ⟨he, hlive, -⟩ := mem_of_lastOn hlast
    simp [he, hlive, hp, lastSeq, hlast]

theorem eq_of_mem_latest {e' : Entry σ ι δ} (he : e ∈ l.latest p) (he' : e' ∈ l.latest p)
    (hs : e.subject = e'.subject) : e = e' := by
  have h := (mem_latest.mp he).1
  rw [hs, (mem_latest.mp he').1] at h
  exact (Option.some.inj h).symm

theorem pairwise_latest (l : Log σ ι δ) (p : σ → Bool) :
    (l.latest p).Pairwise fun e e' => e.seq < e'.seq :=
  l.pairwise_seq.filter _

theorem lastWhere_eq_getLast?_latest (hq : ∀ s, q s = true → p s = true) :
    l.lastWhere q = ((l.latest p).filter fun e => q e.subject).getLast? := by
  cases hlast : l.lastWhere q with
  | none =>
    rw [lastWhere, List.getLast?_eq_none_iff, List.filter_eq_nil_iff] at hlast
    symm
    rw [List.getLast?_eq_none_iff, List.filter_eq_nil_iff]
    intro e he hqe
    obtain ⟨hmem, hlive, -⟩ := mem_of_lastOn (mem_latest.mp he).1
    exact hlast e hmem (by simp [hlive, hqe])
  | some e =>
    -- the last live message of the pattern is the last one of its own subject
    have hmem := List.mem_of_getLast? hlast
    simp only [List.mem_filter, Bool.and_eq_true] at hmem
    obtain ⟨he, hlive, hqe⟩ := hmem
    have hmax {e' : Entry σ ι δ} (he' : e' ∈ l.entries) (hlive' : e'.live = true)
        (hqe' : q e'.subject = true) : e'.seq ≤ e.seq :=
      le_of_getLast?_eq_some (l.pairwise_seq.filter _) hlast (by simp [he', hlive', hqe'])
    have hown : l.lastOn e.subject = some e := by
      refine getLast?_eq_some_of_pairwise (l.pairwise_seq.filter _)
        (by simp [Entry.isOn, he, hlive]) fun e' he' => ?_
      simp only [List.mem_filter, Entry.isOn, Bool.and_eq_true, decide_eq_true_eq] at he'
      exact hmax he'.1 he'.2.1 (he'.2.2 ▸ hqe)
    symm
    refine getLast?_eq_some_of_pairwise ((l.pairwise_latest p).filter _)
      (List.mem_filter.mpr ⟨mem_latest.mpr ⟨hown, hq _ hqe⟩, hqe⟩) fun e' he' => ?_
    obtain ⟨hlatest, hqe'⟩ := List.mem_filter.mp he'
    obtain ⟨hmem', hlive', -⟩ := mem_of_lastOn (mem_latest.mp hlatest).1
    exact hmax hmem' hlive' hqe'

end Log

end SubjectLog
