import Mathlib.Tactic.SplitIfs

/-!
# Guarded runs of a transition system

A transition system is a partial function `step` on states and labels. `Reach` collects the
states of the runs whose steps all satisfy a guard `ok`, which may look at the state before the
step; `exec` computes along a list of labels and so exhibits such runs.

A history is a list that grows at its end. `Along Q` says of each of its elements what `Q` says
of the element and of the part of the history before it.

## Main results

* `Reach.invariant`: what holds initially and is kept by every guarded step holds throughout.
* `Reach.mono`: a weaker guard reaches more.
* `Reach.image`: the images of reached states are reached in a system that simulates the first.
* `reach_execD`: what `exec` computes is reached.
* `along_concat`: a history is extended by one element.
-/

namespace Lts

variable {S L : Type} {step : S → L → Option S} {ok ok' : S → L → Prop} {init s : S}

/-- The states reached from `init` by steps that satisfy `ok`. -/
inductive Reach (step : S → L → Option S) (ok : S → L → Prop) (init : S) : S → Prop
  | init : Reach step ok init init
  | step {s s' : S} {a : L} (h : Reach step ok init s) (hok : ok s a)
      (hstep : step s a = some s') : Reach step ok init s'

/-- The invariant rule; the step case may use that the state is reached. -/
theorem Reach.invariant {P : S → Prop} (h : Reach step ok init s) (hinit : P init)
    (hstep : ∀ s a s', Reach step ok init s → P s → ok s a → step s a = some s' → P s') : P s := by
  induction h with
  | init => exact hinit
  | step h hok hs ih => exact hstep _ _ _ h ih hok hs

theorem Reach.mono (h : Reach step ok init s) (himp : ∀ s a, ok s a → ok' s a) :
    Reach step ok' init s := by
  induction h with
  | init => exact .init
  | step _ hok hs ih => exact ih.step (himp _ _ hok) hs

/-- The simulation rule: if every guarded step of a system leaves the image of its state alone or is
a guarded step of another system there, then the images of the reached states are reached. -/
theorem Reach.image {S' L' : Type} {step' : S' → L' → Option S'} {ok' : S' → L' → Prop} {f : S → S'}
    (h : Reach step ok init s)
    (hstep : ∀ s a s', ok s a → step s a = some s' →
      f s' = f s ∨ ∃ b, ok' (f s) b ∧ step' (f s) b = some (f s')) :
    Reach step' ok' (f init) (f s) := by
  induction h with
  | init => exact .init
  | step _ hok hs ih =>
    rcases hstep _ _ _ hok hs with hf | ⟨b, hok', hs'⟩
    · exact hf ▸ ih
    · exact ih.step hok' hs'

variable [∀ s a, Decidable (ok s a)]

/-- Follow a list of labels, as long as every step satisfies `ok`. -/
def exec (step : S → L → Option S) (ok : S → L → Prop) [∀ s a, Decidable (ok s a)] (s : S) :
    List L → Option S
  | [] => some s
  | a :: as => if ok s a then (step s a).bind (exec step ok · as) else none

theorem Reach.exec {as : List L} {s s' : S} (hs : Reach step ok init s)
    (h : Lts.exec step ok s as = some s') : Reach step ok init s' := by
  induction as generalizing s with
  | nil =>
    cases h
    exact hs
  | cons a as ih =>
    unfold Lts.exec at h
    split_ifs at h with hok
    obtain ⟨s₁, hstep, h⟩ := Option.bind_eq_some_iff.mp h
    exact ih (hs.step hok hstep) h

/-- The state a list of labels leads to; a list that cannot be followed leads nowhere. -/
def execD (step : S → L → Option S) (ok : S → L → Prop) [∀ s a, Decidable (ok s a)] (init : S)
    (as : List L) : S := (exec step ok init as).getD init

theorem reach_execD (step : S → L → Option S) (ok : S → L → Prop) [∀ s a, Decidable (ok s a)]
    (init : S) (as : List L) : Reach step ok init (execD step ok init as) := by
  unfold execD
  cases h : exec step ok init as with
  | none => exact .init
  | some s => exact Reach.init.exec h

section History

variable {α : Type} {Q : List α → α → Prop} {l : List α}

/-- Every element of a history satisfies `Q` together with what came before it. -/
def Along (Q : List α → α → Prop) (l : List α) : Prop :=
  ∀ pre x post, l = pre ++ x :: post → Q pre x

theorem along_nil : Along Q [] := by
  intro pre x post h
  simp at h

theorem along_concat {x : α} (h : Along Q l) (hx : Q l x) : Along Q (l ++ [x]) := by
  intro pre y post hsplit
  rcases List.eq_nil_or_concat post with rfl | ⟨post', z, rfl⟩
  · obtain ⟨rfl, hxy⟩ := List.append_inj' hsplit rfl
    cases hxy
    exact hx
  · rw [List.concat_eq_append, ← List.cons_append, ← List.append_assoc] at hsplit
    obtain ⟨hl, -⟩ := List.append_inj' hsplit rfl
    exact h pre y post' hl

theorem Along.of_append {l' : List α} (h : Along Q (l ++ l')) : Along Q l := by
  intro pre x post hsplit
  refine h pre x (post ++ l') ?_
  rw [hsplit, List.append_assoc, List.cons_append]

theorem Along.of_mem {x : α} (h : Along Q l) (hx : x ∈ l) :
    ∃ pre post, l = pre ++ x :: post ∧ Q pre x := by
  obtain ⟨pre, post, hsplit⟩ := List.append_of_mem hx
  exact ⟨pre, post, hsplit, h pre x post hsplit⟩

/-- Of two elements of a history, one comes before the other. -/
theorem mem_before_of_ne {x y : α} (hx : x ∈ l) (hy : y ∈ l) (hne : x ≠ y) :
    (∃ pre post, l = pre ++ x :: post ∧ y ∈ pre) ∨ ∃ pre post, l = pre ++ y :: post ∧ x ∈ pre := by
  obtain ⟨pre, post, rfl⟩ := List.append_of_mem hx
  rcases List.mem_append.mp hy with hy | hy
  · exact .inl ⟨pre, post, rfl, hy⟩
  · obtain ⟨mid, post', rfl⟩ :=
      List.append_of_mem ((List.mem_cons.mp hy).resolve_left fun h => hne h.symm)
    exact .inr ⟨pre ++ x :: mid, post', by simp, by simp⟩

end History

end Lts
