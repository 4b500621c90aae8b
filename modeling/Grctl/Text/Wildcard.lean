import Mathlib.Data.List.Basic

/-!
# Wildcard patterns over separated texts

A text is read as the list of its tokens, the pieces between its separators. In a pattern the
token `one` stands for exactly one token and the token `many`, in the last place, for one or more.

## Main definitions

* `matchTokens`, `matchesPattern`.

## Main results

* `matchTokens_many`, `matchTokens_map`: one or more tokens against `many`, tokens that stand
  against `one` or against themselves.
* `matchTokens_of_literal`, `matchesPattern_of_literal`: patterns without wildcards.
* `head_of_matchTokens`: what a pattern can start with.
* `length_of_matchTokens`, `getLast_of_matchTokens`: a pattern without `many` fixes the number of
  tokens and says what the last one can be.
-/

namespace Grctl.Text

variable {α : Type*} [DecidableEq α]

/-- Whether the tokens of a text match those of a pattern. -/
def matchTokens (one many : α) : List (List α) → List (List α) → Bool
  | [], [] => true
  | p :: ps, t :: ts =>
    (p = [many] ∧ ps = []) || ((p = [one] ∨ p = t) && matchTokens one many ps ts)
  | _, _ => false

/-- Whether a text matches a pattern. -/
def matchesPattern (one many sep : α) (pattern text : List α) : Bool :=
  matchTokens one many (pattern.splitOn sep) (text.splitOn sep)

variable {one many : α} {ps ts : List (List α)} {p t : List α}

@[simp]
theorem matchTokens_nil_left : matchTokens one many [] ts = ts.isEmpty := by
  cases ts <;> rfl

@[simp]
theorem matchTokens_nil_right : matchTokens one many ps [] = ps.isEmpty := by
  cases ps <;> rfl

@[simp]
theorem matchTokens_cons_cons :
    matchTokens one many (p :: ps) (t :: ts) =
      (decide (p = [many] ∧ ps = []) ||
        (decide (p = [one] ∨ p = t) && matchTokens one many ps ts)) :=
  rfl

/-- One or more tokens match `many`. -/
theorem matchTokens_many (h : ts ≠ []) : matchTokens one many [[many]] ts = true := by
  obtain ⟨t, ts, rfl⟩ := List.exists_cons_of_ne_nil h
  simp

/-- A text matches when each of its tokens stands against `one` or against itself. -/
theorem matchTokens_map {β : Type*} {f g : β → List α} {l : List β}
    (h : ∀ b ∈ l, f b = [one] ∨ f b = g b) : matchTokens one many (l.map f) (l.map g) = true := by
  induction l with
  | nil => rfl
  | cons b l ih =>
    obtain ⟨hb, hl⟩ := List.forall_mem_cons.1 h
    simp [hb, ih hl]

/-- A pattern without wildcards matches its own tokens only. -/
theorem matchTokens_of_literal (hone : [one] ∉ ps) (hmany : [many] ∉ ps) :
    matchTokens one many ps ts = decide (ps = ts) := by
  induction ps generalizing ts with
  | nil => cases ts <;> simp
  | cons p ps ih =>
    obtain ⟨hp, hps⟩ : [one] ≠ p ∧ [one] ∉ ps := by simpa using hone
    obtain ⟨hp', hps'⟩ : [many] ≠ p ∧ [many] ∉ ps := by simpa using hmany
    cases ts with
    | nil => simp
    | cons t ts => simp [Ne.symm hp, Ne.symm hp', ih hps hps']

/-- A pattern without wildcards matches itself only. -/
theorem matchesPattern_of_literal {sep : α} {pattern text : List α}
    (hone : [one] ∉ pattern.splitOn sep) (hmany : [many] ∉ pattern.splitOn sep) :
    matchesPattern one many sep pattern text = decide (pattern = text) := by
  have hinj : pattern.splitOn sep = text.splitOn sep ↔ pattern = text := by
    refine ⟨fun h => ?_, congrArg _⟩
    calc pattern = [sep].intercalate (pattern.splitOn sep) := (List.intercalate_splitOn sep).symm
      _ = text := by rw [h, List.intercalate_splitOn]
  rw [matchesPattern, matchTokens_of_literal hone hmany, decide_eq_decide, hinj]

/-- What the first token of a pattern can be. -/
theorem head_of_matchTokens (h : matchTokens one many ps (t :: ts) = true) :
    ps.head? = some [many] ∨ ps.head? = some [one] ∨ ps.head? = some t := by
  cases ps with
  | nil => simp at h
  | cons p ps => grind [matchTokens_cons_cons]

/-- A pattern without `many` fixes the number of tokens. -/
theorem length_of_matchTokens (hps : [many] ∉ ps) (h : matchTokens one many ps ts = true) :
    ts.length = ps.length := by
  induction ps generalizing ts with
  | nil => simpa using h
  | cons p ps ih =>
    obtain ⟨hp, hps⟩ : [many] ≠ p ∧ [many] ∉ ps := by simpa using hps
    cases ts with
    | nil => simp at h
    | cons t ts =>
      simp only [matchTokens_cons_cons, Ne.symm hp, false_and, decide_false, Bool.false_or,
        Bool.and_eq_true] at h
      simpa using ih hps h.2

/-- What the last token of a pattern without `many` can be. -/
theorem getLast_of_matchTokens (hps : [many] ∉ ps)
    (h : matchTokens one many ps (ts ++ [t]) = true) :
    ps.getLast? = some [one] ∨ ps.getLast? = some t := by
  induction ts generalizing ps with
  | nil =>
    cases ps with
    | nil => simp at h
    | cons p ps =>
      cases ps <;> grind [matchTokens_cons_cons, matchTokens_nil_right]
  | cons t' ts ih =>
    cases ps with
    | nil => simp at h
    | cons p ps =>
      obtain ⟨hp, hps⟩ : [many] ≠ p ∧ [many] ∉ ps := by simpa using hps
      simp only [List.cons_append, matchTokens_cons_cons, Ne.symm hp, false_and, decide_false,
        Bool.false_or, Bool.and_eq_true] at h
      obtain ⟨p', ps, rfl⟩ : ∃ p' ps', ps = p' :: ps' := by
        cases ps with
        | nil => simp at h
        | cons p' ps => exact ⟨p', ps, rfl⟩
      simpa using ih hps h.2

end Grctl.Text
